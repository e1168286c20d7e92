import Ptnet.TcpDownstream

/-!
A connection through a SOCKS5 proxy. The messages that are exchanged have the shape of RFC 1928 and
RFC 1929, however the answer to the request is cut, and nothing of the client or for the client
passes before they are complete.
-/

namespace Ptnet.TcpProxy

open ByteMemory (Bytes)
open Connection
open Histories
open LibpcapCapture (TH_FIN TH_SYN TH_RST TH_ACK)
open TunnelPackets

inductive Message where
  | sent (octets : Bytes)
  | got (octets : Bytes)

def message : Effect → Option Message
  | .greeted octets => some (.sent octets)
  | .answered octets => some (.got octets)
  | _ => none

def transcript (log : List Effect) : List Message := log.filterMap message

inductive Login (tun : Tunnel) : List Message → Prop where
  | free : Login tun [.sent (helloMessage tun), .got [5, 0]]
  | password (userpass : Bytes × Bytes) (rest : Bytes)
      (known : tun.socks5Userpass = some userpass) :
      Login tun [.sent (helloMessage tun), .got [5, 2], .sent (authMessage userpass),
        .got (1 :: 0 :: rest)]

/-- An answer of success in pieces, of which `left` bytes are missing: the first piece has at least
    four bytes, and its kind of address tells the length. -/
def Answer (pieces : List Bytes) (left : Nat) : Prop :=
  ∃ reserved atyp bound others size, pieces = (5 :: 0 :: reserved :: atyp :: bound) :: others ∧
    boundLength atyp.toNat = some size ∧ (bound ++ others.flatten).length + left = size

/-- All messages but for the missing bytes of the last answer. -/
def Dialogue (tun : Tunnel) (tuple : Tuple) (messages : List Message) (left : Nat) : Prop :=
  ∃ login pieces, Login tun login ∧ Answer pieces left ∧
    messages = login ++ .sent (requestMessage tuple) :: pieces.map .got

def Said (tun : Tunnel) (tuple : Tuple) (skip : Nat) (messages : List Message) :
    Socks5Status → Prop
  | .hello => messages = [.sent (helloMessage tun)]
  | .auth => ∃ userpass, tun.socks5Userpass = some userpass ∧
      messages = [.sent (helloMessage tun), .got [5, 2], .sent (authMessage userpass)]
  | .connecting => ∃ login, Login tun login ∧ messages = login ++ [.sent (requestMessage tuple)]
  | .skipBnd => Dialogue tun tuple messages skip
  | .established => Dialogue tun tuple messages 0

/-- The SYN+ACK, and the bytes of either side, come behind the whole dialogue. -/
def Afterwards (tun : Tunnel) (tuple : Tuple) (past : List Effect) : Effect → Prop
  | .delivered segment =>
      has segment.flags TH_SYN = true → Dialogue tun tuple (transcript past) 0
  | .wrote octets => octets ≠ [] → Dialogue tun tuple (transcript past) 0
  | .queued _ | .received _ => Dialogue tun tuple (transcript past) 0
  | _ => True

structure Talks (tun : Tunnel) (tuple : Tuple) (conn : Conn) : Prop where
  afterwards : Justified (Afterwards tun tuple) [] conn.log
  proxied : conn.status.isClosed = false → conn.tuple = tuple ∧ conn.proxyMode = .socks5
  silent : conn.status = .connecting → transcript conn.log = []
  said : conn.status = .connected → conn.sock = true →
    Said tun tuple conn.socks5Skip (transcript conn.log) conn.socks5Status

section Messages

theorem transcript_append (first last : List Effect) :
    transcript (first ++ last) = transcript first ++ transcript last :=
  List.filterMap_append

theorem answer_more (pieces : List Bytes) (data : Bytes) (skip left : Nat)
    (answer : Answer pieces skip) (sum : data.length + left = skip) :
    Answer (pieces ++ [data]) left := by
  obtain ⟨reserved, atyp, bound, others, size, split, known, length⟩ := answer
  refine ⟨reserved, atyp, bound, others ++ [data], size, by rw [split]; rfl, known, ?_⟩
  rw [List.length_append] at length
  rw [List.flatten_append, List.length_append, List.length_append]
  simp only [List.flatten_cons, List.flatten_nil, List.append_nil]
  omega

variable {tun : Tunnel} {tuple : Tuple} {messages : List Message}

theorem said_turn {status next : Socks5Status} {data octets : Bytes} (skip : Nat)
    (said : Said tun tuple skip messages status) (turn : Turn tun tuple status data octets next) :
    Said tun tuple skip (messages ++ [.got data, .sent octets]) next := by
  cases turn with
  | request =>
      obtain rfl : messages = _ := said
      exact ⟨_, .free, rfl⟩
  | login userpass known =>
      obtain rfl : messages = _ := said
      exact ⟨userpass, known, rfl⟩
  | accepted rest =>
      obtain ⟨userpass, known, rfl⟩ := said
      exact ⟨_, .password userpass rest known, rfl⟩

theorem said_skips {conn : Conn} {data : Bytes} {left : Nat}
    (said : Said tun tuple conn.socks5Skip messages conn.socks5Status)
    (skips : Skips conn data left) : Dialogue tun tuple (messages ++ [.got data]) left := by
  rcases skips with ⟨state, reserved, atyp, bound, size, split, known, length⟩ | ⟨state, sum⟩
  · rw [state] at said
    obtain ⟨login, logged, same⟩ := said
    refine ⟨login, [data], logged, ⟨reserved, atyp, bound, [], size, by rw [split], known, ?_⟩, ?_⟩
    · simpa using length
    · rw [same, List.append_assoc]
      rfl
  · rw [state] at said
    obtain ⟨login, pieces, logged, answer, same⟩ := said
    refine ⟨login, pieces ++ [data], logged, answer_more pieces data _ left answer sum, ?_⟩
    rw [same, List.map_append, List.append_assoc]
    rfl

end Messages

section Steps

variable {tun : Tunnel} {tuple : Tuple} {conn after : Conn}

theorem Talks.direct (talks : Talks tun tuple conn) (settled : conn.status = .connected)
    (direct : conn.socks5InProgress = false) (socket : conn.sock = true) :
    Dialogue tun tuple (transcript conn.log) 0 := by
  have proxied := (talks.proxied (connected_open conn settled)).2
  have state : conn.socks5Status = .established := by
    simpa [Conn.socks5InProgress, proxied] using direct
  have said := talks.said settled socket
  rw [state] at said
  exact said

theorem Talks.still (talks : Talks tun tuple conn) (more : List Effect)
    (log : after.log = conn.log ++ more) (quiet : transcript more = [])
    (justified : Justified (Afterwards tun tuple) conn.log more) (same : after.tuple = conn.tuple)
    (mode : after.proxyMode = conn.proxyMode) (isOpen : conn.status.isClosed = false)
    (dialing : after.status = .connecting → conn.status = .connecting)
    (said : after.status = .connected → after.sock = true → conn.status = .connected ∧
      conn.sock = true ∧ after.socks5Skip = conn.socks5Skip ∧
      after.socks5Status = conn.socks5Status) : Talks tun tuple after := by
  have messages : transcript after.log = transcript conn.log := by
    rw [log, transcript_append, quiet, List.append_nil]
  constructor
  · rw [log, justified_append]
    exact ⟨talks.afterwards, justified⟩
  · rw [same, mode]
    exact fun _ => talks.proxied isOpen
  · rw [messages]
    exact fun again => talks.silent (dialing again)
  · intro settled socket
    obtain ⟨before, open_, skip, state⟩ := said settled socket
    rw [messages, skip, state]
    exact talks.said before open_

theorem Talks.ended {lead : List Effect} (talks : Talks tun tuple conn) (shape : Shape conn)
    (leads : Lead False conn lead) (closes : Ended conn lead after) : Talks tun tuple after := by
  obtain ⟨tail, log, terminal, _⟩ := closes.log
  have closed (status : ConnStatus) (isOpen : status.isClosed = false) : after.status ≠ status := by
    intro same
    rw [← same, closes.status] at isOpen
    cases isOpen
  have leading : Justified (Afterwards tun tuple) conn.log lead := by
    cases leads with
    | nothing => trivial
    | dialed | answered | eof => exact ⟨trivial, by trivial⟩
    | received octets timely direct socket =>
        exact ⟨talks.direct (timely.resolve_left id) direct socket, trivial⟩
    | wrote octets left taken socket =>
        refine ⟨fun nonempty => ?_, trivial⟩
        -- Only a connection whose handshake is over has a queue.
        have waiting : conn.txQueue ≠ [] := by
          intro empty
          rw [empty] at taken
          exact nonempty (List.append_eq_nil_iff.mp taken).1
        have settled : conn.status = .connected := by
          rcases open_cases conn closes.wasOpen with fresh | dialing | settled
          · exact absurd (shape.fresh fresh).2.2.1 waiting
          · exact absurd (shape.dialing dialing).1 waiting
          · exact settled
        have direct : conn.socks5InProgress = false := Bool.eq_false_iff.mpr fun asked =>
          waiting (shape.asked asked)
        exact talks.direct settled direct socket
  constructor
  · rw [log, justified_append, justified_append]
    refine ⟨talks.afterwards, leading, justified_of_forall _ _ tail fun effect member before => ?_⟩
    cases terminal effect member with
    | closeSocket | closed | refused => trivial
    | reset segment unfinished built =>
        intro syn
        rw [built.flags] at syn
        exact absurd syn (by decide)
  · exact fun isOpen => absurd (isOpen.symm.trans closes.status) (by decide)
  · exact fun dialing => absurd dialing (closed _ rfl)
  · exact fun settled => absurd settled (closed _ rfl)

theorem afterwards_plain {flags : BitVec 8} {payload : Bytes} {segment : TcpSegment}
    (built : Built conn flags payload segment) (plain : has flags TH_SYN = false)
    (past : List Effect) : Afterwards tun tuple past (.delivered segment) := by
  intro syn
  rw [built.flags, plain] at syn
  cases syn

theorem Move.talks (move : Move tun False conn after) (shape : Shape conn)
    (talks : Talks tun tuple conn) : Talks tun tuple after := by
  cases move with
  | ack segment built settled direct =>
      exact talks.still [.delivered segment] rfl rfl
        ⟨afterwards_plain built (by decide) _, trivial⟩ rfl rfl (connected_open conn settled)
        (fun dialing => dialing) fun settled socket => ⟨settled, socket, rfl, rfl⟩
  | socketError fresh =>
      exact talks.still [] (List.append_nil _).symm rfl trivial rfl rfl (by rw [fresh]; rfl)
        (fun dialing => absurd (show ConnStatus.socketError = .connecting from dialing) (by decide))
        fun settled => absurd (show ConnStatus.socketError = .connected from settled) (by decide)
  | ended _ lead leads closes => exact talks.ended shape leads closes
  -- A SYN+ACK straight from the connect belongs to a connection without a proxy.
  | accept segment dialing socket direct built =>
      exact absurd (talks.proxied (shape.known socket).1).2 direct
  | hello dialing socket proxied =>
      have none := talks.silent dialing
      have proxied := talks.proxied (shape.known socket).1
      constructor
      · rw [justified_append]
        exact ⟨talks.afterwards, trivial, trivial⟩
      · exact fun _ => proxied
      · exact fun again => absurd (show ConnStatus.connected = .connecting from again) (by decide)
      · intro _ _
        rw [transcript_append, none]
        rfl
  | greet data octets status timely asked socket turn =>
      have settled : conn.status = .connected := timely.resolve_left id
      have proxied := talks.proxied (shape.known socket).1
      have said := talks.said settled socket
      rw [proxied.1] at turn
      constructor
      · rw [justified_append]
        exact ⟨talks.afterwards, trivial, trivial, trivial⟩
      · exact fun _ => proxied
      · exact fun dialing => absurd (settled.symm.trans dialing) (by decide)
      · intro _ _
        rw [transcript_append]
        exact said_turn conn.socks5Skip said turn
  | skip data left timely asked socket skips more =>
      have settled : conn.status = .connected := timely.resolve_left id
      have said := talks.said settled socket
      constructor
      · rw [justified_append]
        exact ⟨talks.afterwards, trivial, trivial⟩
      · exact fun _ => talks.proxied (shape.known socket).1
      · exact fun dialing => absurd (settled.symm.trans dialing) (by decide)
      · intro _ _
        rw [transcript_append]
        exact said_skips said skips
  -- The proxy has answered to the end: the SYN+ACK finds the whole dialogue behind it.
  | established data segment timely asked socket skips built =>
      have settled : conn.status = .connected := timely.resolve_left id
      have dialogue := said_skips (talks.said settled socket) skips
      constructor
      · rw [justified_append]
        refine ⟨talks.afterwards, trivial, fun _ => ?_, trivial⟩
        rw [List.nil_append, transcript_append]
        exact dialogue
      · exact fun _ => talks.proxied (shape.known socket).1
      · exact fun dialing => absurd (settled.symm.trans dialing) (by decide)
      · intro _ _
        rw [transcript_append]
        exact dialogue
  | eof asked segment timely socket room selected built =>
      exact talks.still _ rfl rfl ⟨trivial, afterwards_plain built (by decide) _, trivial, trivial⟩
        rfl rfl (shape.known socket).1 (fun dialing => dialing) fun _ open_ =>
        absurd (show false = true from open_) (by decide)
  | data octets segment timely socket direct nonempty room flags plain acking built =>
      have settled : conn.status = .connected := timely.resolve_left id
      have dialogue := talks.direct settled direct socket
      exact talks.still _ rfl rfl ⟨dialogue, afterwards_plain built plain.1 _, trivial⟩ rfl rfl
        (shape.known socket).1 (fun dialing => dialing) fun _ _ => ⟨settled, socket, rfl, rfl⟩
  -- Bytes wait only behind the handshake, and a dialling connection has no queue.
  | flush octets left socket waiting taken =>
      have isOpen := (shape.known socket).1
      have settled : conn.status = .connected := by
        rcases open_cases conn isOpen with fresh | dialing | settled
        · exact absurd fresh (shape.known socket).2
        · exact absurd (shape.dialing dialing).1 waiting
        · exact settled
      have direct : conn.socks5InProgress = false := Bool.eq_false_iff.mpr fun asked =>
        waiting (shape.asked asked)
      exact talks.still [.wrote octets] rfl rfl
        ⟨fun _ => talks.direct settled direct socket, trivial⟩ rfl rfl isOpen
        (fun dialing => dialing) fun _ _ => ⟨settled, socket, rfl, rfl⟩

theorem Take.talks {pkt : TcpSegment} {env : ForwardEnv} (take : Take tun pkt env conn after)
    (shape : Shape conn) (talks : Talks tun tuple conn) : Talks tun tuple after := by
  cases take with
  | dial fresh =>
      have blank := (shape.fresh fresh).2.2.2
      have proxied := talks.proxied (by rw [fresh]; rfl)
      constructor
      · rw [blank]
        exact ⟨trivial, trivial, trivial⟩
      · exact fun _ => proxied
      · rw [blank]
        exact fun _ => rfl
      · exact fun settled =>
          absurd (show ConnStatus.connecting = .connected from settled) (by decide)
  | fin settled =>
      refine talks.still _ rfl ?_ ?_ rfl rfl (connected_open conn settled)
        (fun dialing => dialing) fun settled socket => ⟨settled, socket, rfl, rfl⟩
      · split <;> rfl
      · split
        · exact ⟨trivial, trivial, trivial⟩
        · exact ⟨trivial, trivial⟩
  | queue settled direct socket fits payload =>
      exact talks.still [.queued _] rfl rfl ⟨talks.direct settled direct socket, trivial⟩ rfl rfl
        (connected_open conn settled) (fun dialing => dialing)
        fun settled socket => ⟨settled, socket, rfl, rfl⟩
  | discard settled direct socket =>
      exact talks.still [.discarded _] rfl rfl ⟨trivial, trivial⟩ rfl rfl
        (connected_open conn settled) (fun dialing => dialing)
        fun settled socket => ⟨settled, socket, rfl, rfl⟩

theorem Learn.talks {pkt : TcpSegment} (learn : Learn pkt conn after) (shape : Shape conn)
    (talks : Talks tun tuple conn) : Talks tun tuple after := by
  cases learn with
  | keepAlive segment built settled direct alive =>
      have move : Move tun False conn _ := .ack conn segment built settled direct
      exact move.talks shape talks
  | window socket settled =>
      exact talks.still [.window _ _] rfl rfl ⟨trivial, trivial⟩ rfl rfl
        (connected_open conn settled) (fun dialing => dialing)
        fun settled socket => ⟨settled, socket, rfl, rfl⟩

theorem talks_kept (tun : Tunnel) (tuple : Tuple) :
    Kept tun False (fun _ _ _ => True) (Talks tun tuple) where
  move _ _ shape talks move := move.talks shape talks
  take _ _ _ _ shape talks _ take := take.talks shape talks
  learn _ _ _ _ shape talks _ learn := ⟨learn.talks shape talks, trivial⟩

end Steps

/-- The handshake with the proxy is complete before the client is answered and before a byte passes,
    and the connection counts as established only after all of it. -/
theorem handshake_first (tun : Tunnel) (tuple : Tuple) (dnatIpver : Nat) (events : List Event)
    (tcp : tuple.ipproto = IPPROTO_TCP)
    (admissible : Machine.Along (step tun) (Admissible tun) (newConn tuple .socks5 dnatIpver)
      events)
    (inTime : Machine.Along (step tun) (fun conn event => ¬ Early conn event)
      (newConn tuple .socks5 dnatIpver) events) :
    let conn := Machine.run (step tun) (newConn tuple .socks5 dnatIpver) events
    Justified (Afterwards tun tuple) [] conn.log ∧
      (conn.status = .connected → conn.sock = true →
        Said tun tuple conn.socks5Skip (transcript conn.log) conn.socks5Status) := by
  intro conn
  have initial : Talks tun tuple (newConn tuple .socks5 dnatIpver) :=
    { afterwards := trivial
      proxied := fun _ => ⟨rfl, rfl⟩
      silent := fun _ => rfl
      said := fun settled => absurd (show ConnStatus.new = .connected from settled) (by decide) }
  have talks : Talks tun tuple conn := ((talks_kept tun tuple).inTime tuple .socks5 dnatIpver events
    tcp admissible inTime initial).2
  exact ⟨talks.afterwards, talks.said⟩

def proxying : List Event :=
  [.forward (packet 1000 TH_SYN []) {}, .writable {}, .readable { recv := .ok [5, 0] },
    .readable { recv := .ok [5, 0, 0, 1, 127] }, .readable { recv := .ok [0, 0, 1, 4, 56] },
    .forward (packet 1001 TH_ACK [71]) {}, .writable { sends := [.took 1] }]

theorem proxying_plain (event : Event) (member : event ∈ proxying) (pkt : TcpSegment)
    (env : ForwardEnv) (same : event = .forward pkt env) : pkt.opts = [] := by
  subst same
  simp only [proxying, List.mem_cons, Event.forward.injEq, reduceCtorEq, List.not_mem_nil, or_false,
    false_or] at member
  rcases member with ⟨rfl, _⟩ | ⟨rfl, _⟩ <;> rfl

theorem handshake_first_proxying :
    (Machine.run (step {}) (newConn webTuple .socks5 4) proxying).socks5Status = .established ∧
      Justified (Afterwards {} webTuple) []
        (Machine.run (step {}) (newConn webTuple .socks5 4) proxying).log :=
  ⟨by decide +kernel, (handshake_first {} webTuple 4 proxying rfl
    (Machine.along_of_forall _ _ _ _ fun event member conn =>
      admissible_plain conn event (proxying_plain event member)) (by decide +kernel)).1⟩

end Ptnet.TcpProxy
