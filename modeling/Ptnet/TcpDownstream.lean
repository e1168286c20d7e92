import Ptnet.TcpRuns

/-!
From the server to the client: the segments that zdtun sends follow each other without a gap, and
the client puts exactly what `recv` returned back together.
-/

namespace Ptnet.TcpProxy

open ByteMemory (Bytes)
open Connection
open Histories
open InOrder
open LibpcapCapture (TH_FIN TH_SYN TH_RST TH_ACK)
open TunnelPackets

def marks (flags : BitVec 8) : Nat :=
  (if has flags TH_SYN then 1 else 0) + (if has flags TH_FIN then 1 else 0)

def piece (segment : TcpSegment) : Piece 32 UInt8 :=
  { number := segment.seq, content := segment.payload, marks := marks segment.flags }

/-- A reset has no place in the stream. -/
def carried : Effect → List (Piece 32 UInt8)
  | .delivered segment => if has segment.flags TH_RST then [] else [piece segment]
  | _ => []

def downstream (log : List Effect) : List (Piece 32 UInt8) := log.flatMap carried

def fromServer : Effect → Bytes
  | .received octets => octets
  | _ => []

/-- What `recv` returned of the stream of the server. -/
def serverBytes (log : List Effect) : Bytes := log.flatMap fromServer

structure InStream (conn : Conn) : Prop where
  follows : Follows INITIAL_SEQ (downstream conn.log)
  ahead : contents (downstream conn.log) <+: serverBytes conn.log
  number : conn.status.isClosed = false → conn.status ≠ .new →
    conn.zdtunSeq = INITIAL_SEQ + BitVec.ofNat 32 (spans (downstream conn.log))
  whole : conn.status.isClosed = false → contents (downstream conn.log) = serverBytes conn.log

section Logs

theorem downstream_append (first last : List Effect) :
    downstream (first ++ last) = downstream first ++ downstream last :=
  List.flatMap_append

theorem serverBytes_append (first last : List Effect) :
    serverBytes (first ++ last) = serverBytes first ++ serverBytes last :=
  List.flatMap_append

variable {conn : Conn}

theorem downstream_built {flags : BitVec 8} {payload : Bytes} {segment : TcpSegment} {count : Nat}
    (built : Built conn flags payload segment) (plain : has flags TH_RST = false)
    (numbers : marks flags = count) :
    downstream [.delivered segment] = [⟨conn.zdtunSeq, payload, count⟩] := by
  rw [downstream, List.flatMap_singleton, carried, built.flags, if_neg (by simp [plain]), piece,
    built.seq, built.payload, built.flags, numbers]

theorem terminal_downstream (tail : List Effect) (terminal : ∀ effect ∈ tail, Terminal conn effect) :
    downstream tail = [] := by
  refine List.flatMap_eq_nil_iff.mpr fun effect member => ?_
  cases terminal effect member with
  | closeSocket | closed | refused => rfl
  | reset segment unfinished built =>
      have flag : has segment.flags TH_RST = true := by
        rw [built.flags]
        decide
      exact if_pos flag

theorem lead_downstream {early : Prop} {lead : List Effect} (leads : Lead early conn lead) :
    downstream lead = [] := by
  cases leads with
  | nothing | dialed | answered | received | wrote | eof => rfl

end Logs

section Steps

variable {tun : Tunnel} {early : Prop} {conn after : Conn}

theorem InStream.silent (stream : InStream conn) (more : List Effect)
    (log : after.log = conn.log ++ more) (none : downstream more = [])
    (nothing : serverBytes more = []) (zdtunSeq : after.zdtunSeq = conn.zdtunSeq)
    (status : after.status.isClosed = false →
      conn.status.isClosed = false ∧ conn.status ≠ .new) : InStream after := by
  have pieces : downstream after.log = downstream conn.log := by
    rw [log, downstream_append, none, List.append_nil]
  have bytes : serverBytes after.log = serverBytes conn.log := by
    rw [log, serverBytes_append, nothing, List.append_nil]
  constructor
  · rw [pieces]
    exact stream.follows
  · rw [pieces, bytes]
    exact stream.ahead
  · intro isOpen _
    rw [pieces, zdtunSeq]
    exact stream.number (status isOpen).1 (status isOpen).2
  · intro isOpen
    rw [pieces, bytes]
    exact stream.whole (status isOpen).1

theorem InStream.sent (stream : InStream conn) (more : List Effect) (payload : Bytes) (count : Nat)
    (log : after.log = conn.log ++ more)
    (one : downstream more = [⟨conn.zdtunSeq, payload, count⟩]) (bytes : serverBytes more = payload)
    (zdtunSeq : after.zdtunSeq = conn.zdtunSeq + BitVec.ofNat 32 (payload.length + count))
    (isOpen : conn.status.isClosed = false) (known : conn.status ≠ .new) : InStream after := by
  have pieces : downstream after.log =
      downstream conn.log ++ [⟨conn.zdtunSeq, payload, count⟩] := by
    rw [log, downstream_append, one]
  have whole : contents (downstream after.log) = serverBytes after.log := by
    rw [pieces, contents_append, stream.whole isOpen, log, serverBytes_append, bytes]
    simp [contents]
  have number := stream.number isOpen known
  constructor
  · rw [pieces, follows_concat]
    exact ⟨stream.follows, number⟩
  · rw [whole]
  · intro _ _
    rw [pieces, spans_append, ← ofNat_shift, ← number, zdtunSeq, spans_cons, spans_nil, Nat.add_zero,
      Piece.span]
  · intro _
    exact whole

theorem InStream.ended {lead : List Effect} (stream : InStream conn) (leads : Lead early conn lead)
    (closes : Ended conn lead after) : InStream after := by
  obtain ⟨tail, log, terminal, _⟩ := closes.log
  have final : ¬ after.status.isClosed = false := by simp [closes.status]
  have pieces : downstream after.log = downstream conn.log := by
    rw [log, downstream_append, downstream_append, lead_downstream leads,
      terminal_downstream tail terminal, List.append_nil, List.append_nil]
  constructor
  · rw [pieces]
    exact stream.follows
  · rw [pieces, log, serverBytes_append]
    exact stream.ahead.trans (List.prefix_append _ _)
  · exact fun isOpen => absurd isOpen final
  · exact fun isOpen => absurd isOpen final

theorem Shape.known (shape : Shape conn) (socket : conn.sock = true) :
    conn.status.isClosed = false ∧ conn.status ≠ .new :=
  ⟨Bool.eq_false_iff.mpr fun final => absurd (socket.symm.trans (shape.closed final)) (by decide),
    fun fresh => absurd (socket.symm.trans (shape.fresh fresh).1) (by decide)⟩

theorem settled_known (settled : conn.status = .connected) :
    conn.status.isClosed = false ∧ conn.status ≠ .new := by
  rw [settled]
  decide

theorem Move.inStream (move : Move tun early conn after) (shape : Shape conn)
    (stream : InStream conn) : InStream after := by
  cases move with
  | ack segment built settled direct =>
      obtain ⟨isOpen, known⟩ := settled_known settled
      exact stream.sent [.delivered segment] [] 0 rfl
        (downstream_built built (by decide) (by decide)) rfl (BitVec.add_zero _).symm isOpen known
  | socketError fresh =>
      exact stream.silent [] (List.append_nil _).symm rfl rfl rfl fun isOpen =>
        absurd (show ConnStatus.socketError.isClosed = false from isOpen) (by decide)
  | ended _ lead leads closes => exact stream.ended leads closes
  | accept segment dialing socket direct built =>
      obtain ⟨isOpen, known⟩ := shape.known socket
      exact stream.sent [.delivered segment] [] 1 rfl
        (downstream_built built (by decide) (by decide)) rfl rfl isOpen known
  | hello dialing socket proxied =>
      exact stream.silent [.greeted _] rfl rfl rfl rfl fun _ => shape.known socket
  | greet data octets status timely asked socket turn =>
      exact stream.silent _ rfl rfl rfl rfl fun _ => shape.known socket
  | skip data left timely asked socket skips more =>
      exact stream.silent [.answered data] rfl rfl rfl rfl fun _ => shape.known socket
  | established data segment timely asked socket skips built =>
      obtain ⟨isOpen, known⟩ := shape.known socket
      refine stream.sent _ [] 1 rfl ?_ rfl rfl isOpen known
      have sent : downstream [.delivered segment] = [⟨conn.zdtunSeq, [], 1⟩] :=
        downstream_built built (by decide) (by decide)
      rw [downstream_append, sent]
      rfl
  | eof asked segment timely socket room selected built =>
      obtain ⟨isOpen, known⟩ := shape.known socket
      refine stream.sent _ [] 1 rfl ?_ rfl rfl isOpen known
      have sent : downstream [.delivered segment] = [⟨conn.zdtunSeq, [], 1⟩] :=
        downstream_built built (by decide) (by decide)
      rw [downstream_append, downstream_append, sent]
      rfl
  | data octets segment timely socket direct nonempty room flags plain acking built =>
      obtain ⟨isOpen, known⟩ := shape.known socket
      refine stream.sent _ octets 0 rfl ?_ ?_ rfl isOpen known
      · have sent : downstream [.delivered segment] = [⟨conn.zdtunSeq, octets, 0⟩] :=
          downstream_built built plain.2.1 (by simp [marks, plain])
        rw [downstream_append, sent]
        rfl
      · simp [serverBytes, fromServer]
  | flush octets left socket waiting taken =>
      exact stream.silent [.wrote octets] rfl rfl rfl rfl fun _ => shape.known socket

theorem Take.inStream {pkt : TcpSegment} {env : ForwardEnv}
    (take : Take tun pkt env conn after) (shape : Shape conn)
    (stream : InStream conn) : InStream after := by
  cases take with
  | dial fresh =>
      have blank := (shape.fresh fresh).2.2.2
      constructor <;> simp [blank, downstream, carried, serverBytes, fromServer, Follows, contents]
  | fin settled direct flags fits =>
      refine stream.silent _ rfl ?_ ?_ rfl fun _ => settled_known settled
      · split <;> rfl
      · split <;> rfl
  | queue settled direct socket fits payload =>
      exact stream.silent [.queued _] rfl rfl rfl rfl fun _ => settled_known settled
  | discard settled direct socket fits payload =>
      exact stream.silent [.discarded _] rfl rfl rfl rfl fun _ => settled_known settled

theorem Learn.inStream {pkt : TcpSegment} (learn : Learn pkt conn after) (shape : Shape conn)
    (stream : InStream conn) : InStream after := by
  cases learn with
  | keepAlive segment built settled direct alive =>
      have move : Move {} False conn _ := .ack conn segment built settled direct
      exact move.inStream shape stream
  | window socket settled direct acking next =>
      exact stream.silent [.window _ _] rfl rfl rfl rfl fun _ => settled_known settled

theorem inStream_kept (tun : Tunnel) : Kept tun True (fun _ _ _ => True) InStream where
  move _ _ shape stream move := move.inStream shape stream
  take _ _ _ _ shape stream _ take := take.inStream shape stream
  learn _ _ _ _ shape stream _ learn := ⟨learn.inStream shape stream, trivial⟩

end Steps

section Turns

def FinSent (log : List Effect) : Prop :=
  ∃ segment, .delivered segment ∈ log ∧ has segment.flags TH_RST = false ∧
    has segment.flags TH_FIN = true

/-- The SYN+ACK opens the stream, unless the server of a proxied connection hangs up during the
    handshake. Behind a FIN there are acknowledgements, and no reset. -/
def InTurn (proxied : Prop) (past : List Effect) : Effect → Prop
  | .delivered segment =>
      if has segment.flags TH_RST then ¬ FinSent past
      else
        (has segment.flags TH_SYN = true → downstream past = []) ∧
        (downstream past = [] → has segment.flags TH_SYN = true ∨
          proxied ∧ has segment.flags TH_FIN = true) ∧
        (FinSent past → segment.payload = [] ∧ has segment.flags TH_SYN = false ∧
          has segment.flags TH_FIN = false)
  | _ => True

structure Turns (proxyMode : ProxyMode) (conn : Conn) : Prop where
  inTurn : Justified (InTurn (proxyMode = .socks5)) [] conn.log
  mode : conn.status.isClosed = false → conn.proxyMode = proxyMode
  finished : conn.status.isClosed = false → FinSent conn.log → conn.finAckSent = true
  synced : conn.status = .connected → conn.socks5InProgress = false → downstream conn.log ≠ []
  unsynced : conn.status = .connecting ∨ conn.socks5InProgress = true → conn.sock = true →
    downstream conn.log = []

variable {tun : Tunnel} {proxyMode : ProxyMode} {conn after : Conn}

theorem finSent_append (first last : List Effect) :
    FinSent (first ++ last) ↔ FinSent first ∨ FinSent last := by
  simp only [FinSent, List.mem_append]
  constructor
  · rintro ⟨segment, earlier | later, plain, fin⟩
    · exact .inl ⟨segment, earlier, plain, fin⟩
    · exact .inr ⟨segment, later, plain, fin⟩
  · rintro (⟨segment, member, plain, fin⟩ | ⟨segment, member, plain, fin⟩)
    · exact ⟨segment, .inl member, plain, fin⟩
    · exact ⟨segment, .inr member, plain, fin⟩

theorem unfinished_of_silent (log : List Effect) (none : downstream log = []) : ¬ FinSent log := by
  rintro ⟨segment, member, plain, _⟩
  have empty := List.flatMap_eq_nil_iff.mp none (.delivered segment) member
  simp [carried, plain] at empty

theorem inTurn_silent (proxied : Prop) (past more : List Effect)
    (none : ∀ segment, .delivered segment ∉ more) : Justified (InTurn proxied) past more := by
  refine justified_of_forall _ past more fun effect member before => ?_
  cases effect with
  | delivered segment => exact absurd member (none segment)
  | openSocket | closeSocket | shutdown | wrote | greeted | answered | received | eof | refused
  | queued | discarded | finished | window | closed => trivial

theorem Turns.grown (turns : Turns proxyMode conn) (more : List Effect)
    (log : after.log = conn.log ++ more)
    (justified : Justified (InTurn (proxyMode = .socks5)) conn.log more) :
    Justified (InTurn (proxyMode = .socks5)) [] after.log := by
  rw [log, justified_append]
  exact ⟨turns.inTurn, justified⟩

/-- Nothing was sent, and the socket and the handshake are where they were. -/
theorem Turns.silent (turns : Turns proxyMode conn) (more : List Effect)
    (log : after.log = conn.log ++ more) (none : ∀ segment, .delivered segment ∉ more)
    (mode : after.proxyMode = conn.proxyMode) (finAckSent : after.finAckSent = conn.finAckSent)
    (isOpen : conn.status.isClosed = false)
    (synced : after.status = .connected → after.socks5InProgress = false →
      conn.status = .connected ∧ conn.socks5InProgress = false)
    (unsynced : after.status = .connecting ∨ after.socks5InProgress = true → after.sock = true →
      (conn.status = .connecting ∨ conn.socks5InProgress = true) ∧ conn.sock = true) :
    Turns proxyMode after := by
  have nothing : downstream more = [] := by
    refine List.flatMap_eq_nil_iff.mpr fun effect member => ?_
    cases effect with
    | delivered segment => exact absurd member (none segment)
    | openSocket | closeSocket | shutdown | wrote | greeted | answered | received | eof | refused
    | queued | discarded | finished | window | closed => rfl
  have pieces : downstream after.log = downstream conn.log := by
    rw [log, downstream_append, nothing, List.append_nil]
  refine ⟨turns.grown more log (inTurn_silent _ _ more none), fun _ => mode.trans (turns.mode isOpen),
    fun _ fin => ?_, fun settled direct => ?_, fun waiting socket => ?_⟩
  · rw [log, finSent_append] at fin
    rw [finAckSent]
    exact turns.finished isOpen (fin.resolve_right (unfinished_of_silent more nothing))
  · obtain ⟨settled, direct⟩ := synced settled direct
    rw [pieces]
    exact turns.synced settled direct
  · obtain ⟨waiting, socket⟩ := unsynced waiting socket
    rw [pieces]
    exact turns.unsynced waiting socket

theorem Turns.ended {lead : List Effect} (turns : Turns proxyMode conn)
    (leads : Lead False conn lead) (closes : Ended conn lead after) : Turns proxyMode after := by
  obtain ⟨tail, log, terminal, _⟩ := closes.log
  have closed (status : ConnStatus) (isOpen : status.isClosed = false) : after.status ≠ status := by
    intro same
    rw [← same, closes.status] at isOpen
    cases isOpen
  have silent : downstream lead = [] := lead_downstream leads
  have undelivered : ∀ segment, .delivered segment ∉ lead := by
    cases leads with
    | nothing | dialed | answered | received | wrote | eof => simp
  refine ⟨?_, fun isOpen => absurd closes.status (by simp [isOpen]),
    fun isOpen => absurd closes.status (by simp [isOpen]),
    fun settled => absurd settled (closed _ rfl), fun _ socket => ?_⟩
  · rw [log, justified_append, justified_append]
    refine ⟨turns.inTurn, inTurn_silent _ _ lead undelivered, ?_⟩
    rw [justified_iff]
    rintro before effect later rfl
    cases terminal effect (by simp) with
    | closeSocket | closed | refused => trivial
    | reset segment unfinished built =>
        -- A reset is sent only where no FIN was.
        have quiet : downstream before = [] :=
          terminal_downstream before fun other member => terminal other (by simp [member])
        have flag : has segment.flags TH_RST = true := by
          rw [built.flags]
          decide
        rw [InTurn, if_pos flag, List.nil_append, finSent_append, finSent_append]
        rintro ((sent | leading) | ending)
        · exact absurd (unfinished.symm.trans (turns.finished closes.wasOpen sent)) (by decide)
        · exact unfinished_of_silent lead silent leading
        · exact unfinished_of_silent before quiet ending
  · exact absurd (closes.sock.symm.trans socket) (by decide)

theorem Turns.sent (turns : Turns proxyMode conn) (lead behind : List Effect)
    (segment : TcpSegment)
    (log : after.log = conn.log ++ (lead ++ ([.delivered segment] ++ behind)))
    (before : ∀ other, .delivered other ∉ lead) (later : ∀ other, .delivered other ∉ behind)
    (plain : has segment.flags TH_RST = false)
    (opens : has segment.flags TH_SYN = true → downstream conn.log = [])
    (first : downstream conn.log = [] → has segment.flags TH_SYN = true ∨
      proxyMode = .socks5 ∧ has segment.flags TH_FIN = true)
    (last : FinSent conn.log → segment.payload = [] ∧ has segment.flags TH_SYN = false ∧
      has segment.flags TH_FIN = false)
    (mode : after.proxyMode = conn.proxyMode) (isOpen : conn.status.isClosed = false)
    (fin : after.finAckSent = true ∨
      has segment.flags TH_FIN = false ∧ after.finAckSent = conn.finAckSent)
    (unsynced : after.status = .connecting ∨ after.socks5InProgress = true →
      after.sock = false) : Turns proxyMode after := by
  have silent (more : List Effect) (none : ∀ other, .delivered other ∉ more) :
      downstream more = [] := by
    refine List.flatMap_eq_nil_iff.mpr fun effect member => ?_
    cases effect with
    | delivered other => exact absurd member (none other)
    | openSocket | closeSocket | shutdown | wrote | greeted | answered | received | eof | refused
    | queued | discarded | finished | window | closed => rfl
  have pieces : downstream (conn.log ++ lead) = downstream conn.log := by
    rw [downstream_append, silent lead before, List.append_nil]
  have fins : FinSent (conn.log ++ lead) → FinSent conn.log := fun sent =>
    ((finSent_append _ _).mp sent).resolve_right (unfinished_of_silent lead (silent lead before))
  refine ⟨turns.grown _ log ?_, fun _ => mode.trans (turns.mode isOpen), fun _ sent => ?_,
    fun _ _ => ?_, fun waiting socket => ?_⟩
  · rw [justified_append, List.singleton_append, justified_cons]
    refine ⟨inTurn_silent _ _ lead before, ?_, inTurn_silent _ _ behind later⟩
    rw [InTurn, if_neg (by simp [plain]), pieces]
    exact ⟨opens, first, fun sent => last (fins sent)⟩
  · rcases fin with done | ⟨unmarked, same⟩
    · exact done
    · rw [same]
      rw [log, finSent_append, finSent_append, finSent_append] at sent
      rcases sent with earlier | leading | ⟨other, member, _, marked⟩ | ending
      · exact turns.finished isOpen earlier
      · exact absurd leading (unfinished_of_silent lead (silent lead before))
      · obtain rfl : other = segment := by simpa using member
        exact absurd (unmarked.symm.trans marked) (by decide)
      · exact absurd ending (unfinished_of_silent behind (silent behind later))
  · have one : downstream [.delivered segment] = [piece segment] := by
      simp [downstream, carried, plain]
    rw [log, downstream_append, downstream_append, downstream_append, one]
    simp
  · exact absurd ((unsynced waiting).symm.trans socket) (by decide)

theorem Turns.unfinished (turns : Turns proxyMode conn) (shape : Shape conn)
    (socket : conn.sock = true) : ¬ FinSent conn.log := fun sent =>
  absurd (socket.symm.trans (shape.finished (turns.finished (shape.known socket).1 sent)))
    (by decide)

theorem proxied_of_asked (asked : conn.socks5InProgress = true) : conn.proxyMode = .socks5 := by
  rw [Conn.socks5InProgress, Bool.and_eq_true, decide_eq_true_eq] at asked
  exact asked.1

theorem unfinished_of_asked (asked : conn.socks5InProgress = true) :
    conn.socks5Status ≠ .established := by
  rw [Conn.socks5InProgress, Bool.and_eq_true, decide_eq_true_eq] at asked
  exact of_decide_eq_true asked.2

theorem Move.turns (move : Move tun False conn after) (shape : Shape conn)
    (turns : Turns proxyMode conn) : Turns proxyMode after := by
  cases move with
  | ack segment built settled direct =>
      -- Every segment behind the SYN+ACK finds a stream that begins.
      have synced := turns.synced settled direct
      obtain ⟨isOpen, _⟩ := settled_known settled
      have flags := built.flags
      refine turns.sent [] [] segment rfl (by simp) (by simp) (by rw [flags]; decide)
        (fun syn => absurd syn (by rw [flags]; decide)) (fun none => absurd none synced)
        (fun _ => ⟨built.payload, by rw [flags]; decide, by rw [flags]; decide⟩) rfl isOpen
        (.inr ⟨by rw [flags]; decide, rfl⟩) ?_
      rintro (dialing | asked)
      · exact absurd (settled.symm.trans dialing) (by decide)
      · exact absurd (direct.symm.trans asked) (by decide)
  | socketError fresh =>
      have noSocket := (shape.fresh fresh).1
      exact turns.silent [] (List.append_nil _).symm (by simp) rfl rfl (by rw [fresh]; decide)
        (fun settled => absurd (show ConnStatus.socketError = .connected from settled) (by decide))
        fun _ socket => absurd (noSocket.symm.trans socket) (by decide)
  | ended _ lead leads closes => exact turns.ended leads closes
  -- A connection that still dials has sent nothing, so that the SYN+ACK is the first.
  | accept segment dialing socket direct built =>
      have none := turns.unsynced (.inl dialing) socket
      have unfinished := turns.unfinished shape socket
      have flags := built.flags
      have mode : conn.socks5InProgress = false := by simp [Conn.socks5InProgress, direct]
      refine turns.sent [] [] segment rfl (by simp) (by simp) (by rw [flags]; decide)
        (fun _ => none) (fun _ => .inl (by rw [flags]; decide))
        (fun sent => absurd sent unfinished) rfl (shape.known socket).1
        (.inr ⟨by rw [flags]; decide, rfl⟩) ?_
      rintro (dialing | asked)
      · exact absurd (show ConnStatus.connected = .connecting from dialing) (by decide)
      · exact absurd (mode.symm.trans asked) (by decide)
  | hello dialing socket proxied =>
      refine turns.silent [.greeted _] rfl (by simp) rfl rfl (shape.known socket).1
        (fun _ direct => ?_) fun _ _ => ⟨.inl dialing, socket⟩
      simp [Conn.socks5InProgress, proxied] at direct
  | greet data octets status timely asked socket turn =>
      have proxied := proxied_of_asked asked
      refine turns.silent _ rfl (by simp) rfl rfl (shape.known socket).1 (fun _ direct => ?_)
        fun _ _ => ⟨.inr asked, socket⟩
      simp [Conn.socks5InProgress, proxied, turn.unfinished] at direct
  | skip data left timely asked socket skips more =>
      have proxied := proxied_of_asked asked
      refine turns.silent _ rfl (by simp) rfl rfl (shape.known socket).1 (fun _ direct => ?_)
        fun _ _ => ⟨.inr asked, socket⟩
      simp [Conn.socks5InProgress, proxied] at direct
  | established data segment timely asked socket skips built =>
      have settled : conn.status = .connected := timely.resolve_left id
      have none := turns.unsynced (.inr asked) socket
      have unfinished := turns.unfinished shape socket
      have flags := built.flags
      refine turns.sent [.answered data] [] segment (by simp) (by simp) (by simp)
        (by rw [flags]; decide) (fun _ => none) (fun _ => .inl (by rw [flags]; decide))
        (fun sent => absurd sent unfinished) rfl (shape.known socket).1
        (.inr ⟨by rw [flags]; decide, rfl⟩) ?_
      rintro (dialing | asked)
      · exact absurd (settled.symm.trans dialing) (by decide)
      · simp [Conn.socks5InProgress] at asked
  | eof asked segment timely socket room selected built =>
      have settled : conn.status = .connected := timely.resolve_left id
      have unfinished := turns.unfinished shape socket
      have isOpen := (shape.known socket).1
      have flags := built.flags
      refine turns.sent [.eof asked] [.closeSocket] segment rfl (by simp) (by simp)
        (by rw [flags]; decide) (fun syn => absurd syn (by rw [flags]; decide)) (fun none => ?_)
        (fun sent => absurd sent unfinished) rfl isOpen (.inl rfl) fun _ => rfl
      -- The stream is empty only while the handshake goes on.
      cases handshake : conn.socks5InProgress with
      | true =>
          exact .inr ⟨(turns.mode isOpen).symm.trans (proxied_of_asked handshake),
            by rw [flags]; decide⟩
      | false => exact absurd none (turns.synced settled handshake)
  | data octets segment timely socket direct nonempty room flags plain acking built =>
      have settled : conn.status = .connected := timely.resolve_left id
      have synced := turns.synced settled direct
      have unfinished := turns.unfinished shape socket
      have same := built.flags
      refine turns.sent [.received octets] [] segment (by simp) (by simp) (by simp)
        (by rw [same]; exact plain.2.1) (fun syn => absurd syn (by rw [same]; simp [plain.1]))
        (fun none => absurd none synced) (fun sent => absurd sent unfinished) rfl
        (shape.known socket).1 (.inr ⟨by rw [same]; exact plain.2.2, rfl⟩) ?_
      rintro (dialing | asked)
      · exact absurd (settled.symm.trans dialing) (by decide)
      · exact absurd (direct.symm.trans asked) (by decide)
  | flush octets left socket waiting taken =>
      exact turns.silent [.wrote octets] rfl (by simp) rfl rfl (shape.known socket).1
        (fun settled direct => ⟨settled, direct⟩) fun asked socket => ⟨asked, socket⟩

theorem Take.turns {pkt : TcpSegment} {env : ForwardEnv}
    (take : Take tun pkt env conn after) (shape : Shape conn)
    (turns : Turns proxyMode conn) : Turns proxyMode after := by
  cases take with
  | dial fresh =>
      have blank := (shape.fresh fresh).2.2.2
      have mode := turns.mode (by rw [fresh]; rfl)
      constructor
      · simp [blank, InTurn]
      · exact fun _ => mode
      · simp [blank, FinSent]
      · exact fun settled =>
          absurd (show ConnStatus.connecting = .connected from settled) (by decide)
      · simp [blank, downstream, carried]
  | fin settled direct flags fits =>
      refine turns.silent _ rfl ?_ rfl rfl (settled_known settled).1
        (fun _ direct => ⟨settled, direct⟩) fun waiting socket => ⟨waiting, socket⟩
      intro segment member
      split at member <;> simp at member
  | queue settled direct socket fits payload =>
      exact turns.silent [.queued _] rfl (by simp) rfl rfl (settled_known settled).1
        (fun _ direct => ⟨settled, direct⟩) fun waiting socket => ⟨waiting, socket⟩
  | discard settled direct socket fits payload =>
      exact turns.silent [.discarded _] rfl (by simp) rfl rfl (settled_known settled).1
        (fun _ direct => ⟨settled, direct⟩) fun waiting socket => ⟨waiting, socket⟩

theorem Learn.turns {pkt : TcpSegment} (learn : Learn pkt conn after) (shape : Shape conn)
    (turns : Turns proxyMode conn) : Turns proxyMode after := by
  cases learn with
  | keepAlive segment built settled direct alive =>
      have move : Move {} False conn _ := .ack conn segment built settled direct
      exact move.turns shape turns
  | window socket settled direct acking next =>
      exact turns.silent [.window _ _] rfl (by simp) rfl rfl (settled_known settled).1
        (fun _ _ => ⟨settled, direct⟩) fun waiting _ => ⟨waiting, socket⟩

theorem turns_kept (tun : Tunnel) (proxyMode : ProxyMode) :
    Kept tun False (fun _ _ _ => True) (Turns proxyMode) where
  move _ _ shape turns move := move.turns shape turns
  take _ _ _ _ shape turns _ take := take.turns shape turns
  learn _ _ _ _ shape turns _ learn := ⟨learn.turns shape turns, trivial⟩

end Turns

/-- What the client has put together is what `recv` returned, all of it while the connection is
    open, and the next number it expects is the one that zdtun uses next. -/
theorem client_receives (tun : Tunnel) (tuple : Tuple) (proxyMode : ProxyMode) (dnatIpver : Nat)
    (events : List Event) (tcp : tuple.ipproto = IPPROTO_TCP)
    (admissible : Machine.Along (step tun) (Admissible tun) (newConn tuple proxyMode dnatIpver)
      events) :
    let conn := Machine.run (step tun) (newConn tuple proxyMode dnatIpver) events
    let client := Receiver.receiveAll ⟨INITIAL_SEQ, []⟩ (downstream conn.log)
    client.stream <+: serverBytes conn.log ∧
      (conn.status.isClosed = false → client.stream = serverBytes conn.log) ∧
      (conn.status.isClosed = false → conn.status ≠ .new → client.next = conn.zdtunSeq) := by
  intro conn client
  have initial : InStream (newConn tuple proxyMode dnatIpver) :=
    { follows := trivial
      ahead := List.nil_prefix
      number := fun _ known => absurd rfl known
      whole := fun _ => rfl }
  have stream : InStream conn := ((inStream_kept tun).always tuple proxyMode dnatIpver events tcp
    admissible initial).2
  have taken : client = ⟨INITIAL_SEQ + BitVec.ofNat 32 (spans (downstream conn.log)),
      contents (downstream conn.log)⟩ :=
    receiveAll_follows ⟨INITIAL_SEQ, []⟩ (downstream conn.log) stream.follows
  rw [taken]
  exact ⟨stream.ahead, stream.whole, fun isOpen known => (stream.number isOpen known).symm⟩

theorem client_receives_browsing :
    (Receiver.receiveAll ⟨INITIAL_SEQ, []⟩
        (downstream (Machine.run (step {}) (newConn webTuple .none 4) browsing).log)).stream =
      [1, 2, 3] := by
  have received := (client_receives {} webTuple .none 4 browsing rfl
    browsing_admissible).2.1 (by decide +kernel)
  rw [received]
  decide +kernel

end Ptnet.TcpProxy
