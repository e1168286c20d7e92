import Ptnet.TcpDownstream

/-!
The room of the client. While no acknowledgement takes back what is in flight, no segment goes past
what the client has room for; and while none leaves a socket in the set without room, a FIN of
zdtun tells that the server has closed.
-/

namespace Ptnet.TcpProxy

open Connection
open Histories
open LibpcapCapture (TH_FIN TH_SYN TH_RST TH_ACK)
open TunnelPackets

section Logs

def windowOf : Effect → Option (BitVec 32 × BitVec 32)
  | .window ack size => some (ack, size)
  | _ => none

/-- What the client said last: the number it expects, and its room behind that. -/
def lastWindow (log : List Effect) : Option (BitVec 32 × BitVec 32) :=
  (log.filterMap windowOf).getLast?

theorem lastWindow_silent (log more : List Effect) (none : more.filterMap windowOf = []) :
    lastWindow (log ++ more) = lastWindow log := by
  rw [lastWindow, List.filterMap_append, none, List.append_nil, lastWindow]

theorem lastWindow_window (log : List Effect) (ack size : BitVec 32) :
    lastWindow (log ++ [.window ack size]) = some (ack, size) := by
  simp [lastWindow, windowOf]

def WithinWindow (past : List Effect) : Effect → Prop
  | .delivered segment =>
      segment.payload ≠ [] → ∃ ack size, lastWindow past = some (ack, size) ∧
        (segment.seq - ack).toNat + segment.payload.length ≤ size.toNat
  | _ => True

theorem withinWindow_empty (past more : List Effect)
    (empty : ∀ segment, .delivered segment ∈ more → segment.payload = []) :
    Justified WithinWindow past more := by
  refine justified_of_forall _ past more fun effect member before => ?_
  cases effect with
  | delivered segment => exact fun nonempty => absurd (empty segment member) nonempty
  | openSocket | closeSocket | shutdown | wrote | greeted | answered | received | eof | refused
  | queued | discarded | finished | window | closed => trivial

end Logs

/-- The client does not take back the room for what is in flight. -/
def Unshrunk (conn : Conn) (pkt : TcpSegment) (_ : ForwardEnv) : Prop :=
  conn.sock = true → has pkt.flags TH_ACK = true → pkt.seq = conn.clientSeq + conn.txQueueSize →
    (conn.zdtunSeq - pkt.ack).toNat ≤ (scaledWindow pkt.win conn.windowScale).toNat

instance (conn : Conn) (pkt : TcpSegment) (env : ForwardEnv) : Decidable (Unshrunk conn pkt env) :=
  inferInstanceAs (Decidable (_ → _ → _ → _))

def Conn.unsynced (conn : Conn) : Bool := decide (conn.status = .connecting) || conn.socks5InProgress

/-- What is in flight and what may still be sent make up the window of the client. -/
structure InWindow (conn : Conn) : Prop where
  within : Justified WithinWindow [] conn.log
  room : conn.sock = true → ∃ ack size, lastWindow conn.log = some (ack, size) ∧
    (conn.zdtunSeq + (if conn.unsynced then 1 else 0) - ack).toNat + conn.windowSize.toNat =
      size.toNat

section Numbers

theorem sub_room (seq ack size : BitVec 32) (within : (seq - ack).toNat ≤ size.toNat) :
    (seq - ack).toNat + (size - (seq - ack)).toNat = size.toNat := by
  rw [BitVec.toNat_sub_of_le (BitVec.le_def.mpr within)]
  omega

theorem add_flight (seq ack : BitVec 32) (length room size : Nat) (fits : length ≤ room)
    (sum : (seq - ack).toNat + room = size) (small : size < 2 ^ 32) :
    (seq + BitVec.ofNat 32 length - ack).toNat = (seq - ack).toNat + length := by
  have shifted : seq + BitVec.ofNat 32 length - ack = seq - ack + BitVec.ofNat 32 length := by
    rw [BitVec.sub_eq_add_neg, BitVec.sub_eq_add_neg, BitVec.add_assoc, BitVec.add_assoc,
      BitVec.add_comm (BitVec.ofNat 32 length)]
  have value : (BitVec.ofNat 32 length).toNat = length := by
    rw [BitVec.toNat_ofNat]
    exact Nat.mod_eq_of_lt (by omega)
  rw [shifted, BitVec.toNat_add, value]
  exact Nat.mod_eq_of_lt (by omega)

theorem sub_length (room : BitVec 32) (length : Nat) (fits : length ≤ room.toNat) :
    (room - BitVec.ofNat 32 length).toNat = room.toNat - length := by
  have value : (BitVec.ofNat 32 length).toNat = length := by
    rw [BitVec.toNat_ofNat]
    exact Nat.mod_eq_of_lt (by have := room.isLt; omega)
  rw [BitVec.toNat_sub_of_le (BitVec.le_def.mpr (by rw [value]; exact fits)), value]

end Numbers

section Steps

variable {tun : Tunnel} {conn after : Conn}

theorem InWindow.still (window : InWindow conn) (more : List Effect)
    (log : after.log = conn.log ++ more) (quiet : more.filterMap windowOf = [])
    (empty : ∀ segment, .delivered segment ∈ more → segment.payload = [])
    (socket : after.sock = true → conn.sock = true)
    (next : after.zdtunSeq + (if after.unsynced then 1 else 0) =
      conn.zdtunSeq + (if conn.unsynced then 1 else 0))
    (windowSize : after.windowSize = conn.windowSize) : InWindow after := by
  constructor
  · rw [log, justified_append]
    exact ⟨window.within, withinWindow_empty _ more empty⟩
  · intro isOpen
    rw [log, lastWindow_silent _ _ quiet, next, windowSize]
    exact window.room (socket isOpen)

theorem settled_synced (settled : conn.status = .connected)
    (direct : conn.socks5InProgress = false) : conn.unsynced = false := by
  simp [Conn.unsynced, settled, direct]

theorem InWindow.ended {lead : List Effect} (window : InWindow conn) (leads : Lead False conn lead)
    (closes : Ended conn lead after) : InWindow after := by
  obtain ⟨tail, log, terminal, _⟩ := closes.log
  constructor
  · rw [log, justified_append]
    refine ⟨window.within, withinWindow_empty _ _ fun segment member => ?_⟩
    rcases List.mem_append.mp member with leading | ending
    · cases leads with
      | nothing | dialed | answered | received | wrote | eof => simp at leading
    · cases terminal _ ending with
      | reset segment unfinished built => exact built.payload
  · exact fun socket => absurd (closes.sock.symm.trans socket) (by decide)

theorem Move.inWindow (move : Move tun False conn after) (window : InWindow conn) :
    InWindow after := by
  cases move with
  | ack segment built settled direct =>
      exact window.still [.delivered segment] rfl rfl (by simp [built.payload]) (fun socket => socket)
        rfl rfl
  | socketError fresh =>
      refine window.still [] (List.append_nil _).symm rfl (by simp) (fun socket => socket) ?_ rfl
      simp [Conn.unsynced, Conn.socks5InProgress, fresh]
  | ended _ lead leads closes => exact window.ended leads closes
  | accept segment dialing socket direct built =>
      refine window.still [.delivered segment] rfl rfl (by simp [built.payload])
        (fun socket => socket) ?_ rfl
      simp [Conn.unsynced, Conn.socks5InProgress, dialing, direct]
  | hello dialing socket proxied =>
      refine window.still [.greeted _] rfl rfl (by simp) (fun socket => socket) ?_ rfl
      simp [Conn.unsynced, Conn.socks5InProgress, dialing, proxied]
  | greet data octets status timely asked socket turn =>
      have proxied := proxied_of_asked asked
      have unfinished := unfinished_of_asked asked
      refine window.still _ rfl rfl (by simp) (fun socket => socket) ?_ rfl
      simp [Conn.unsynced, Conn.socks5InProgress, proxied, unfinished, turn.unfinished]
  | skip data left timely asked socket skips more =>
      have proxied := proxied_of_asked asked
      have unfinished := unfinished_of_asked asked
      refine window.still [.answered data] rfl rfl (by simp) (fun socket => socket) ?_ rfl
      simp [Conn.unsynced, Conn.socks5InProgress, proxied, unfinished]
  | established data segment timely asked socket skips built =>
      have settled : conn.status = .connected := timely.resolve_left id
      refine window.still _ rfl rfl (by simp [built.payload]) (fun socket => socket) ?_ rfl
      simp [Conn.unsynced, settled, asked]
      simp [Conn.socks5InProgress]
  | eof asked segment timely socket room selected built =>
      constructor
      · rw [justified_append]
        exact ⟨window.within, withinWindow_empty _ _ (by simp [built.payload])⟩
      · exact fun open_ => absurd (show false = true from open_) (by decide)
  | data octets segment timely socket direct nonempty room flags plain acking built =>
      have settled : conn.status = .connected := timely.resolve_left id
      have synced := settled_synced settled direct
      obtain ⟨ack, size, last, sum⟩ := window.room socket
      rw [synced] at sum
      have sum : (conn.zdtunSeq - ack).toNat + conn.windowSize.toNat = size.toNat := by
        simpa using sum
      have quiet : [Effect.received octets].filterMap windowOf = [] := rfl
      constructor
      · rw [justified_append]
        refine ⟨window.within, trivial, fun _ => ⟨ack, size, ?_, ?_⟩, trivial⟩
        · exact (lastWindow_silent _ _ quiet).trans last
        · rw [built.seq, built.payload]
          omega
      · intro _
        refine ⟨ack, size, (lastWindow_silent _ _ rfl).trans last, ?_⟩
        -- What is in flight grows by as much as the window shrinks.
        have still : Conn.unsynced { conn with
            zdtunSeq := conn.zdtunSeq + BitVec.ofNat 32 octets.length
            windowSize := conn.windowSize - BitVec.ofNat 32 octets.length
            selected := conn.selected &&
              decide (conn.windowSize - BitVec.ofNat 32 octets.length ≠ 0)
            log := conn.log ++ ([.received octets] ++ [.delivered segment]) } = false := synced
        rw [still]
        have flight := add_flight conn.zdtunSeq ack octets.length _ _ room sum size.isLt
        have left := sub_length conn.windowSize octets.length room
        simp only [Bool.false_eq_true, if_false, add_zero, flight, left]
        omega
  | flush octets left socket waiting taken =>
      exact window.still [.wrote octets] rfl rfl (by simp) (fun socket => socket) rfl rfl

theorem Take.inWindow {pkt : TcpSegment} {env : ForwardEnv} (take : Take tun pkt env conn after)
    (shape : Shape conn) (window : InWindow conn) : InWindow after := by
  cases take with
  | dial fresh =>
      have blank := (shape.fresh fresh).2.2.2
      constructor
      · simp [blank, WithinWindow]
      · intro _
        refine ⟨INITIAL_SEQ + 1, scaledWindow pkt.win (synOptions tun conn pkt env.memory).scale, ?_,
          ?_⟩
        · rw [blank]
          rfl
        · simp [Conn.unsynced]
  | fin settled direct flags fits =>
      refine window.still _ rfl ?_ ?_ (fun socket => socket) rfl rfl
      · split <;> rfl
      · intro segment member
        split at member <;> simp at member
  | queue settled direct socket fits payload =>
      exact window.still [.queued _] rfl rfl (by simp) (fun socket => socket) rfl rfl
  | discard settled direct socket fits payload =>
      exact window.still [.discarded _] rfl rfl (by simp) (fun socket => socket) rfl rfl

theorem Learn.inWindow {pkt : TcpSegment} {env : ForwardEnv} (learn : Learn pkt conn after)
    (window : InWindow conn) (unshrunk : Unshrunk conn pkt env) :
    InWindow after ∧ Unshrunk after pkt env := by
  cases learn with
  | keepAlive segment built settled direct alive =>
      have move : Move {} False conn _ := .ack conn segment built settled direct
      exact ⟨move.inWindow window, unshrunk⟩
  | window socket settled direct acking next =>
      refine ⟨⟨?_, fun _ => ⟨pkt.ack, scaledWindow pkt.win conn.windowScale, ?_, ?_⟩⟩, unshrunk⟩
      · rw [updateWindow, justified_append]
        exact ⟨window.within, trivial, trivial⟩
      · exact lastWindow_window _ _ _
      · have synced : (updateWindow conn pkt).unsynced = false := settled_synced settled direct
        rw [synced, if_neg (by decide), add_zero]
        exact sub_room conn.zdtunSeq pkt.ack _ (unshrunk socket acking next)

theorem inWindow_kept (tun : Tunnel) : Kept tun False Unshrunk InWindow where
  move _ _ _ window move := move.inWindow window
  take _ _ _ _ shape window _ take := take.inWindow shape window
  learn _ _ _ _ _ window unshrunk learn := learn.inWindow window unshrunk

end Steps

section Eof

/-- The SYN leaves room for a byte and so does every acknowledgement that finds the socket in the
    set. -/
def Roomy (tun : Tunnel) (conn : Conn) (pkt : TcpSegment) (env : ForwardEnv) : Prop :=
  (conn.status = .new →
    scaledWindow pkt.win (synOptions tun conn pkt env.memory).scale ≠ 0 ∧
      (synOptions tun conn pkt env.memory).mss ≠ 0) ∧
  (conn.sock = true → conn.selected = true → has pkt.flags TH_ACK = true →
    pkt.seq = conn.clientSeq + conn.txQueueSize →
    scaledWindow pkt.win conn.windowScale - (conn.zdtunSeq - pkt.ack) ≠ 0)

instance (tun : Tunnel) (conn : Conn) (pkt : TcpSegment) (env : ForwardEnv) :
    Decidable (Roomy tun conn pkt env) :=
  inferInstanceAs (Decidable ((_ → _ ∧ _) ∧ (_ → _ → _ → _ → _)))

/-- `recv` was never asked for nothing. -/
structure Asks (conn : Conn) : Prop where
  eofs : ∀ asked, .eof asked ∈ conn.log → 0 < asked
  room : conn.selected = true → conn.windowSize ≠ 0
  mss : conn.sock = true → conn.mss ≠ 0

variable {tun : Tunnel} {early : Prop} {conn after : Conn}

theorem Asks.positive (asks : Asks conn) (shape : Shape conn) (selected : conn.selected = true) :
    0 < min conn.windowSize.toNat conn.mss.toNat := by
  have room := BitVec.toNat_ne.mp (asks.room selected)
  have mss := BitVec.toNat_ne.mp (asks.mss (shape.selected selected))
  exact Nat.lt_min.mpr ⟨Nat.pos_of_ne_zero room, Nat.pos_of_ne_zero mss⟩

theorem Asks.same (asks : Asks conn) (more : List Effect) (log : after.log = conn.log ++ more)
    (none : ∀ asked, .eof asked ∉ more) (selected : after.selected = conn.selected)
    (windowSize : after.windowSize = conn.windowSize) (sock : after.sock = conn.sock)
    (mss : after.mss = conn.mss) : Asks after := by
  constructor
  · intro asked member
    rw [log, List.mem_append] at member
    exact asks.eofs asked (member.resolve_right (none asked))
  · rw [selected, windowSize]
    exact asks.room
  · rw [sock, mss]
    exact asks.mss

theorem Asks.ended {lead : List Effect} (asks : Asks conn) (shape : Shape conn)
    (leads : Lead early conn lead) (closes : Ended conn lead after) : Asks after := by
  obtain ⟨tail, log, terminal, _⟩ := closes.log
  constructor
  · intro asked member
    rw [log] at member
    rcases List.mem_append.mp member with before | later
    · exact asks.eofs asked before
    · rcases List.mem_append.mp later with leading | ending
      · cases leads with
        | nothing | dialed | answered | received | wrote => simp at leading
        | eof count room selected =>
            obtain rfl : asked = count := by simpa using leading
            rw [room]
            exact asks.positive shape selected
      · cases terminal _ ending
  · exact fun selected => absurd (closes.selected.symm.trans selected) (by decide)
  · exact fun socket => absurd (closes.sock.symm.trans socket) (by decide)

theorem Move.asks (move : Move tun early conn after) (shape : Shape conn) (asks : Asks conn) :
    Asks after := by
  cases move with
  | ack segment | accept segment => exact asks.same [.delivered segment] rfl (by simp) rfl rfl rfl rfl
  | socketError => exact asks.same [] (List.append_nil _).symm (by simp) rfl rfl rfl rfl
  | ended _ lead leads closes => exact asks.ended shape leads closes
  | hello => exact asks.same [.greeted _] rfl (by simp) rfl rfl rfl rfl
  | greet | established => exact asks.same _ rfl (by simp) rfl rfl rfl rfl
  | skip data => exact asks.same [.answered data] rfl (by simp) rfl rfl rfl rfl
  | eof asked segment timely socket room selected built =>
      constructor
      · intro count member
        rcases List.mem_append.mp member with before | later
        · exact asks.eofs count before
        · obtain rfl : count = asked := by simpa using later
          rw [room]
          exact asks.positive shape selected
      · exact fun set => absurd (show false = true from set) (by decide)
      · exact fun open_ => absurd (show false = true from open_) (by decide)
  | data octets segment =>
      constructor
      · intro asked member
        exact asks.eofs asked ((List.mem_append.mp member).resolve_right (by simp))
      · exact fun set => of_decide_eq_true (Bool.and_eq_true_iff.mp set).2
      · exact asks.mss
  | flush octets => exact asks.same [.wrote octets] rfl (by simp) rfl rfl rfl rfl

theorem Take.asks {pkt : TcpSegment} {env : ForwardEnv} (take : Take tun pkt env conn after)
    (shape : Shape conn) (asks : Asks conn) (roomy : Roomy tun conn pkt env) : Asks after := by
  cases take with
  | dial fresh =>
      obtain ⟨room, mss⟩ := roomy.1 fresh
      have blank := (shape.fresh fresh).2.2.2
      exact ⟨by simp [blank], fun _ => room, fun _ => mss⟩
  | fin =>
      refine asks.same _ rfl (fun asked member => ?_) rfl rfl rfl rfl
      split at member <;> simp at member
  | queue => exact asks.same [.queued _] rfl (by simp) rfl rfl rfl rfl
  | discard => exact asks.same [.discarded _] rfl (by simp) rfl rfl rfl rfl

theorem Learn.asks {pkt : TcpSegment} {env : ForwardEnv} (learn : Learn pkt conn after)
    (asks : Asks conn) (roomy : Roomy tun conn pkt env) : Asks after ∧ Roomy tun after pkt env := by
  cases learn with
  | keepAlive segment =>
      exact ⟨asks.same [.delivered segment] rfl (by simp) rfl rfl rfl rfl, roomy⟩
  | window socket settled direct acking next =>
      have room (set : (updateWindow conn pkt).selected = true) :
          (updateWindow conn pkt).windowSize ≠ 0 := by
        rcases Bool.or_eq_true_iff.mp set with before | more
        · exact roomy.2 socket before acking next
        · intro none
          have positive : (0 : BitVec 32) < (updateWindow conn pkt).windowSize :=
            of_decide_eq_true more
          rw [none] at positive
          exact absurd positive (by decide)
      refine ⟨⟨fun asked member => ?_, room, asks.mss⟩, fun fresh => ?_, fun _ set _ _ => room set⟩
      · exact asks.eofs asked ((List.mem_append.mp member).resolve_right (by simp))
      · exact absurd (settled.symm.trans fresh) (by decide)

theorem asks_kept (tun : Tunnel) : Kept tun True (Roomy tun) Asks where
  move _ _ shape asks move := move.asks shape asks
  take _ _ _ _ shape asks roomy take := take.asks shape asks roomy
  learn _ _ _ _ _ asks roomy learn := learn.asks asks roomy

/-- Where the client always leaves room, `recv` returns 0 only for a server that has closed. -/
theorem eof_asked (tun : Tunnel) (tuple : Tuple) (proxyMode : ProxyMode) (dnatIpver : Nat)
    (events : List Event) (tcp : tuple.ipproto = IPPROTO_TCP)
    (meets : Machine.Along (step tun) (Meets tun True (Roomy tun))
      (newConn tuple proxyMode dnatIpver) events) (asked : Nat)
    (eof : .eof asked ∈ (Machine.run (step tun) (newConn tuple proxyMode dnatIpver) events).log) :
    0 < asked := by
  have initial : Asks (newConn tuple proxyMode dnatIpver) :=
    ⟨fun _ member => absurd member List.not_mem_nil,
      fun set => absurd (show false = true from set) (by decide),
      fun socket => absurd (show false = true from socket) (by decide)⟩
  exact ((asks_kept tun).run _ events meets (newConn_sound tuple proxyMode dnatIpver tcp)
    (Shape.begin tuple proxyMode dnatIpver) initial).2.eofs asked eof

theorem eof_asked_browsing :
    ∃ asked, .eof asked ∈ (Machine.run (step {}) (newConn webTuple .none 4) browsing).log ∧
      0 < asked := by
  have ended : .eof 1460 ∈ (Machine.run (step {}) (newConn webTuple .none 4) browsing).log := by
    decide +kernel
  exact ⟨1460, ended, eof_asked {} webTuple .none 4 browsing rfl
    (browsing_meets True (Roomy {}) (by decide +kernel)) 1460 ended⟩

end Eof

end Ptnet.TcpProxy
