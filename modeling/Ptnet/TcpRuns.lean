import Ptnet.Histories
import Ptnet.Machine
import Ptnet.TcpMoves

/-!
Runs of a connection of zdtun. An invariant that every move keeps holds after all events, whatever
their order is and whatever the system answers.
-/

namespace Ptnet.TcpProxy

open ByteMemory (Bytes)
open Connection
open LibpcapCapture (TH_FIN TH_SYN TH_RST TH_ACK)
open Relation (ReflTransGen)
open TunnelPackets

/-- A connection as `zdtun_lookup` makes it, with the proxy which was set for it. -/
def newConn (tuple : Tuple) (proxyMode : ProxyMode) (dnatIpver : Nat) : Conn :=
  { tuple, proxyMode, dnatIpver }

/-- The reply buffer has room for the segments which the client asks for. -/
def Admissible (tun : Tunnel) (conn : Conn) (event : Event) : Prop :=
  ∀ pkt env, event = .forward pkt env → Modest tun conn pkt env

def OnPacket (allows : Conn → TcpSegment → ForwardEnv → Prop) (conn : Conn) : Event → Prop
  | .forward pkt env => allows conn pkt env
  | .readable _ | .writable _ | .close _ _ => True

instance (allows : Conn → TcpSegment → ForwardEnv → Prop)
    [decision : ∀ conn pkt env, Decidable (allows conn pkt env)] (conn : Conn) (event : Event) :
    Decidable (OnPacket allows conn event) :=
  match event with
  | .forward pkt env => decision conn pkt env
  | .readable _ | .writable _ | .close _ _ => isTrue trivial

/-- What is demanded of an event; data is read before the end of the connect is noticed only if
    `early` is. -/
structure Meets (tun : Tunnel) (early : Prop) (allows : Conn → TcpSegment → ForwardEnv → Prop)
    (conn : Conn) (event : Event) : Prop where
  modest : Admissible tun conn event
  allows : OnPacket allows conn event
  timely : Early conn event → early

structure Kept (tun : Tunnel) (early : Prop) (allows : Conn → TcpSegment → ForwardEnv → Prop)
    (holds : Conn → Prop) : Prop where
  move : ∀ conn after, Shape conn → holds conn → Move tun early conn after → holds after
  take : ∀ pkt env conn after, Shape conn → holds conn → allows conn pkt env →
    Take tun pkt env conn after → holds after
  learn : ∀ pkt env conn after, Shape conn → holds conn → allows conn pkt env →
    Learn pkt conn after → holds after ∧ allows after pkt env

section Shapes

variable {tun : Tunnel} {early : Prop} {conn after : Conn}

theorem Shape.begin (tuple : Tuple) (proxyMode : ProxyMode) (dnatIpver : Nat) :
    Shape (newConn tuple proxyMode dnatIpver) where
  selected set := set
  writing set := set
  closed _ := rfl
  fresh _ := ⟨rfl, rfl, rfl, rfl⟩
  dialing _ := ⟨rfl, fun socket => socket⟩
  finished _ := rfl
  half settled := absurd (show ConnStatus.new = .connected from settled) (by decide)
  busy set := absurd (show false = true from set) (by decide)
  waiting socket := absurd (show false = true from socket) (by decide)
  blocked _ _ := rfl
  asked _ := rfl

theorem Learn.shape {pkt : TcpSegment} (learn : Learn pkt conn after) (shape : Shape conn) :
    Shape after := by
  have held := learn.held shape.toHeld
  cases learn with
  | window socket settled direct =>
      refine { shape with
        toHeld := held
        fresh := fun fresh => absurd (settled.symm.trans fresh) (by decide)
        blocked := fun _ unselected => ?_ }
      have none := (Bool.or_eq_false_iff.mp unselected).2
      have zero : ¬ (0 : BitVec 32) < (updateWindow conn pkt).windowSize := of_decide_eq_false none
      exact BitVec.toNat_inj.mp (by simpa [BitVec.lt_def] using zero)
  | keepAlive segment built settled =>
      exact { shape with
        toHeld := held
        fresh := fun fresh => absurd (settled.symm.trans fresh) (by decide) }

theorem Take.shape {pkt : TcpSegment} {env : ForwardEnv} (take : Take tun pkt env conn after) (shape : Shape conn) :
    Shape after := by
  have held := take.held shape.toHeld
  cases take with
  | dial fresh =>
      obtain ⟨_, unfinished, empty, _⟩ := shape.fresh fresh
      exact {
        toHeld := held
        closed := fun final =>
          absurd (show ConnStatus.connecting.isClosed = true from final) (by decide)
        fresh := fun again => absurd (show ConnStatus.connecting = .new from again) (by decide)
        dialing := fun _ => ⟨empty, fun _ => rfl⟩
        finished := fun sent => absurd (unfinished.symm.trans sent) (by decide)
        half := fun settled =>
          absurd (show ConnStatus.connecting = .connected from settled) (by decide)
        busy := fun _ => .inl rfl
        waiting := fun _ _ => rfl
        blocked := fun _ unselected => absurd (show true = false from unselected) (by decide)
        asked := fun _ => empty }
  | fin settled | discard settled =>
      exact { shape with
        toHeld := held
        fresh := fun fresh => absurd (settled.symm.trans fresh) (by decide) }
  | queue settled direct socket fits payload =>
      exact { shape with
        toHeld := held
        fresh := fun fresh => absurd (settled.symm.trans fresh) (by decide)
        dialing := fun dialing => absurd (settled.symm.trans dialing) (by decide)
        busy := fun _ => .inr (by simp)
        waiting := fun _ _ => rfl
        asked := fun asked => absurd (direct.symm.trans asked) (by decide) }

theorem Ended.shape {lead : List Effect} (closes : Ended conn lead after) : Shape after where
  selected set := absurd set (by simp [closes.selected])
  writing set := absurd set (by simp [closes.writing])
  closed _ := closes.sock
  fresh fresh := absurd closes.status (by rw [fresh]; decide)
  dialing dialing := absurd closes.status (by rw [dialing]; decide)
  finished _ := closes.sock
  half settled := absurd closes.status (by rw [settled]; decide)
  busy set := absurd set (by simp [closes.writing])
  waiting socket := absurd socket (by simp [closes.sock])
  blocked socket := absurd socket (by simp [closes.sock])
  asked _ := closes.queue

theorem Move.shape (move : Move tun early conn after) (shape : Shape conn) : Shape after := by
  have held := move.held shape.toHeld
  cases move with
  | ack segment built settled =>
      exact { shape with
        toHeld := held
        fresh := fun fresh => absurd (settled.symm.trans fresh) (by decide) }
  | socketError fresh =>
      obtain ⟨noSocket, unfinished, empty, _⟩ := shape.fresh fresh
      exact {
        toHeld := held
        closed := fun _ => noSocket
        fresh := fun again => absurd (show ConnStatus.socketError = .new from again) (by decide)
        dialing := fun dialing =>
          absurd (show ConnStatus.socketError = .connecting from dialing) (by decide)
        finished := fun _ => noSocket
        half := fun settled =>
          absurd (show ConnStatus.socketError = .connected from settled) (by decide)
        busy := fun set => absurd (shape.writing set) (by simp [noSocket])
        waiting := fun socket => absurd (noSocket.symm.trans socket) (by decide)
        blocked := fun socket => absurd (noSocket.symm.trans socket) (by decide)
        asked := fun _ => empty }
  | ended _ lead leads closes => exact closes.shape
  | accept segment dialing socket | hello dialing socket =>
      have empty := (shape.dialing dialing).1
      exact {
        toHeld := held
        closed := fun final =>
          absurd (show ConnStatus.connected.isClosed = true from final) (by decide)
        fresh := fun fresh => absurd (show ConnStatus.connected = .new from fresh) (by decide)
        dialing := fun again =>
          absurd (show ConnStatus.connected = .connecting from again) (by decide)
        finished := shape.finished
        half := fun _ closed => absurd (socket.symm.trans closed) (by decide)
        busy := fun set => absurd (show false = true from set) (by decide)
        waiting := fun _ waiting => absurd empty waiting
        blocked := shape.blocked
        asked := fun _ => empty }
  | greet data octets status timely asked socket
  | skip data left timely asked socket
  | established data segment timely asked socket =>
      exact { shape with
        toHeld := held
        fresh := fun fresh => absurd (socket.symm.trans (shape.fresh fresh).1) (by decide)
        asked := fun _ => shape.asked asked }
  | eof asked segment timely socket =>
      exact {
        toHeld := held
        closed := fun _ => rfl
        fresh := fun fresh => absurd (socket.symm.trans (shape.fresh fresh).1) (by decide)
        dialing := fun dialing =>
          ⟨(shape.dialing dialing).1, fun open_ => absurd (show false = true from open_) (by decide)⟩
        finished := fun _ => rfl
        half := fun _ _ => rfl
        busy := fun set => absurd (show false = true from set) (by decide)
        waiting := fun open_ => absurd (show false = true from open_) (by decide)
        blocked := fun open_ => absurd (show false = true from open_) (by decide)
        asked := shape.asked }
  | data octets segment timely socket direct nonempty room =>
      refine { shape with
        toHeld := held
        fresh := fun fresh => absurd (socket.symm.trans (shape.fresh fresh).1) (by decide)
        blocked := fun _ unselected => ?_ }
      rcases Bool.and_eq_false_iff.mp unselected with before | empty
      · -- An unselected socket has no room for a byte.
        have zero := shape.blocked socket before
        have none : octets.length = 0 := by simpa [zero] using room
        exact absurd (List.length_eq_zero_iff.mp none) nonempty
      · simpa using empty
  -- Queued bytes are watched by the write set until the queue is empty.
  | flush octets left socket waiting taken =>
      have settled : conn.status ≠ .connecting := fun dialing =>
        waiting (shape.dialing dialing).1
      have writing := shape.waiting socket waiting
      exact { shape with
        toHeld := held
        fresh := fun fresh => absurd (shape.fresh fresh).2.2.1 waiting
        dialing := fun dialing => absurd dialing settled
        busy := fun set => .inr (by simpa using (Bool.and_eq_true_iff.mp set).2)
        waiting := fun _ more => by simp [writing, more]
        asked := fun asked => absurd (shape.asked asked) waiting }

theorem Move.weaken {other : Prop} (move : Move tun early conn after) (implies : early → other) :
    Move tun other conn after := by
  have weaker (timely : early ∨ conn.status = .connected) : other ∨ conn.status = .connected :=
    timely.imp_left implies
  cases move with
  | ack segment built settled direct => exact .ack _ segment built settled direct
  | socketError fresh => exact .socketError _ fresh
  | ended _ lead leads closes =>
      refine .ended _ _ lead ?_ closes
      cases leads with
      | nothing => exact .nothing
      | dialed ack size fresh => exact .dialed ack size fresh
      | answered octets timely asked => exact .answered octets (weaker timely) asked
      | received octets timely direct socket => exact .received octets (weaker timely) direct socket
      | wrote octets left taken socket => exact .wrote octets left taken socket
      | eof asked room selected => exact .eof asked room selected
  | accept segment dialing socket direct built => exact .accept _ segment dialing socket direct built
  | hello dialing socket proxied => exact .hello _ dialing socket proxied
  | greet data octets status timely asked socket turn =>
      exact .greet _ data octets status (weaker timely) asked socket turn
  | skip data left timely asked socket skips more =>
      exact .skip _ data left (weaker timely) asked socket skips more
  | established data segment timely asked socket skips built =>
      exact .established _ data segment (weaker timely) asked socket skips built
  | eof asked segment timely socket room selected built =>
      exact .eof _ asked segment (weaker timely) socket room selected built
  | data octets segment timely socket direct nonempty room flags plain acking built =>
      exact .data _ octets segment (weaker timely) socket direct nonempty room flags plain acking built
  | flush octets left socket waiting taken => exact .flush _ octets left socket waiting taken

theorem Moves.weaken {other : Prop} (moves : Moves tun early conn after)
    (implies : early → other) : Moves tun other conn after := by
  induction moves with
  | refl => exact .refl
  | tail _ move ih => exact ih.tail (move.weaken implies)

end Shapes

section Rule

variable {tun : Tunnel} {early : Prop} {allows : Conn → TcpSegment → ForwardEnv → Prop} {holds : Conn → Prop}
  {conn after : Conn}

theorem Kept.moves (kept : Kept tun early allows holds) (shape : Shape conn) (before : holds conn)
    (moves : Moves tun early conn after) : Shape after ∧ holds after := by
  induction moves with
  | refl => exact ⟨shape, before⟩
  | tail _ move ih => exact ⟨move.shape ih.1, kept.move _ _ ih.1 ih.2 move⟩

theorem Kept.learns (kept : Kept tun early allows holds) (pkt : TcpSegment) (env : ForwardEnv)
    (shape : Shape conn) (before : holds conn) (allowed : allows conn pkt env)
    (learn : conn = after ∨ Learn pkt conn after) :
    Shape after ∧ holds after ∧ allows after pkt env := by
  rcases learn with same | learn
  · exact same ▸ ⟨shape, before, allowed⟩
  · exact ⟨learn.shape shape, kept.learn pkt env _ _ shape before allowed learn⟩

theorem Kept.step (kept : Kept tun early allows holds) (event : Event)
    (meets : Meets tun early allows conn event) (sound : SoundOpen conn) (shape : Shape conn)
    (before : holds conn) :
    SoundOpen (step tun conn event) ∧ Shape (step tun conn event) ∧
      holds (step tun conn event) := by
  by_cases forward : ∃ pkt env, event = .forward pkt env
  · obtain ⟨pkt, env, rfl⟩ := forward
    obtain ⟨ready, learn, taken, take, kept_sound, moves⟩ :=
      forward_forwards tun conn pkt env sound shape (meets.modest pkt env rfl)
    obtain ⟨shape, before, allowed⟩ :=
      kept.learns pkt env shape before meets.allows learn
    have moves : Moves tun early taken _ := Moves.weaken moves False.elim
    refine ⟨moves.sound tun kept_sound, ?_⟩
    rcases take with same | take
    · subst same
      exact kept.moves shape before moves
    · exact kept.moves (take.shape shape) (kept.take pkt env _ _ shape before allowed take) moves
  · have moves : Moves tun early conn (TcpProxy.step tun conn event) :=
      Moves.weaken (step_moves tun conn event sound shape fun pkt env same =>
        forward ⟨pkt, env, same⟩) meets.timely
    exact ⟨moves.sound tun sound, kept.moves shape before moves⟩

theorem Kept.run (kept : Kept tun early allows holds) (conn : Conn) (events : List Event)
    (meets : Machine.Along (TcpProxy.step tun) (Meets tun early allows) conn events)
    (sound : SoundOpen conn) (shape : Shape conn) (initial : holds conn) :
    Shape (Machine.run (TcpProxy.step tun) conn events) ∧
      holds (Machine.run (TcpProxy.step tun) conn events) :=
  (Machine.run_invariant (TcpProxy.step tun) (Meets tun early allows)
    (fun current => SoundOpen current ∧ Shape current ∧ holds current)
    (fun _ event invariant met => kept.step event met invariant.1 invariant.2.1 invariant.2.2)
    conn events meets ⟨sound, shape, initial⟩).2

theorem onPacket_always (conn : Conn) (event : Event) : OnPacket (fun _ _ _ => True) conn event := by
  cases event with
  | forward | readable | writable | close => trivial

theorem newConn_sound (tuple : Tuple) (proxyMode : ProxyMode) (dnatIpver : Nat)
    (tcp : tuple.ipproto = IPPROTO_TCP) : SoundOpen (newConn tuple proxyMode dnatIpver) :=
  fun _ => ⟨tcp, by simp [newConn]⟩

theorem Kept.always (kept : Kept tun True (fun _ _ _ => True) holds) (tuple : Tuple)
    (proxyMode : ProxyMode) (dnatIpver : Nat) (events : List Event)
    (tcp : tuple.ipproto = IPPROTO_TCP)
    (admissible : Machine.Along (TcpProxy.step tun) (Admissible tun)
      (newConn tuple proxyMode dnatIpver) events)
    (initial : holds (newConn tuple proxyMode dnatIpver)) :
    Shape (Machine.run (TcpProxy.step tun) (newConn tuple proxyMode dnatIpver) events) ∧
      holds (Machine.run (TcpProxy.step tun) (newConn tuple proxyMode dnatIpver) events) := by
  have meets := Machine.along_of_invariant (TcpProxy.step tun) (Admissible tun)
    (Meets tun True fun _ _ _ => True) (fun _ => True) (fun _ _ _ _ => trivial)
    (fun _ event _ modest => ⟨modest, onPacket_always _ event, fun _ => trivial⟩)
    (newConn tuple proxyMode dnatIpver) events admissible trivial
  exact kept.run _ events meets (newConn_sound tuple proxyMode dnatIpver tcp)
    (Shape.begin tuple proxyMode dnatIpver) initial

/-- The same, where data is not read before the end of the connect was noticed. -/
theorem Kept.inTime (kept : Kept tun False (fun _ _ _ => True) holds) (tuple : Tuple)
    (proxyMode : ProxyMode) (dnatIpver : Nat) (events : List Event)
    (tcp : tuple.ipproto = IPPROTO_TCP)
    (admissible : Machine.Along (TcpProxy.step tun) (Admissible tun)
      (newConn tuple proxyMode dnatIpver) events)
    (inTime : Machine.Along (TcpProxy.step tun) (fun conn event => ¬ Early conn event)
      (newConn tuple proxyMode dnatIpver) events)
    (initial : holds (newConn tuple proxyMode dnatIpver)) :
    Shape (Machine.run (TcpProxy.step tun) (newConn tuple proxyMode dnatIpver) events) ∧
      holds (Machine.run (TcpProxy.step tun) (newConn tuple proxyMode dnatIpver) events) := by
  have both := Machine.along_and (TcpProxy.step tun) (Admissible tun) _ _ events admissible inTime
  have meets := Machine.along_of_invariant (TcpProxy.step tun) _
    (Meets tun False fun _ _ _ => True) (fun _ => True) (fun _ _ _ _ => trivial)
    (fun _ event _ met => ⟨met.1, onPacket_always _ event, met.2⟩)
    (newConn tuple proxyMode dnatIpver) events both trivial
  exact kept.run _ events meets (newConn_sound tuple proxyMode dnatIpver tcp)
    (Shape.begin tuple proxyMode dnatIpver) initial

end Rule

section Browsing

theorem modest_plain (conn : Conn) (pkt : TcpSegment) (env : ForwardEnv) (plain : pkt.opts = []) :
    Modest {} conn pkt env := by
  intro _
  have found : (synOptions {} conn pkt env.memory).mss = defaultMss {} conn := by
    rw [synOptions, plain, scanOptions.eq_def]
    rfl
  rw [found, defaultMss, DnsSpoof.ZdtunConn.iphdrLen]
  split <;> decide

theorem admissible_plain (conn : Conn) (event : Event)
    (plain : ∀ pkt env, event = .forward pkt env → pkt.opts = []) : Admissible {} conn event :=
  fun pkt env same => modest_plain conn pkt env (plain pkt env same)

def webTuple : Tuple :=
  ⟨BitVec.ofNat 128 0x0AD7AD01 <<< 96, BitVec.ofNat 128 0x01010101 <<< 96, 40000, 80, 4, IPPROTO_TCP⟩

def packet (seq : BitVec 32) (flags : BitVec 8) (payload : Bytes) : TcpSegment :=
  { seq, ack := INITIAL_SEQ + 1, flags, win := 65535, opts := [], payload }

/-- A client sends three bytes, gets three back, and the server closes. -/
def browsing : List Event :=
  [.forward (packet 1000 TH_SYN []) {}, .writable {},
    .forward (packet 1001 (TH_ACK ||| TH_PUSH) [71, 69, 84]) {}, .writable { sends := [.took 2] },
    .readable { recv := .ok [1, 2, 3] }, .writable { sends := [.took 1] },
    .readable { recv := .ok [] }]

theorem browsing_plain (event : Event) (member : event ∈ browsing) (pkt : TcpSegment)
    (env : ForwardEnv) (same : event = .forward pkt env) : pkt.opts = [] := by
  subst same
  simp only [browsing, List.mem_cons, Event.forward.injEq, reduceCtorEq, List.not_mem_nil, or_false,
    false_or] at member
  rcases member with ⟨rfl, _⟩ | ⟨rfl, _⟩ <;> rfl

theorem browsing_admissible : Machine.Along (step {}) (Admissible {}) (newConn webTuple .none 4)
    browsing :=
  Machine.along_of_forall _ _ _ _ fun event member conn =>
    admissible_plain conn event (browsing_plain event member)

theorem browsing_inTime : Machine.Along (step {}) (fun conn event => ¬ Early conn event)
    (newConn webTuple .none 4) browsing := by
  decide +kernel

theorem browsing_meets (early : Prop) (allows : Conn → TcpSegment → ForwardEnv → Prop)
    (allowed : Machine.Along (step {}) (OnPacket allows) (newConn webTuple .none 4) browsing) :
    Machine.Along (step {}) (Meets {} early allows) (newConn webTuple .none 4) browsing := by
  have both := Machine.along_and (step {}) _ _ _ browsing
    (Machine.along_and (step {}) _ _ _ browsing browsing_admissible browsing_inTime) allowed
  exact Machine.along_of_invariant (step {}) _ _ (fun _ => True) (fun _ _ _ _ => trivial)
    (fun _ _ _ met => ⟨met.1.1, met.2, fun soon => absurd soon met.1.2⟩) _ browsing both trivial

end Browsing

end Ptnet.TcpProxy
