import Ptnet.TcpDownstream

/-!
From the client to the server: whatever packets come, repeated or out of order, what is written to
the socket is an initial part of the stream of the client. zdtun acknowledges as many numbers as
were written; the bytes that a FIN carries, its own number and the bytes behind the end of the
server are acknowledged when they come, even while earlier bytes wait in the queue.
-/

namespace Ptnet.TcpProxy

open ByteMemory (Bytes)
open Connection
open Histories
open InOrder
open LibpcapCapture (TH_FIN TH_SYN TH_RST TH_ACK)
open TunnelPackets

section Logs

def queuedBy : Effect → Bytes
  | .queued octets => octets
  | _ => []

def writtenBy : Effect → Bytes
  | .wrote octets => octets
  | _ => []

def queuedBytes (log : List Effect) : Bytes := log.flatMap queuedBy

def writtenBytes (log : List Effect) : Bytes := log.flatMap writtenBy

def ackedBy : Effect → Nat
  | .wrote octets => octets.length
  | .discarded octets => octets.length
  | .finished octets => octets.length + 1
  | _ => 0

def acceptedBy : Effect → Nat
  | .queued octets => octets.length
  | .discarded octets => octets.length
  | .finished octets => octets.length + 1
  | _ => 0

def acked (log : List Effect) : Nat := (log.map ackedBy).sum

def accepted (log : List Effect) : Nat := (log.map acceptedBy).sum

theorem queuedBytes_append (first last : List Effect) :
    queuedBytes (first ++ last) = queuedBytes first ++ queuedBytes last :=
  List.flatMap_append

theorem writtenBytes_append (first last : List Effect) :
    writtenBytes (first ++ last) = writtenBytes first ++ writtenBytes last :=
  List.flatMap_append

theorem acked_append (first last : List Effect) :
    acked (first ++ last) = acked first + acked last := by
  rw [acked, List.map_append, List.sum_append, acked, acked]

theorem accepted_append (first last : List Effect) :
    accepted (first ++ last) = accepted first + accepted last := by
  rw [accepted, List.map_append, List.sum_append, accepted, accepted]

theorem pending_append (queue : List TcpData) (item : TcpData) :
    pending (queue ++ [item]) = pending queue ++ item.rest := by
  rw [pending, List.flatMap_append, List.flatMap_singleton, pending]

structure Untouched (more : List Effect) : Prop where
  queued : queuedBytes more = []
  written : writtenBytes more = []
  acked : acked more = 0
  accepted : accepted more = 0

end Logs

/-- An acknowledgement tells what was written, dropped or ended. -/
def CoversAcked (isn : BitVec 32) (past : List Effect) : Effect → Prop
  | .delivered segment => has segment.flags TH_RST = false →
      segment.ack = isn + 1 + BitVec.ofNat 32 (acked past)
  | _ => True

structure Counted (isn : BitVec 32) (conn : Conn) : Prop where
  covers : Justified (CoversAcked isn) [] conn.log
  fresh : conn.status = .new → conn.txQueueSize = 0
  client : conn.status.isClosed = false → conn.status ≠ .new →
    conn.clientSeq = isn + 1 + BitVec.ofNat 32 (acked conn.log)
  expected : conn.status.isClosed = false → conn.status ≠ .new →
    conn.clientSeq + conn.txQueueSize = isn + 1 + BitVec.ofNat 32 (accepted conn.log)
  queue : conn.status.isClosed = false →
    writtenBytes conn.log ++ pending conn.txQueue = queuedBytes conn.log
  ahead : writtenBytes conn.log <+: queuedBytes conn.log
  behind : conn.status.isClosed = false →
    acked conn.log + (pending conn.txQueue).length = accepted conn.log

/-- The first packet has the number `isn`. -/
def Opens (isn : BitVec 32) (conn : Conn) (pkt : TcpSegment) (_ : ForwardEnv) : Prop :=
  conn.status = .new → pkt.seq = isn

instance (isn : BitVec 32) (conn : Conn) (pkt : TcpSegment) (env : ForwardEnv) :
    Decidable (Opens isn conn pkt env) :=
  inferInstanceAs (Decidable (_ → _))

section Counting

variable {tun : Tunnel} {early : Prop} {isn : BitVec 32} {conn after : Conn}

theorem coversAcked_silent (past more : List Effect)
    (none : ∀ segment, .delivered segment ∉ more) : Justified (CoversAcked isn) past more := by
  refine justified_of_forall _ past more fun effect member before => ?_
  cases effect with
  | delivered segment => exact absurd member (none segment)
  | openSocket | closeSocket | shutdown | wrote | greeted | answered | received | eof | refused
  | queued | discarded | finished | window | closed => trivial

/-- The stream of the client stays as it is, and the segments that are sent acknowledge it. -/
theorem Counted.still (counted : Counted isn conn) (more : List Effect)
    (log : after.log = conn.log ++ more) (untouched : Untouched more)
    (covers : Justified (CoversAcked isn) conn.log more)
    (clientSeq : after.clientSeq = conn.clientSeq)
    (txQueueSize : after.txQueueSize = conn.txQueueSize) (txQueue : after.txQueue = conn.txQueue)
    (status : after.status.isClosed = false →
      conn.status.isClosed = false ∧ (after.status ≠ .new → conn.status ≠ .new))
    (fresh : after.status = .new → conn.status = .new) : Counted isn after := by
  obtain ⟨queued, written, noAck, none⟩ := untouched
  have queues : queuedBytes after.log = queuedBytes conn.log := by
    rw [log, queuedBytes_append, queued, List.append_nil]
  have writes : writtenBytes after.log = writtenBytes conn.log := by
    rw [log, writtenBytes_append, written, List.append_nil]
  have acks : acked after.log = acked conn.log := by
    rw [log, acked_append, noAck, Nat.add_zero]
  have takes : accepted after.log = accepted conn.log := by
    rw [log, accepted_append, none, Nat.add_zero]
  constructor
  · rw [log, justified_append]
    exact ⟨counted.covers, covers⟩
  · rw [txQueueSize]
    exact fun again => counted.fresh (fresh again)
  · rw [clientSeq, acks]
    exact fun isOpen known => counted.client (status isOpen).1 ((status isOpen).2 known)
  · rw [clientSeq, txQueueSize, takes]
    exact fun isOpen known => counted.expected (status isOpen).1 ((status isOpen).2 known)
  · rw [writes, txQueue, queues]
    exact fun isOpen => counted.queue (status isOpen).1
  · rw [writes, queues]
    exact counted.ahead
  · rw [acks, txQueue, takes]
    exact fun isOpen => counted.behind (status isOpen).1

/-- A segment that tells the number which is due. -/
theorem Counted.covers_built {flags : BitVec 8} {payload : Bytes} {segment : TcpSegment}
    (counted : Counted isn conn) (built : Built conn flags payload segment)
    (acking : has flags TH_ACK = true) (isOpen : conn.status.isClosed = false)
    (known : conn.status ≠ .new) (lead : List Effect) (none : acked lead = 0) :
    CoversAcked isn (conn.log ++ lead) (.delivered segment) := by
  intro _
  rw [built.ack acking, counted.client isOpen known, acked_append, none, Nat.add_zero]

theorem Counted.ended {lead : List Effect} (counted : Counted isn conn)
    (leads : Lead early conn lead) (closes : Ended conn lead after) : Counted isn after := by
  obtain ⟨tail, log, terminal, _⟩ := closes.log
  have final : ¬ after.status.isClosed = false := by simp [closes.status]
  have written : writtenBytes tail = [] := by
    refine List.flatMap_eq_nil_iff.mpr fun effect member => ?_
    cases terminal effect member with
    | closeSocket | closed | reset | refused => rfl
  have queued : queuedBytes tail = [] := by
    refine List.flatMap_eq_nil_iff.mpr fun effect member => ?_
    cases terminal effect member with
    | closeSocket | closed | reset | refused => rfl
  constructor
  · rw [log, justified_append, justified_append]
    refine ⟨counted.covers, coversAcked_silent _ lead ?_, justified_of_forall _ _ tail ?_⟩
    · cases leads with
      | nothing | dialed | answered | received | wrote | eof => simp
    · intro effect member before
      cases terminal effect member with
      | closeSocket | closed | refused => trivial
      | reset segment unfinished built =>
          intro plain
          rw [built.flags] at plain
          exact absurd plain (by decide)
  · exact fun fresh => absurd closes.status (by rw [fresh]; decide)
  · exact fun isOpen => absurd isOpen final
  · exact fun isOpen => absurd isOpen final
  · exact fun isOpen => absurd isOpen final
  · rw [log, writtenBytes_append, writtenBytes_append, written, queuedBytes_append,
      queuedBytes_append, queued, List.append_nil, List.append_nil]
    cases leads with
    | nothing | dialed | answered | received | eof => simpa [writtenBytes, queuedBytes, writtenBy,
        queuedBy] using counted.ahead
    | wrote octets left taken =>
        -- What was written before the error is the beginning of the queue.
        have whole := counted.queue closes.wasOpen
        have none : queuedBytes [.wrote octets] = [] := rfl
        have some_written : writtenBytes [.wrote octets] = octets := List.append_nil octets
        rw [none, List.append_nil, some_written, ← whole, ← taken, ← List.append_assoc]
        exact List.prefix_append _ _
  · exact fun isOpen => absurd isOpen final

theorem Move.counted (move : Move tun early conn after) (shape : Shape conn)
    (counted : Counted isn conn) : Counted isn after := by
  cases move with
  | ack segment built settled direct =>
      obtain ⟨isOpen, known⟩ := settled_known settled
      have covers := counted.covers_built built (by decide) isOpen known [] rfl
      rw [List.append_nil] at covers
      exact counted.still [.delivered segment] rfl ⟨rfl, rfl, rfl, rfl⟩ ⟨covers, trivial⟩ rfl rfl rfl
        (fun _ => ⟨isOpen, fun _ => known⟩) fun fresh => fresh
  | socketError fresh =>
      exact counted.still [] (List.append_nil _).symm ⟨rfl, rfl, rfl, rfl⟩ trivial rfl rfl rfl
        (fun isOpen => absurd (show ConnStatus.socketError.isClosed = false from isOpen) (by decide))
        fun _ => fresh
  | ended _ lead leads closes => exact counted.ended leads closes
  | accept segment dialing socket direct built =>
      obtain ⟨isOpen, known⟩ := shape.known socket
      have covers := counted.covers_built built (by decide) isOpen known [] rfl
      rw [List.append_nil] at covers
      exact counted.still [.delivered segment] rfl ⟨rfl, rfl, rfl, rfl⟩ ⟨covers, trivial⟩ rfl rfl rfl
        (fun _ => ⟨isOpen, fun _ => known⟩)
        fun fresh => absurd (show ConnStatus.connected = .new from fresh) (by decide)
  | hello dialing socket proxied =>
      exact counted.still [.greeted _] rfl ⟨rfl, rfl, rfl, rfl⟩
        (coversAcked_silent _ _ (by simp)) rfl rfl rfl
        (fun _ => ⟨(shape.known socket).1, fun _ => (shape.known socket).2⟩)
        fun fresh => absurd (show ConnStatus.connected = .new from fresh) (by decide)
  | greet data octets status timely asked socket turn =>
      exact counted.still _ rfl ⟨rfl, rfl, rfl, rfl⟩ (coversAcked_silent _ _ (by simp)) rfl rfl rfl
        (fun isOpen => ⟨isOpen, fun known => known⟩) fun fresh => fresh
  | skip data left timely asked socket skips more =>
      exact counted.still [.answered data] rfl ⟨rfl, rfl, rfl, rfl⟩
        (coversAcked_silent _ _ (by simp)) rfl rfl rfl
        (fun isOpen => ⟨isOpen, fun known => known⟩) fun fresh => fresh
  | established data segment timely asked socket skips built =>
      obtain ⟨isOpen, known⟩ := shape.known socket
      have covers := counted.covers_built built (by decide) isOpen known [.answered data] rfl
      exact counted.still _ rfl ⟨rfl, rfl, rfl, rfl⟩ ⟨trivial, covers, trivial⟩ rfl rfl rfl
        (fun isOpen => ⟨isOpen, fun known => known⟩) fun fresh => fresh
  | eof asked segment timely socket room selected built =>
      obtain ⟨isOpen, known⟩ := shape.known socket
      have covers := counted.covers_built built (by decide) isOpen known [.eof asked] rfl
      exact counted.still _ rfl ⟨rfl, rfl, rfl, rfl⟩ ⟨trivial, covers, trivial, trivial⟩ rfl rfl rfl
        (fun isOpen => ⟨isOpen, fun known => known⟩) fun fresh => fresh
  | data octets segment timely socket direct nonempty room flags plain acking built =>
      obtain ⟨isOpen, known⟩ := shape.known socket
      have covers := counted.covers_built built acking isOpen known [.received octets] rfl
      exact counted.still _ rfl ⟨rfl, rfl, rfl, rfl⟩ ⟨trivial, covers, trivial⟩ rfl rfl rfl
        (fun isOpen => ⟨isOpen, fun known => known⟩) fun fresh => fresh
  -- The one move that acknowledges: what is written leaves the queue by as much.
  | flush octets left socket waiting taken =>
      obtain ⟨isOpen, known⟩ := shape.known socket
      have acks : acked (conn.log ++ [.wrote octets]) = acked conn.log + octets.length :=
        acked_append _ _
      have takes : accepted (conn.log ++ [.wrote octets]) = accepted conn.log :=
        (accepted_append _ _).trans (Nat.add_zero _)
      have writes : writtenBytes (conn.log ++ [.wrote octets]) = writtenBytes conn.log ++ octets := by
        rw [writtenBytes_append]
        exact congrArg _ (List.append_nil octets)
      have queues : queuedBytes (conn.log ++ [.wrote octets]) = queuedBytes conn.log :=
        (queuedBytes_append _ _).trans (List.append_nil _)
      have whole : writtenBytes conn.log ++ octets ++ pending left = queuedBytes conn.log := by
        rw [List.append_assoc, taken, counted.queue isOpen]
      constructor
      · rw [justified_append]
        exact ⟨counted.covers, trivial, trivial⟩
      · exact fun fresh => absurd fresh known
      · intro _ _
        -- client_seq counts what is acknowledged, modulo 2^32.
        rw [acks, ← ofNat_shift, ← counted.client isOpen known]
      · intro _ _
        -- What is expected next, client_seq and the queue together, does not move.
        rw [takes, ← counted.expected isOpen known]
        simp only [BitVec.sub_eq_add_neg]
        rw [BitVec.add_assoc, BitVec.add_comm (BitVec.ofNat 32 octets.length), BitVec.add_assoc,
          BitVec.add_comm (-BitVec.ofNat 32 octets.length), BitVec.add_right_neg, BitVec.add_zero]
      · intro _
        rw [writes, queues, whole]
      · rw [writes, queues, ← whole]
        exact List.prefix_append _ _
      · intro _
        have sum := counted.behind isOpen
        have lengths : octets.length + (pending left).length = (pending conn.txQueue).length := by
          rw [← taken, List.length_append]
        rw [acks, takes]
        show acked conn.log + octets.length + (pending left).length = accepted conn.log
        omega

/-- Both the number that is acknowledged and the one that is expected go ahead by what was taken. -/
theorem Counted.taken (counted : Counted isn conn) (more : List Effect) (count : Nat)
    (log : after.log = conn.log ++ more) (queued : queuedBytes more = [])
    (written : writtenBytes more = []) (acks : acked more = count) (takes : accepted more = count)
    (none : ∀ segment, .delivered segment ∉ more)
    (clientSeq : after.clientSeq = conn.clientSeq + BitVec.ofNat 32 count)
    (txQueueSize : after.txQueueSize = conn.txQueueSize) (txQueue : after.txQueue = conn.txQueue)
    (status : after.status = conn.status) (isOpen : conn.status.isClosed = false)
    (known : conn.status ≠ .new) : Counted isn after := by
  have queues : queuedBytes after.log = queuedBytes conn.log := by
    rw [log, queuedBytes_append, queued, List.append_nil]
  have writes : writtenBytes after.log = writtenBytes conn.log := by
    rw [log, writtenBytes_append, written, List.append_nil]
  constructor
  · rw [log, justified_append]
    exact ⟨counted.covers, coversAcked_silent _ more none⟩
  · rw [status]
    exact fun fresh => absurd fresh known
  · intro _ _
    rw [clientSeq, log, acked_append, acks, ← ofNat_shift, ← counted.client isOpen known]
  · intro _ _
    rw [clientSeq, txQueueSize, log, accepted_append, takes, ← ofNat_shift,
      ← counted.expected isOpen known, BitVec.add_assoc, BitVec.add_comm (BitVec.ofNat 32 count),
      BitVec.add_assoc]
  · intro _
    rw [writes, txQueue, queues]
    exact counted.queue isOpen
  · rw [writes, queues]
    exact counted.ahead
  · intro _
    have sum := counted.behind isOpen
    rw [log, acked_append, acks, txQueue, accepted_append, takes]
    omega

theorem Take.counted {pkt : TcpSegment} {env : ForwardEnv} (take : Take tun pkt env conn after)
    (shape : Shape conn) (counted : Counted isn conn) (opens : Opens isn conn pkt env) :
    Counted isn after := by
  cases take with
  | dial fresh =>
      obtain ⟨_, _, empty, blank⟩ := shape.fresh fresh
      have none := counted.fresh fresh
      have number := opens fresh
      constructor
      · rw [blank]
        exact ⟨trivial, trivial, trivial⟩
      · exact fun again => absurd (show ConnStatus.connecting = .new from again) (by decide)
      · intro _ _
        rw [blank, number]
        exact (BitVec.add_zero _).symm
      · intro _ _
        rw [blank, number, none]
        rfl
      · intro _
        rw [blank, empty]
        rfl
      · rw [blank]
        exact List.prefix_refl _
      · intro _
        rw [blank, empty]
        rfl
  -- A FIN counts as one byte more, on both sides of the sum.
  | fin settled direct flags fits =>
      obtain ⟨isOpen, known⟩ := settled_known settled
      refine counted.taken _ (pkt.payload.length + 1) rfl ?_ ?_ ?_ ?_ (fun segment member => ?_)
        ?_ rfl rfl rfl isOpen known
      · split <;> rfl
      · split <;> rfl
      · split <;> simp [acked, ackedBy]
      · split <;> simp [accepted, acceptedBy]
      · split at member <;> simp at member
      · exact ofNat_shift conn.clientSeq pkt.payload.length 1
  | queue settled direct socket fits payload =>
      obtain ⟨isOpen, known⟩ := settled_known settled
      have acks : acked (conn.log ++ [.queued pkt.payload]) = acked conn.log :=
        (acked_append _ _).trans (Nat.add_zero _)
      have takes : accepted (conn.log ++ [.queued pkt.payload]) =
          accepted conn.log + pkt.payload.length := accepted_append _ _
      have writes : writtenBytes (conn.log ++ [.queued pkt.payload]) = writtenBytes conn.log :=
        (writtenBytes_append _ _).trans (List.append_nil _)
      have queues : queuedBytes (conn.log ++ [.queued pkt.payload]) =
          queuedBytes conn.log ++ pkt.payload := by
        rw [queuedBytes_append]
        exact congrArg _ (List.append_nil pkt.payload)
      have waits : pending (conn.txQueue ++ [{ data := pkt.payload, flags := pkt.flags }]) =
          pending conn.txQueue ++ pkt.payload := pending_append _ _
      constructor
      · rw [justified_append]
        exact ⟨counted.covers, trivial, trivial⟩
      · exact fun fresh => absurd fresh known
      · intro _ _
        rw [acks]
        exact counted.client isOpen known
      · intro _ _
        rw [takes, ← ofNat_shift, ← counted.expected isOpen known, BitVec.add_assoc]
      · intro _
        rw [writes, queues, waits, ← List.append_assoc, counted.queue isOpen]
      · rw [writes, queues]
        exact counted.ahead.trans (List.prefix_append _ _)
      · intro _
        have sum := counted.behind isOpen
        rw [acks, takes, waits, List.length_append]
        omega
  | discard settled direct socket fits payload =>
      obtain ⟨isOpen, known⟩ := settled_known settled
      exact counted.taken [.discarded pkt.payload] pkt.payload.length rfl rfl rfl rfl rfl (by simp)
        rfl rfl rfl rfl isOpen known

theorem Learn.counted {pkt : TcpSegment} (learn : Learn pkt conn after) (shape : Shape conn)
    (counted : Counted isn conn) : Counted isn after := by
  cases learn with
  | keepAlive segment built settled direct alive =>
      have move : Move {} False conn _ := .ack conn segment built settled direct
      exact move.counted shape counted
  | window socket settled direct acking next =>
      obtain ⟨isOpen, known⟩ := settled_known settled
      exact counted.still [.window _ _] rfl ⟨rfl, rfl, rfl, rfl⟩ ⟨trivial, trivial⟩ rfl rfl rfl
        (fun _ => ⟨isOpen, fun _ => known⟩) fun fresh => fresh

theorem Learn.still_opens {pkt : TcpSegment} {env : ForwardEnv} (learn : Learn pkt conn after) :
    Opens isn after pkt env := by
  cases learn with
  | keepAlive segment built settled | window socket settled =>
      exact fun fresh => absurd (settled.symm.trans fresh) (by decide)

theorem Counted.begin (isn : BitVec 32) (tuple : Tuple) (proxyMode : ProxyMode) (dnatIpver : Nat) :
    Counted isn (newConn tuple proxyMode dnatIpver) where
  covers := trivial
  fresh _ := rfl
  client _ known := absurd rfl known
  expected _ known := absurd rfl known
  queue _ := rfl
  ahead := List.prefix_refl _
  behind _ := rfl

theorem counted_kept (tun : Tunnel) (isn : BitVec 32) : Kept tun True (Opens isn) (Counted isn) where
  move _ _ shape counted move := move.counted shape counted
  take _ _ _ _ shape counted opens take := take.counted shape counted opens
  learn _ _ _ _ shape counted _ learn := ⟨learn.counted shape counted, learn.still_opens⟩

end Counting

/-- Every acknowledgement counts what was written, dropped behind the end of the server or taken
    with a FIN, whether or not the queue is empty then. -/
theorem acks_cover (tun : Tunnel) (tuple : Tuple) (proxyMode : ProxyMode) (dnatIpver : Nat)
    (isn : BitVec 32) (events : List Event)
    (tcp : tuple.ipproto = IPPROTO_TCP)
    (meets : Machine.Along (step tun) (Meets tun True (Opens isn))
      (newConn tuple proxyMode dnatIpver) events) :
    Justified (CoversAcked isn) []
      (Machine.run (step tun) (newConn tuple proxyMode dnatIpver) events).log :=
  ((counted_kept tun isn).run _ events meets (newConn_sound tuple proxyMode dnatIpver tcp)
    (Shape.begin tuple proxyMode dnatIpver)
    (Counted.begin isn tuple proxyMode dnatIpver)).2.covers

theorem acks_cover_browsing :
    Justified (CoversAcked 1000) []
      (Machine.run (step {}) (newConn webTuple .none 4) browsing).log :=
  acks_cover {} webTuple .none 4 1000 browsing rfl
    (browsing_meets True (Opens 1000) (by decide +kernel))

/-- The packets are cut out of the stream, not a round of numbers away. What passes for a keep-alive
    carries nothing, and a FIN ends the stream. -/
def InPlace (isn : BitVec 32) (whole : Bytes) (conn : Conn) (pkt : TcpSegment)
    (env : ForwardEnv) : Prop :=
  Opens isn conn pkt env ∧
  (conn.status = .connected →
    (isKeepAlive conn pkt = true → pkt.payload = []) ∧
    ∃ place, CutAt (isn + 1) whole place (⟨pkt.seq, pkt.payload, 0⟩ : Piece 32 UInt8) ∧
      accepted conn.log < place + 2 ^ 32 ∧ place + 1 < acked conn.log + 2 ^ 32 ∧
      (has pkt.flags TH_FIN = true → place + pkt.payload.length = whole.length))

def Finished (log : List Effect) : Prop := ∃ octets, .finished octets ∈ log

/-- The queue has taken the beginning of the stream, and all that was accepted while the socket was
    open. -/
structure Uploaded (isn : BitVec 32) (whole : Bytes) (conn : Conn) : Prop
    extends Counted isn conn where
  sofar : queuedBytes conn.log <+: whole
  every : conn.sock = true → ¬ Finished conn.log →
    queuedBytes conn.log = whole.take (accepted conn.log) ∧ accepted conn.log ≤ whole.length
  beyond : conn.sock = true → Finished conn.log → whole.length < accepted conn.log

section Uploading

variable {tun : Tunnel} {early : Prop} {isn : BitVec 32} {whole : Bytes} {conn after : Conn}

theorem finished_append (first last : List Effect) (none : ∀ octets, .finished octets ∉ last) :
    Finished (first ++ last) ↔ Finished first := by
  constructor
  · rintro ⟨octets, member⟩
    exact ⟨octets, (List.mem_append.mp member).resolve_right (none octets)⟩
  · rintro ⟨octets, member⟩
    exact ⟨octets, List.mem_append_left last member⟩

theorem Uploaded.still (uploaded : Uploaded isn whole conn) (counted : Counted isn after)
    (more : List Effect) (log : after.log = conn.log ++ more) (queued : queuedBytes more = [])
    (none : accepted more = 0) (running : ∀ octets, .finished octets ∉ more)
    (socket : after.sock = true → conn.sock = true) : Uploaded isn whole after := by
  have queues : queuedBytes after.log = queuedBytes conn.log := by
    rw [log, queuedBytes_append, queued, List.append_nil]
  have takes : accepted after.log = accepted conn.log := by
    rw [log, accepted_append, none, Nat.add_zero]
  have ends : Finished after.log ↔ Finished conn.log := by
    rw [log]
    exact finished_append conn.log more running
  refine { counted with sofar := ?_, every := ?_, beyond := ?_ }
  · rw [queues]
    exact uploaded.sofar
  · rw [queues, takes, ends]
    exact fun isOpen => uploaded.every (socket isOpen)
  · rw [takes, ends]
    exact fun isOpen => uploaded.beyond (socket isOpen)

theorem Uploaded.ended {lead : List Effect} (uploaded : Uploaded isn whole conn)
    (leads : Lead early conn lead) (closes : Ended conn lead after) : Uploaded isn whole after := by
  obtain ⟨tail, log, terminal, _⟩ := closes.log
  have queued : queuedBytes (lead ++ tail) = [] := by
    refine List.flatMap_eq_nil_iff.mpr fun effect member => ?_
    rcases List.mem_append.mp member with leading | ending
    · cases leads with
      | nothing => cases leading
      | dialed | answered | received | wrote | eof =>
          simp only [List.mem_cons, List.not_mem_nil, or_false] at leading
          first
          | rw [leading]
            rfl
          | rcases leading with rfl | rfl <;> rfl
    · cases terminal effect ending with
      | closeSocket | closed | reset | refused => rfl
  refine { uploaded.toCounted.ended leads closes with sofar := ?_, every := ?_, beyond := ?_ }
  · rw [log, queuedBytes_append, queued, List.append_nil]
    exact uploaded.sofar
  · exact fun socket => absurd (closes.sock.symm.trans socket) (by decide)
  · exact fun socket => absurd (closes.sock.symm.trans socket) (by decide)

theorem Move.uploaded (move : Move tun early conn after) (shape : Shape conn)
    (uploaded : Uploaded isn whole conn) : Uploaded isn whole after := by
  have counted := move.counted shape uploaded.toCounted
  cases move with
  | ack segment | accept segment =>
      exact uploaded.still counted [.delivered segment] rfl rfl rfl (by simp) fun socket => socket
  | socketError =>
      exact uploaded.still counted [] (List.append_nil _).symm rfl rfl (by simp) fun socket => socket
  | ended _ lead leads closes => exact uploaded.ended leads closes
  | hello =>
      exact uploaded.still counted [.greeted _] rfl rfl rfl (by simp) fun socket => socket
  | greet | established | data =>
      exact uploaded.still counted _ rfl rfl rfl (by simp) fun socket => socket
  | skip data =>
      exact uploaded.still counted [.answered data] rfl rfl rfl (by simp) fun socket => socket
  | eof =>
      exact uploaded.still counted _ rfl rfl rfl (by simp) fun socket =>
        absurd (show false = true from socket) (by decide)
  | flush octets =>
      exact uploaded.still counted [.wrote octets] rfl rfl rfl (by simp) fun socket => socket

theorem Counted.place_next (counted : Counted isn conn) (settled : conn.status = .connected)
    (pkt : TcpSegment) (place : Nat) (next : pkt.seq = conn.clientSeq + conn.txQueueSize)
    (number : pkt.seq = isn + 1 + BitVec.ofNat 32 place)
    (ahead : accepted conn.log < place + 2 ^ 32) (behind : place + 1 < acked conn.log + 2 ^ 32) :
    place = accepted conn.log := by
  obtain ⟨isOpen, known⟩ := settled_known settled
  have sum := counted.behind isOpen
  have same := counted.expected isOpen known
  exact place_unique (isn + 1) place (accepted conn.log)
    (by rw [← number, next, same]) (by omega) ahead

/-- What passes for a keep-alive lies one number before what is acknowledged. -/
theorem Counted.place_alive (counted : Counted isn conn) (settled : conn.status = .connected)
    (pkt : TcpSegment) (place : Nat) (alive : isKeepAlive conn pkt = true)
    (number : pkt.seq = isn + 1 + BitVec.ofNat 32 place)
    (ahead : accepted conn.log < place + 2 ^ 32) (behind : place + 1 < acked conn.log + 2 ^ 32) :
    place + 1 = acked conn.log := by
  obtain ⟨isOpen, known⟩ := settled_known settled
  have sum := counted.behind isOpen
  have before : pkt.seq + 1 = conn.clientSeq := by
    rw [isKeepAlive, Bool.and_eq_true, decide_eq_true_eq] at alive
    exact alive.2
  refine place_unique (isn + 1) (place + 1) (acked conn.log) ?_ behind (by omega)
  rw [← counted.client isOpen known, ← before, number]
  exact (ofNat_shift (isn + 1) place 1).symm

theorem Take.uploaded {pkt : TcpSegment} {env : ForwardEnv} (take : Take tun pkt env conn after)
    (shape : Shape conn) (uploaded : Uploaded isn whole conn)
    (inPlace : InPlace isn whole conn pkt env) : Uploaded isn whole after := by
  have counted := take.counted shape uploaded.toCounted inPlace.1
  cases take with
  | dial fresh =>
      have blank := (shape.fresh fresh).2.2.2
      refine { counted with sofar := ?_, every := ?_, beyond := ?_ }
      · rw [blank]
        exact List.nil_prefix
      · rw [blank]
        exact fun _ _ => ⟨rfl, Nat.zero_le _⟩
      · rw [blank]
        rintro _ ⟨octets, member⟩
        simp at member
  | fin settled direct flags fits =>
      obtain ⟨empty, place, cut, ahead, behind, ends⟩ := inPlace.2 settled
      have last := ends flags.1
      have sum := uploaded.behind (settled_known settled).1
      have queued : queuedBytes ((if conn.sock then [Effect.shutdown] else []) ++
          [.finished pkt.payload]) = [] := by
        split <;> rfl
      have takes : accepted ((if conn.sock then [Effect.shutdown] else []) ++
          [.finished pkt.payload]) = pkt.payload.length + 1 := by
        split <;> simp [accepted, acceptedBy]
      refine { counted with sofar := ?_, every := ?_, beyond := ?_ }
      · rw [queuedBytes_append, queued, List.append_nil]
        exact uploaded.sofar
      · exact fun _ running => absurd ⟨pkt.payload, by simp⟩ running
      · intro _ _
        rw [accepted_append, takes]
        rcases fits with next | alive
        · have here := uploaded.place_next settled pkt place next cut.number ahead behind
          omega
        · have here := uploaded.place_alive settled pkt place alive cut.number ahead behind
          have none : pkt.payload.length = 0 := by rw [empty alive, List.length_nil]
          omega
  -- The payload is the part of the whole stream behind what was accepted.
  | queue settled direct socket fits payload =>
      obtain ⟨empty, place, cut, ahead, behind, _⟩ := inPlace.2 settled
      have next := fits.resolve_right fun alive => payload (empty alive)
      have here := uploaded.place_next settled pkt place next cut.number ahead behind
      have content : pkt.payload <+: whole.drop (accepted conn.log) := here ▸ cut.content
      have long := content.length_le
      rw [List.length_drop] at long
      have nonempty : 0 < pkt.payload.length := List.length_pos_iff.mpr payload
      -- Behind the FIN nothing is left of the stream to carry.
      have running : ¬ Finished conn.log := fun ended => by
        have past := uploaded.beyond socket ended
        omega
      obtain ⟨sofar, within⟩ := uploaded.every socket running
      have queues : queuedBytes (conn.log ++ [.queued pkt.payload]) =
          whole.take (accepted conn.log + pkt.payload.length) := by
        have one : queuedBytes [.queued pkt.payload] = pkt.payload := List.append_nil _
        rw [queuedBytes_append, one, sofar, take_drop_append whole _ _ content]
      have takes : accepted (conn.log ++ [.queued pkt.payload]) =
          accepted conn.log + pkt.payload.length := accepted_append _ _
      refine { counted with sofar := ?_, every := ?_, beyond := ?_ }
      · rw [queues]
        exact List.take_prefix _ _
      · intro _ _
        rw [queues, takes]
        exact ⟨rfl, by omega⟩
      · intro _ ended
        exact absurd ((finished_append _ _ (by simp)).mp ended) running
  | discard settled direct socket fits payload =>
      refine { counted with sofar := ?_, every := ?_, beyond := ?_ }
      · have none : queuedBytes [.discarded pkt.payload] = [] := rfl
        rw [queuedBytes_append, none, List.append_nil]
        exact uploaded.sofar
      · exact fun isOpen => absurd (socket.symm.trans isOpen) (by decide)
      · exact fun isOpen => absurd (socket.symm.trans isOpen) (by decide)

theorem Learn.uploaded {pkt : TcpSegment} {env : ForwardEnv} (learn : Learn pkt conn after)
    (shape : Shape conn) (uploaded : Uploaded isn whole conn)
    (inPlace : InPlace isn whole conn pkt env) :
    Uploaded isn whole after ∧ InPlace isn whole after pkt env := by
  have counted := learn.counted shape uploaded.toCounted
  have opens : Opens isn after pkt env := learn.still_opens
  cases learn with
  | keepAlive segment built settled =>
      refine ⟨uploaded.still counted [.delivered segment] rfl rfl rfl (by simp) fun socket => socket,
        opens, fun _ => ?_⟩
      have acks : acked (conn.log ++ [.delivered segment]) = acked conn.log :=
        (acked_append _ _).trans (Nat.add_zero _)
      have takes : accepted (conn.log ++ [.delivered segment]) = accepted conn.log :=
        (accepted_append _ _).trans (Nat.add_zero _)
      rw [Conn.record, acks, takes]
      exact inPlace.2 settled
  | window socket settled =>
      refine ⟨uploaded.still counted [.window _ _] rfl rfl rfl (by simp) fun socket => socket,
        opens, fun _ => ?_⟩
      have acks : acked (updateWindow conn pkt).log = acked conn.log :=
        (acked_append _ _).trans (Nat.add_zero _)
      have takes : accepted (updateWindow conn pkt).log = accepted conn.log :=
        (accepted_append _ _).trans (Nat.add_zero _)
      rw [acks, takes]
      exact inPlace.2 settled

theorem uploaded_kept (tun : Tunnel) (isn : BitVec 32) (whole : Bytes) :
    Kept tun True (InPlace isn whole) (Uploaded isn whole) where
  move _ _ shape uploaded move := move.uploaded shape uploaded
  take _ _ _ _ shape uploaded inPlace take := take.uploaded shape uploaded inPlace
  learn _ _ _ _ shape uploaded inPlace learn := learn.uploaded shape uploaded inPlace

end Uploading

theorem browsing_inPlace : Machine.Along (step {}) (OnPacket (InPlace 1000 [71, 69, 84]))
    (newConn webTuple .none 4) browsing := by
  refine ⟨⟨fun _ => rfl, fun settled => absurd settled (by decide)⟩, trivial,
    ⟨fun fresh => absurd fresh (by decide +kernel), fun _ => ⟨fun alive => absurd alive ?_, 0,
      ⟨by decide, List.prefix_refl _⟩, ?_, ?_, fun fin => absurd fin (by decide)⟩⟩, trivial, trivial,
    trivial, trivial, trivial⟩
  · decide +kernel
  · decide +kernel
  · decide +kernel

end Ptnet.TcpProxy
