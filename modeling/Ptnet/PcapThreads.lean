import Ptnet.PcapRuns

/-!
The capture thread and the thread of the MitmReceiver on one dumper, in any interleaving. A
thread stops between its accesses to what both use: the emptiness check of the keylog, the
allocation, the size check, and each section under the mutex. The packet buffer belongs to the
capture thread.
-/

namespace Ptnet.PcapThreads

open ByteMemory PcapDump PcapLog PcapRuns Machine

/-- What the capture thread goes on with after `export_buffer`. -/
inductive Continuation where
  | return'
  | record (pkt : Packet) (tv : Timeval) (uid : Int)

inductive CaptureThread where
  | idle
  /-- Before the emptiness check of `export_keylog_buffer`. -/
  | exporting (next : Continuation)
  | locking (next : Continuation)
  /-- Behind `export_keylog_buffer`. -/
  | flushing (next : Continuation)
  /-- Behind the first check of `pcap_dump_packet`. -/
  | recording (pkt : Packet) (tv : Timeval) (uid : Int)
  /-- Before the condition of `pcap_check_export`. -/
  | checking

inductive ReceiverThread where
  | idle
  /-- Before the size check of `pcap_dump_secret`. -/
  | allocated (secret : Secret)
  | locking (secret : Secret)

structure Threads where
  dumper : Dumper
  capture : CaptureThread := .idle
  receiver : ReceiverThread := .idle

inductive Event where
  | refreshTime (nowMs : Nat)
  | dumpPacket (pkt : Packet) (tv : Timeval) (uid : Int)
  | checkExport
  | exportBuffer
  | captureRuns
  | dumpSecret (secret : Secret) (cells : Option (Nat → UInt8))
  | receiverRuns

def resume : Continuation → CaptureThread
  | .return' => .idle
  | .record pkt tv uid => .recording pkt tv uid

section Steps

variable (trailers : Trailers) (threads : Threads)

def recordSize (pkt : Packet) : Nat :=
  pcapRecSize threads.dumper.mode threads.dumper.snaplen pkt.bytes.length

def startPacket (pkt : Packet) (tv : Timeval) (uid : Int) : CaptureThread :=
  if lacksRoom threads.dumper (recordSize threads pkt) then .exporting (.record pkt tv uid)
  else .recording pkt tv uid

/-- The capture thread starts a call when the last one has returned. -/
def captureCall (call : Threads) : Threads :=
  match threads.capture with
  | .idle => call
  | _ => threads

def captureStep : Threads :=
  match threads.capture with
  | .idle => threads
  | .exporting next =>
      if threads.dumper.keylogIdx = 0 then { threads with capture := .flushing next }
      else { threads with capture := .locking next }
  | .locking next => { threads with dumper := keylogSection threads.dumper, capture := .flushing next }
  | .flushing next => { threads with dumper := flushBuffer threads.dumper, capture := resume next }
  | .recording pkt tv uid =>
      if refuses threads.dumper (recordSize threads pkt) then { threads with capture := .idle }
      else
        { threads with
          dumper := recordPacket trailers threads.dumper pkt tv uid
          capture := .checking }
  | .checking =>
      if exportDue threads.dumper then { threads with capture := .exporting .return' }
      else { threads with capture := .idle }

def receiverCall (secret : Secret) (cells : Option (Nat → UInt8)) : Threads :=
  match threads.receiver with
  | .idle =>
      let dumper := allocateKeylog threads.dumper cells
      { threads with
        dumper := dumper
        receiver := if dumper.keylogBuf.isNone then .idle else .allocated secret }
  | _ => threads

def receiverStep : Threads :=
  match threads.receiver with
  | .idle => threads
  | .allocated secret =>
      if secretFits threads.dumper secret then { threads with receiver := .locking secret }
      else { threads with receiver := .idle }
  | .locking secret =>
      { threads with dumper := secretSection threads.dumper secret, receiver := .idle }

def step : Event → Threads
  | .refreshTime nowMs =>
      captureCall threads { threads with dumper := { threads.dumper with nowMs := nowMs } }
  | .dumpPacket pkt tv uid =>
      captureCall threads { threads with capture := startPacket threads pkt tv uid }
  | .checkExport => captureCall threads { threads with capture := .checking }
  | .exportBuffer => captureCall threads { threads with capture := .exporting .return' }
  | .captureRuns => captureStep trailers threads
  | .dumpSecret secret cells => receiverCall threads secret cells
  | .receiverRuns => receiverStep threads

/-- A record that is written, and a secret for which `pcap_dump_secret` returns true. -/
def observation : Event → List Observation
  | .captureRuns =>
      match threads.capture with
      | .recording pkt tv uid =>
          if refuses threads.dumper (recordSize threads pkt) then [] else [.packet pkt tv uid]
      | _ => []
  | .receiverRuns =>
      match threads.receiver with
      | .locking secret => [.secret secret.bytes]
      | _ => []
  | _ => []

end Steps

section Invariant

def CaptureThread.Holds (dumper : Dumper) (log : Log) : CaptureThread → Prop
  | .locking _ => dumper.keylogIdx ≠ 0
  | .flushing _ => Settled log.history
  | _ => True

def ReceiverThread.Holds (dumper : Dumper) : ReceiverThread → Prop
  | .idle => True
  | .allocated _ => dumper.keylogBuf.isSome = true
  | .locking secret => dumper.keylogBuf.isSome = true ∧ secretFits dumper secret = true

structure Coherent (threads : Threads) (log : Log) : Prop where
  refines : Refines threads.dumper log
  capture : threads.capture.Holds threads.dumper log
  receiver : threads.receiver.Holds threads.dumper

structure Drains (before after : Dumper) : Prop where
  keylogBuf : before.keylogBuf.isSome = true → after.keylogBuf.isSome = true
  keylogIdx : after.keylogIdx ≤ before.keylogIdx

theorem Drains.holds (before after : Dumper) (drains : Drains before after)
    (receiver : ReceiverThread) (holds : receiver.Holds before) : receiver.Holds after := by
  cases receiver with
  | idle => trivial
  | allocated secret => exact drains.keylogBuf holds
  | locking secret =>
      have fits := of_decide_eq_true holds.2
      have fewer := drains.keylogIdx
      exact ⟨drains.keylogBuf holds.1, decide_eq_true (by omega)⟩

theorem keylogSection_drains (dumper : Dumper) : Drains dumper (keylogSection dumper) := by
  cases allocated : dumper.keylogBuf with
  | none =>
      rw [keylogSection, allocated]
      exact ⟨id, le_rfl⟩
  | some memory =>
      simp only [keylogSection, allocated]
      split
      · exact ⟨fun there => allocated ▸ there, Nat.zero_le _⟩
      · exact ⟨fun _ => rfl, Nat.zero_le _⟩

theorem flushBuffer_drains (dumper : Dumper) : Drains dumper (flushBuffer dumper) := by
  unfold flushBuffer
  split <;> exact ⟨id, le_rfl⟩

theorem resume_holds (next : Continuation) (dumper : Dumper) (log : Log) :
    (resume next).Holds dumper log := by
  cases next <;> trivial

theorem startPacket_holds (threads : Threads) (pkt : Packet) (tv : Timeval) (uid : Int)
    (dumper : Dumper) (log : Log) : (startPacket threads pkt tv uid).Holds dumper log := by
  unfold startPacket
  split <;> trivial

theorem allocateKeylog_holds (dumper : Dumper) (log : Log) (cells : Option (Nat → UInt8))
    (capture : CaptureThread) (holds : capture.Holds dumper log) :
    capture.Holds (allocateKeylog dumper cells) log := by
  cases capture with
  | locking next => exact holds
  | flushing next => exact holds
  | _ => trivial

/-- A secret that is taken in the midst of an export leaves the capture thread's facts true. -/
theorem secretSection_holds (dumper : Dumper) (log : Log) (secret : Secret)
    (capture : CaptureThread) (holds : capture.Holds dumper log) :
    capture.Holds (secretSection dumper secret) (log.collect secret.bytes) := by
  cases capture with
  | locking next => exact Nat.succ_ne_zero _
  | flushing next => exact holds.append _ _ fun chunk => by simp
  | _ => trivial

end Invariant

section Preservation

variable (trailers : Trailers) (threads : Threads) (log : Log) (coherent : Coherent threads log)

include coherent

theorem captureCall_coherent (call : Threads) (called : Coherent call log) :
    Coherent (captureCall threads call) log := by
  unfold captureCall
  split
  · exact called
  · exact coherent

theorem captureStep_coherent : ∃ after, Coherent (captureStep trailers threads) after ∧
    observed after.history = observed log.history ++
      observation threads .captureRuns := by
  obtain ⟨refines, holds, receiver⟩ := coherent
  cases at' : threads.capture with
  | idle =>
      simp only [captureStep, observation, at', List.append_nil]
      exact ⟨log, ⟨refines, holds, receiver⟩, rfl⟩
  | exporting next =>
      simp only [captureStep, observation, at', List.append_nil]
      by_cases empty : threads.dumper.keylogIdx = 0
      · rw [if_pos empty]
        have settled := settled_of_empty _ log refines (keylog_empty _ log refines empty)
        exact ⟨log, ⟨refines, settled, receiver⟩, rfl⟩
      · rw [if_neg empty]
        exact ⟨log, ⟨refines, empty, receiver⟩, rfl⟩
  | locking next =>
      simp only [captureStep, observation, at', List.append_nil]
      rw [at'] at holds
      obtain ⟨after, exported, same, empty⟩ := keylogSection_refines _ log refines holds
      exact ⟨after, ⟨exported, settled_of_empty _ after exported empty,
        (keylogSection_drains threads.dumper).holds _ _ _ receiver⟩, same⟩
  | flushing next =>
      simp only [captureStep, observation, at', List.append_nil]
      rw [at'] at holds
      obtain ⟨after, flushed, same, _⟩ := flushBuffer_refines _ log refines holds
      exact ⟨after, ⟨flushed, resume_holds next _ _,
        (flushBuffer_drains threads.dumper).holds _ _ _ receiver⟩, same⟩
  | recording pkt tv uid =>
      simp only [captureStep, observation, at']
      cases accepts : refuses threads.dumper (recordSize threads pkt) with
      | true =>
          simp only [if_true, List.append_nil]
          exact ⟨log, ⟨refines, trivial, receiver⟩, rfl⟩
      | false =>
          simp only [Bool.false_eq_true, if_false]
          obtain ⟨after, recorded, adds⟩ := recordPacket_refines _ log refines trailers pkt tv uid
            accepts
          have drains : Drains threads.dumper (recordPacket trailers threads.dumper pkt tv uid) :=
            ⟨id, le_rfl⟩
          exact ⟨after, ⟨recorded, trivial, drains.holds _ _ _ receiver⟩, adds⟩
  | checking =>
      simp only [captureStep, observation, at', List.append_nil]
      refine ⟨log, ?_, rfl⟩
      split <;> exact ⟨refines, trivial, receiver⟩

theorem receiverCall_coherent (secret : Secret) (cells : Option (Nat → UInt8)) :
    Coherent (receiverCall threads secret cells) log := by
  obtain ⟨refines, holds, receiver⟩ := coherent
  cases at' : threads.receiver with
  | idle =>
      simp only [receiverCall, at']
      refine ⟨allocateKeylog_refines _ log refines cells,
        allocateKeylog_holds _ log cells _ holds, ?_⟩
      cases allocated : (allocateKeylog threads.dumper cells).keylogBuf with
      | none => trivial
      | some memory => exact Option.isSome_iff_exists.mpr ⟨memory, allocated⟩
  | allocated other =>
      simp only [receiverCall, at']
      exact ⟨refines, holds, receiver⟩
  | locking other =>
      simp only [receiverCall, at']
      exact ⟨refines, holds, receiver⟩

theorem receiverStep_coherent : ∃ after, Coherent (receiverStep threads) after ∧
    observed after.history = observed log.history ++
      observation threads .receiverRuns := by
  obtain ⟨refines, holds, receiver⟩ := coherent
  cases at' : threads.receiver with
  | idle =>
      simp only [receiverStep, observation, at', List.append_nil]
      exact ⟨log, ⟨refines, holds, receiver⟩, rfl⟩
  | allocated secret =>
      simp only [receiverStep, observation, at', List.append_nil]
      rw [at'] at receiver
      refine ⟨log, ?_, rfl⟩
      cases fits : secretFits threads.dumper secret with
      | true => exact ⟨refines, holds, receiver, fits⟩
      | false => exact ⟨refines, holds, trivial⟩
  | locking secret =>
      simp only [receiverStep, observation, at']
      rw [at'] at receiver
      obtain ⟨stored, adds⟩ := secretSection_refines _ log refines secret receiver.2 receiver.1
      exact ⟨log.collect secret.bytes,
        ⟨stored, secretSection_holds _ log secret _ holds, trivial⟩, adds⟩

theorem step_coherent (event : Event) : ∃ after, Coherent (step trailers threads event) after ∧
    observed after.history = observed log.history ++ observation threads event := by
  obtain ⟨refines, holds, receiver⟩ := coherent
  have same : observed log.history = observed log.history ++ [] := (List.append_nil _).symm
  cases event with
  | refreshTime nowMs =>
      refine ⟨log, captureCall_coherent threads log ⟨refines, holds, receiver⟩ _ ?_, same⟩
      refine ⟨refreshTime_refines _ log refines nowMs, ?_, ?_⟩
      · cases capture : threads.capture <;> rw [capture] at holds <;> exact holds
      · cases waits : threads.receiver <;> rw [waits] at receiver <;> exact receiver
  | dumpPacket pkt tv uid =>
      refine ⟨log, captureCall_coherent threads log ⟨refines, holds, receiver⟩ _ ?_, same⟩
      exact ⟨refines, startPacket_holds threads pkt tv uid _ log, receiver⟩
  | checkExport =>
      refine ⟨log, captureCall_coherent threads log ⟨refines, holds, receiver⟩ _ ?_, same⟩
      exact ⟨refines, trivial, receiver⟩
  | exportBuffer =>
      refine ⟨log, captureCall_coherent threads log ⟨refines, holds, receiver⟩ _ ?_, same⟩
      exact ⟨refines, trivial, receiver⟩
  | captureRuns => exact captureStep_coherent trailers threads log ⟨refines, holds, receiver⟩
  | dumpSecret secret cells =>
      exact ⟨log, receiverCall_coherent threads log ⟨refines, holds, receiver⟩ secret cells, same⟩
  | receiverRuns => exact receiverStep_coherent threads log ⟨refines, holds, receiver⟩

end Preservation

theorem run_coherent (trailers : Trailers) (threads : Threads) (log : Log)
    (coherent : Coherent threads log) (events : List Event) : ∃ after,
    Coherent (run (step trailers) threads events) after ∧
      observed after.history = observed log.history ++
        (trace (step trailers) observation threads events).flatten := by
  induction events generalizing threads log with
  | nil => exact ⟨log, coherent, by simp [trace]⟩
  | cons event rest ih =>
      obtain ⟨middle, stepped, first⟩ := step_coherent trailers threads log coherent event
      obtain ⟨after, ran, later⟩ := ih _ middle stepped
      refine ⟨after, ran, ?_⟩
      rw [later, first, trace, List.flatten_cons, List.append_assoc]

section Settings

variable (trailers : Trailers) (threads : Threads)

theorem captureStep_settings :
    settings (captureStep trailers threads).dumper = settings threads.dumper := by
  unfold captureStep
  split
  · rfl
  · split <;> rfl
  · exact keylogSection_settings threads.dumper
  · exact flushBuffer_settings threads.dumper
  · split <;> rfl
  · split <;> rfl

theorem step_settings (event : Event) :
    settings (step trailers threads event).dumper = settings threads.dumper := by
  have call : ∀ other : Threads, settings other.dumper = settings threads.dumper →
      settings (captureCall threads other).dumper = settings threads.dumper := by
    intro other same
    unfold captureCall
    split
    · exact same
    · rfl
  cases event with
  | refreshTime nowMs => exact call _ rfl
  | dumpPacket pkt tv uid => exact call _ rfl
  | checkExport => exact call _ rfl
  | exportBuffer => exact call _ rfl
  | captureRuns => exact captureStep_settings trailers threads
  | dumpSecret secret cells =>
      rw [step, receiverCall]
      split <;> rfl
  | receiverRuns =>
      rw [step, receiverStep]
      split
      · rfl
      · split <;> rfl
      · rfl

end Settings

section Alone

variable (trailers : Trailers)

/-- The capture thread gets there when the other thread does not run. -/
def GetsTo (threads after : Threads) : Prop :=
  ∃ count, run (step trailers) threads (List.replicate count .captureRuns) = after

theorem GetsTo.here (threads : Threads) : GetsTo trailers threads threads := ⟨0, rfl⟩

theorem GetsTo.next (threads after : Threads)
    (rest : GetsTo trailers (captureStep trailers threads) after) :
    GetsTo trailers threads after := by
  obtain ⟨count, ran⟩ := rest
  exact ⟨count + 1, ran⟩

theorem GetsTo.trans (threads middle after : Threads) (first : GetsTo trailers threads middle)
    (second : GetsTo trailers middle after) : GetsTo trailers threads after := by
  obtain ⟨count, ran⟩ := first
  obtain ⟨more, ends⟩ := second
  refine ⟨count + more, ?_⟩
  rw [List.replicate_add, run_append, ran, ends]

theorem export_alone (threads : Threads) (next : Continuation) :
    GetsTo trailers { threads with capture := .exporting next }
      { threads with dumper := exportBuffer threads.dumper, capture := resume next } := by
  by_cases empty : threads.dumper.keylogIdx = 0
  · apply GetsTo.next
    apply GetsTo.next
    simp only [captureStep, empty, if_true, exportBuffer, exportKeylogBuffer]
    exact GetsTo.here trailers _
  · apply GetsTo.next
    apply GetsTo.next
    apply GetsTo.next
    simp only [captureStep, empty, if_false, exportBuffer, exportKeylogBuffer]
    exact GetsTo.here trailers _

theorem checkExport_alone (threads : Threads) :
    GetsTo trailers { threads with capture := .checking }
      { threads with dumper := (pcapCheckExport threads.dumper).1, capture := .idle } := by
  apply GetsTo.next
  cases due : exportDue threads.dumper with
  | true =>
      simp only [captureStep, due, if_true, pcapCheckExport]
      exact export_alone trailers threads .return'
  | false =>
      simp only [captureStep, due, Bool.false_eq_true, if_false, pcapCheckExport]
      exact GetsTo.here trailers _

theorem startPacket_alone (threads : Threads) (pkt : Packet) (tv : Timeval) (uid : Int) :
    GetsTo trailers { threads with capture := startPacket threads pkt tv uid }
      { threads with
        dumper := makeRoom threads.dumper (recordSize threads pkt)
        capture := .recording pkt tv uid } := by
  unfold startPacket makeRoom
  cases lacksRoom threads.dumper (recordSize threads pkt) with
  | true => exact export_alone trailers threads (.record pkt tv uid)
  | false => exact GetsTo.here trailers _

/-- Without the other thread, the places of the capture thread are those of `pcap_dump_packet`. -/
theorem dumpPacket_alone (threads : Threads) (pkt : Packet) (tv : Timeval) (uid : Int) :
    GetsTo trailers { threads with capture := startPacket threads pkt tv uid }
      { threads with
        dumper := (pcapDumpPacket trailers threads.dumper pkt tv uid).1
        capture := .idle } := by
  apply (startPacket_alone trailers threads pkt tv uid).trans
  apply GetsTo.next
  have size := makeRoom_recSize threads.dumper (recordSize threads pkt) pkt.bytes.length
  rcases pcapDumpPacket_cases threads.dumper trailers pkt tv uid with
    ⟨refused, result⟩ | ⟨accepts, result⟩
  · rw [result]
    simp only [captureStep, recordSize] at size ⊢
    simp only [size, refused, if_true]
    exact GetsTo.here trailers _
  · rw [result]
    simp only [captureStep, recordSize] at size ⊢
    simp only [size, accepts, Bool.false_eq_true, if_false]
    exact checkExport_alone trailers { threads with dumper := _ }

/-- Without the capture thread, the places of the receiver are those of `pcap_dump_secret`. -/
theorem dumpSecret_alone (threads : Threads) (idle : threads.receiver = .idle) (secret : Secret)
    (cells : Option (Nat → UInt8)) :
    run (step trailers) threads [.dumpSecret secret cells, .receiverRuns, .receiverRuns] =
      { threads with dumper := (pcapDumpSecret threads.dumper secret cells).1 } := by
  simp only [run_cons, run_nil, step, receiverCall, idle, pcapDumpSecret]
  cases (allocateKeylog threads.dumper cells).keylogBuf.isNone with
  | true => simp [receiverStep]
  | false =>
      cases fits : secretFits (allocateKeylog threads.dumper cells) secret with
      | true => simp [receiverStep, fits]
      | false => simp [receiverStep, fits]

end Alone

section Exports

variable (mode : Mode) (snaplen maxDumpSize : Nat) (cells : Nat → UInt8)

def created : Threads where
  dumper := pcapNewDumper mode snaplen maxDumpSize cells

/-- What the callback has got, against what the two threads have accepted: one log of both. -/
structure SecretsFirst (dumper : Dumper) (seen : List Observation) (log : Log) : Prop where
  seen : observed log.history = seen
  exported : dumper.exported = (buffers log.history).map contents
  blocks : ∀ chunk ∈ (buffers log.history).flatten, chunk.Written mode snaplen
  secrets : accepted log.history = released log.history ++ log.keylog
  packets : dumped log.history = emitted log.history ++ log.waiting
  order : Ordered log.history
  discards : ∀ lines dumpSize, .discarded lines dumpSize ∈ log.history →
    0 < maxDumpSize ∧ maxDumpSize ≤ add64 dumpSize (secretsChunk lines).content.length
  buffer : dumper.buffer.size = PCAP_BUFFER_SIZE ∧ dumper.buffer.overrun = false
  keylog : ∀ memory, dumper.keylogBuf = some memory →
    memory.size = KEYLOG_BUFFER_HEADROOM + PCAP_BUFFER_SIZE + KEYLOG_BUFFER_TAILROOM ∧
      memory.overrun = false

theorem secretsFirst_of_refines (dumper : Dumper) (log : Log) (refines : Refines dumper log)
    (kept : settings dumper = (mode, snaplen, maxDumpSize)) :
    SecretsFirst mode snaplen maxDumpSize dumper (observed log.history) log := by
  simp only [settings, Prod.mk.injEq] at kept
  obtain ⟨rfl, rfl, rfl⟩ := kept
  obtain ⟨represents, consistent⟩ := refines
  exact {
    seen := rfl
    exported := represents.exported
    blocks := fun chunk member => represents.written chunk (List.mem_append_left _ member)
    secrets := consistent.secrets
    packets := consistent.packets
    order := consistent.ordered
    discards := represents.discards
    buffer := ⟨represents.size, represents.overrun⟩
    keylog := fun memory allocated =>
      ⟨(represents.keylog memory allocated).size, (represents.keylog memory allocated).overrun⟩ }

/-- Whatever the interleaving, secrets go out once, in order and before the records that
    follow them, and the next whole export leaves none behind. -/
theorem secrets_before_packets (trailers : Trailers) (events : List Event) :
    let threads := run (step trailers) (created mode snaplen maxDumpSize cells) events
    let seen := (trace (step trailers) observation (created mode snaplen maxDumpSize cells)
      events).flatten
    (∃ log, SecretsFirst mode snaplen maxDumpSize threads.dumper seen log) ∧
      ∃ log, SecretsFirst mode snaplen maxDumpSize (exportBuffer threads.dumper) seen log ∧
        accepted log.history = released log.history := by
  intro threads seen
  obtain ⟨log, coherent, saw⟩ := run_coherent trailers (created mode snaplen maxDumpSize cells) {}
    ⟨⟨start_represents _ _ _ _, start_consistent⟩, trivial, trivial⟩ events
  have kept : settings threads.dumper = (mode, snaplen, maxDumpSize) :=
    run_invariant_always (step trailers)
      (fun state => settings state.dumper = (mode, snaplen, maxDumpSize))
      (fun state event same => (step_settings trailers state event).trans same) _ events rfl
  obtain ⟨after, exported, same, empty⟩ := exportBuffer_refines _ log coherent.refines
  constructor
  · have first := secretsFirst_of_refines mode snaplen maxDumpSize _ log coherent.refines kept
    rw [saw] at first
    exact ⟨log, first⟩
  · have last := secretsFirst_of_refines mode snaplen maxDumpSize _ after exported
      ((exportBuffer_settings _).trans kept)
    rw [same, saw] at last
    refine ⟨after, last, ?_⟩
    rw [exported.consistent.secrets, empty, List.append_nil]

end Exports

end Ptnet.PcapThreads
