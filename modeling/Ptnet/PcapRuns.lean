import Ptnet.Machine
import Ptnet.PcapLog

/-!
Runs of the dumper on one thread: any sequence of calls keeps a consistent log, which holds
exactly the packets and secrets that the calls have accepted.
-/

namespace Ptnet.PcapRuns

open ByteMemory PcapDump PcapLog Machine

inductive Observation where
  | packet (pkt : Packet) (tv : Timeval) (uid : Int)
  | secret (line : Bytes)

def Chunk.observed (chunk : Chunk) : List Observation :=
  match chunk.origin with
  | .packet pkt tv uid => [.packet pkt tv uid]
  | .secrets _ => []

def observed (history : List Event) : List Observation :=
  history.flatMap fun
    | .accepted line => [.secret line]
    | .dumped chunk => Chunk.observed chunk
    | _ => []

def observation (trailers : Trailers) (dumper : Dumper) : Call → List Observation
  | .dumpPacket pkt tv uid =>
      if (pcapDumpPacket trailers dumper pkt tv uid).2 then [.packet pkt tv uid] else []
  | .dumpSecret secret cells =>
      if (pcapDumpSecret dumper secret cells).2 then [.secret secret.bytes] else []
  | .refreshTime _ => []
  | .checkExport => []

structure Refines (dumper : Dumper) (log : Log) : Prop where
  represents : Represents dumper log
  consistent : log.Consistent

def settings (dumper : Dumper) : Mode × Nat × Nat :=
  (dumper.mode, dumper.snaplen, dumper.maxDumpSize)

section Settings

variable (dumper : Dumper)

@[simp] theorem keylogSection_settings : settings (keylogSection dumper) = settings dumper := by
  unfold keylogSection
  split
  · rfl
  · dsimp only
    split <;> rfl

@[simp] theorem exportKeylogBuffer_settings :
    settings (exportKeylogBuffer dumper) = settings dumper := by
  unfold exportKeylogBuffer
  split
  · rfl
  · exact keylogSection_settings dumper

@[simp] theorem flushBuffer_settings : settings (flushBuffer dumper) = settings dumper := by
  unfold flushBuffer
  split <;> rfl

@[simp] theorem exportBuffer_settings : settings (exportBuffer dumper) = settings dumper := by
  rw [exportBuffer, flushBuffer_settings, exportKeylogBuffer_settings]

@[simp] theorem pcapCheckExport_settings :
    settings (pcapCheckExport dumper).1 = settings dumper := by
  unfold pcapCheckExport
  split
  · exact exportBuffer_settings dumper
  · rfl

@[simp] theorem makeRoom_settings (totRecSize : Nat) :
    settings (makeRoom dumper totRecSize) = settings dumper := by
  unfold makeRoom
  split
  · exact exportBuffer_settings dumper
  · rfl

theorem makeRoom_recSize (totRecSize pktLen : Nat) :
    pcapRecSize (makeRoom dumper totRecSize).mode (makeRoom dumper totRecSize).snaplen pktLen =
      pcapRecSize dumper.mode dumper.snaplen pktLen := by
  have kept := makeRoom_settings dumper totRecSize
  simp only [settings, Prod.mk.injEq] at kept
  rw [kept.1, kept.2.1]

/-- A packet is refused, or its record is written and the buffer perhaps exported. -/
theorem pcapDumpPacket_cases (trailers : Trailers) (pkt : Packet) (tv : Timeval) (uid : Int) :
    let totRecSize := pcapRecSize dumper.mode dumper.snaplen pkt.bytes.length
    let roomy := makeRoom dumper totRecSize
    (refuses roomy totRecSize = true ∧
        pcapDumpPacket trailers dumper pkt tv uid = (roomy, false)) ∨
      (refuses roomy totRecSize = false ∧ pcapDumpPacket trailers dumper pkt tv uid =
        ((pcapCheckExport (recordPacket trailers roomy pkt tv uid)).1, true)) := by
  dsimp only [pcapDumpPacket]
  cases refuses (makeRoom dumper (pcapRecSize dumper.mode dumper.snaplen pkt.bytes.length))
      (pcapRecSize dumper.mode dumper.snaplen pkt.bytes.length) with
  | true => exact .inl ⟨rfl, rfl⟩
  | false => exact .inr ⟨rfl, rfl⟩

/-- A secret is refused, or it fits the memory that is there. -/
theorem pcapDumpSecret_cases (secret : Secret) (cells : Option (Nat → UInt8)) :
    let allocated := allocateKeylog dumper cells
    pcapDumpSecret dumper secret cells = (allocated, false) ∨
      (allocated.keylogBuf.isSome = true ∧ secretFits allocated secret = true ∧
        pcapDumpSecret dumper secret cells = (secretSection allocated secret, true)) := by
  dsimp only [pcapDumpSecret]
  cases (allocateKeylog dumper cells).keylogBuf with
  | none => exact .inl rfl
  | some memory =>
      cases secretFits (allocateKeylog dumper cells) secret with
      | false => exact .inl rfl
      | true => exact .inr ⟨rfl, rfl, rfl⟩

theorem step_settings (trailers : Trailers) (call : Call) :
    settings (step trailers dumper call) = settings dumper := by
  cases call with
  | refreshTime nowMs => rfl
  | checkExport => exact pcapCheckExport_settings dumper
  | dumpSecret secret cells =>
      rcases pcapDumpSecret_cases dumper secret cells with same | ⟨_, _, same⟩
      · rw [step, same]
        rfl
      · rw [step, same]
        rfl
  | dumpPacket pkt tv uid =>
      rcases pcapDumpPacket_cases dumper trailers pkt tv uid with ⟨_, same⟩ | ⟨_, same⟩
      · rw [step, same, makeRoom_settings]
      · rw [step, same, pcapCheckExport_settings]
        exact makeRoom_settings dumper _

end Settings

section Operations

variable (dumper : Dumper) (log : Log) (refines : Refines dumper log)

include refines

/-- The locked part of the export leaves no secret behind. -/
theorem keylogSection_refines (some' : dumper.keylogIdx ≠ 0) : ∃ after,
    Refines (keylogSection dumper) after ∧ observed after.history = observed log.history ∧
      after.keylog = [] := by
  have waits : log.keylog ≠ [] := fun none => by
    have index := refines.represents.index
    rw [none] at index
    exact some' index
  rcases keylogSection_represents dumper log refines.represents waits with discards | exports
  · refine ⟨log.discard dumper.dumpSize, ⟨discards, ?_⟩, ?_, rfl⟩
    · exact refines.consistent.discard log dumper.dumpSize
    · simp [observed, Log.discard]
  · refine ⟨log.exportSecrets, ⟨exports, refines.consistent.exportSecrets log⟩, ?_, rfl⟩
    simp [observed, Log.exportSecrets]

theorem keylog_empty (empty : dumper.keylogIdx = 0) : log.keylog = [] := by
  have index := refines.represents.index
  rwa [empty, eq_comm, keylogText_empty] at index

theorem settled_of_empty (empty : log.keylog = []) : Settled log.history := by
  apply settled_of_released
  rw [refines.consistent.secrets, empty, List.append_nil]

theorem exportKeylogBuffer_refines : ∃ after, Refines (exportKeylogBuffer dumper) after ∧
    observed after.history = observed log.history ∧ after.keylog = [] := by
  by_cases empty : dumper.keylogIdx = 0
  · rw [exportKeylogBuffer, if_pos empty]
    exact ⟨log, refines, rfl, keylog_empty dumper log refines empty⟩
  · rw [exportKeylogBuffer, if_neg empty]
    exact keylogSection_refines dumper log refines empty

theorem flushBuffer_refines (settled : Settled log.history) : ∃ after,
    Refines (flushBuffer dumper) after ∧ observed after.history = observed log.history ∧
      after.keylog = log.keylog := by
  by_cases empty : dumper.bufferIdx = 0
  · rw [flushBuffer, if_pos empty]
    exact ⟨log, refines, rfl, rfl⟩
  · refine ⟨log.exportPackets, ⟨?_, ?_⟩, ?_, rfl⟩
    · exact flushBuffer_represents dumper log refines.represents empty
    · exact refines.consistent.exportPackets log settled
    · simp [observed, Log.exportPackets]

theorem exportBuffer_refines : ∃ after, Refines (exportBuffer dumper) after ∧
    observed after.history = observed log.history ∧ after.keylog = [] := by
  obtain ⟨middle, exported, same, empty⟩ := exportKeylogBuffer_refines dumper log refines
  obtain ⟨after, flushed, kept, keylog⟩ := flushBuffer_refines _ middle exported
    (settled_of_empty _ middle exported empty)
  exact ⟨after, flushed, kept.trans same, keylog.trans empty⟩

theorem exportBuffer_logged : ∃ after, Refines (exportBuffer dumper) after ∧
    observed after.history = observed log.history := by
  obtain ⟨after, exported, same, _⟩ := exportBuffer_refines dumper log refines
  exact ⟨after, exported, same⟩

theorem pcapCheckExport_refines : ∃ after, Refines (pcapCheckExport dumper).1 after ∧
    observed after.history = observed log.history := by
  unfold pcapCheckExport
  split
  · exact exportBuffer_logged dumper log refines
  · exact ⟨log, refines, rfl⟩

theorem recordPacket_refines (trailers : Trailers) (pkt : Packet) (tv : Timeval) (uid : Int)
    (accepts : refuses dumper (pcapRecSize dumper.mode dumper.snaplen pkt.bytes.length) = false) :
    ∃ after, Refines (recordPacket trailers dumper pkt tv uid) after ∧
      observed after.history = observed log.history ++ [.packet pkt tv uid] := by
  have fits : dumper.bufferIdx + pcapRecSize dumper.mode dumper.snaplen pkt.bytes.length <
      PCAP_BUFFER_SIZE := by
    simp only [refuses, lacksRoom, Bool.or_eq_false_iff, decide_eq_false_iff_not] at accepts
    omega
  refine ⟨log.add (packetChunk trailers dumper pkt tv uid), ⟨?_, ?_⟩, ?_⟩
  · exact recordPacket_represents dumper log refines.represents trailers pkt tv uid fits
  · exact refines.consistent.add log _ rfl
  · simp [observed, Log.add, Chunk.observed, packetChunk]

theorem makeRoom_refines (totRecSize : Nat) : ∃ after, Refines (makeRoom dumper totRecSize) after ∧
    observed after.history = observed log.history := by
  unfold makeRoom
  split
  · exact exportBuffer_logged dumper log refines
  · exact ⟨log, refines, rfl⟩

theorem pcapDumpPacket_refines (trailers : Trailers) (pkt : Packet) (tv : Timeval) (uid : Int) :
    ∃ after, Refines (pcapDumpPacket trailers dumper pkt tv uid).1 after ∧
      observed after.history = observed log.history ++
        observation trailers dumper (.dumpPacket pkt tv uid) := by
  obtain ⟨middle, roomy, same⟩ := makeRoom_refines dumper log refines
    (pcapRecSize dumper.mode dumper.snaplen pkt.bytes.length)
  have size := makeRoom_recSize dumper (pcapRecSize dumper.mode dumper.snaplen pkt.bytes.length)
    pkt.bytes.length
  rw [observation]
  rcases pcapDumpPacket_cases dumper trailers pkt tv uid with ⟨_, result⟩ | ⟨accepts, result⟩
  · rw [result]
    exact ⟨middle, roomy, by simpa using same⟩
  · obtain ⟨written, recorded, adds⟩ := recordPacket_refines _ middle roomy trailers pkt tv uid
      (size.symm ▸ accepts)
    obtain ⟨after, checked, last⟩ := pcapCheckExport_refines _ written recorded
    rw [result]
    refine ⟨after, checked, ?_⟩
    rw [last, adds, same]
    rfl

theorem secretSection_refines (secret : Secret) (fits : secretFits dumper secret = true)
    (allocated : dumper.keylogBuf.isSome = true) :
    Refines (secretSection dumper secret) (log.collect secret.bytes) ∧
      observed (log.collect secret.bytes).history = observed log.history ++
        [.secret secret.bytes] := by
  refine ⟨⟨?_, refines.consistent.collect log _⟩, ?_⟩
  · exact secretSection_represents dumper log refines.represents secret fits allocated
  · simp [observed, Log.collect]

theorem allocateKeylog_refines (cells : Option (Nat → UInt8)) :
    Refines (allocateKeylog dumper cells) log :=
  ⟨allocateKeylog_represents dumper log refines.represents cells, refines.consistent⟩

theorem pcapDumpSecret_refines (trailers : Trailers) (secret : Secret)
    (cells : Option (Nat → UInt8)) :
    ∃ after, Refines (pcapDumpSecret dumper secret cells).1 after ∧
      observed after.history = observed log.history ++
        observation trailers dumper (.dumpSecret secret cells) := by
  have allocated := allocateKeylog_refines dumper log refines cells
  rw [observation]
  rcases pcapDumpSecret_cases dumper secret cells with result | ⟨there, fits, result⟩
  · rw [result]
    exact ⟨log, allocated, by simp⟩
  · rw [result]
    exact ⟨log.collect secret.bytes, secretSection_refines _ log allocated secret fits there⟩

theorem refreshTime_refines (nowMs : Nat) : Refines { dumper with nowMs := nowMs } log :=
  ⟨{ refines.represents with }, refines.consistent⟩

theorem step_refines (trailers : Trailers) (call : Call) : ∃ after,
    Refines (step trailers dumper call) after ∧
      observed after.history = observed log.history ++ observation trailers dumper call := by
  cases call with
  | refreshTime nowMs => exact ⟨log, refreshTime_refines dumper log refines nowMs, by simp [observation]⟩
  | dumpPacket pkt tv uid => exact pcapDumpPacket_refines dumper log refines trailers pkt tv uid
  | dumpSecret secret cells => exact pcapDumpSecret_refines dumper log refines trailers secret cells
  | checkExport =>
      obtain ⟨after, checked, same⟩ := pcapCheckExport_refines dumper log refines
      exact ⟨after, checked, by simpa [observation] using same⟩

end Operations

theorem run_refines (trailers : Trailers) (dumper : Dumper) (log : Log)
    (refines : Refines dumper log) (calls : List Call) : ∃ after,
    Refines (run (step trailers) dumper calls) after ∧
      observed after.history = observed log.history ++
        (trace (step trailers) (observation trailers) dumper calls).flatten := by
  induction calls generalizing dumper log with
  | nil => exact ⟨log, refines, by simp [trace]⟩
  | cons call rest ih =>
      obtain ⟨middle, stepped, first⟩ := step_refines dumper log refines trailers call
      obtain ⟨after, ran, later⟩ := ih _ middle stepped
      refine ⟨after, ran, ?_⟩
      rw [later, first, trace, List.flatten_cons, List.append_assoc]

theorem run_settings (trailers : Trailers) (dumper : Dumper) (calls : List Call) :
    settings (run (step trailers) dumper calls) = settings dumper :=
  run_invariant_always (step trailers) (fun state => settings state = settings dumper)
    (fun state call same => (step_settings state trailers call).trans same) dumper calls rfl

end Ptnet.PcapRuns
