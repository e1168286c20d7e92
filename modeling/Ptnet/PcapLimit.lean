import Ptnet.PcapStream
import Ptnet.PcapThreads

/-!
The limit on the size of a dump. A packet counts against it when it is recorded, and secrets when
they are exported; at any time the counter is what the callback has got and what waits in the
packet buffer.
-/

namespace Ptnet.PcapLimit

open ByteMemory Machine
open PcapDump hiding step
open PcapLog hiding Event
open PcapRuns hiding observation step_settings
open PcapThreads
open PcapStream (noTrailers)

/-- The `int` of the settings, where `pcap_new_dumper` takes a `uint64_t`. -/
def widened (setting : Int32) : Nat := (setting.toInt % 2 ^ 64).toNat

def exportedSize (dumper : Dumper) : Nat := (dumper.exported.map List.length).sum

structure Limited (dumper : Dumper) : Prop where
  below : dumper.dumpSize < dumper.maxDumpSize
  accounted : exportedSize dumper + dumper.bufferIdx = dumper.dumpSize

theorem Limited.exported (dumper : Dumper) (limited : Limited dumper) :
    exportedSize dumper < dumper.maxDumpSize := by
  have below := limited.below
  have accounted := limited.accounted
  omega

theorem widened_positive (setting : Int32) (positive : 0 < setting.toInt) :
    0 < widened setting ∧ widened setting < 2 ^ 31 := by
  have bounded := setting.toInt_lt
  unfold widened
  omega

theorem maxDumpSize_of_settings (before after : Dumper) (same : settings after = settings before) :
    after.maxDumpSize = before.maxDumpSize := by
  simp only [settings, Prod.mk.injEq] at same
  exact same.2.2

section Operations

/-- A counter of an `int` limit and the block of a buffer do not reach the end of a `uint64_t`. -/
theorem add64_small (size more : Nat) (below : size < 2 ^ 31) (short : more < 2 ^ 31) :
    add64 size more = size + more := by
  unfold add64
  omega

variable (dumper : Dumper) (limited : Limited dumper) (int : dumper.maxDumpSize < 2 ^ 31)

include limited int

/-- Secrets that would reach the limit are discarded, so that the packets in the buffer, which
    count already, still fit. -/
theorem keylogSection_limited (room : dumper.keylogIdx < PCAP_BUFFER_SIZE) :
    Limited (keylogSection dumper) := by
  obtain ⟨below, accounted⟩ := limited
  cases allocated : dumper.keylogBuf with
  | none =>
      rw [keylogSection, allocated]
      exact ⟨below, accounted⟩
  | some memory =>
      have padded := padding_lt dumper.keylogIdx
      have sum : add64 dumper.dumpSize (DSB_SIZE + dumper.keylogIdx + padding dumper.keylogIdx + 4) =
          dumper.dumpSize + (DSB_SIZE + dumper.keylogIdx + padding dumper.keylogIdx + 4) := by
        apply add64_small
        · omega
        · simp only [DSB_SIZE, PCAP_BUFFER_SIZE] at room ⊢
          omega
      simp only [keylogSection, allocated, sum]
      split
      case isTrue => exact ⟨below, accounted⟩
      case isFalse fits =>
        constructor
        · dsimp only
          omega
        · simp only [exportedSize, List.map_append, List.sum_append, List.map_cons, List.map_nil,
            List.sum_singleton, Memory.read_length] at accounted ⊢
          omega

theorem exportKeylogBuffer_limited (room : dumper.keylogIdx < PCAP_BUFFER_SIZE) :
    Limited (exportKeylogBuffer dumper) := by
  unfold exportKeylogBuffer
  split
  · exact limited
  · exact keylogSection_limited dumper limited int room

omit int in
theorem flushBuffer_limited : Limited (flushBuffer dumper) := by
  obtain ⟨below, accounted⟩ := limited
  unfold flushBuffer
  split
  · exact ⟨below, accounted⟩
  · refine ⟨below, ?_⟩
    simp only [exportedSize, List.map_append, List.sum_append, List.map_cons, List.map_nil,
      List.sum_singleton, Memory.read_length] at accounted ⊢
    omega

theorem exportBuffer_limited (room : dumper.keylogIdx < PCAP_BUFFER_SIZE) :
    Limited (exportBuffer dumper) :=
  flushBuffer_limited _ (exportKeylogBuffer_limited dumper limited int room)

theorem recordPacket_limited (trailers : Trailers) (pkt : Packet) (tv : Timeval) (uid : Int)
    (accepts : refuses dumper (pcapRecSize dumper.mode dumper.snaplen pkt.bytes.length) = false) :
    Limited (recordPacket trailers dumper pkt tv uid) := by
  obtain ⟨below, accounted⟩ := limited
  simp only [refuses, lacksRoom, Bool.or_eq_false_iff, Bool.and_eq_false_iff,
    decide_eq_false_iff_not] at accepts
  obtain ⟨fits, allowed⟩ := accepts
  have sum := add64_small dumper.dumpSize
    (pcapRecSize dumper.mode dumper.snaplen pkt.bytes.length) (by omega)
    (by simp only [PCAP_BUFFER_SIZE] at fits; omega)
  rw [sum] at allowed
  constructor
  · simp only [recordPacket, sum]
    omega
  · simp only [recordPacket, sum, exportedSize] at accounted ⊢
    omega

end Operations

section Threads

variable (trailers : Trailers) (threads : Threads) (log : Log) (coherent : Coherent threads log)
  (limited : Limited threads.dumper) (int : threads.dumper.maxDumpSize < 2 ^ 31)

include coherent limited int

theorem captureStep_limited : Limited (captureStep trailers threads).dumper := by
  unfold captureStep
  split
  · exact limited
  · split <;> exact limited
  · exact keylogSection_limited _ limited int coherent.refines.represents.keylogRoom
  · exact flushBuffer_limited _ limited
  · split
    case isTrue => exact limited
    case isFalse accepts =>
      exact recordPacket_limited _ limited int trailers _ _ _ (Bool.eq_false_iff.mpr accepts)
  · split <;> exact limited

omit coherent int in
theorem captureCall_limited (call : Threads) (called : Limited call.dumper) :
    Limited (captureCall threads call).dumper := by
  unfold captureCall
  split
  · exact called
  · exact limited

omit coherent int in
theorem receiverCall_limited (secret : Secret) (cells : Option (Nat → UInt8)) :
    Limited (receiverCall threads secret cells).dumper := by
  obtain ⟨below, accounted⟩ := limited
  unfold receiverCall
  split <;> exact ⟨below, accounted⟩

omit coherent int in
theorem receiverStep_limited : Limited (receiverStep threads).dumper := by
  obtain ⟨below, accounted⟩ := limited
  unfold receiverStep
  split
  · exact ⟨below, accounted⟩
  · split <;> exact ⟨below, accounted⟩
  · exact ⟨below, accounted⟩

theorem step_limited (event : Event) : Limited (step trailers threads event).dumper := by
  obtain ⟨below, accounted⟩ := limited
  cases event with
  | refreshTime nowMs => exact captureCall_limited threads ⟨below, accounted⟩ _ ⟨below, accounted⟩
  | dumpPacket pkt tv uid =>
      exact captureCall_limited threads ⟨below, accounted⟩ _ ⟨below, accounted⟩
  | checkExport => exact captureCall_limited threads ⟨below, accounted⟩ _ ⟨below, accounted⟩
  | exportBuffer => exact captureCall_limited threads ⟨below, accounted⟩ _ ⟨below, accounted⟩
  | captureRuns => exact captureStep_limited trailers threads log coherent ⟨below, accounted⟩ int
  | dumpSecret secret cells => exact receiverCall_limited threads ⟨below, accounted⟩ secret cells
  | receiverRuns => exact receiverStep_limited threads ⟨below, accounted⟩

end Threads

section Runs

variable (trailers : Trailers)

theorem start_limited (mode : Mode) (snaplen maxDumpSize : Nat) (cells : Nat → UInt8)
    (positive : 0 < maxDumpSize) : Limited (pcapNewDumper mode snaplen maxDumpSize cells) :=
  ⟨positive, rfl⟩

/-- The log of the run carries the room of the keylog, and with it the limit. -/
theorem run_limited (threads : Threads) (log : Log) (coherent : Coherent threads log)
    (limited : Limited threads.dumper) (int : threads.dumper.maxDumpSize < 2 ^ 31)
    (events : List Event) :
    Limited (run (step trailers) threads events).dumper := by
  induction events generalizing threads log with
  | nil => exact limited
  | cons event rest ih =>
      obtain ⟨after, stepped, _⟩ := step_coherent trailers threads log coherent event
      have same := maxDumpSize_of_settings _ _ (step_settings trailers threads event)
      apply ih _ after stepped
      · exact step_limited trailers threads log coherent limited int event
      · exact same ▸ int

variable (dumper : Dumper) (log : Log) (refines : Refines dumper log) (limited : Limited dumper)
  (int : dumper.maxDumpSize < 2 ^ 31)

include refines limited int

theorem makeRoom_limited (totRecSize : Nat) : Limited (makeRoom dumper totRecSize) := by
  unfold makeRoom
  split
  · exact exportBuffer_limited dumper limited int refines.represents.keylogRoom
  · exact limited

/-- A refusal is followed by the last export, which keeps to the limit too. -/
theorem refused_limited (pkt : Packet) (tv : Timeval) (uid : Int)
    (refused : (pcapDumpPacket trailers dumper pkt tv uid).2 = false) :
    Limited (pcapDestroyDumper (pcapDumpPacket trailers dumper pkt tv uid).1) ∧
      (pcapDestroyDumper (pcapDumpPacket trailers dumper pkt tv uid).1).maxDumpSize =
        dumper.maxDumpSize := by
  rcases pcapDumpPacket_cases dumper trailers pkt tv uid with ⟨_, result⟩ | ⟨_, result⟩
  · rw [result]
    obtain ⟨after, roomy, _⟩ := makeRoom_refines dumper log refines
      (pcapRecSize dumper.mode dumper.snaplen pkt.bytes.length)
    have same := maxDumpSize_of_settings _ _ (makeRoom_settings dumper
      (pcapRecSize dumper.mode dumper.snaplen pkt.bytes.length))
    constructor
    · apply exportBuffer_limited
      · exact makeRoom_limited dumper log refines limited int _
      · exact same ▸ int
      · exact roomy.represents.keylogRoom
    · exact (maxDumpSize_of_settings _ _ (exportBuffer_settings _)).trans same
  · rw [result] at refused
    exact absurd refused Bool.noConfusion

end Runs

section Dumps

/-- What the callback has got and what waits is made of whole chunks: the records of the packets
    that were accepted, and blocks of secrets. -/
structure Whole (mode : Mode) (snaplen : Nat) (dumper : Dumper) (seen : List Observation)
    (log : Log) : Prop where
  seen : observed log.history = seen
  exported : dumper.exported = (buffers log.history).map contents
  buffered : dumper.buffer.read 0 dumper.bufferIdx = contents log.waiting
  chunks : ∀ chunk ∈ log.chunks, chunk.Written mode snaplen
  packets : dumped log.history = emitted log.history ++ log.waiting
  secrets : accepted log.history = released log.history ++ log.keylog

theorem whole_of_refines (mode : Mode) (snaplen maxDumpSize : Nat) (dumper : Dumper) (log : Log)
    (refines : Refines dumper log) (kept : settings dumper = (mode, snaplen, maxDumpSize)) :
    Whole mode snaplen dumper (observed log.history) log := by
  simp only [settings, Prod.mk.injEq] at kept
  obtain ⟨rfl, rfl, rfl⟩ := kept
  obtain ⟨represents, consistent⟩ := refines
  exact ⟨rfl, represents.exported, represents.buffered, represents.written, consistent.packets,
    consistent.secrets⟩

/-- The limit holds in any interleaving of packets, exports and secrets, and still when a packet
    has been refused and the dumper is destroyed. -/
theorem dump_limited (trailers : Trailers) (mode : Mode) (snaplen : Nat) (setting : Int32)
    (cells : Nat → UInt8) (positive : 0 < setting.toInt) (events : List Event) :
    let start := created mode snaplen (widened setting) cells
    let dumper := (run (step trailers) start events).dumper
    dumper.dumpSize < widened setting ∧
      exportedSize dumper + dumper.bufferIdx = dumper.dumpSize ∧
      (∃ log, Whole mode snaplen dumper (trace (step trailers) observation start events).flatten
        log) ∧
      ∀ pkt tv uid, (pcapDumpPacket trailers dumper pkt tv uid).2 = false →
        exportedSize (pcapDestroyDumper (pcapDumpPacket trailers dumper pkt tv uid).1) ≤
          widened setting := by
  intro start dumper
  obtain ⟨some', int⟩ := widened_positive setting positive
  have coherent : Coherent start {} := ⟨⟨start_represents _ _ _ _, start_consistent⟩, trivial,
    trivial⟩
  have kept : settings dumper = (mode, snaplen, widened setting) :=
    run_invariant_always (step trailers)
      (fun state => settings state.dumper = (mode, snaplen, widened setting))
      (fun state event same => (step_settings trailers state event).trans same) _ events rfl
  have same : dumper.maxDumpSize = widened setting := congrArg (fun values => values.2.2) kept
  have limited : Limited dumper := run_limited trailers start {} coherent
    (start_limited mode snaplen _ cells some') int events
  obtain ⟨log, after, saw⟩ := run_coherent trailers start {} coherent events
  refine ⟨same ▸ limited.below, limited.accounted, ⟨log, ?_⟩, ?_⟩
  · have whole := whole_of_refines mode snaplen _ dumper log after.refines kept
    rwa [saw] at whole
  · intro pkt tv uid refused
    have last := refused_limited trailers dumper log after.refines limited (same ▸ int) pkt tv uid
      refused
    have exported := last.1.exported
    omega

theorem smallPacket_short : (List.replicate 20 0x45 : Bytes).length < 2 ^ 31 := by decide

def smallPacket : Packet where
  bytes := List.replicate 20 0x45
  short := smallPacket_short

/-- A limit of 40 bytes takes one record of 36. -/
theorem smallDump_limited :
    let start := created .pcapDump 65535 (widened 40) fun _ => 0
    let dumper := (run (step noTrailers) start
      [.dumpPacket smallPacket ⟨0, 0⟩ 0, .captureRuns, .captureRuns]).dumper
    dumper.dumpSize < widened 40 ∧
      exportedSize dumper + dumper.bufferIdx = dumper.dumpSize ∧
      (∃ log, Whole .pcapDump 65535 dumper (trace (step noTrailers) observation start
        [.dumpPacket smallPacket ⟨0, 0⟩ 0, .captureRuns, .captureRuns]).flatten log) ∧
      ∀ pkt tv uid, (pcapDumpPacket noTrailers dumper pkt tv uid).2 = false →
        exportedSize (pcapDestroyDumper (pcapDumpPacket noTrailers dumper pkt tv uid).1) ≤
          widened 40 :=
  dump_limited noTrailers .pcapDump 65535 40 (fun _ => 0) (by decide)
    [.dumpPacket smallPacket ⟨0, 0⟩ 0, .captureRuns, .captureRuns]

end Dumps

end Ptnet.PcapLimit
