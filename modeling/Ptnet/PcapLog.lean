import Ptnet.PcapDump
import Ptnet.PcapFormat

/-!
What the dumper has written, as a log of chunks: the record or block of each packet, and the
blocks of the secrets. The log says which chunks each exported buffer holds, which packets
wait in the buffer, and which secrets wait in the keylog. Every operation of the dumper is a
sequence of moves of its log.
-/

namespace Ptnet.PcapLog

open ByteMemory PcapDump PcapFormat

section Logs

inductive Origin where
  | packet (pkt : Packet) (tv : Timeval) (uid : Int)
  | secrets (lines : List Bytes)

structure Chunk where
  origin : Origin
  content : Bytes

inductive Event where
  | accepted (line : Bytes)
  | discarded (lines : List Bytes) (dumpSize : Nat)
  | dumped (chunk : Chunk)
  | exported (chunks : List Chunk)

/-- The history, the packets that wait in the buffer, and the secrets that wait in the keylog. -/
structure Log where
  history : List Event := []
  waiting : List Chunk := []
  keylog : List Bytes := []

def contents (chunks : List Chunk) : Bytes := chunks.flatMap Chunk.content

/-- Each secret is a line. -/
def keylogText (lines : List Bytes) : Bytes := lines.flatMap fun line => line ++ [10]

def pcapRecord (snaplen : Nat) (pkt : Packet) (tv : Timeval) : PcapRecord where
  tsSec := low32 tv.tvSec
  tsUsec := low32 tv.tvUsec
  origLen := pkt.bytes.length
  data := pkt.bytes.take (min pkt.bytes.length snaplen)

def enhancedPacket (snaplen : Nat) (pkt : Packet) (tv : Timeval) : EnhancedPacket where
  timestamp := ((tv.tvSec * 1000000 + tv.tvUsec) % 2 ^ 64).toNat
  origLen := pkt.bytes.length
  data := pkt.bytes.take (min pkt.bytes.length snaplen)

def framedRecord (tv : Timeval) (origLen : Nat) (frame : Bytes) : PcapRecord where
  tsSec := low32 tv.tvSec
  tsUsec := low32 tv.tvUsec
  origLen := origLen
  data := frame

def keylogSecrets (lines : List Bytes) : Secrets where
  type := 0x544c534b
  data := keylogText lines

def secretsChunk (lines : List Bytes) : Chunk where
  origin := .secrets lines
  content := (keylogSecrets lines).block.encode

namespace Chunk

/-- What the content of a chunk is in each mode. -/
def Written (mode : Mode) (snaplen : Nat) (chunk : Chunk) : Prop :=
  match chunk.origin with
  | .packet pkt tv _ =>
      chunk.content.length = pcapRecSize mode snaplen pkt.bytes.length ∧
      (mode = .pcapDump → chunk.content = (pcapRecord snaplen pkt tv).encode) ∧
      (mode = .pcapngDump → chunk.content = (enhancedPacket snaplen pkt tv).block.encode) ∧
      (mode = .pcapDumpWithTrailer →
        ∃ origLen frame, chunk.content = (framedRecord tv origLen frame).encode)
  | .secrets lines =>
      chunk.content = (keylogSecrets lines).block.encode ∧ lines ≠ [] ∧
      (keylogText lines).length < PCAP_BUFFER_SIZE

def lines (chunk : Chunk) : List Bytes :=
  match chunk.origin with
  | .packet _ _ _ => []
  | .secrets lines => lines

def isPacket (chunk : Chunk) : Bool :=
  match chunk.origin with
  | .packet _ _ _ => true
  | .secrets _ => false

end Chunk

section History

/-- The secrets that `pcap_dump_secret` has accepted, in order. -/
def accepted (history : List Event) : List Bytes :=
  history.flatMap fun
    | .accepted line => [line]
    | _ => []

/-- The secrets that have left the keylog, in order. -/
def released (history : List Event) : List Bytes :=
  history.flatMap fun
    | .discarded lines _ => lines
    | .exported chunks => chunks.flatMap Chunk.lines
    | _ => []

/-- The records that have been written, in order. -/
def dumped (history : List Event) : List Chunk :=
  history.flatMap fun
    | .dumped chunk => [chunk]
    | _ => []

def buffers (history : List Event) : List (List Chunk) :=
  history.flatMap fun
    | .exported chunks => [chunks]
    | _ => []

def emitted (history : List Event) : List Chunk := (buffers history).flatten.filter Chunk.isPacket

/-- Whatever was accepted before a record was written has left the keylog. -/
def Settled (history : List Event) : Prop :=
  ∀ first chunk second, history = first ++ .dumped chunk :: second →
    accepted first <+: released history

/-- No buffer with records goes out before the secrets that were accepted before them. -/
def Ordered (history : List Event) : Prop :=
  ∀ first chunks second, history = first ++ .exported chunks :: second →
    (∃ chunk ∈ chunks, chunk.isPacket = true) → Settled first

end History

namespace Log

def add (log : Log) (chunk : Chunk) : Log :=
  { log with history := log.history ++ [.dumped chunk], waiting := log.waiting ++ [chunk] }

def collect (log : Log) (line : Bytes) : Log :=
  { log with history := log.history ++ [.accepted line], keylog := log.keylog ++ [line] }

def discard (log : Log) (dumpSize : Nat) : Log :=
  { log with history := log.history ++ [.discarded log.keylog dumpSize], keylog := [] }

def exportSecrets (log : Log) : Log :=
  { log with history := log.history ++ [.exported [secretsChunk log.keylog]], keylog := [] }

def exportPackets (log : Log) : Log :=
  { log with history := log.history ++ [.exported log.waiting], waiting := [] }

def chunks (log : Log) : List Chunk := (buffers log.history).flatten ++ log.waiting

structure Consistent (log : Log) : Prop where
  secrets : accepted log.history = released log.history ++ log.keylog
  packets : dumped log.history = emitted log.history ++ log.waiting
  waiting : ∀ chunk ∈ log.waiting, chunk.isPacket = true
  ordered : Ordered log.history

end Log

end Logs

section Moves

theorem append_split (history first second : List Event) (last event : Event)
    (split : history ++ [last] = first ++ event :: second) :
    (first = history ∧ event = last ∧ second = []) ∨
      ∃ rest, second = rest ++ [last] ∧ history = first ++ event :: rest := by
  rcases List.eq_nil_or_concat second with rfl | ⟨rest, other, rfl⟩
  · obtain ⟨same, ends⟩ := List.append_inj' split rfl
    exact .inl ⟨same.symm, (List.cons.inj ends).1.symm, rfl⟩
  · rw [List.concat_eq_append, ← List.cons_append, ← List.append_assoc] at split
    obtain ⟨same, ends⟩ := List.append_inj' split rfl
    rw [(List.cons.inj ends).1, List.concat_eq_append]
    exact .inr ⟨rest, rfl, same⟩

theorem released_append (history : List Event) (event : Event) :
    released history <+: released (history ++ [event]) := by
  rw [released, released, List.flatMap_append]
  exact List.prefix_append _ _

theorem accepted_prefix (first second : List Event) :
    accepted first <+: accepted (first ++ second) := by
  rw [accepted, accepted, List.flatMap_append]
  exact List.prefix_append _ _

theorem settled_of_released (history : List Event) (all : accepted history = released history) :
    Settled history := by
  intro first chunk second split
  rw [← all, split]
  exact accepted_prefix first _

theorem Settled.append (history : List Event) (event : Event) (settled : Settled history)
    (quiet : ∀ chunk, event ≠ .dumped chunk) : Settled (history ++ [event]) := by
  intro first chunk second split
  rcases append_split history first second event _ split with ⟨_, same, _⟩ | ⟨rest, _, earlier⟩
  · exact absurd same.symm (quiet chunk)
  · exact (settled first chunk rest earlier).trans (released_append history event)

theorem Ordered.append (history : List Event) (event : Event) (ordered : Ordered history)
    (settled : ∀ chunks, event = .exported chunks → (∃ chunk ∈ chunks, chunk.isPacket = true) →
      Settled history) : Ordered (history ++ [event]) := by
  intro first chunks second split packets
  rcases append_split history first second event _ split with ⟨same, this, _⟩ | ⟨rest, _, earlier⟩
  · rw [same]
    exact settled chunks this.symm packets
  · exact ordered first chunks rest earlier packets

variable (log : Log) (consistent : log.Consistent)

include consistent

theorem Log.Consistent.add (chunk : Chunk) (packet : chunk.isPacket = true) :
    (log.add chunk).Consistent where
  secrets := by
    have secrets := consistent.secrets
    simp_all [Log.add, accepted, released]
  packets := by
    have packets := consistent.packets
    simp_all [Log.add, dumped, emitted, buffers]
  waiting := fun other member => by
    rcases List.mem_append.mp member with before | this
    · exact consistent.waiting other before
    · rw [List.mem_singleton.mp this, packet]
  ordered := consistent.ordered.append _ _ fun chunks exported => nomatch exported

theorem Log.Consistent.collect (line : Bytes) : (log.collect line).Consistent where
  secrets := by
    have secrets := consistent.secrets
    simp_all [Log.collect, accepted, released]
  packets := by
    have packets := consistent.packets
    simp_all [Log.collect, dumped, emitted, buffers]
  waiting := consistent.waiting
  ordered := consistent.ordered.append _ _ fun chunks exported => nomatch exported

theorem Log.Consistent.discard (dumpSize : Nat) : (log.discard dumpSize).Consistent where
  secrets := by
    have secrets := consistent.secrets
    simp_all [Log.discard, accepted, released]
  packets := by
    have packets := consistent.packets
    simp_all [Log.discard, dumped, emitted, buffers]
  waiting := consistent.waiting
  ordered := consistent.ordered.append _ _ fun chunks exported => nomatch exported

theorem Log.Consistent.exportSecrets : log.exportSecrets.Consistent where
  secrets := by
    have secrets := consistent.secrets
    simp_all [Log.exportSecrets, accepted, released, secretsChunk, Chunk.lines]
  packets := by
    have packets := consistent.packets
    simp_all [Log.exportSecrets, dumped, emitted, buffers, secretsChunk, Chunk.isPacket]
  waiting := consistent.waiting
  ordered := by
    refine consistent.ordered.append _ _ fun chunks exported packets => ?_
    obtain ⟨chunk, member, packet⟩ := packets
    cases exported
    rw [List.mem_singleton.mp member] at packet
    exact absurd packet Bool.false_ne_true

theorem Log.Consistent.exportPackets (settled : Settled log.history) :
    log.exportPackets.Consistent where
  secrets := by
    have lineless : log.waiting.flatMap Chunk.lines = [] := by
      rw [List.flatMap_eq_nil_iff]
      intro chunk member
      have packet := consistent.waiting chunk member
      unfold Chunk.isPacket at packet
      unfold Chunk.lines
      split <;> simp_all
    have secrets := consistent.secrets
    simp_all [Log.exportPackets, accepted, released]
  packets := by
    have all : log.waiting.filter Chunk.isPacket = log.waiting :=
      List.filter_eq_self.mpr consistent.waiting
    have packets := consistent.packets
    simp only [Log.exportPackets, dumped, emitted, buffers, List.flatMap_append,
      List.flatMap_cons, List.flatMap_nil, List.append_nil, List.flatten_append,
      List.filter_append, List.flatten_cons, List.flatten_nil, all] at packets ⊢
    exact packets
  waiting := fun _ member => nomatch member
  ordered := consistent.ordered.append _ _ fun _ _ _ => settled

end Moves

section Writers

variable (buffer : Memory) (at' snaplen : Nat) (pkt : Packet) (tv : Timeval)

theorem dumpPacketRaw_writes :
    dumpPacketRaw buffer at' pkt tv (pcapRecSize .pcapDump snaplen pkt.bytes.length) =
      buffer.write at' (pcapRecord snaplen pkt tv).encode := by
  have shorter : payloadToCopy pkt.bytes.length (min pkt.bytes.length snaplen) 0 =
      min pkt.bytes.length snaplen := by
    simp only [payloadToCopy]
    omega
  simp only [dumpPacketRaw, pcapRecSize, Nat.add_sub_cancel, shorter, writeLe, PCAP_REC_SIZE]
  simp (disch := simp) only [Memory.write_adjoining]
  simp [pcapRecord, PcapRecord.encode]

theorem dumpPacketPcapng_writes :
    dumpPacketPcapng buffer at' snaplen pkt tv (pcapRecSize .pcapngDump snaplen pkt.bytes.length) =
      buffer.write at' (enhancedPacket snaplen pkt tv).block.encode := by
  have total : pcapRecSize .pcapngDump snaplen pkt.bytes.length =
      (enhancedPacket snaplen pkt tv).block.body.length + 12 := by
    simp [pcapRecSize, enhancedPacket, EnhancedPacket.block, EPB_SIZE, padding]
    omega
  rw [Block.encode, ← total]
  simp only [dumpPacketPcapng, writeLe, EPB_SIZE]
  simp (disch := simp <;> omega) only [Memory.write_adjoining]
  simp [enhancedPacket, EnhancedPacket.block, padding]

theorem trailer_fits (inclLen offset : Nat) (aligned : inclLen % 4 = 0)
    (room : TRAILER_SIZE ≤ inclLen - offset) :
    offset + padding offset + TRAILER_SIZE ≤ inclLen := by
  have padded := padding_aligned offset
  have little := padding_lt offset
  simp only [TRAILER_SIZE] at room ⊢
  omega

theorem pcapRecSize_trailer (pktLen : Nat) :
    ∃ inclLen, pcapRecSize .pcapDumpWithTrailer snaplen pktLen = inclLen + PCAP_REC_SIZE ∧
      inclLen % 4 = 0 ∧ ETH_SIZE ≤ inclLen := by
  refine ⟨_, rfl, padding_aligned _, ?_⟩
  simp only [TRAILER_SIZE, ETH_SIZE]
  omega

theorem etherType_length (packet : Packet) : (etherType packet).length = 2 := by
  unfold etherType
  split <;> rfl

def trailerOrigLen (inclLen pktLen : Nat) : Nat :=
  let offset := ETH_SIZE + payloadToCopy pktLen inclLen ETH_SIZE
  pktLen + ETH_SIZE + if decide (TRAILER_SIZE ≤ inclLen - offset) then padding offset + TRAILER_SIZE
    else 0

def recordHeader (inclLen origLen : Nat) : Bytes :=
  encodeLe 4 (low32 tv.tvSec) ++ (encodeLe 4 (low32 tv.tvUsec) ++ (encodeLe 4 inclLen ++
    encodeLe 4 origLen))

@[simp] theorem recordHeader_length (inclLen origLen : Nat) :
    (recordHeader tv inclLen origLen).length = PCAP_REC_SIZE := by
  simp [recordHeader, PCAP_REC_SIZE]

/-- Behind the header of its record, the trailer mode keeps to the frame. -/
theorem dumpPacketTrailer_within (trailers : Trailers) (uid : Int) (inclLen : Nat)
    (aligned : inclLen % 4 = 0) (framed : ETH_SIZE ≤ inclLen) :
    Memory.Within
      (buffer.write at' (recordHeader tv inclLen (trailerOrigLen inclLen pkt.bytes.length)))
      (dumpPacketTrailer trailers buffer at' pkt tv uid (inclLen + PCAP_REC_SIZE))
      (at' + PCAP_REC_SIZE) (at' + (inclLen + PCAP_REC_SIZE)) := by
  have ether := etherType_length pkt
  have fits := trailer_fits inclLen (ETH_SIZE + min pkt.bytes.length (inclLen - ETH_SIZE)) aligned
  simp only [dumpPacketTrailer, Nat.add_sub_cancel, writeLe, recordHeader, trailerOrigLen,
    payloadToCopy]
  rw [Memory.write_adjoining _ at' (at' + 4) _ _ (by simp),
    Memory.write_adjoining _ at' (at' + 8) _ _ (by simp),
    Memory.write_adjoining _ at' (at' + 12) _ _ (by simp), List.append_assoc, List.append_assoc]
  simp only [ETH_SIZE, PCAP_REC_SIZE, TRAILER_SIZE] at fits framed ⊢
  by_cases roomy : 32 ≤ inclLen - (14 + min pkt.bytes.length (inclLen - 14))
  · have ends := fits roomy
    have named := fun uid => (trailers.appname uid).property
    simp only [roomy, decide_true, ↓reduceIte]
    iterate 5 apply Memory.Within.write
    apply Memory.Within.refl
    all_goals try simp only [encodeBe, List.length_append, List.length_reverse, List.length_take,
      encodeLe_length, zeros_length, named, ether]
    all_goals omega
  · simp only [roomy, decide_false, Bool.false_eq_true, ↓reduceIte]
    iterate 2 apply Memory.Within.write
    apply Memory.Within.refl
    all_goals try simp only [List.length_append, List.length_take, zeros_length, ether]
    all_goals omega

theorem writePacket_within (trailers : Trailers) (dumper : Dumper) (uid : Int) :
    Memory.Within dumper.buffer (writePacket trailers dumper pkt tv uid) dumper.bufferIdx
      (dumper.bufferIdx + pcapRecSize dumper.mode dumper.snaplen pkt.bytes.length) := by
  unfold writePacket
  cases dumper.mode with
  | pcapDump =>
      simp only [dumpPacketRaw_writes]
      apply (Memory.Within.refl dumper.buffer _ _).write _ _ (Nat.le_refl _)
      simp [pcapRecord, PcapRecord.encode, pcapRecSize, PCAP_REC_SIZE]
      omega
  | pcapDumpWithTrailer =>
      obtain ⟨inclLen, total, aligned, framed⟩ :=
        pcapRecSize_trailer dumper.snaplen pkt.bytes.length
      have frame := dumpPacketTrailer_within dumper.buffer dumper.bufferIdx pkt tv trailers uid
        inclLen aligned framed
      simp only [total]
      apply Memory.Within.trans _ (frame.wider (Nat.le_add_right _ _) (Nat.le_refl _))
      apply (Memory.Within.refl dumper.buffer _ _).write _ _ (Nat.le_refl _)
      simp
  | pcapngDump =>
      simp only [dumpPacketPcapng_writes]
      apply (Memory.Within.refl dumper.buffer _ _).write _ _ (Nat.le_refl _)
      simp [enhancedPacket, EnhancedPacket.block, Block.encode, pcapRecSize, EPB_SIZE, padding]
      omega

def packetChunk (trailers : Trailers) (dumper : Dumper) (pkt : Packet) (tv : Timeval) (uid : Int) :
    Chunk where
  origin := .packet pkt tv uid
  content := (writePacket trailers dumper pkt tv uid).read dumper.bufferIdx
    (pcapRecSize dumper.mode dumper.snaplen pkt.bytes.length)

theorem packetChunk_written (trailers : Trailers) (dumper : Dumper) (uid : Int) :
    (packetChunk trailers dumper pkt tv uid).Written dumper.mode dumper.snaplen := by
  refine ⟨Memory.read_length _ _ _, ?_, ?_, ?_⟩
  · intro raw
    have length : (pcapRecord dumper.snaplen pkt tv).encode.length =
        pcapRecSize .pcapDump dumper.snaplen pkt.bytes.length := by
      simp [pcapRecord, PcapRecord.encode, pcapRecSize, PCAP_REC_SIZE]
      omega
    simp only [packetChunk, writePacket, raw, dumpPacketRaw_writes]
    rw [← length, Memory.read_write_same]
  · intro ng
    have length : (enhancedPacket dumper.snaplen pkt tv).block.encode.length =
        pcapRecSize .pcapngDump dumper.snaplen pkt.bytes.length := by
      simp [enhancedPacket, EnhancedPacket.block, Block.encode, pcapRecSize, EPB_SIZE, padding]
      omega
    simp only [packetChunk, writePacket, ng, dumpPacketPcapng_writes]
    rw [← length, Memory.read_write_same]
  · intro trailer
    obtain ⟨inclLen, total, aligned, framed⟩ := pcapRecSize_trailer dumper.snaplen pkt.bytes.length
    have frame := dumpPacketTrailer_within dumper.buffer dumper.bufferIdx pkt tv trailers uid inclLen
      aligned framed
    have header := frame.read_below dumper.bufferIdx PCAP_REC_SIZE (Nat.le_refl _)
    have same := Memory.read_write_same dumper.buffer dumper.bufferIdx
      (recordHeader tv inclLen (trailerOrigLen inclLen pkt.bytes.length))
    rw [recordHeader_length] at same
    refine ⟨trailerOrigLen inclLen pkt.bytes.length, (dumpPacketTrailer trailers dumper.buffer
      dumper.bufferIdx pkt tv uid (inclLen + PCAP_REC_SIZE)).read
        (dumper.bufferIdx + PCAP_REC_SIZE) inclLen, ?_⟩
    simp only [packetChunk, writePacket, trailer, total]
    rw [Nat.add_comm inclLen, Memory.read_append, Nat.add_comm PCAP_REC_SIZE inclLen, header, same]
    simp [framedRecord, PcapRecord.encode, recordHeader]

end Writers

section Keylog

structure KeylogHolds (memory : Memory) (lines : List Bytes) : Prop where
  size : memory.size = KEYLOG_BUFFER_HEADROOM + PCAP_BUFFER_SIZE + KEYLOG_BUFFER_TAILROOM
  overrun : memory.overrun = false
  text : memory.read KEYLOG_BUFFER_HEADROOM (keylogText lines).length = keylogText lines

theorem keylogText_empty (lines : List Bytes) : (keylogText lines).length = 0 ↔ lines = [] := by
  cases lines with
  | nil => simp [keylogText]
  | cons line rest => simp [keylogText]

theorem keylogText_append (lines : List Bytes) (line : Bytes) :
    keylogText (lines ++ [line]) = keylogText lines ++ (line ++ [10]) := by
  simp [keylogText]

theorem completeKeylog_writes (memory : Memory) (secLen : Nat) :
    completeKeylog memory secLen =
      (memory.write 0 (encodeLe 4 0xA ++ (encodeLe 4 (secLen + padding secLen + 20) ++
          (encodeLe 4 0x544c534b ++ encodeLe 4 secLen)))).write (16 + secLen)
        (zeros (padding secLen) ++ encodeLe 4 (secLen + padding secLen + 20)) := by
  have total : DSB_SIZE + secLen + padding secLen + 4 = secLen + padding secLen + 20 := by
    simp only [DSB_SIZE]
    omega
  simp only [completeKeylog, writeLe, total]
  simp only [KEYLOG_BUFFER_HEADROOM, DSB_SIZE]
  simp (disch := first | (simp; done) | (simp; omega) | fail) only [Memory.write_adjoining,
    List.append_assoc]

theorem completeKeylog_block (memory : Memory) (lines : List Bytes)
    (holds : KeylogHolds memory lines) :
    (completeKeylog memory (keylogText lines).length).read 0 (DSB_SIZE +
        (keylogText lines).length + padding (keylogText lines).length + 4) =
      (secretsChunk lines).content := by
  have text := holds.text
  have around := Memory.read_write_around memory (keylogText lines).length
    (encodeLe 4 0xA ++ (encodeLe 4 ((keylogText lines).length +
      padding (keylogText lines).length + 20) ++ (encodeLe 4 0x544c534b ++
        encodeLe 4 (keylogText lines).length)))
    (zeros (padding (keylogText lines).length) ++ encodeLe 4 ((keylogText lines).length +
      padding (keylogText lines).length + 20))
  simp only [List.length_append, encodeLe_length, zeros_length, Nat.reduceAdd] at around
  simp only [KEYLOG_BUFFER_HEADROOM, DSB_SIZE] at text
  have total : (keylogSecrets lines).block.body.length + 12 =
      (keylogText lines).length + (padding (keylogText lines).length + 20) := by
    simp [keylogSecrets, Secrets.block, padding]
    omega
  rw [completeKeylog_writes, secretsChunk, Block.encode, total]
  simp only [DSB_SIZE, Nat.add_assoc] at around text ⊢
  rw [around, text]
  simp [keylogSecrets, Secrets.block, padding]

end Keylog

section Refinement

structure Represents (dumper : Dumper) (log : Log) : Prop where
  exported : dumper.exported = (buffers log.history).map contents
  buffered : dumper.buffer.read 0 dumper.bufferIdx = contents log.waiting
  room : dumper.bufferIdx < PCAP_BUFFER_SIZE
  size : dumper.buffer.size = PCAP_BUFFER_SIZE
  overrun : dumper.buffer.overrun = false
  index : dumper.keylogIdx = (keylogText log.keylog).length
  keylogRoom : dumper.keylogIdx < PCAP_BUFFER_SIZE
  keylog : ∀ memory, dumper.keylogBuf = some memory → KeylogHolds memory log.keylog
  unallocated : dumper.keylogBuf = none → log.keylog = []
  written : ∀ chunk ∈ log.chunks, chunk.Written dumper.mode dumper.snaplen
  sizes : ∀ chunks ∈ buffers log.history, (contents chunks).length <
    KEYLOG_BUFFER_HEADROOM + PCAP_BUFFER_SIZE + KEYLOG_BUFFER_TAILROOM
  discards : ∀ lines dumpSize, .discarded lines dumpSize ∈ log.history →
    0 < dumper.maxDumpSize ∧
      dumper.maxDumpSize ≤ add64 dumpSize (secretsChunk lines).content.length

theorem buffer_positive : 0 < PCAP_BUFFER_SIZE := by decide

theorem start_represents (mode : Mode) (snaplen maxDumpSize : Nat) (cells : Nat → UInt8) :
    Represents (pcapNewDumper mode snaplen maxDumpSize cells) {} where
  exported := rfl
  buffered := rfl
  room := buffer_positive
  size := rfl
  overrun := rfl
  index := rfl
  keylogRoom := buffer_positive
  keylog := fun memory none => by simp [pcapNewDumper] at none
  unallocated := fun _ => rfl
  written := fun chunk member => by simp [Log.chunks, buffers] at member
  sizes := fun chunks member => by simp [buffers] at member
  discards := fun lines dumpSize member => by simp at member

theorem start_consistent : ({} : Log).Consistent where
  secrets := rfl
  packets := rfl
  waiting := fun chunk member => by simp at member
  ordered := fun first chunks second split => by simp at split

theorem secretsChunk_length (lines : List Bytes) :
    (secretsChunk lines).content.length =
      DSB_SIZE + (keylogText lines).length + padding (keylogText lines).length + 4 := by
  simp [secretsChunk, keylogSecrets, Secrets.block, Block.encode, padding, DSB_SIZE]
  omega

theorem KeylogHolds.empty (memory after : Memory) (lines : List Bytes)
    (holds : KeylogHolds memory lines) (size : after.size = memory.size)
    (overrun : after.overrun = memory.overrun) : KeylogHolds after [] where
  size := size.trans holds.size
  overrun := overrun.trans holds.overrun
  text := rfl

/-- The header and the tail of a block stay inside the memory around its text. -/
theorem completeKeylog_within (memory : Memory) (secLen : Nat) (size : memory.size =
    KEYLOG_BUFFER_HEADROOM + PCAP_BUFFER_SIZE + KEYLOG_BUFFER_TAILROOM)
    (room : secLen < PCAP_BUFFER_SIZE) :
    (completeKeylog memory secLen).size = memory.size ∧
      (completeKeylog memory secLen).overrun = memory.overrun := by
  have padded := padding_lt secLen
  rw [completeKeylog_writes]
  simp only [KEYLOG_BUFFER_HEADROOM, KEYLOG_BUFFER_TAILROOM, DSB_SIZE] at size
  refine ⟨rfl, ?_⟩
  rw [Memory.write_fits, Memory.write_fits]
  · simp
    omega
  · simp only [Memory.write_size, List.length_append, zeros_length, encodeLe_length]
    omega

variable (dumper : Dumper) (log : Log) (represents : Represents dumper log)

include represents

theorem keylogSection_represents (some' : log.keylog ≠ []) :
    Represents (keylogSection dumper) (log.discard dumper.dumpSize) ∨
      Represents (keylogSection dumper) log.exportSecrets := by
  cases allocated : dumper.keylogBuf with
  | none => exact absurd (represents.unallocated allocated) some'
  | some memory =>
      have holds := represents.keylog memory allocated
      have length := secretsChunk_length log.keylog
      rw [← represents.index] at length
      -- A block that would pass the limit is dropped with its secrets; any other is exported.
      by_cases large : 0 < dumper.maxDumpSize ∧ dumper.maxDumpSize ≤ add64 dumper.dumpSize
          (DSB_SIZE + dumper.keylogIdx + padding dumper.keylogIdx + 4)
      · have stepped : keylogSection dumper = { dumper with keylogIdx := 0 } := by
          rw [keylogSection, allocated]
          exact if_pos large
        rw [stepped]
        refine .inl { represents with
          exported := ?_
          index := rfl
          keylogRoom := buffer_positive
          keylog := ?_
          unallocated := fun _ => rfl
          written := ?_
          sizes := ?_
          discards := ?_ }
        · simpa [Log.discard, buffers] using represents.exported
        · intro other same
          rw [allocated] at same
          cases same
          exact holds.empty memory memory log.keylog rfl rfl
        · simpa [Log.discard, Log.chunks, buffers] using represents.written
        · simpa [Log.discard, buffers] using represents.sizes
        · intro lines dumpSize member
          rcases List.mem_append.mp member with before | this
          · exact represents.discards lines dumpSize before
          · cases List.mem_singleton.mp this
            rw [length]
            exact large
      · have block := completeKeylog_block memory log.keylog holds
        rw [← represents.index] at block
        obtain ⟨size, overrun⟩ := completeKeylog_within memory dumper.keylogIdx holds.size
          represents.keylogRoom
        have stepped : keylogSection dumper = { dumper with
            keylogBuf := some (completeKeylog memory dumper.keylogIdx)
            exported := dumper.exported ++ [(secretsChunk log.keylog).content]
            dumpSize := add64 dumper.dumpSize
              (DSB_SIZE + dumper.keylogIdx + padding dumper.keylogIdx + 4)
            keylogIdx := 0 } := by
          rw [← block, keylogSection, allocated]
          exact if_neg large
        rw [stepped]
        refine .inr { represents with
          exported := ?_
          index := rfl
          keylogRoom := buffer_positive
          keylog := ?_
          unallocated := fun _ => rfl
          written := ?_
          sizes := ?_
          discards := ?_ }
        · simp [Log.exportSecrets, buffers, contents, represents.exported]
        · intro other same
          cases same
          exact holds.empty memory _ log.keylog size overrun
        · intro chunk member
          have written := represents.written chunk
          simp only [Log.exportSecrets, Log.chunks, buffers, List.flatMap_append,
            List.flatMap_cons, List.flatMap_nil, List.append_nil, List.flatten_append,
            List.flatten_cons, List.flatten_nil, List.mem_append, List.mem_singleton] at member
          -- The new chunk lies between what was exported and what still waits.
          rcases member with (before | this) | waits
          · exact written (List.mem_append_left _ before)
          · rw [this]
            exact ⟨rfl, some', represents.index ▸ represents.keylogRoom⟩
          · exact written (List.mem_append_right _ waits)
        · intro chunks member
          simp only [Log.exportSecrets, buffers, List.flatMap_append, List.flatMap_cons,
            List.flatMap_nil, List.append_nil, List.mem_append, List.mem_singleton] at member
          rcases member with before | this
          · exact represents.sizes chunks before
          · have room := represents.keylogRoom
            have padded := padding_lt dumper.keylogIdx
            rw [this, contents, List.flatMap_cons, List.flatMap_nil, List.append_nil, length]
            simp only [KEYLOG_BUFFER_HEADROOM, KEYLOG_BUFFER_TAILROOM]
            omega
        · intro lines dumpSize member
          simp only [Log.exportSecrets, List.mem_append, List.mem_singleton, reduceCtorEq,
            or_false] at member
          exact represents.discards lines dumpSize member

theorem flushBuffer_represents (some' : dumper.bufferIdx ≠ 0) :
    Represents (flushBuffer dumper) log.exportPackets := by
  rw [flushBuffer, if_neg some']
  exact { represents with
    exported := by simp [Log.exportPackets, buffers, represents.exported, represents.buffered]
    buffered := rfl
    room := buffer_positive
    written := fun chunk member => by
      apply represents.written chunk
      simpa [Log.exportPackets, Log.chunks, buffers] using member
    sizes := fun chunks member => by
      simp only [Log.exportPackets, buffers, List.flatMap_append, List.flatMap_cons,
        List.flatMap_nil, List.append_nil, List.mem_append, List.mem_singleton] at member
      rcases member with before | this
      · exact represents.sizes chunks before
      · have room := represents.room
        rw [this, ← represents.buffered, Memory.read_length]
        omega
    discards := fun lines dumpSize member => by
      simp only [Log.exportPackets, List.mem_append, List.mem_singleton, reduceCtorEq,
        or_false] at member
      exact represents.discards lines dumpSize member }

theorem recordPacket_represents (trailers : Trailers) (pkt : Packet) (tv : Timeval) (uid : Int)
    (fits : dumper.bufferIdx + pcapRecSize dumper.mode dumper.snaplen pkt.bytes.length <
      PCAP_BUFFER_SIZE) :
    Represents (recordPacket trailers dumper pkt tv uid)
      (log.add (packetChunk trailers dumper pkt tv uid)) := by
  have within := writePacket_within pkt tv trailers dumper uid
  have bounded : dumper.bufferIdx + pcapRecSize dumper.mode dumper.snaplen pkt.bytes.length ≤
      dumper.buffer.size := represents.size.symm ▸ Nat.le_of_lt fits
  exact { represents with
    exported := by simpa [Log.add, buffers, recordPacket] using represents.exported
    buffered := by
      have before := within.read_below 0 dumper.bufferIdx (by omega)
      simp only [recordPacket]
      rw [Memory.read_append, before, represents.buffered, Nat.zero_add]
      simp [Log.add, contents, packetChunk]
    room := fits
    size := within.size.trans represents.size
    overrun := (within.overrun bounded).trans represents.overrun
    written := fun chunk member => by
      simp only [Log.add, Log.chunks, buffers, List.flatMap_append, List.flatMap_cons,
        List.flatMap_nil, List.append_nil, List.mem_append, List.mem_singleton] at member
      rcases member with before | waits | this
      · exact represents.written chunk (List.mem_append_left _ before)
      · exact represents.written chunk (List.mem_append_right _ waits)
      · rw [this]
        exact packetChunk_written pkt tv trailers dumper uid
    sizes := by simpa [Log.add, buffers] using represents.sizes
    discards := fun lines dumpSize member => by
      simp only [Log.add, List.mem_append, List.mem_singleton, reduceCtorEq, or_false] at member
      exact represents.discards lines dumpSize member }

theorem allocateKeylog_represents (cells : Option (Nat → UInt8)) :
    Represents (allocateKeylog dumper cells) log := by
  refine { represents with keylog := ?_, unallocated := ?_ }
  · intro memory found
    cases allocated : dumper.keylogBuf with
    | some old =>
        simp only [allocateKeylog, allocated, Option.some_or, Option.some.injEq] at found
        exact found ▸ represents.keylog old allocated
    | none =>
        rw [represents.unallocated allocated]
        simp only [allocateKeylog, allocated, Option.none_or, Option.map_eq_some_iff] at found
        obtain ⟨_, _, rfl⟩ := found
        exact ⟨rfl, rfl, rfl⟩
  · intro missing
    apply represents.unallocated
    simp only [allocateKeylog, Option.or_eq_none_iff] at missing
    exact missing.1

theorem secretSection_represents (secret : Secret) (fits : secretFits dumper secret = true)
    (allocated : dumper.keylogBuf.isSome = true) :
    Represents (secretSection dumper secret) (log.collect secret.bytes) := by
  have fits := of_decide_eq_true fits
  have index : dumper.keylogIdx + secret.bytes.length + 1 =
      (keylogText (log.keylog ++ [secret.bytes])).length := by
    rw [keylogText_append, List.length_append, ← represents.index, List.length_append]
    exact Nat.add_assoc _ _ _
  refine { represents with
    exported := ?_
    index := index
    keylogRoom := ?_
    keylog := ?_
    unallocated := ?_
    written := ?_
    sizes := ?_
    discards := ?_ }
  · simpa [Log.collect, secretSection, buffers] using represents.exported
  · simp only [secretSection]
    omega
  · intro memory found
    obtain ⟨old, there⟩ := Option.isSome_iff_exists.mp allocated
    have holds := represents.keylog old there
    have text := holds.text
    have sized := holds.size
    simp only [secretSection, there, Option.map_some, Option.some.injEq] at found
    -- The secret and its line feed are written as one extension of the text.
    rw [← Nat.add_assoc, Memory.write_write] at found
    simp only [KEYLOG_BUFFER_HEADROOM, KEYLOG_BUFFER_TAILROOM] at sized
    refine ⟨found ▸ holds.size, ?_, ?_⟩
    · rw [← found, Memory.write_fits, holds.overrun]
      simp only [KEYLOG_BUFFER_HEADROOM, List.length_append, List.length_singleton]
      omega
    · simp only [Log.collect]
      rw [← represents.index] at text
      have extended := Memory.read_write_extend old KEYLOG_BUFFER_HEADROOM dumper.keylogIdx
        (secret.bytes ++ [10])
      rw [← found, ← index, keylogText_append, ← text, ← extended, List.length_append,
        Nat.add_assoc]
      rfl
  · intro missing
    simp only [secretSection, Option.map_eq_none_iff] at missing
    rw [missing] at allocated
    exact absurd allocated Bool.false_ne_true
  · simpa [Log.collect, Log.chunks, buffers, secretSection] using represents.written
  · simpa [Log.collect, buffers] using represents.sizes
  · intro lines dumpSize member
    simp only [Log.collect, List.mem_append, List.mem_singleton, reduceCtorEq, or_false] at member
    exact represents.discards lines dumpSize member

end Refinement

end Ptnet.PcapLog
