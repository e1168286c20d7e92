import Ptnet.PcapRuns

/-!
The file that a dump makes: the preamble and then all that the callback has got. Reading it
gives the packets that the dumper has accepted, one for one.
-/

namespace Ptnet.PcapStream

open ByteMemory PcapDump PcapFormat PcapLog PcapRuns Machine

structure Shown where
  time : Timeval
  origLen : Nat
  data : Bytes
  deriving DecidableEq, Repr

structure Capture where
  linktype : Nat
  snaplen : Nat
  packets : List Shown
  deriving DecidableEq, Repr

section Reader

def shownRecord (record : PcapRecord) : Shown where
  time := ⟨record.tsSec, record.tsUsec⟩
  origLen := record.origLen
  data := record.data

def shownPacket (packet : EnhancedPacket) : Shown where
  time := ⟨(packet.timestamp / 1000000 : Nat), (packet.timestamp % 1000000 : Nat)⟩
  origLen := packet.origLen
  data := packet.data

def readCapture (mode : Mode) (bytes : Bytes) : Option Capture :=
  if mode = .pcapngDump then
    (parsePcapng bytes).map fun file =>
      ⟨file.linktype, file.snaplen, file.packets.map shownPacket⟩
  else
    (parsePcap bytes).map fun file => ⟨file.network, file.snaplen, file.records.map shownRecord⟩

/-- The time as the format stores it: two integers of 32 bits, or microseconds in 64 bits. -/
def storedTime (mode : Mode) (tv : Timeval) : Timeval :=
  if mode = .pcapngDump then
    let usec := ((tv.tvSec * 1000000 + tv.tvUsec) % 2 ^ 64).toNat
    ⟨(usec / 1000000 : Nat), (usec % 1000000 : Nat)⟩
  else ⟨low32 tv.tvSec, low32 tv.tvUsec⟩

theorem storedTime_exact (mode : Mode) (tv : Timeval) (sec : 0 ≤ tv.tvSec ∧ tv.tvSec < 2 ^ 32)
    (usec : 0 ≤ tv.tvUsec ∧ tv.tvUsec < 1000000) : storedTime mode tv = tv := by
  obtain ⟨tvSec, tvUsec⟩ := tv
  simp only at sec usec
  unfold storedTime
  split
  · have whole : (tvSec * 1000000 + tvUsec) % 2 ^ 64 = tvSec * 1000000 + tvUsec :=
      Int.emod_eq_of_lt (by omega) (by omega)
    simp only [whole, Timeval.mk.injEq]
    omega
  · simp only [low32, Timeval.mk.injEq]
    omega

end Reader

structure Session where
  trailers : Trailers
  platform : Platform
  mode : Mode
  snaplen : Nat
  maxDumpSize : Nat
  /-- What the packet buffer and the preamble find in memory. -/
  cells : Nat → UInt8
  preambleCells : Nat → UInt8
  calls : List Call

namespace Session

variable (session : Session)

def created : Dumper :=
  pcapNewDumper session.mode session.snaplen session.maxDumpSize session.cells

def destroyed : Dumper :=
  pcapDestroyDumper (run (step session.trailers) session.created session.calls)

def preamble : Bytes :=
  let allocated := pcapGetPreamble session.created session.platform session.preambleCells
  allocated.1.read 0 allocated.2

def stream : Bytes := session.preamble ++ session.destroyed.exported.flatten

/-- The packets for which `pcap_dump_packet` has returned true. -/
def acceptedPackets : List (Packet × Timeval) :=
  (trace (step session.trailers) (observation session.trailers) session.created
    session.calls).flatten.filterMap fun
      | .packet pkt tv _ => some (pkt, tv)
      | .secret _ => none

/-- No write has left the preamble, the packet buffer or the keylog memory. -/
def InBounds : Prop :=
  (pcapGetPreamble session.created session.platform session.preambleCells).1.overrun = false ∧
    session.destroyed.buffer.overrun = false ∧
    ∀ memory, session.destroyed.keylogBuf = some memory → memory.overrun = false

/-- The stream is a file with just the accepted packets, at the times given by `time`. -/
def Lossless (time : Timeval → Timeval) : Prop :=
  session.InBounds ∧ readCapture session.mode session.stream = some
    { linktype := LINKTYPE_RAW
      snaplen := session.snaplen
      packets := session.acceptedPackets.map fun (pkt, tv) =>
        ⟨time tv, pkt.bytes.length, pkt.bytes.take (min pkt.bytes.length session.snaplen)⟩ }

end Session

def Call.isSecret : Call → Bool
  | .dumpSecret _ _ => true
  | _ => false

section Preambles

def filled (cells : Nat → UInt8) (bytes : Bytes) : Memory × Nat :=
  (Memory.write { cells := cells, size := bytes.length } 0 bytes, bytes.length)

theorem filled_read (cells : Nat → UInt8) (bytes : Bytes) :
    (filled cells bytes).1.read 0 (filled cells bytes).2 = bytes :=
  Memory.read_write_same _ 0 bytes

theorem filled_overrun (cells : Nat → UInt8) (bytes : Bytes) :
    (filled cells bytes).1.overrun = false :=
  Memory.write_fits _ 0 bytes (by simp)

theorem pcapHeader_preamble (dumper : Dumper) (platform : Platform) (cells : Nat → UInt8)
    (raw : dumper.mode = .pcapDump) : pcapGetPreamble dumper platform cells =
      filled cells (pcapHeader dumper.snaplen LINKTYPE_RAW) := by
  have length : (pcapHeader dumper.snaplen LINKTYPE_RAW).length = 24 := by simp [pcapHeader]
  have ng : dumper.mode ≠ .pcapngDump := by simp [raw]
  have trailer : dumper.mode ≠ .pcapDumpWithTrailer := by simp [raw]
  rw [filled, length]
  simp only [pcapGetPreamble, if_neg ng, getPcapFileHeader, if_neg trailer, writeLe]
  simp (disch := first | (simp; done) | fail) only [Memory.write_adjoining, List.append_assoc]
  rfl

def platformOptions (platform : Platform) : List Opt :=
  [⟨2, platform.device⟩, ⟨3, platform.os⟩, ⟨4, platform.appver⟩]

theorem pcapngOption_short (type : Nat) (data : Bytes) (short : data.length ≤ 65528) :
    (pcapngOption type data).length = data.length ∧
      (pcapngOption type data).padding = padding data.length ∧
      (pcapngOption type data).totLength = (Opt.encode ⟨type, data⟩).length := by
  have same : data.length % 2 ^ 16 = data.length := Nat.mod_eq_of_lt (by omega)
  have padded := padding_lt data.length
  have aligned := padding_aligned data.length
  refine ⟨same, by simp only [pcapngOption, same], ?_⟩
  simp only [pcapngOption, same, Opt.encode, List.length_append, encodeLe_length, zeros_length]
  omega

theorem writePcapngOpt_writes (memory : Memory) (offset type : Nat) (data : Bytes)
    (short : data.length ≤ 65528) :
    writePcapngOpt memory offset (pcapngOption type data) =
      memory.write offset (Opt.encode ⟨type, data⟩) := by
  obtain ⟨length, padding, _⟩ := pcapngOption_short type data short
  simp only [writePcapngOpt, writeLe, length, padding]
  simp only [pcapngOption, List.take_length]
  simp (disch := first | (simp; done) | (simp; omega) | fail) only [Memory.write_adjoining,
    List.append_assoc]
  rfl

theorem pcapng_preamble (dumper : Dumper) (platform : Platform) (cells : Nat → UInt8)
    (ng : dumper.mode = .pcapngDump) (device : platform.device.length ≤ 65528)
    (os : platform.os.length ≤ 65528) (appver : platform.appver.length ≤ 65528) :
    pcapGetPreamble dumper platform cells =
      filled cells ((sectionBlock (platformOptions platform)).encode ++
        (interfaceBlock LINKTYPE_RAW dumper.snaplen).encode) := by
  obtain ⟨_, _, hw⟩ := pcapngOption_short 2 platform.device device
  obtain ⟨_, _, osLength⟩ := pcapngOption_short 3 platform.os os
  obtain ⟨_, _, app⟩ := pcapngOption_short 4 platform.appver appver
  have total : (sectionBlock (platformOptions platform)).body.length + 12 = SHB_SIZE +
      (Opt.encode ⟨2, platform.device⟩).length + (Opt.encode ⟨3, platform.os⟩).length +
        (Opt.encode ⟨4, platform.appver⟩).length + 4 := by
    simp only [sectionBlock, platformOptions, List.length_append, encodeLe_length,
      List.flatMap_cons, List.flatMap_nil, List.length_nil, SHB_SIZE]
    omega
  have length : ((sectionBlock (platformOptions platform)).encode ++
      (interfaceBlock LINKTYPE_RAW dumper.snaplen).encode).length =
        (sectionBlock (platformOptions platform)).body.length + 12 + (IDB_SIZE + 4) := by
    simp [Block.encode, interfaceBlock, IDB_SIZE]
    omega
  rw [filled, length]
  simp only [pcapGetPreamble, if_pos ng, getPcapngPreamble, hw, osLength, app, writeLe,
    writePcapngOpt_writes _ _ _ _ device, writePcapngOpt_writes _ _ _ _ os,
    writePcapngOpt_writes _ _ _ _ appver, ← total]
  simp only [SHB_SIZE, IDB_SIZE]
  simp (disch := first | (simp; done) | (simp; omega) | fail) only [Memory.write_adjoining,
    List.append_assoc]
  rw [Memory.write_adjoining _ 0 _ _ _ (by simp [total, SHB_SIZE]; omega)]
  simp [Block.encode, sectionBlock, interfaceBlock, platformOptions]

theorem write_overrun (memory : Memory) (offset : Nat) (bytes : Bytes)
    (before : memory.overrun = true) : (memory.write offset bytes).overrun = true := by
  rw [Memory.write, before, Bool.true_or]

/-- A device name whose option wraps the 16 bits of its total length leaves the preamble. -/
theorem longDevice_overruns (dumper : Dumper) (platform : Platform) (cells : Nat → UInt8)
    (ng : dumper.mode = .pcapngDump) (device : platform.device.length = 65529)
    (os : platform.os = []) (appver : platform.appver = []) :
    (pcapGetPreamble dumper platform cells).1.overrun = true := by
  have total : (pcapngOption 2 platform.device).totLength = 0 := by
    simp only [pcapngOption, device]
    rfl
  have data : (pcapngOption 2 platform.device).data.take
      (pcapngOption 2 platform.device).length = platform.device := by
    simp only [pcapngOption, device]
    exact List.take_of_length_le (Nat.le_of_eq device)
  simp only [pcapGetPreamble, if_pos ng, getPcapngPreamble, writeLe, writePcapngOpt, total, data]
  iterate 14 apply write_overrun
  simp [Memory.write, device, os, appver, pcapngOption, padding, SHB_SIZE, IDB_SIZE]

end Preambles

section Chunks

def packetOf (chunk : Chunk) : Option (Packet × Timeval) :=
  match chunk.origin with
  | .packet pkt tv _ => some (pkt, tv)
  | .secrets _ => none

def packetSeen : Observation → Option (Packet × Timeval)
  | .packet pkt tv _ => some (pkt, tv)
  | .secret _ => none

def itemOf (snaplen : Nat) (chunk : Chunk) : Item :=
  match chunk.origin with
  | .packet pkt tv _ => .packet (enhancedPacket snaplen pkt tv)
  | .secrets lines => .secrets (keylogSecrets lines)

theorem dumped_packets (history : List Event) :
    (dumped history).filterMap packetOf = (observed history).filterMap packetSeen := by
  induction history with
  | nil => rfl
  | cons event rest ih =>
      rw [dumped, observed, List.flatMap_cons, List.flatMap_cons, List.filterMap_append,
        List.filterMap_append]
      refine congrArg₂ (· ++ ·) ?_ ih
      cases event with
      | dumped chunk =>
          cases origin : chunk.origin with
          | packet pkt tv uid => simp [packetOf, Chunk.observed, packetSeen, origin]
          | secrets lines => simp [packetOf, Chunk.observed, origin]
      | accepted line => rfl
      | discarded lines dumpSize => rfl
      | exported chunks => rfl

def secretSeen : Observation → Option Bytes
  | .packet _ _ _ => none
  | .secret line => some line

theorem accepted_secrets (history : List Event) :
    accepted history = (observed history).filterMap secretSeen := by
  induction history with
  | nil => rfl
  | cons event rest ih =>
      rw [accepted, observed, List.flatMap_cons, List.flatMap_cons, List.filterMap_append]
      refine congrArg₂ (· ++ ·) ?_ ih
      cases event with
      | dumped chunk =>
          cases origin : chunk.origin with
          | packet pkt tv uid => simp [Chunk.observed, secretSeen, origin]
          | secrets lines => simp [Chunk.observed, origin]
      | accepted line => rfl
      | discarded lines dumpSize => rfl
      | exported chunks => rfl

theorem trace_secretless (trailers : Trailers) (dumper : Dumper) (calls : List Call)
    (secretless : ∀ call ∈ calls, Call.isSecret call = false) :
    (trace (step trailers) (observation trailers) dumper calls).flatten.filterMap secretSeen =
      [] := by
  induction calls generalizing dumper with
  | nil => rfl
  | cons call rest ih =>
      have here := secretless call List.mem_cons_self
      have later := ih (step trailers dumper call) fun other member =>
        secretless other (List.mem_cons_of_mem call member)
      rw [trace, List.flatten_cons, List.filterMap_append, later, List.append_nil]
      cases call with
      | refreshTime nowMs => rfl
      | checkExport => rfl
      | dumpSecret secret cells => exact absurd here.symm Bool.false_ne_true
      | dumpPacket pkt tv uid =>
          rw [observation]
          split <;> rfl

theorem packetOf_filter (chunks : List Chunk) :
    (chunks.filter Chunk.isPacket).filterMap packetOf = chunks.filterMap packetOf := by
  induction chunks with
  | nil => rfl
  | cons chunk rest ih =>
      cases origin : chunk.origin with
      | packet pkt tv uid => simp [Chunk.isPacket, packetOf, origin, ih]
      | secrets lines => simp [Chunk.isPacket, packetOf, origin, ih]

/-- The chunks of a log hold the packets that the calls have accepted. -/
theorem chunks_packets (log : Log) (consistent : log.Consistent) :
    log.chunks.filterMap packetOf = (observed log.history).filterMap packetSeen := by
  have waiting : log.waiting.filter Chunk.isPacket = log.waiting :=
    List.filter_eq_self.mpr consistent.waiting
  rw [← dumped_packets, consistent.packets, Log.chunks, List.filterMap_append,
    List.filterMap_append, emitted, packetOf_filter]

theorem exportBuffer_empty (dumper : Dumper) : (exportBuffer dumper).bufferIdx = 0 := by
  unfold exportBuffer flushBuffer
  split
  · assumption
  · rfl

theorem exported_contents (dumper : Dumper) (log : Log) (represents : Represents dumper log)
    (empty : dumper.bufferIdx = 0) : dumper.exported.flatten = contents log.chunks := by
  have buffered := represents.buffered
  rw [empty, Memory.read_zero] at buffered
  rw [represents.exported, Log.chunks, contents, List.flatMap_append]
  change _ = _ ++ contents log.waiting
  rw [← buffered, List.append_nil, List.flatMap_def, List.map_flatten, List.flatten_flatten,
    List.map_map]
  rfl

theorem enhancedPacket_fits (snaplen : Nat) (pkt : Packet) (tv : Timeval) :
    (enhancedPacket snaplen pkt tv).Fits := by
  have short := pkt.short
  constructor
  · simp only [enhancedPacket]
    omega
  · exact Nat.lt_trans short (by decide)
  · simp only [enhancedPacket, List.length_take]
    omega

theorem pcapRecord_fits (snaplen : Nat) (pkt : Packet) (tv : Timeval) :
    (pcapRecord snaplen pkt tv).Fits := by
  have short := pkt.short
  constructor
  · simp only [pcapRecord, low32]
    omega
  · simp only [pcapRecord, low32]
    omega
  · simp only [pcapRecord, List.length_take]
    omega
  · exact Nat.lt_trans short (by decide)

theorem itemOf_fits (mode : Mode) (snaplen : Nat) (chunk : Chunk)
    (written : chunk.Written mode snaplen) : (itemOf snaplen chunk).Fits := by
  unfold Chunk.Written at written
  unfold itemOf
  cases origin : chunk.origin with
  | packet pkt tv uid => exact enhancedPacket_fits snaplen pkt tv
  | secrets lines =>
      rw [origin] at written
      obtain ⟨_, _, short⟩ := written
      constructor
      · simp [keylogSecrets]
      · simp only [keylogSecrets, PCAP_BUFFER_SIZE] at short ⊢
        omega

theorem itemOf_content (snaplen : Nat) (chunk : Chunk)
    (written : chunk.Written .pcapngDump snaplen) :
    chunk.content = (itemOf snaplen chunk).block.encode := by
  unfold Chunk.Written at written
  unfold itemOf
  cases origin : chunk.origin with
  | packet pkt tv uid =>
      rw [origin] at written
      exact written.2.2.1 rfl
  | secrets lines =>
      rw [origin] at written
      exact written.1

theorem items_packets (options : List Opt) (linktype snaplen : Nat) (chunks : List Chunk) :
    (⟨options, linktype, snaplen, chunks.map (itemOf snaplen)⟩ : PcapngFile).packets =
      (chunks.filterMap packetOf).map fun (pkt, tv) => enhancedPacket snaplen pkt tv := by
  unfold PcapngFile.packets
  induction chunks with
  | nil => rfl
  | cons chunk rest ih =>
      cases origin : chunk.origin with
      | packet pkt tv uid => simpa [itemOf, packetOf, origin] using ih
      | secrets lines => simpa [itemOf, packetOf, origin] using ih

end Chunks

section Lossless

variable (session : Session)

theorem destroyed_refines : ∃ log, Refines session.destroyed log ∧
    observed log.history = (trace (step session.trailers) (observation session.trailers)
      session.created session.calls).flatten := by
  obtain ⟨ran, refines, saw⟩ := run_refines session.trailers session.created {}
    ⟨start_represents _ _ _ _, start_consistent⟩ session.calls
  obtain ⟨log, ended, same⟩ := exportBuffer_logged _ ran refines
  exact ⟨log, ended, same.trans saw⟩

theorem destroyed_packets (log : Log) (consistent : log.Consistent) (saw : observed log.history =
    (trace (step session.trailers) (observation session.trailers) session.created
      session.calls).flatten) :
    log.chunks.filterMap packetOf = session.acceptedPackets := by
  rw [chunks_packets log consistent, saw]
  rfl

theorem destroyed_settings : settings session.destroyed =
    (session.mode, session.snaplen, session.maxDumpSize) := by
  rw [Session.destroyed, pcapDestroyDumper, exportBuffer_settings, run_settings]
  rfl

theorem destroyed_inBounds (log : Log) (refines : Refines session.destroyed log)
    (preamble : (pcapGetPreamble session.created session.platform
      session.preambleCells).1.overrun = false) : session.InBounds :=
  ⟨preamble, refines.represents.overrun, fun memory allocated =>
    (refines.represents.keylog memory allocated).overrun⟩

theorem pcapng_lossless (ng : session.mode = .pcapngDump) (range : session.snaplen ≤ 65535)
    (device : session.platform.device.length ≤ 65528)
    (os : session.platform.os.length ≤ 65528)
    (appver : session.platform.appver.length ≤ 65528) :
    session.Lossless (storedTime session.mode) := by
  obtain ⟨log, refines, saw⟩ := destroyed_refines session
  have packets := destroyed_packets session log refines.consistent saw
  have kept := destroyed_settings session
  simp only [settings, Prod.mk.injEq] at kept
  have written : ∀ chunk ∈ log.chunks, chunk.Written .pcapngDump session.snaplen := by
    intro chunk member
    rw [← ng, ← kept.1, ← kept.2.1]
    exact refines.represents.written chunk member
  have preamble := pcapng_preamble session.created session.platform session.preambleCells ng device
    os appver
  have body : session.destroyed.exported.flatten =
      ((log.chunks.map (itemOf session.snaplen)).map Item.block).flatMap Block.encode := by
    rw [exported_contents _ log refines.represents (exportBuffer_empty _), List.map_map,
      List.flatMap_map, contents]
    apply List.flatMap_congr
    intro chunk member
    exact itemOf_content session.snaplen chunk (written chunk member)
  have parsed := parsePcapng_encoded (platformOptions session.platform) LINKTYPE_RAW session.snaplen
    (log.chunks.map (itemOf session.snaplen)) (by
      intro opt member
      simp only [platformOptions, List.mem_cons, List.not_mem_nil, or_false] at member
      rcases member with rfl | rfl | rfl <;> constructor <;> simp <;> omega) (by
      simp [platformOptions, Opt.encode, padding]
      omega) (by decide) (by omega) (by
      intro item member
      obtain ⟨chunk, within, rfl⟩ := List.mem_map.mp member
      exact itemOf_fits .pcapngDump session.snaplen chunk (written chunk within))
  have stream : session.stream = (sectionBlock (platformOptions session.platform) ::
      interfaceBlock LINKTYPE_RAW session.snaplen ::
        (log.chunks.map (itemOf session.snaplen)).map Item.block).flatMap Block.encode := by
    rw [Session.stream, body, Session.preamble, preamble]
    rw [filled_read, List.flatMap_cons, List.flatMap_cons, List.append_assoc]
    rfl
  have bounds := destroyed_inBounds session log refines (preamble ▸ filled_overrun _ _)
  rw [Session.Lossless, stream, ng, readCapture, if_pos rfl, parsed, Option.map_some,
    items_packets, packets, List.map_map]
  exact ⟨bounds, rfl⟩

theorem secretless_chunks (log : Log) (consistent : log.Consistent)
    (written : ∀ chunk ∈ log.chunks, chunk.Written session.mode session.snaplen)
    (none : accepted log.history = []) (chunk : Chunk) (member : chunk ∈ log.chunks) :
    chunk.isPacket = true := by
  have released : released log.history = [] := by
    have secrets := consistent.secrets
    rw [none, eq_comm, List.append_eq_nil_iff] at secrets
    exact secrets.1
  rcases List.mem_append.mp member with out | waits
  · cases origin : chunk.origin with
    | packet pkt tv uid => simp [Chunk.isPacket, origin]
    | secrets lines =>
        have content := written chunk member
        simp only [Chunk.Written, origin] at content
        obtain ⟨buffer, exported, inside⟩ := List.mem_flatten.mp out
        obtain ⟨event, happened, same⟩ := List.mem_flatMap.mp exported
        have empty := List.flatMap_eq_nil_iff.mp released event happened
        cases event with
        | exported chunks =>
            rw [List.mem_singleton.mp same] at inside
            have lineless := List.flatMap_eq_nil_iff.mp empty chunk inside
            simp only [Chunk.lines, origin] at lineless
            exact absurd lineless content.2.1
        | accepted line => simp at same
        | discarded lines dumpSize => simp at same
        | dumped chunk => simp at same
  · exact consistent.waiting chunk waits

def recordOf (snaplen : Nat) : Packet × Timeval → PcapRecord :=
  fun (pkt, tv) => pcapRecord snaplen pkt tv

/-- Without secrets, the chunks of a PCAP file are the records of its packets. -/
theorem records_contents (snaplen : Nat) (chunks : List Chunk)
    (written : ∀ chunk ∈ chunks, chunk.Written .pcapDump snaplen)
    (packets : ∀ chunk ∈ chunks, chunk.isPacket = true) :
    contents chunks = ((chunks.filterMap packetOf).map (recordOf snaplen)).flatMap
      PcapRecord.encode := by
  induction chunks with
  | nil => rfl
  | cons chunk rest ih =>
      have here := written chunk List.mem_cons_self
      have packet := packets chunk List.mem_cons_self
      have later := ih (fun other member => written other (List.mem_cons_of_mem chunk member))
        fun other member => packets other (List.mem_cons_of_mem chunk member)
      cases origin : chunk.origin with
      | packet pkt tv uid =>
          simp only [Chunk.Written, origin] at here
          have first : (chunk :: rest).filterMap packetOf = (pkt, tv) :: rest.filterMap packetOf :=
            List.filterMap_cons_some (by simp [packetOf, origin])
          rw [first, List.map_cons, List.flatMap_cons, ← later, contents, List.flatMap_cons,
            here.2.1 trivial]
          rfl
      | secrets lines => simp [Chunk.isPacket, origin] at packet

theorem pcap_lossless (raw : session.mode = .pcapDump) (range : session.snaplen ≤ 65535)
    (secretless : ∀ call ∈ session.calls, Call.isSecret call = false) :
    session.Lossless (storedTime session.mode) := by
  obtain ⟨log, refines, saw⟩ := destroyed_refines session
  have packets := destroyed_packets session log refines.consistent saw
  have kept := destroyed_settings session
  simp only [settings, Prod.mk.injEq] at kept
  have written : ∀ chunk ∈ log.chunks, chunk.Written session.mode session.snaplen := by
    intro chunk member
    rw [← kept.1, ← kept.2.1]
    exact refines.represents.written chunk member
  have none : accepted log.history = [] := by
    rw [accepted_secrets, saw]
    exact trace_secretless session.trailers session.created session.calls secretless
  have records := records_contents session.snaplen log.chunks (raw ▸ written)
    (secretless_chunks session log refines.consistent written none)
  have preamble := pcapHeader_preamble session.created session.platform session.preambleCells raw
  have stream : session.stream = pcapHeader session.snaplen LINKTYPE_RAW ++
      (session.acceptedPackets.map (recordOf session.snaplen)).flatMap PcapRecord.encode := by
    rw [Session.stream, Session.preamble, preamble, exported_contents _ log refines.represents
      (exportBuffer_empty _), records, packets]
    rw [filled_read]
    rfl
  have fits : ∀ record ∈ session.acceptedPackets.map (recordOf session.snaplen), record.Fits := by
    intro record member
    obtain ⟨packet, _, rfl⟩ := List.mem_map.mp member
    exact pcapRecord_fits session.snaplen packet.1 packet.2
  have parsed := parsePcap_encoded session.snaplen LINKTYPE_RAW _ (by omega) (by decide) fits
  have bounds := destroyed_inBounds session log refines (preamble ▸ filled_overrun _ _)
  rw [Session.Lossless, stream, raw, readCapture, if_neg (by decide), parsed, Option.map_some,
    List.map_map]
  exact ⟨bounds, rfl⟩

/-- The file of a dump is well formed and loses no accepted packet. Times are as the format
stores them, which is exact up to the year 2106. -/
theorem session_lossless (plain : session.mode = .pcapDump ∨ session.mode = .pcapngDump)
    (range : 1 ≤ session.snaplen ∧ session.snaplen ≤ 65535)
    (secrets : session.mode = .pcapDump → ∀ call ∈ session.calls, Call.isSecret call = false)
    (device : session.platform.device.length ≤ 65528)
    (os : session.platform.os.length ≤ 65528)
    (appver : session.platform.appver.length ≤ 65528) :
    session.Lossless (storedTime session.mode) ∧
      ∀ tv : Timeval, 0 ≤ tv.tvSec ∧ tv.tvSec < 2 ^ 32 → 0 ≤ tv.tvUsec ∧ tv.tvUsec < 1000000 →
        storedTime session.mode tv = tv := by
  constructor
  · rcases plain with raw | ng
    · exact pcap_lossless session raw range.2 (secrets raw)
    · exact pcapng_lossless session ng range.2 device os appver
  · exact storedTime_exact session.mode

end Lossless

section Examples

def noTrailers : Trailers := ⟨fun _ => ⟨zeros 20, zeros_length 20⟩, fun _ => 0⟩

def truncatedAfterSecret : Session where
  trailers := noTrailers
  platform := ⟨[65, 66], [67], []⟩
  mode := .pcapngDump
  snaplen := 3
  maxDumpSize := 0
  cells := fun _ => 7
  preambleCells := fun _ => 7
  calls := [.refreshTime 5000, .dumpSecret ⟨[1, 2, 3], by decide⟩ (some fun _ => 7), .checkExport,
    .dumpPacket { bytes := [69, 0, 0, 5, 1], short := by decide } ⟨1700000000, 250⟩ 10042]

theorem truncatedAfterSecret_lossless :
    truncatedAfterSecret.Lossless (storedTime .pcapngDump) :=
  (session_lossless truncatedAfterSecret (.inr rfl) (by decide) (by intro raw; cases raw)
    (by decide) (by decide) (by decide)).1

def lateTime : Session where
  trailers := noTrailers
  platform := ⟨[], [], []⟩
  mode := .pcapDump
  snaplen := 65535
  maxDumpSize := 0
  cells := fun _ => 0
  preambleCells := fun _ => 0
  calls := [.dumpPacket { bytes := [69], short := by decide } ⟨2 ^ 32, 0⟩ 10042]

def longDevice : Session where
  trailers := noTrailers
  platform := ⟨List.replicate 65529 0x41, [], []⟩
  mode := .pcapngDump
  snaplen := 65535
  maxDumpSize := 0
  cells := fun _ => 0
  preambleCells := fun _ => 0
  calls := []

/-- Seconds do not fit 32 bits forever, and an option does not fit 16 bits before its data. -/
theorem lateTime_and_longDevice_fail : ¬ lateTime.Lossless id ∧ ¬ longDevice.Lossless id := by
  constructor
  · intro lossless
    exact absurd lossless.2 (by decide +kernel)
  · intro lossless
    have overruns := longDevice_overruns longDevice.created longDevice.platform
      longDevice.preambleCells rfl List.length_replicate rfl rfl
    exact absurd (overruns.symm.trans lossless.1.1) (by decide)

end Examples

end Ptnet.PcapStream
