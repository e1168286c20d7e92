import Ptnet.PcapStream

/-!
Utils.iterPcapRecords, and pcap_dump/UDPDumper.kt, which sends a datagram for each record that
it yields. An exception is `none`; arrays have less than 2^31 bytes.
-/

namespace Ptnet.PcapRecords

open ByteMemory PcapDump PcapFormat PcapLog PcapRuns PcapStream Machine

section Iterator

/-- `ByteBuffer.getInt` in the order of the host. -/
def getInt (data : Bytes) (index : Nat) : Option (BitVec 32) :=
  if index + 4 ≤ data.length then
    some (BitVec.ofNat 32 (decodeLe ((data.drop index).take 4)))
  else none

/-- `ByteBuffer.position` with an argument. -/
def setPosition (data : Bytes) (position : BitVec 32) : Option Nat :=
  if 0 ≤ position.toInt ∧ position.toInt ≤ data.length then some position.toNat else none

def hasNext (pcapngFormat : Bool) (remaining : Nat) : Bool :=
  -- 12: min block size, 16: sizeof(pcap_rec)
  if pcapngFormat then decide (12 ≤ remaining) else decide (16 < remaining)

def next (pcapngFormat : Bool) (data : Bytes) (position : Nat) : Option (BitVec 32 × Nat) := do
  let recLen ← if pcapngFormat then getInt data (position + 4)
    else (getInt data (position + 8)).map (· + 16)
  let position ← setPosition data (BitVec.ofNat 32 position + recLen)
  some (recLen, position)

/-- All that the iterator yields from a position on; `none` also when the fuel runs out. -/
def iterPcapRecords (pcapngFormat : Bool) (data : Bytes) : Nat → Nat → Option (List (BitVec 32))
  | 0, _ => none
  | fuel + 1, position =>
      if hasNext pcapngFormat (data.length - position) then
        match next pcapngFormat data position with
        | none => none
        | some (recLen, position) =>
            (iterPcapRecords pcapngFormat data fuel position).map fun rest => recLen :: rest
      else some []

/-- The bytes of a `DatagramPacket`. -/
def datagram (data : Bytes) (offset len : BitVec 32) : Option Bytes :=
  if 0 ≤ offset.toInt ∧ 0 ≤ len.toInt ∧ offset.toInt + len.toInt ≤ data.length then
    some ((data.drop offset.toNat).take len.toNat)
  else none

/-- The address of `mServer`, as far as it limits a datagram. -/
inductive Inet where
  | inet4
  | inet6
  deriving DecidableEq, Repr

/-- What is left of 65535 bytes behind the UDP header, and over IPv4 behind the IP header. -/
def Inet.maxPayload : Inet → Nat
  | .inet4 => 65507
  | .inet6 => 65527

/-- `DatagramSocket.send`, which throws an `IOException` for a datagram that is too long. -/
def send (mServer : Inet) (packet : Bytes) : Option Bytes :=
  if packet.length ≤ mServer.maxPayload then some packet else none

/-- The loop of `dumpData` over the yielded lengths. -/
def sendRecords (mServer : Inet) (data : Bytes) :
    BitVec 32 → List (BitVec 32) → Option (List Bytes)
  | _, [] => some []
  | pos, recLen :: rest => do
      let packet ← datagram data pos recLen
      let sent ← send mServer packet
      let later ← sendRecords mServer data (pos + recLen) rest
      some (sent :: later)

def sendHeader (mServer : Inet) (mSendHeader : Bool) (hdr : Bytes) : Option (List Bytes) :=
  if mSendHeader then (send mServer hdr).map fun sent => [sent] else some []

/-- The datagrams of `UDPDumper.dumpData`. -/
def dumpData (mServer : Inet) (mSendHeader mPcapngFormat : Bool) (hdr data : Bytes) (fuel : Nat) :
    Option (List Bytes) := do
  let header ← sendHeader mServer mSendHeader hdr
  let lengths ← iterPcapRecords mPcapngFormat data fuel 0
  let sent ← sendRecords mServer data 0 lengths
  some (header ++ sent)

end Iterator

section Pieces

def lengthAt (pcapngFormat : Bool) : Nat := if pcapngFormat then 4 else 8
def lengthLess (pcapngFormat : Bool) : Nat := if pcapngFormat then 0 else 16

structure Declares (pcapngFormat : Bool) (piece : Bytes) : Prop where
  field : ∃ before value after, piece = before ++ (encodeLe 4 value ++ after) ∧
    before.length = lengthAt pcapngFormat ∧ value + lengthLess pcapngFormat = piece.length
  short : piece.length < 2 ^ 31

def size (piece : Bytes) : BitVec 32 := BitVec.ofNat 32 piece.length

theorem small_toInt (value : Nat) (small : value < 2 ^ 31) :
    (BitVec.ofNat 32 value).toInt = value := by
  have low : (BitVec.ofNat 32 value).toNat = value := by
    rw [BitVec.toNat_ofNat, Nat.mod_eq_of_lt]
    omega
  rw [BitVec.toInt_eq_toNat_of_lt, low]
  omega

theorem small_toNat (value : Nat) (small : value < 2 ^ 31) :
    (BitVec.ofNat 32 value).toNat = value := by
  rw [BitVec.toNat_ofNat, Nat.mod_eq_of_lt]
  omega

theorem getInt_field (front rest : Bytes) (value index : Nat) (there : index = front.length)
    (small : value < 2 ^ 31) :
    getInt (front ++ (encodeLe 4 value ++ rest)) index = some (BitVec.ofNat 32 value) := by
  have within : index + 4 ≤ (front ++ (encodeLe 4 value ++ rest)).length := by
    simp only [List.length_append, encodeLe_length]
    omega
  have length := encodeLe_length 4 value
  rw [getInt, if_pos within, there, List.drop_left, List.take_left' length, decodeLe_encodeLe,
    Nat.mod_eq_of_lt (by omega)]

theorem setPosition_within (data : Bytes) (position recLen : Nat)
    (within : position + recLen ≤ data.length) (short : data.length < 2 ^ 31) :
    setPosition data (BitVec.ofNat 32 position + BitVec.ofNat 32 recLen) =
      some (position + recLen) := by
  have small : position + recLen < 2 ^ 31 := by omega
  rw [← BitVec.ofNat_add, setPosition, small_toInt _ small, small_toNat _ small]
  exact if_pos ⟨by omega, by omega⟩

theorem next_piece (pcapngFormat : Bool) (front piece rest : Bytes)
    (declares : Declares pcapngFormat piece) (short : (front ++ (piece ++ rest)).length < 2 ^ 31) :
    next pcapngFormat (front ++ (piece ++ rest)) front.length =
      some (size piece, front.length + piece.length) := by
  obtain ⟨before, value, after, shape, place, total⟩ := declares.field
  have small := declares.short
  have moved := setPosition_within (front ++ (piece ++ rest)) front.length piece.length
    (by simp) short
  have found : getInt (front ++ (piece ++ rest)) (front.length + lengthAt pcapngFormat) =
      some (BitVec.ofNat 32 value) := by
    have field := getInt_field (front ++ before) (after ++ rest) value
      (front.length + lengthAt pcapngFormat) (by simp [place]) (by omega)
    rw [shape]
    simpa using field
  cases pcapngFormat with
  | true =>
      simp only [lengthAt, lengthLess, ↓reduceIte, Nat.add_zero] at found total
      rw [← total] at moved
      simp [next, found, size, ← total, moved]
  | false =>
      simp only [lengthAt, lengthLess, Bool.false_eq_true, ↓reduceIte] at found total
      have sum : BitVec.ofNat 32 value + 16 = BitVec.ofNat 32 piece.length := by
        rw [← total, BitVec.ofNat_add]
        rfl
      simp only [next, Bool.false_eq_true, ↓reduceIte, found, Option.map_some, sum, moved, size,
        Option.bind_eq_bind, Option.bind_some]

def Goes (pcapngFormat : Bool) : List Bytes → Bytes → Prop
  | [], rest => hasNext pcapngFormat rest.length = false
  | piece :: pieces, rest =>
      hasNext pcapngFormat (piece.length + (pieces.flatten.length + rest.length)) = true ∧
        Goes pcapngFormat pieces rest

theorem iterate_pieces (pcapngFormat : Bool) (pieces : List Bytes) (front rest : Bytes)
    (declared : ∀ piece ∈ pieces, Declares pcapngFormat piece)
    (goes : Goes pcapngFormat pieces rest)
    (short : (front ++ (pieces.flatten ++ rest)).length < 2 ^ 31) (fuel : Nat)
    (enough : pieces.length < fuel) :
    iterPcapRecords pcapngFormat (front ++ (pieces.flatten ++ rest)) fuel front.length =
      some (pieces.map size) := by
  induction pieces generalizing front fuel with
  | nil =>
      obtain ⟨fuel, rfl⟩ := Nat.exists_eq_succ_of_ne_zero (Nat.ne_of_gt enough)
      have left : (front ++ rest).length - front.length = rest.length := by simp
      simp only [List.flatten_nil, List.nil_append, iterPcapRecords, left]
      rw [if_neg (by rw [goes]; exact Bool.false_ne_true)]
      rfl
  | cons piece pieces ih =>
      obtain ⟨fuel, rfl⟩ := Nat.exists_eq_succ_of_ne_zero (Nat.ne_of_gt (Nat.zero_lt_of_lt enough))
      have shape : front ++ ((piece :: pieces).flatten ++ rest) =
          front ++ (piece ++ (pieces.flatten ++ rest)) := by simp
      have later := ih (front ++ piece)
        (fun other member => declared other (List.mem_cons_of_mem piece member)) goes.2
        (by simpa using short) fuel (Nat.lt_of_succ_lt_succ enough)
      have taken := next_piece pcapngFormat front piece (pieces.flatten ++ rest)
        (declared piece List.mem_cons_self) (shape ▸ short)
      have left : (front ++ (piece ++ (pieces.flatten ++ rest))).length - front.length =
          piece.length + (pieces.flatten.length + rest.length) := by
        simp only [List.length_append]
        omega
      rw [List.append_assoc, List.length_append] at later
      rw [shape, iterPcapRecords, left, if_pos goes.1, taken]
      simp only [later, Option.map_some, List.map_cons]

/-- The pieces are sent one by one, up to the first that is too long. -/
theorem sendRecords_pieces (mServer : Inet) (pieces : List Bytes) (front rest : Bytes)
    (short : (front ++ (pieces.flatten ++ rest)).length < 2 ^ 31) :
    sendRecords mServer (front ++ (pieces.flatten ++ rest)) (size front) (pieces.map size) =
      if ∀ piece ∈ pieces, piece.length ≤ mServer.maxPayload then some pieces else none := by
  induction pieces generalizing front with
  | nil => simp [sendRecords]
  | cons piece pieces ih =>
      have shape : front ++ ((piece :: pieces).flatten ++ rest) =
          front ++ piece ++ (pieces.flatten ++ rest) := by simp
      have later := ih (front ++ piece) (shape ▸ short)
      have bounds := short
      simp only [List.flatten_cons, List.length_append] at bounds
      have first : datagram (front ++ piece ++ (pieces.flatten ++ rest)) (size front)
          (size piece) = some piece := by
        rw [datagram, size, size, small_toInt _ (by omega), small_toInt _ (by omega),
          small_toNat _ (by omega), small_toNat _ (by omega)]
        have inside : front.length + piece.length ≤
            (front ++ piece ++ (pieces.flatten ++ rest)).length := by
          simp only [List.length_append]
          omega
        rw [if_pos ⟨by omega, by omega, by omega⟩, List.append_assoc, List.drop_left, List.take_left]
      have sum : size front + size piece = size (front ++ piece) := by
        simp only [size, List.length_append, BitVec.ofNat_add]
      rw [shape, List.map_cons, sendRecords, first, sum, later]
      have all : (∀ other ∈ piece :: pieces, other.length ≤ mServer.maxPayload) ↔
          piece.length ≤ mServer.maxPayload ∧
            ∀ other ∈ pieces, other.length ≤ mServer.maxPayload := List.forall_mem_cons
      simp only [all, Option.bind_eq_bind, Option.bind_some, send]
      by_cases fits : piece.length ≤ mServer.maxPayload
      · by_cases others : ∀ other ∈ pieces, other.length ≤ mServer.maxPayload
        · rw [if_pos fits, if_pos others, if_pos ⟨fits, others⟩]
          rfl
        · rw [if_pos fits, if_neg others, if_neg fun both : _ ∧ _ => others both.2]
          rfl
      · rw [if_neg fits, if_neg fun both : _ ∧ _ => fits both.1]
        rfl

theorem goes_blocks (pieces : List Bytes) (large : ∀ piece ∈ pieces, 12 ≤ piece.length) :
    Goes true pieces [] := by
  induction pieces with
  | nil => rfl
  | cons piece pieces ih =>
      have here := large piece List.mem_cons_self
      refine ⟨?_, ih fun other member => large other (List.mem_cons_of_mem piece member)⟩
      simp only [hasNext, ↓reduceIte, decide_eq_true_eq]
      omega

/-- Records are told apart up to a rest that a header alone could fill. -/
theorem goes_records (pieces : List Bytes) (rest : Bytes)
    (large : ∀ piece ∈ pieces, 16 ≤ piece.length) (small : rest.length ≤ 16)
    (last : rest = [] → ∀ piece, pieces.getLast? = some piece → 16 < piece.length) :
    Goes false pieces rest := by
  induction pieces with
  | nil => simpa [Goes, hasNext] using small
  | cons piece pieces ih =>
      have here := large piece List.mem_cons_self
      refine ⟨?_, ih (fun other member => large other (List.mem_cons_of_mem piece member)) ?_⟩
      · simp only [hasNext, Bool.false_eq_true, ↓reduceIte, decide_eq_true_eq]
        cases pieces with
        | nil =>
            cases rest with
            | nil =>
                have ends := last rfl piece rfl
                omega
            | cons byte bytes =>
                simp only [List.length_cons]
                omega
        | cons other others =>
            have next := large other (List.mem_cons_of_mem piece List.mem_cons_self)
            simp only [List.flatten_cons, List.length_append]
            omega
      · intro empty other ends
        apply last empty other
        cases pieces with
        | nil => cases ends
        | cons first others => exact ends

end Pieces

section Chunks

theorem block_declares (block : Block) (short : block.encode.length < 2 ^ 31) :
    Declares true block.encode where
  field := by
    refine ⟨encodeLe 4 block.type, block.body.length + 12,
      block.body ++ encodeLe 4 (block.body.length + 12), rfl, encodeLe_length 4 _, ?_⟩
    simp only [lengthLess, Block.encode, List.length_append, encodeLe_length, ↓reduceIte]
    omega
  short := short

theorem record_declares (record : PcapRecord) (short : record.encode.length < 2 ^ 31) :
    Declares false record.encode where
  field := by
    refine ⟨encodeLe 4 record.tsSec ++ encodeLe 4 record.tsUsec, record.data.length,
      encodeLe 4 record.origLen ++ record.data, ?_, ?_, ?_⟩
    · rw [PcapRecord.encode, List.append_assoc]
    · simp [lengthAt]
    · simp only [lengthLess, PcapRecord.encode, List.length_append, encodeLe_length,
        Bool.false_eq_true, ↓reduceIte]
      omega
  short := short

theorem chunk_block (snaplen : Nat) (chunk : Chunk) (written : chunk.Written .pcapngDump snaplen) :
    ∃ block : Block, chunk.content = block.encode :=
  ⟨(itemOf snaplen chunk).block, itemOf_content snaplen chunk written⟩

theorem chunk_record (mode : Mode) (snaplen : Nat) (chunk : Chunk) (pcap : mode ≠ .pcapngDump)
    (written : chunk.Written mode snaplen) (packet : chunk.isPacket = true) :
    ∃ record : PcapRecord, chunk.content = record.encode := by
  cases origin : chunk.origin with
  | secrets lines => simp [Chunk.isPacket, origin] at packet
  | packet pkt tv uid =>
      simp only [Chunk.Written, origin] at written
      cases mode with
      | pcapDump => exact ⟨_, written.2.1 rfl⟩
      | pcapngDump => exact absurd rfl pcap
      | pcapDumpWithTrailer =>
          obtain ⟨origLen, frame, content⟩ := written.2.2.2 rfl
          exact ⟨_, content⟩

def EndsEmpty (chunks : List Chunk) : Prop :=
  ∃ chunk pkt tv uid, chunks.getLast? = some chunk ∧ chunk.origin = .packet pkt tv uid ∧
    pkt.bytes = []

/-- The iterator yields just the sizes of the chunks. -/
def Yields (pcapngFormat : Bool) (chunks : List Chunk) : Prop :=
  ∀ fuel, chunks.length < fuel →
    iterPcapRecords pcapngFormat (contents chunks) fuel 0 =
        some (chunks.map fun chunk => BitVec.ofNat 32 chunk.content.length) ∧
      (chunks.map fun chunk => chunk.content.length).sum = (contents chunks).length

/-- What `dumpData` sends for a buffer, with the preamble if it is still to be sent. -/
structure Exporter where
  mServer : Inet
  mSendHeader : Bool
  hdr : Bytes

/-- The iterator yields just the sizes of the chunks, and the exporter sends each of them. -/
def Splits (exporter : Exporter) (pcapngFormat : Bool) (chunks : List Chunk) : Prop :=
  Yields pcapngFormat chunks ∧
    ∀ fuel, chunks.length < fuel →
      dumpData exporter.mServer exporter.mSendHeader pcapngFormat exporter.hdr (contents chunks)
          fuel =
        some (if exporter.mSendHeader then exporter.hdr :: chunks.map Chunk.content
          else chunks.map Chunk.content)

/-- Each datagram fits, that of the preamble too. -/
def Fits (exporter : Exporter) (chunks : List Chunk) : Prop :=
  (exporter.mSendHeader = true → exporter.hdr.length ≤ exporter.mServer.maxPayload) ∧
    ∀ chunk ∈ chunks, chunk.content.length ≤ exporter.mServer.maxPayload

instance (exporter : Exporter) (chunks : List Chunk) : Decidable (Fits exporter chunks) :=
  inferInstanceAs (Decidable (_ ∧ _))

theorem contents_flatten (chunks : List Chunk) :
    contents chunks = (chunks.map Chunk.content).flatten := List.flatMap_def

theorem yields_of_goes (pcapngFormat : Bool) (chunks : List Chunk)
    (declared : ∀ chunk ∈ chunks, Declares pcapngFormat chunk.content)
    (goes : Goes pcapngFormat (chunks.map Chunk.content) [])
    (short : (contents chunks).length < 2 ^ 31) : Yields pcapngFormat chunks := by
  intro fuel enough
  rw [contents_flatten] at short ⊢
  have pieces : ∀ piece ∈ chunks.map Chunk.content, Declares pcapngFormat piece := by
    intro piece member
    obtain ⟨chunk, within, rfl⟩ := List.mem_map.mp member
    exact declared chunk within
  have yielded := iterate_pieces pcapngFormat (chunks.map Chunk.content) [] [] pieces goes
    (by simpa using short) fuel (by simpa using enough)
  simp only [List.nil_append, List.append_nil, List.length_nil] at yielded
  constructor
  · rw [yielded, List.map_map]
    rfl
  · rw [List.length_flatten, List.map_map]
    rfl

/-- What is yielded is sent if it fits, or else the exporter throws. -/
theorem splits_iff (exporter : Exporter) (pcapngFormat : Bool) (chunks : List Chunk)
    (short : (contents chunks).length < 2 ^ 31) :
    Splits exporter pcapngFormat chunks ↔ Yields pcapngFormat chunks ∧ Fits exporter chunks := by
  refine and_congr_right fun yields => ?_
  have sent := sendRecords_pieces exporter.mServer (chunks.map Chunk.content) [] []
    (by simpa [contents_flatten] using short)
  have sizes : chunks.map (fun chunk => BitVec.ofNat 32 chunk.content.length) =
      (chunks.map Chunk.content).map size := by
    rw [List.map_map]
    rfl
  simp only [List.nil_append, List.append_nil, ← contents_flatten, List.forall_mem_map] at sent
  rw [show size [] = 0 from rfl, ← sizes] at sent
  -- dumpData throws at the first record, or the header, that is larger than a datagram.
  have dumped : ∀ fuel, chunks.length < fuel →
      dumpData exporter.mServer exporter.mSendHeader pcapngFormat exporter.hdr (contents chunks)
          fuel =
        if Fits exporter chunks then
          some (if exporter.mSendHeader then exporter.hdr :: chunks.map Chunk.content
            else chunks.map Chunk.content)
        else none := by
    intro fuel enough
    have header : sendHeader exporter.mServer exporter.mSendHeader exporter.hdr =
        if exporter.mSendHeader = true → exporter.hdr.length ≤ exporter.mServer.maxPayload then
          some (if exporter.mSendHeader then [exporter.hdr] else []) else none := by
      cases exporter.mSendHeader with
      | false => simp [sendHeader]
      | true =>
          by_cases fits : exporter.hdr.length ≤ exporter.mServer.maxPayload <;>
            simp [sendHeader, send, fits]
    simp only [dumpData, (yields fuel enough).1, header, sent, Option.bind_eq_bind,
      Option.bind_some]
    by_cases first : exporter.mSendHeader = true → exporter.hdr.length ≤ exporter.mServer.maxPayload
    · by_cases others : ∀ chunk ∈ chunks, chunk.content.length ≤ exporter.mServer.maxPayload
      · have fits : Fits exporter chunks := ⟨first, others⟩
        rw [if_pos first, if_pos others, if_pos fits]
        cases exporter.mSendHeader <;> rfl
      · have unfit : ¬ Fits exporter chunks := fun fits => others fits.2
        rw [if_pos first, if_neg others, if_neg unfit]
        rfl
    · have unfit : ¬ Fits exporter chunks := fun fits => first fits.1
      rw [if_neg first, if_neg unfit]
      rfl
  constructor
  · intro sends
    by_contra unfit
    have whole := sends (chunks.length + 1) (Nat.lt_succ_self _)
    rw [dumped _ (Nat.lt_succ_self _), if_neg unfit] at whole
    cases whole
  · intro fits fuel enough
    rw [dumped fuel enough, if_pos fits]

/-- An empty packet at the end is not yielded. -/
theorem endsEmpty_unyielded (chunks : List Chunk) (last : Chunk)
    (declared : ∀ chunk ∈ chunks, Declares false chunk.content)
    (large : ∀ chunk ∈ chunks, 16 ≤ chunk.content.length) (bare : last.content.length = 16)
    (short : (contents (chunks ++ [last])).length < 2 ^ 31) : ¬ Yields false (chunks ++ [last]) := by
  intro yields
  have pieces : ∀ piece ∈ chunks.map Chunk.content, Declares false piece ∧ 16 ≤ piece.length := by
    intro piece member
    obtain ⟨chunk, within, rfl⟩ := List.mem_map.mp member
    exact ⟨declared chunk within, large chunk within⟩
  have goes := goes_records (chunks.map Chunk.content) last.content
    (fun piece member => (pieces piece member).2) (by omega) (by
      intro empty
      rw [empty] at bare
      cases bare)
  have shape : contents (chunks ++ [last]) = (chunks.map Chunk.content).flatten ++ last.content := by
    rw [contents_flatten, List.map_append, List.flatten_append]
    simp
  have yielded := iterate_pieces false (chunks.map Chunk.content) [] last.content
    (fun piece member => (pieces piece member).1) goes (by simpa [shape] using short)
    (chunks.length + 2) (by simp)
  have whole := (yields (chunks.length + 2) (by simp)).1
  rw [List.nil_append, ← shape, List.length_nil] at yielded
  rw [yielded] at whole
  have lengths := congrArg List.length (Option.some.inj whole)
  simp at lengths

theorem packet_length (snaplen : Nat) (chunk : Chunk) (pkt : Packet) (tv : Timeval) (uid : Int)
    (origin : chunk.origin = .packet pkt tv uid) (positive : 1 ≤ snaplen)
    (written : chunk.Written .pcapDump snaplen) :
    chunk.content.length = 16 ↔ pkt.bytes = [] := by
  simp only [Chunk.Written, origin] at written
  rw [written.1, ← List.length_eq_zero_iff]
  simp only [pcapRecSize, PCAP_REC_SIZE]
  omega

theorem trailer_length (snaplen : Nat) (chunk : Chunk) (packet : chunk.isPacket = true)
    (written : chunk.Written .pcapDumpWithTrailer snaplen) : 16 < chunk.content.length := by
  cases origin : chunk.origin with
  | secrets lines => simp [Chunk.isPacket, origin] at packet
  | packet pkt tv uid =>
      simp only [Chunk.Written, origin] at written
      rw [written.1]
      simp only [pcapRecSize, PCAP_REC_SIZE, TRAILER_SIZE, ETH_SIZE]
      omega

end Chunks

section Buffers

theorem content_short (chunks : List Chunk) (short : (contents chunks).length < 2 ^ 31)
    (chunk : Chunk) (member : chunk ∈ chunks) : chunk.content.length < 2 ^ 31 := by
  rw [contents_flatten] at short
  have part := (List.sublist_flatten_of_mem (List.mem_map_of_mem (f := Chunk.content)
    member)).length_le
  omega

variable (mode : Mode) (snaplen : Nat) (chunks : List Chunk)
variable (written : ∀ chunk ∈ chunks, chunk.Written mode snaplen)
variable (short : (contents chunks).length < 2 ^ 31)

include written short

theorem blocks_yield (ng : mode = .pcapngDump) : Yields true chunks := by
  subst ng
  have blocks : ∀ chunk ∈ chunks, Declares true chunk.content ∧ 12 ≤ chunk.content.length := by
    intro chunk member
    have small := content_short chunks short chunk member
    obtain ⟨block, content⟩ := chunk_block snaplen chunk (written chunk member)
    rw [content] at small ⊢
    refine ⟨block_declares block small, ?_⟩
    simp only [Block.encode, List.length_append, encodeLe_length]
    omega
  refine yields_of_goes true chunks (fun chunk member => (blocks chunk member).1) ?_ short
  apply goes_blocks
  intro piece member
  obtain ⟨chunk, within, rfl⟩ := List.mem_map.mp member
  exact (blocks chunk within).2

theorem records_yield_iff (pcap : mode ≠ .pcapngDump) (positive : 1 ≤ snaplen)
    (packets : ∀ chunk ∈ chunks, chunk.isPacket = true) :
    Yields false chunks ↔ (mode = .pcapDump → ¬ EndsEmpty chunks) := by
  have records : ∀ chunk ∈ chunks, Declares false chunk.content ∧ 16 ≤ chunk.content.length := by
    intro chunk member
    have small := content_short chunks short chunk member
    obtain ⟨record, content⟩ := chunk_record mode snaplen chunk pcap (written chunk member)
      (packets chunk member)
    rw [content] at small ⊢
    refine ⟨record_declares record small, ?_⟩
    simp only [PcapRecord.encode, List.length_append, encodeLe_length]
    omega
  constructor
  · rintro yields rfl ⟨last, pkt, tv, uid, ends, origin, empty⟩
    obtain ⟨front, rfl⟩ := List.getLast?_eq_some_iff.mp ends
    have bare := (packet_length snaplen last pkt tv uid origin positive
      (written last (by simp))).mpr empty
    -- A last record with no byte behind its header is not yielded.
    have before := fun chunk (member : chunk ∈ front) =>
      records chunk (List.mem_append_left [last] member)
    exact endsEmpty_unyielded front last (fun chunk member => (before chunk member).1)
      (fun chunk member => (before chunk member).2) bare short yields
  · intro nonempty
    refine yields_of_goes false chunks (fun chunk member => (records chunk member).1) ?_ short
    refine goes_records _ [] ?_ (Nat.zero_le 16) ?_
    · intro piece member
      obtain ⟨chunk, within, rfl⟩ := List.mem_map.mp member
      exact (records chunk within).2
    · intro _ piece ends
      rw [List.getLast?_map, Option.map_eq_some_iff] at ends
      obtain ⟨last, ends, rfl⟩ := ends
      have member := List.mem_of_getLast? ends
      cases mode with
      | pcapngDump => exact absurd rfl pcap
      | pcapDumpWithTrailer => exact trailer_length snaplen last (packets last member) (written last member)
      | pcapDump =>
          have large := (records last member).2
          cases origin : last.origin with
          | secrets lines =>
              have packet := packets last member
              simp [Chunk.isPacket, origin] at packet
          | packet pkt tv uid =>
              have bare := packet_length snaplen last pkt tv uid origin positive
                (written last member)
              have some' : pkt.bytes ≠ [] := fun empty =>
                nonempty rfl ⟨last, pkt, tv, uid, ends, origin, empty⟩
              have more := mt bare.mp some'
              omega

end Buffers

/-- Each buffer that the callback gets is split into its records or blocks and sent, unless it is
a PCAP buffer whose last packet is empty, or has a piece that no datagram holds. -/
theorem exported_splits_iff (session : Session) (exporter : Exporter)
    (positive : 1 ≤ session.snaplen)
    (secrets : session.mode ≠ .pcapngDump →
      ∀ call ∈ session.calls, Call.isSecret call = false) :
    ∃ log : Log, Refines session.destroyed log ∧
      observed log.history = (trace (step session.trailers) (observation session.trailers)
        session.created session.calls).flatten ∧
      ∀ chunks ∈ buffers log.history,
        (Splits exporter (decide (session.mode = .pcapngDump)) chunks ↔
          (session.mode = .pcapDump → ¬ EndsEmpty chunks) ∧ Fits exporter chunks) := by
  obtain ⟨log, refines, saw⟩ := destroyed_refines session
  have kept := destroyed_settings session
  simp only [settings, Prod.mk.injEq] at kept
  have written : ∀ chunk ∈ log.chunks, chunk.Written session.mode session.snaplen := by
    intro chunk member
    rw [← kept.1, ← kept.2.1]
    exact refines.represents.written chunk member
  refine ⟨log, refines, saw, ?_⟩
  intro chunks exported
  have inside : ∀ chunk ∈ chunks, chunk ∈ log.chunks := fun chunk member =>
    List.mem_append_left _ (List.mem_flatten_of_mem exported member)
  have within : ∀ chunk ∈ chunks, chunk.Written session.mode session.snaplen :=
    fun chunk member => written chunk (inside chunk member)
  have short : (contents chunks).length < 2 ^ 31 :=
    Nat.lt_trans (refines.represents.sizes chunks exported) (by decide)
  rw [splits_iff exporter _ chunks short]
  refine and_congr_left' ?_
  by_cases ng : session.mode = .pcapngDump
  · rw [decide_eq_true ng]
    refine iff_of_true (blocks_yield _ _ chunks within short ng) ?_
    intro raw
    rw [ng] at raw
    cases raw
  · have none : accepted log.history = [] := by
      rw [accepted_secrets, saw]
      exact trace_secretless session.trailers session.created session.calls (secrets ng)
    rw [decide_eq_false ng]
    exact records_yield_iff _ _ chunks within short ng positive fun chunk member =>
      secretless_chunks session log refines.consistent written none chunk (inside chunk member)

def emptyPacket : Session where
  trailers := noTrailers
  platform := ⟨[], [], []⟩
  mode := .pcapDump
  snaplen := 65535
  maxDumpSize := 0
  cells := fun _ => 0
  preambleCells := fun _ => 0
  calls := [.dumpPacket { bytes := [69, 0, 0, 20], short := by decide } ⟨1700000000, 0⟩ (-1),
    .dumpPacket { bytes := [], short := by decide } ⟨1700000001, 0⟩ (-1)]

def firstExport : Exporter := ⟨.inet4, true, List.replicate 24 0⟩

theorem emptyPacket_splits :
    ∃ log : Log, Refines emptyPacket.destroyed log ∧
      observed log.history = (trace (step emptyPacket.trailers) (observation emptyPacket.trailers)
        emptyPacket.created emptyPacket.calls).flatten ∧
      ∀ chunks ∈ buffers log.history,
        (Splits firstExport (decide (emptyPacket.mode = .pcapngDump)) chunks ↔
          (emptyPacket.mode = .pcapDump → ¬ EndsEmpty chunks) ∧ Fits firstExport chunks) :=
  exported_splits_iff emptyPacket firstExport (by decide) (fun _ => by decide)

/-- Both records are accepted and exported, but a datagram is sent for the first one only. -/
theorem emptyPacket_dropped :
    emptyPacket.acceptedPackets.length = 2 ∧
      emptyPacket.destroyed.exported.map List.length = [36] ∧
      (dumpData .inet4 false false [] emptyPacket.destroyed.exported.flatten 3).map
        (·.map List.length) = some [20] := by
  decide +kernel

end Ptnet.PcapRecords
