import Ptnet.PcapStream

/-!
The record of the trailer mode: an Ethernet header, the packet, and the trailer with its uid.
A packet that snaplen does not truncate makes a frame that is given by the packet, its uid and
the name of its app. A longer one is copied past snaplen, or is followed by stale bytes.
-/

namespace Ptnet.PcapTrailer

open ByteMemory PcapDump PcapFormat PcapLog

section Frames

def inclLen (snaplen pktLen : Nat) : Nat :=
  pcapRecSize .pcapDumpWithTrailer snaplen pktLen - PCAP_REC_SIZE

def ethernetHeader (pkt : Packet) : Bytes := zeros 12 ++ etherType pkt

def trailerFields (trailers : Trailers) (uid : Int) : Bytes :=
  encodeBe 4 PCAPDROID_TRAILER_MAGIC ++ (encodeBe 4 (low32 uid) ++ (trailers.appname uid).val)

def uncheckedFrame (trailers : Trailers) (pkt : Packet) (uid : Int) : Bytes :=
  ethernetHeader pkt ++ (pkt.bytes ++ (zeros (padding (ETH_SIZE + pkt.bytes.length)) ++
    trailerFields trailers uid))

/-- Header, packet, padding and trailer, whose checksum covers all before it. -/
def trailerFrame (trailers : Trailers) (pkt : Packet) (uid : Int) : Bytes :=
  uncheckedFrame trailers pkt uid ++ encodeLe 4 (trailers.crc32 (uncheckedFrame trailers pkt uid))

theorem trailerFields_length (trailers : Trailers) (uid : Int) :
    (trailerFields trailers uid).length = 28 := by
  simp [trailerFields, encodeBe, (trailers.appname uid).property]

theorem ethernetHeader_length (pkt : Packet) : (ethernetHeader pkt).length = ETH_SIZE := by
  simp [ethernetHeader, etherType_length, ETH_SIZE]

theorem uncheckedFrame_length (trailers : Trailers) (pkt : Packet) (uid : Int) :
    (uncheckedFrame trailers pkt uid).length =
      ETH_SIZE + pkt.bytes.length + padding (ETH_SIZE + pkt.bytes.length) + 28 := by
  simp only [uncheckedFrame, List.length_append, ethernetHeader_length, trailerFields_length,
    zeros_length]
  omega

theorem padding_periodic (len : Nat) : padding (len + TRAILER_SIZE) = padding len := by
  simp only [padding, TRAILER_SIZE]
  omega

theorem inclLen_whole (snaplen pktLen : Nat) (whole : pktLen ≤ snaplen) :
    inclLen snaplen pktLen =
      ETH_SIZE + pktLen + padding (ETH_SIZE + pktLen) + TRAILER_SIZE := by
  have captured : min pktLen snaplen = pktLen := Nat.min_eq_left whole
  have shift : pktLen + TRAILER_SIZE + ETH_SIZE = ETH_SIZE + pktLen + TRAILER_SIZE := by omega
  simp only [inclLen, pcapRecSize, captured, Nat.add_sub_cancel, shift, padding_periodic]
  omega

theorem inclLen_cut (snaplen pktLen : Nat) (cut : snaplen < pktLen) :
    inclLen snaplen pktLen =
      ETH_SIZE + snaplen + padding (ETH_SIZE + snaplen) + TRAILER_SIZE := by
  have captured : min pktLen snaplen = snaplen := Nat.min_eq_right (Nat.le_of_lt cut)
  have shift : snaplen + TRAILER_SIZE + ETH_SIZE = ETH_SIZE + snaplen + TRAILER_SIZE := by omega
  simp only [inclLen, pcapRecSize, captured, Nat.add_sub_cancel, shift, padding_periodic]
  omega

/-- Padding can hide that a packet is a little longer than snaplen. -/
theorem inclLen_trailed (snaplen pktLen : Nat)
    (fits : pktLen ≤ snaplen + padding (ETH_SIZE + snaplen)) :
    inclLen snaplen pktLen =
      ETH_SIZE + pktLen + padding (ETH_SIZE + pktLen) + TRAILER_SIZE := by
  by_cases whole : pktLen ≤ snaplen
  · exact inclLen_whole snaplen pktLen whole
  · rw [inclLen_cut snaplen pktLen (Nat.lt_of_not_le whole)]
    simp only [padding, ETH_SIZE] at fits ⊢
    omega

theorem pcapRecSize_inclLen (snaplen pktLen : Nat) :
    pcapRecSize .pcapDumpWithTrailer snaplen pktLen = inclLen snaplen pktLen + PCAP_REC_SIZE :=
  (Nat.sub_add_cancel (Nat.le_add_left PCAP_REC_SIZE _)).symm

end Frames

section Trailed

variable (trailers : Trailers) (snaplen : Nat) (pkt : Packet) (tv : Timeval) (uid : Int)
variable (size : inclLen snaplen pkt.bytes.length = ETH_SIZE + pkt.bytes.length +
  padding (ETH_SIZE + pkt.bytes.length) + TRAILER_SIZE)

include size

theorem origLen_trailed : trailerOrigLen (inclLen snaplen pkt.bytes.length) pkt.bytes.length =
    inclLen snaplen pkt.bytes.length := by
  have copied : payloadToCopy pkt.bytes.length (inclLen snaplen pkt.bytes.length) ETH_SIZE =
      pkt.bytes.length := by
    rw [size, payloadToCopy]
    omega
  have roomy : TRAILER_SIZE ≤ inclLen snaplen pkt.bytes.length -
      (ETH_SIZE + pkt.bytes.length) := by
    rw [size]
    omega
  simp only [trailerOrigLen, copied, roomy, decide_true, ↓reduceIte]
  rw [size]
  omega

theorem dumpPacketTrailer_writes (buffer : Memory) (at' : Nat) :
    dumpPacketTrailer trailers buffer at' pkt tv uid
        (pcapRecSize .pcapDumpWithTrailer snaplen pkt.bytes.length) =
      buffer.write at' (framedRecord tv (inclLen snaplen pkt.bytes.length)
        (trailerFrame trailers pkt uid)).encode := by
  have unchecked := uncheckedFrame_length trailers pkt uid
  have copied : payloadToCopy pkt.bytes.length (inclLen snaplen pkt.bytes.length) ETH_SIZE =
      pkt.bytes.length := by
    rw [size, payloadToCopy]
    omega
  have roomy : TRAILER_SIZE ≤ inclLen snaplen pkt.bytes.length -
      (ETH_SIZE + pkt.bytes.length) := by
    rw [size]
    omega
  have orig : pkt.bytes.length + ETH_SIZE +
      (padding (ETH_SIZE + pkt.bytes.length) + TRAILER_SIZE) =
        inclLen snaplen pkt.bytes.length := by
    rw [size]
    omega
  have named := (trailers.appname uid).property
  have length : (trailerFrame trailers pkt uid).length =
      inclLen snaplen pkt.bytes.length := by
    rw [trailerFrame, List.length_append, unchecked, encodeLe_length, size]
    rfl
  -- The checksum is taken over the frame as it stands in the buffer.
  have checked := Memory.read_written_tail buffer at' (recordHeader tv
    (inclLen snaplen pkt.bytes.length) (inclLen snaplen pkt.bytes.length))
    (uncheckedFrame trailers pkt uid)
  have short : (uncheckedFrame trailers pkt uid).length =
      inclLen snaplen pkt.bytes.length - 4 := by
    rw [unchecked, size]
    rfl
  rw [recordHeader_length, short] at checked
  rw [pcapRecSize_inclLen]
  simp only [dumpPacketTrailer, Nat.add_sub_cancel, copied, roomy, decide_true, ↓reduceIte, orig,
    writeLe, List.take_length]
  simp only [PCAP_REC_SIZE, ETH_SIZE, recordHeader, uncheckedFrame, ethernetHeader, trailerFields,
    List.append_assoc] at checked ⊢
  simp (disch := first | (simp [encodeBe, etherType_length, named]; done) |
    (simp [encodeBe, etherType_length, named]; omega) | fail) only [Memory.write_adjoining,
      List.append_assoc]
  rw [checked]
  simp only [PcapRecord.encode, framedRecord, length]
  simp [trailerFrame, uncheckedFrame, ethernetHeader, trailerFields, ETH_SIZE]

theorem trailed_read (buffer : Memory) (at' : Nat) :
    (dumpPacketTrailer trailers buffer at' pkt tv uid
        (pcapRecSize .pcapDumpWithTrailer snaplen pkt.bytes.length)).read at'
        (pcapRecSize .pcapDumpWithTrailer snaplen pkt.bytes.length) =
      (framedRecord tv (inclLen snaplen pkt.bytes.length)
        (trailerFrame trailers pkt uid)).encode := by
  have length : (framedRecord tv (inclLen snaplen pkt.bytes.length)
      (trailerFrame trailers pkt uid)).encode.length =
        pcapRecSize .pcapDumpWithTrailer snaplen pkt.bytes.length := by
    rw [pcapRecSize_inclLen, size]
    simp only [PcapRecord.encode, framedRecord, List.length_append, encodeLe_length, trailerFrame,
      uncheckedFrame_length, TRAILER_SIZE, PCAP_REC_SIZE]
    omega
  rw [dumpPacketTrailer_writes trailers snaplen pkt tv uid size, ← length,
    Memory.read_write_same]

end Trailed

section Truncated

variable (trailers : Trailers) (snaplen : Nat) (pkt : Packet) (tv : Timeval) (uid : Int)
variable (long : snaplen + padding (ETH_SIZE + snaplen) < pkt.bytes.length)

include long

theorem untrailed : ¬ TRAILER_SIZE ≤ inclLen snaplen pkt.bytes.length - (ETH_SIZE +
    payloadToCopy pkt.bytes.length (inclLen snaplen pkt.bytes.length) ETH_SIZE) := by
  rw [inclLen_cut snaplen _ (by omega)]
  simp only [payloadToCopy, TRAILER_SIZE]
  omega

theorem origLen_untrailed : trailerOrigLen (inclLen snaplen pkt.bytes.length) pkt.bytes.length =
    pkt.bytes.length + ETH_SIZE := by
  have none := untrailed snaplen pkt long
  simp [trailerOrigLen, none]

theorem untrailed_writes (buffer : Memory) (at' : Nat) :
    dumpPacketTrailer trailers buffer at' pkt tv uid
        (pcapRecSize .pcapDumpWithTrailer snaplen pkt.bytes.length) =
      buffer.write at' (recordHeader tv (inclLen snaplen pkt.bytes.length)
        (pkt.bytes.length + ETH_SIZE) ++ (ethernetHeader pkt ++ pkt.bytes.take
          (payloadToCopy pkt.bytes.length (inclLen snaplen pkt.bytes.length) ETH_SIZE))) := by
  have none := untrailed snaplen pkt long
  rw [pcapRecSize_inclLen]
  simp only [dumpPacketTrailer, Nat.add_sub_cancel, none, decide_false, Bool.false_eq_true,
    ↓reduceIte, writeLe, Nat.add_zero]
  simp only [PCAP_REC_SIZE, ETH_SIZE]
  simp (disch := first | (simp [etherType_length]; done) | fail) only [Memory.write_adjoining,
    List.append_assoc]
  simp [recordHeader, ethernetHeader]

end Truncated

section Soundness

variable (trailers : Trailers) (snaplen : Nat) (pkt : Packet) (uid : Int)

/-- The record is the same wherever and over whatever it is written, and whatever is behind the
    packet. -/
def Determined : Prop :=
  ∃ frame, ∀ behind buffer at' tv, (dumpPacketTrailer trailers buffer at' { pkt with behind } tv uid
      (pcapRecSize .pcapDumpWithTrailer snaplen pkt.bytes.length)).read at'
        (pcapRecSize .pcapDumpWithTrailer snaplen pkt.bytes.length) =
    (framedRecord tv (trailerOrigLen (inclLen snaplen pkt.bytes.length) pkt.bytes.length)
      frame).encode

structure Sound : Prop where
  lengths : inclLen snaplen pkt.bytes.length ≤
    trailerOrigLen (inclLen snaplen pkt.bytes.length) pkt.bytes.length
  truncated : payloadToCopy pkt.bytes.length (inclLen snaplen pkt.bytes.length) ETH_SIZE ≤ snaplen
  determined : Determined trailers snaplen pkt uid

/-- The packet ends before the frame does, but too late for a trailer. -/
def Stale (snaplen pktLen : Nat) : Prop :=
  snaplen + padding (ETH_SIZE + snaplen) < pktLen ∧
    pktLen < snaplen + padding (ETH_SIZE + snaplen) + TRAILER_SIZE

theorem truncated_iff :
    payloadToCopy pkt.bytes.length (inclLen snaplen pkt.bytes.length) ETH_SIZE ≤ snaplen ↔
      pkt.bytes.length ≤ snaplen := by
  by_cases whole : pkt.bytes.length ≤ snaplen
  · refine iff_of_true ?_ whole
    simp only [payloadToCopy]
    omega
  · refine iff_of_false ?_ whole
    rw [inclLen_cut snaplen _ (Nat.lt_of_not_le whole)]
    simp only [payloadToCopy, TRAILER_SIZE]
    omega

theorem lengths_iff : inclLen snaplen pkt.bytes.length ≤
    trailerOrigLen (inclLen snaplen pkt.bytes.length) pkt.bytes.length ↔
      ¬ Stale snaplen pkt.bytes.length := by
  by_cases fits : pkt.bytes.length ≤ snaplen + padding (ETH_SIZE + snaplen)
  · have size := inclLen_trailed snaplen _ fits
    refine iff_of_true (Nat.le_of_eq (origLen_trailed snaplen pkt size).symm) ?_
    intro stale
    exact absurd stale.1 (Nat.not_lt.mpr fits)
  · have long := Nat.lt_of_not_le fits
    rw [origLen_untrailed snaplen pkt long, inclLen_cut snaplen _ (by omega)]
    simp only [Stale]
    omega

/-- The last byte of a stale frame is what the buffer held before. -/
theorem stale_undetermined (stale : Stale snaplen pkt.bytes.length) :
    ¬ Determined trailers snaplen pkt uid := by
  rintro ⟨frame, all⟩
  have same := all pkt.behind
  obtain ⟨long, short⟩ := stale
  have cut := inclLen_cut snaplen pkt.bytes.length (by omega)
  have copied : payloadToCopy pkt.bytes.length (inclLen snaplen pkt.bytes.length) ETH_SIZE =
      pkt.bytes.length := by
    rw [cut, payloadToCopy]
    omega
  have last : ∀ filler : UInt8, ((dumpPacketTrailer trailers ⟨fun _ => filler, 0, false⟩ 0 pkt ⟨0, 0⟩
      uid (pcapRecSize .pcapDumpWithTrailer snaplen pkt.bytes.length)).read 0
        (pcapRecSize .pcapDumpWithTrailer snaplen pkt.bytes.length)).getLast? = some filler := by
    intro filler
    rw [untrailed_writes trailers snaplen pkt ⟨0, 0⟩ uid long, copied, List.take_length,
      pcapRecSize_inclLen]
    have longer : (recordHeader ⟨0, 0⟩ (inclLen snaplen pkt.bytes.length) (pkt.bytes.length +
        ETH_SIZE) ++ (ethernetHeader pkt ++ pkt.bytes)).length ≤
          inclLen snaplen pkt.bytes.length + PCAP_REC_SIZE - 1 := by
      simp only [List.length_append, recordHeader_length, ethernetHeader_length, cut]
      simp only [TRAILER_SIZE] at short ⊢
      omega
    generalize recordHeader ⟨0, 0⟩ (inclLen snaplen pkt.bytes.length) (pkt.bytes.length +
      ETH_SIZE) ++ (ethernetHeader pkt ++ pkt.bytes) = written at longer
    simp [Memory.read, Memory.write, List.getLast?_range, PCAP_REC_SIZE] at longer ⊢
    simp [List.getElem?_eq_none longer]
  have zero := last 0
  have one := last 1
  rw [same] at zero one
  rw [zero] at one
  cases one

theorem framedRecord_frame (tv : Timeval) (origLen : Nat) (frame : Bytes) :
    (framedRecord tv origLen frame).encode.drop PCAP_REC_SIZE = frame := by
  have split : (framedRecord tv origLen frame).encode =
      recordHeader tv frame.length origLen ++ frame := by
    simp only [PcapRecord.encode, framedRecord, recordHeader, List.append_assoc]
  rw [split, List.drop_left' (recordHeader_length tv frame.length origLen)]

theorem trailerFrame_etherType : ((trailerFrame trailers pkt uid).drop 12).take 2 = etherType pkt := by
  simp only [trailerFrame, uncheckedFrame, ethernetHeader, List.append_assoc]
  rw [List.drop_left' (zeros_length 12), List.take_left' (etherType_length pkt)]

/-- The Ethernet type of an empty packet is that of the byte behind it. -/
theorem empty_undetermined (empty : pkt.bytes = []) : ¬ Determined trailers snaplen pkt uid := by
  rintro ⟨frame, same⟩
  have whole : pkt.bytes.length ≤ snaplen := by simp [empty]
  have read : ∀ behind, trailerFrame trailers { pkt with behind } uid = frame := by
    intro behind
    have record := same behind ⟨fun _ => 0, 0, false⟩ 0 ⟨0, 0⟩
    rw [trailed_read trailers snaplen { pkt with behind } ⟨0, 0⟩ uid
      (inclLen_whole snaplen _ whole) _ 0] at record
    rw [← framedRecord_frame ⟨0, 0⟩ _ (trailerFrame trailers { pkt with behind } uid), record,
      framedRecord_frame]
  have types : ∀ behind, etherType { pkt with behind } = (frame.drop 12).take 2 := by
    intro behind
    rw [← read behind, trailerFrame_etherType]
  have four := types 0x40
  have six := types 0x60
  rw [← six] at four
  simp only [etherType, empty] at four
  revert four
  decide

theorem determined_iff : Determined trailers snaplen pkt uid ↔
    pkt.bytes ≠ [] ∧ ¬ Stale snaplen pkt.bytes.length := by
  constructor
  · intro determined
    exact ⟨fun empty => empty_undetermined trailers snaplen pkt uid empty determined,
      fun stale => stale_undetermined trailers snaplen pkt uid stale determined⟩
  · rintro ⟨some, fresh⟩
    -- The byte behind is not read.
    have unread : ∀ behind, etherType { pkt with behind } = etherType pkt := by
      intro behind
      obtain ⟨first, rest, bytes⟩ := List.exists_cons_of_ne_nil some
      simp [etherType, bytes]
    by_cases fits : pkt.bytes.length ≤ snaplen + padding (ETH_SIZE + snaplen)
    · have size := inclLen_trailed snaplen _ fits
      refine ⟨trailerFrame trailers pkt uid, ?_⟩
      intro behind buffer at' tv
      have frame : trailerFrame trailers { pkt with behind } uid = trailerFrame trailers pkt uid := by
        simp only [trailerFrame, uncheckedFrame, ethernetHeader, unread]
      rw [← frame, origLen_trailed snaplen pkt size]
      exact trailed_read trailers snaplen { pkt with behind } tv uid size buffer at'
    · have long := Nat.lt_of_not_le fits
      have cut := inclLen_cut snaplen pkt.bytes.length (by omega)
      have full : inclLen snaplen pkt.bytes.length - ETH_SIZE ≤ pkt.bytes.length := by
        rw [cut]
        simp only [Stale] at fresh
        omega
      have copied : payloadToCopy pkt.bytes.length (inclLen snaplen pkt.bytes.length) ETH_SIZE =
          inclLen snaplen pkt.bytes.length - ETH_SIZE := Nat.min_eq_right full
      have length : (ethernetHeader pkt ++ pkt.bytes.take
          (inclLen snaplen pkt.bytes.length - ETH_SIZE)).length =
            inclLen snaplen pkt.bytes.length := by
        rw [List.length_append, ethernetHeader_length, List.length_take_of_le full, cut]
        omega
      refine ⟨ethernetHeader pkt ++ pkt.bytes.take
        (inclLen snaplen pkt.bytes.length - ETH_SIZE), ?_⟩
      intro behind buffer at' tv
      have written := untrailed_writes trailers snaplen { pkt with behind } tv uid long buffer at'
      rw [show ethernetHeader { pkt with behind } = ethernetHeader pkt by
        rw [ethernetHeader, ethernetHeader, unread]] at written
      rw [written, origLen_untrailed snaplen pkt long, copied]
      have total : (recordHeader tv (inclLen snaplen pkt.bytes.length) (pkt.bytes.length +
          ETH_SIZE) ++ (ethernetHeader pkt ++ pkt.bytes.take
            (inclLen snaplen pkt.bytes.length - ETH_SIZE))).length =
              pcapRecSize .pcapDumpWithTrailer snaplen pkt.bytes.length := by
        rw [List.length_append, recordHeader_length, length, pcapRecSize_inclLen, Nat.add_comm]
      rw [← total, Memory.read_write_same]
      simp only [PcapRecord.encode, framedRecord, length, recordHeader, List.append_assoc]

/-- The record is sound for the packets with bytes that snaplen leaves whole; a packet it leaves
    whole ends in the trailer. -/
theorem record_sound_iff :
    (Sound trailers snaplen pkt uid ↔ pkt.bytes ≠ [] ∧ pkt.bytes.length ≤ snaplen) ∧
      (pkt.bytes.length ≤ snaplen → ∀ buffer at' tv,
        (dumpPacketTrailer trailers buffer at' pkt tv uid
            (pcapRecSize .pcapDumpWithTrailer snaplen pkt.bytes.length)).read at'
            (pcapRecSize .pcapDumpWithTrailer snaplen pkt.bytes.length) =
          (framedRecord tv (inclLen snaplen pkt.bytes.length)
            (trailerFrame trailers pkt uid)).encode) := by
  refine ⟨⟨fun sound => ?_, ?_⟩, ?_⟩
  · exact ⟨((determined_iff trailers snaplen pkt uid).mp sound.determined).1,
      (truncated_iff snaplen pkt).mp sound.truncated⟩
  · rintro ⟨some, whole⟩
    have fresh : ¬ Stale snaplen pkt.bytes.length := by
      simp only [Stale]
      omega
    exact ⟨(lengths_iff snaplen pkt).mpr fresh, (truncated_iff snaplen pkt).mpr whole,
      (determined_iff trailers snaplen pkt uid).mpr ⟨some, fresh⟩⟩
  · intro whole buffer at' tv
    exact trailed_read trailers snaplen pkt tv uid (inclLen_whole snaplen _ whole) buffer at'

/-- Twenty bytes are too many for a snaplen of one, and too few to fill the frame. -/
theorem shortFrame_unsound : ¬ Sound PcapStream.noTrailers 1 { bytes := zeros 20, short := by decide } 0 := by
  intro sound
  exact absurd sound.lengths (by decide)

end Soundness

end Ptnet.PcapTrailer
