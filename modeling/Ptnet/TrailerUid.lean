import Ptnet.LibpcapDirection
import Ptnet.PcapTrailer
import Ptnet.UidFrame
import Ptnet.ZdtunPacket

/-!
The trailer of a capture file read back: the start of `handle_packet`, which parses the packet
and looks for the trailer at the end of the frame, in front of the handling of the packet.
-/

namespace Ptnet.TrailerUid

open ByteMemory PcapDump PcapTrailer
open Connection (UID_UNKNOWN)
open Pcapdroid (Pd Pkt Slot SameUids)
open LibpcapCapture (Arrival Libpcap handlePacket lookup oriented orient)
open PcapLog (framedRecord recordHeader recordHeader_length)
open ZdtunPacket (Id2ports slice ipTotalLength zdtunParsePkt)

/-- `ntohl` of a field. -/
def be32 (bytes : Bytes) (index : Nat) : Nat := decodeLe (slice bytes index 4).reverse

/-- A difference of `int` values where it is compared with a `size_t`. -/
def toSizeT (value : Int) : Nat := (value % 2 ^ 64).toNat

def trailerUid (frame : Bytes) (pktLen : Nat) : Option Int :=
  let nonIpOverhead : Int := frame.length - pktLen
  if TRAILER_SIZE ≤ toSizeT nonIpOverhead then
    let trailer := frame.drop (frame.length - TRAILER_SIZE)
    if be32 trailer 0 = PCAPDROID_TRAILER_MAGIC then some (BitVec.ofNat 32 (be32 trailer 4)).toInt
    else none
  else none

/-- The state of `run_libpcap` with that of the packet parser and `has_seen_pcapdroid_trailer`. -/
structure Reader where
  lib : Libpcap
  id2ports : Id2ports := fun _ => (0, 0)
  hasSeenPcapdroidTrailer : Bool := false

/-- `handle_packet` from its first line on; `len` is the field of the header, and `buffer` holds
    what was received. -/
def handleFrame (arrival : Arrival) (len : BitVec 16) (buffer : Bytes) (ipoffset : Nat)
    (reader : Reader) : Reader × Bool :=
  let frame := buffer.take len.toNat
  let (id2ports, parsed) := zdtunParsePkt reader.id2ports (frame.drop ipoffset)
  let uid :=
    match parsed with
    | none => none
    | some pkt =>
        if reader.lib.pcapFileCapture && arrival.hdr.uid = UID_UNKNOWN then trailerUid frame pkt.len
        else none
  let handled := handlePacket
    { arrival with parsed, hdr := { arrival.hdr with trailerUid := uid } } reader.lib
  ({ lib := handled.1
     id2ports
     hasSeenPcapdroidTrailer := reader.hasSeenPcapdroidTrailer || uid.isSome }, handled.2)

section Frames

theorem be32_encodeBe (value : Nat) (before after : Bytes) :
    be32 (before ++ (encodeBe 4 value ++ after)) before.length = value % 256 ^ 4 := by
  have length : (encodeBe 4 value).length = 4 := by simp [encodeBe]
  rw [be32, slice, List.drop_left, List.take_left' length, encodeBe, List.reverse_reverse,
    decodeLe_encodeLe]

theorem low32_toInt (value : BitVec 32) : low32 value.toInt = value.toNat := by
  have bounded := value.isLt
  have same : Int.bmod value.toNat (2 ^ 32) % ((2 ^ 32 : Nat) : Int) =
      value.toNat % ((2 ^ 32 : Nat) : Int) := Int.bmod_emod
  rw [low32, BitVec.toInt_eq_toNat_bmod]
  omega

theorem trailerUid_read (front fields crc : Bytes) (uid : BitVec 32) (pktLen : Nat)
    (below : pktLen ≤ front.length) (short : front.length < 2 ^ 16) (size : fields.length = 20)
    (crcSize : crc.length = 4) :
    trailerUid (front ++ (encodeBe 4 PCAPDROID_TRAILER_MAGIC ++
      (encodeBe 4 (low32 uid.toInt) ++ (fields ++ crc)))) pktLen = some uid.toInt := by
  have magicSize : (encodeBe 4 PCAPDROID_TRAILER_MAGIC).length = 4 := by simp [encodeBe]
  have uidSize : (encodeBe 4 (low32 uid.toInt)).length = 4 := by simp [encodeBe]
  have trailerSize : (encodeBe 4 PCAPDROID_TRAILER_MAGIC ++ (encodeBe 4 (low32 uid.toInt) ++
      (fields ++ crc))).length = TRAILER_SIZE := by
    simp [size, crcSize, magicSize, uidSize, TRAILER_SIZE]
  have overhead : TRAILER_SIZE ≤ toSizeT ((front.length + TRAILER_SIZE : Nat) - pktLen : Int) := by
    simp only [toSizeT, TRAILER_SIZE]
    omega
  have magic := be32_encodeBe PCAPDROID_TRAILER_MAGIC []
    (encodeBe 4 (low32 uid.toInt) ++ (fields ++ crc))
  have value := be32_encodeBe (low32 uid.toInt) (encodeBe 4 PCAPDROID_TRAILER_MAGIC) (fields ++ crc)
  rw [magicSize] at value
  rw [trailerUid, List.length_append, trailerSize, if_pos overhead, Nat.add_sub_cancel,
    List.drop_left, if_pos]
  · rw [value, low32_toInt, Nat.mod_eq_of_lt (lt_of_lt_of_eq uid.isLt (by decide)),
      BitVec.ofNat_toNat, BitVec.setWidth_eq]
  · exact magic

/-- A frame of the trailer mode: its packet is where the reader looks, and its uid is found. -/
theorem trailerFrame_read (trailers : Trailers) (pkt : Packet) (uid : BitVec 32)
    (short : (trailerFrame trailers pkt uid.toInt).length < 2 ^ 16) :
    (∃ more, (trailerFrame trailers pkt uid.toInt).drop ETH_SIZE = pkt.bytes ++ more) ∧
      trailerUid (trailerFrame trailers pkt uid.toInt) pkt.bytes.length = some uid.toInt := by
  have ethernet := ethernetHeader_length pkt
  constructor
  · refine ⟨zeros (padding (ETH_SIZE + pkt.bytes.length)) ++ (trailerFields trailers uid.toInt ++
      encodeLe 4 (trailers.crc32 (uncheckedFrame trailers pkt uid.toInt))), ?_⟩
    rw [trailerFrame]
    simp only [uncheckedFrame, List.append_assoc]
    rw [List.drop_left' ethernet]
  · have shape : trailerFrame trailers pkt uid.toInt =
        (ethernetHeader pkt ++ (pkt.bytes ++ zeros (padding (ETH_SIZE + pkt.bytes.length)))) ++
          (encodeBe 4 PCAPDROID_TRAILER_MAGIC ++ (encodeBe 4 (low32 uid.toInt) ++
            ((trailers.appname uid.toInt).val ++
              encodeLe 4 (trailers.crc32 (uncheckedFrame trailers pkt uid.toInt))))) := by
      rw [trailerFrame]
      generalize encodeLe 4 (trailers.crc32 (uncheckedFrame trailers pkt uid.toInt)) = crc
      simp only [uncheckedFrame, trailerFields, List.append_assoc]
    rw [shape] at short ⊢
    apply trailerUid_read
    · simp only [List.length_append]
      omega
    · rw [List.length_append] at short
      omega
    · exact (trailers.appname uid.toInt).property
    · simp

end Frames

section Handling

variable (arrival : Arrival) (state : Libpcap)

theorem recordStatus_uid (tuple : Connection.Tuple) (pkt : Pkt) (isTx : Bool)
    (data : Connection.PdConn) :
    (LibpcapCapture.recordStatus tuple pkt isTx data).1.uid = data.uid := by
  have tcp : (LibpcapCapture.updateTcpStatus pkt isTx data).uid = data.uid := by
    simp only [LibpcapCapture.updateTcpStatus]
    split
    · rfl
    · split
      · split
        · rfl
        · split <;> rfl
      · split <;> rfl
  have udp : (LibpcapCapture.updateUdpStatus tuple pkt data).1.uid = data.uid := by
    simp only [LibpcapCapture.updateUdpStatus]
    generalize known : (if data.status.code < Connection.ConnStatus.connected.code then
      { data with status := .connected } else data) = connected
    have same : connected.uid = data.uid := by
      rw [← known]
      split <;> rfl
    split
    · split
      · exact same
      · split
        · split <;> exact same
        · exact same
    · exact same
  rw [LibpcapCapture.recordStatus]
  split
  · rfl
  · split
    · exact tcp
    · exact udp

theorem handleConnection_uids (pkt : Pkt) (isTx : Bool) (conn : Slot) :
    SameUids state.pd (LibpcapCapture.handleConnection arrival pkt isTx state conn).pd := by
  have updated : ∀ current : Libpcap, SameUids current.pd
      (LibpcapCapture.updateConnectionStatus current conn pkt isTx).pd := by
    intro current
    have stored : SameUids current.pd ((current.pd.access conn.data).modify conn.data fun _ =>
        (LibpcapCapture.recordStatus conn.tuple pkt isTx
          ((current.pd.access conn.data).heap conn.data)).1) :=
      (Pcapdroid.capture_frame.access _ _).sameUids.trans
        (Pcapdroid.modify_uids _ _ _ (recordStatus_uid conn.tuple pkt isTx _))
    simp only [LibpcapCapture.updateConnectionStatus]
    split <;> exact stored
  have stamped : SameUids state.pd (state.pd.modify conn.data fun data =>
      { data with lastUpdateMs := state.pd.nowMs }) := Pcapdroid.modify_uids _ _ _ rfl
  simp only [LibpcapCapture.handleConnection]
  exact ((stamped.trans (Pcapdroid.capture_frame.pdProcessPacket _ _ _ _).sameUids).trans (updated _)).trans
    (Pcapdroid.capture_frame.pdAccountStats _ _ _).sameUids

theorem enqueue_made (pd : Pd) (which : Pcapdroid.Which) (slot : Slot)
    (realloc : pd.reallocs.headD true = true) : (Pcapdroid.enqueue pd which slot).2 = true := by
  simp only [Pcapdroid.enqueue, realloc, if_true]
  split <;> rfl

theorem pdNewConnection_made (ndpi : Detection.Ndpi) (env : Pcapdroid.NewConnEnv) (pd : Pd)
    (tuple : Connection.Tuple) (uid : Int) (calloc : env.calloc = true)
    (ndpiCalloc : env.ndpiCalloc = true) (realloc : pd.reallocs.headD true = true) :
    (Pcapdroid.pdNewConnection ndpi env pd tuple uid).2 = some pd.created := by
  have fresh : ((Pcapdroid.allocateConn pd).access pd.created).heap pd.created =
      Pcapdroid.freshConn := by
    rw [Pcapdroid.access_heap]
    exact Function.update_self ..
  have allocator : ((Pcapdroid.allocateConn pd).access pd.created).reallocs = pd.reallocs := by
    rw [Pd.access]
    split <;> rfl
  have queued : (Pcapdroid.notifConnection ndpi (Pcapdroid.allocateConn pd) .newConns tuple
      pd.created).2 = true := by
    have starts : Pcapdroid.freshConn.status.isClosed = false ∧
        Pcapdroid.freshConn.pendingNotification = false := by decide
    simp only [Pcapdroid.notifConnection, fresh, starts, Bool.false_eq_true, if_false]
    exact enqueue_made _ _ _ (by rw [allocator, realloc])
  unfold Pcapdroid.allocateConn at queued
  simp only [Pcapdroid.pdNewConnection, calloc, ndpiCalloc, queued, Bool.not_true,
    Bool.false_eq_true, if_false]

theorem pdNewConnection_ref (ndpi : Detection.Ndpi) (env : Pcapdroid.NewConnEnv) (pd : Pd)
    (tuple : Connection.Tuple) (uid : Int) (created : Pd) (ref : Pcapdroid.Ref)
    (made : Pcapdroid.pdNewConnection ndpi env pd tuple uid = (created, some ref)) :
    ref = pd.created := by
  rw [Pcapdroid.pdNewConnection] at made
  split at made
  · cases made
  · simp only at made
    split at made
    · cases made
    · split at made
      · cases made
      · exact (Option.some.inj (Prod.mk.inj made).2).symm

/-- A connection is created with the uid of the packet, unless an allocation fails. -/
theorem openConnection_uid (pkt : Pkt) (whole : pkt.isFragment = false) :
    let opened := LibpcapCapture.openConnection arrival pkt state
    (opened.2 = true →
      (opened.1.pd.heap state.pd.created).uid = LibpcapCapture.packetUid state arrival.hdr) ∧
    (arrival.malloc = true → arrival.env.calloc = true → arrival.env.ndpiCalloc = true →
      state.pd.reallocs.headD true = true → opened.2 = true) := by
  simp only [LibpcapCapture.openConnection, whole, Bool.false_and, Bool.false_or]
  cases malloc : arrival.malloc with
  | false => exact ⟨fun accepted => Bool.noConfusion accepted, fun held => Bool.noConfusion held⟩
  | true =>
      rw [if_neg (by decide)]
      rcases outcome : Pcapdroid.pdNewConnection arrival.ndpi arrival.env state.pd pkt.tuple
        (LibpcapCapture.packetUid state arrival.hdr) with ⟨pd, result⟩
      cases result with
      | none =>
          refine ⟨fun accepted => Bool.noConfusion accepted, ?_⟩
          intro _ calloc ndpiCalloc realloc
          have made := pdNewConnection_made arrival.ndpi arrival.env state.pd pkt.tuple
            (LibpcapCapture.packetUid state arrival.hdr) calloc ndpiCalloc realloc
          rw [outcome] at made
          cases made
      | some ref =>
          refine ⟨fun _ => ?_, fun _ _ _ _ => rfl⟩
          have address := pdNewConnection_ref arrival.ndpi arrival.env state.pd pkt.tuple _ pd ref
            outcome
          have attributed := Pcapdroid.pdNewConnection_uid state.pd arrival.ndpi arrival.env
            pkt.tuple _ pd ref outcome
          rw [← address, ← attributed]
          exact ((Pcapdroid.modify_uids pd ref _ rfl).trans
            (handleConnection_uids arrival _ pkt arrival.hdr.isTx ⟨pkt.tuple, ref⟩)) ref

end Handling

/-- The bytes of the record which `dump_packet_pcap` writes, without the header of the record. -/
def writtenFrame (trailers : Trailers) (snaplen : Nat) (pkt : Packet) (tv : Timeval) (uid : Int)
    (buffer : Memory) (at' : Nat) : Bytes :=
  ((dumpPacketTrailer trailers buffer at' pkt tv uid
    (pcapRecSize .pcapDumpWithTrailer snaplen pkt.bytes.length)).read at'
      (pcapRecSize .pcapDumpWithTrailer snaplen pkt.bytes.length)).drop PCAP_REC_SIZE

section RoundTrip

variable (trailers : Trailers) (snaplen : Nat) (pkt : Packet) (tv : Timeval) (uid : BitVec 32)
variable (buffer : Memory) (at' : Nat) (arrival : Arrival) (reader : Reader) (parsed : Pkt)

theorem writtenFrame_whole (whole : pkt.bytes.length ≤ snaplen) :
    writtenFrame trailers snaplen pkt tv uid.toInt buffer at' =
      trailerFrame trailers pkt uid.toInt := by
  have size := inclLen_whole snaplen pkt.bytes.length whole
  rw [writtenFrame, trailed_read trailers snaplen pkt tv uid.toInt size, framedRecord_frame]

theorem handleFrame_trailed (whole : pkt.bytes.length ≤ snaplen)
    (total : ipTotalLength pkt.bytes = pkt.bytes.length)
    (parses : (zdtunParsePkt reader.id2ports pkt.bytes).2 = some parsed)
    (fits : inclLen snaplen pkt.bytes.length < 2 ^ 16)
    (file : reader.lib.pcapFileCapture = true) (unknown : arrival.hdr.uid = UID_UNKNOWN) :
    let frame := writtenFrame trailers snaplen pkt tv uid.toInt buffer at'
    let handled := handlePacket
      { arrival with
        parsed := some parsed
        hdr := { arrival.hdr with trailerUid := some uid.toInt } } reader.lib
    handleFrame arrival (BitVec.ofNat 16 frame.length) frame ETH_SIZE reader =
      ({ lib := handled.1
         id2ports := (zdtunParsePkt reader.id2ports pkt.bytes).1
         hasSeenPcapdroidTrailer := true }, handled.2) := by
  have size : (trailerFrame trailers pkt uid.toInt).length =
      inclLen snaplen pkt.bytes.length := by
    rw [inclLen_whole snaplen _ whole, trailerFrame, List.length_append, uncheckedFrame_length,
      encodeLe_length]
    rfl
  obtain ⟨⟨more, packet⟩, found⟩ := trailerFrame_read trailers pkt uid (size ▸ fits)
  have parsing := ZdtunPacket.zdtunParsePkt_trailing pkt.bytes more reader.id2ports parsed total
    parses
  have length := ZdtunPacket.zdtunParsePkt_len reader.id2ports pkt.bytes parsed parses
  rw [total, Nat.min_self] at length
  simp only
  rw [writtenFrame_whole trailers snaplen pkt tv uid buffer at' whole]
  have received : (trailerFrame trailers pkt uid.toInt).take
      (BitVec.ofNat 16 (trailerFrame trailers pkt uid.toInt).length).toNat =
        trailerFrame trailers pkt uid.toInt := by
    rw [BitVec.toNat_ofNat, Nat.mod_eq_of_lt (size ▸ fits), List.take_length]
  simp only [handleFrame, received, packet, parsing, parses, file, unknown, length, found,
    Bool.true_and, decide_true, if_true, Option.isSome_some, Bool.or_true]

/-- A packet written with the trailer is read back with its uid: a connection that it starts is
    attributed to it, and a connection that is known keeps the uid it has. -/
theorem trailer_attributes (whole : pkt.bytes.length ≤ snaplen)
    (total : ipTotalLength pkt.bytes = pkt.bytes.length)
    (parses : (zdtunParsePkt reader.id2ports pkt.bytes).2 = some parsed)
    (unfragmented : parsed.isFragment = false)
    (fits : inclLen snaplen pkt.bytes.length < 2 ^ 16)
    (file : reader.lib.pcapFileCapture = true) (unknown : arrival.hdr.uid = UID_UNKNOWN) :
    let frame := writtenFrame trailers snaplen pkt tv uid.toInt buffer at'
    let handled := handleFrame arrival (BitVec.ofNat 16 frame.length) frame ETH_SIZE reader
    handled.1.hasSeenPcapdroidTrailer = true ∧
      match lookup reader.lib.connections arrival.hdr.isTx parsed.tuple with
      | some (conn, _) => handled.2 = true ∧
          (handled.1.lib.pd.heap conn.data).uid = (reader.lib.pd.heap conn.data).uid
      | none =>
          (handled.2 = true →
            (handled.1.lib.pd.heap reader.lib.pd.created).uid = uid.toInt) ∧
          (arrival.malloc = true → arrival.env.calloc = true → arrival.env.ndpiCalloc = true →
            reader.lib.pd.reallocs.headD true = true → handled.2 = true) := by
  have trailed := handleFrame_trailed trailers snaplen pkt tv uid buffer at' arrival reader parsed
    whole total parses fits file unknown
  simp only at trailed ⊢
  rw [trailed]
  refine ⟨rfl, ?_⟩
  have ported : LibpcapCapture.isOrphan parsed = false := by
    simp [LibpcapCapture.isOrphan, unfragmented]
  rw [LibpcapCapture.handlePacket_parsed _ reader.lib parsed rfl ported]
  cases found : lookup reader.lib.connections arrival.hdr.isTx parsed.tuple with
  | some known => exact ⟨rfl, handleConnection_uids _ reader.lib _ _ known.1 _⟩
  | none =>
      have opened := openConnection_uid
        { arrival with
          parsed := some parsed
          hdr := { arrival.hdr with trailerUid := some uid.toInt } } reader.lib
        (orient arrival.hdr.isTx parsed) unfragmented
      have read : LibpcapCapture.packetUid reader.lib
          { arrival.hdr with trailerUid := some uid.toInt } = uid.toInt := by
        simp [LibpcapCapture.packetUid, file, unknown]
      simp only [read] at opened
      exact opened

end RoundTrip

section Example

open CaptureClient (idleConfig plainNdpi)

def query : Packet where
  bytes := [0x45, 0, 0, 28, 0, 0, 0, 0, 64, 17, 0, 0, 10, 0, 0, 1, 8, 8, 8, 8,
    0x9C, 0x40, 0x01, 0xBB, 0, 8, 0, 0]
  short := by decide

def queryPkt : Pkt :=
  { tuple := ⟨CaptureClient.clientIp, CaptureClient.serverIp, 40000, 443, 4, 17⟩, len := 28 }

def fromFile : Arrival where
  hdr := ⟨-1, true, 0, none, none⟩
  parsed := none
  ndpi := plainNdpi

def opening : Reader := { lib := LibpcapCapture.start idleConfig true }

def queryFrame (uid : BitVec 32) : Bytes :=
  writtenFrame PcapStream.noTrailers 64 query ⟨0, 0⟩ uid.toInt ⟨fun _ => 0, 4096, false⟩ 0

def readQuery (uid : BitVec 32) (reader : Reader) : Reader × Bool :=
  handleFrame fromFile (BitVec.ofNat 16 (queryFrame uid).length) (queryFrame uid) ETH_SIZE reader

theorem query_parsed (id2ports : Id2ports) :
    zdtunParsePkt id2ports query.bytes = (id2ports, some queryPkt) := by
  have ip : ZdtunPacket.parseIp query.bytes = some
      { hdrLen := 20, len := 28, srcIp := CaptureClient.clientIp, dstIp := CaptureClient.serverIp, ipver := 4,
        ipproto := 17 } := by decide +kernel
  have l4 : ZdtunPacket.parseL4 17 (slice query.bytes 20 8) = some ⟨8, 40000, 443⟩ := by
    decide +kernel
  have described : ZdtunPacket.describe
      { hdrLen := 20, len := 28, srcIp := CaptureClient.clientIp, dstIp := CaptureClient.serverIp, ipver := 4,
        ipproto := 17 } (slice query.bytes 20 8) ⟨8, 40000, 443⟩ = queryPkt := by decide +kernel
  simp only [zdtunParsePkt, ip, Bool.false_and, Bool.false_eq_true, if_false, Nat.reduceSub, l4,
    described]

theorem readQuery_handled (uid : BitVec 32) (reader : Reader)
    (file : reader.lib.pcapFileCapture = true) :
    readQuery uid reader =
      ({ lib := (handlePacket { fromFile with
            parsed := some queryPkt
            hdr := { fromFile.hdr with trailerUid := some uid.toInt } } reader.lib).1
         id2ports := reader.id2ports
         hasSeenPcapdroidTrailer := true },
        (handlePacket { fromFile with
          parsed := some queryPkt
          hdr := { fromFile.hdr with trailerUid := some uid.toInt } } reader.lib).2) := by
  have trailed := handleFrame_trailed PcapStream.noTrailers 64 query ⟨0, 0⟩ uid
    ⟨fun _ => 0, 4096, false⟩ 0 fromFile reader queryPkt (by decide) (by decide)
    (by rw [query_parsed]) (by decide) file rfl
  rw [query_parsed] at trailed
  exact trailed

theorem firstQuery_attributed :
    (readQuery 10100 opening).1.hasSeenPcapdroidTrailer = true ∧
      (readQuery 10100 opening).2 = true ∧
      ((readQuery 10100 opening).1.lib.pd.heap opening.lib.pd.created).uid =
        (10100 : BitVec 32).toInt := by
  have attributed := trailer_attributes PcapStream.noTrailers 64 query ⟨0, 0⟩ 10100
    ⟨fun _ => 0, 4096, false⟩ 0 fromFile opening queryPkt (by decide) (by decide)
    (by rw [query_parsed]) rfl (by decide) rfl rfl
  have started : lookup opening.lib.connections fromFile.hdr.isTx queryPkt.tuple = none := by
    decide
  obtain ⟨seen, rest⟩ := attributed
  rw [started] at rest
  have created := rest.2 rfl rfl rfl rfl
  unfold readQuery queryFrame
  exact ⟨seen, created, rest.1 created⟩

def uids (reader : Reader) : List (Connection.Tuple × Int) :=
  reader.lib.connections.map fun conn => (conn.tuple, (reader.lib.pd.heap conn.data).uid)

theorem secondQuery_keepsUid :
    (readQuery 10200 (readQuery 10100 opening).1).2 = true ∧
      (readQuery 10200 (readQuery 10100 opening).1).1.hasSeenPcapdroidTrailer = true ∧
      uids (readQuery 10200 (readQuery 10100 opening).1).1 = [(queryPkt.tuple, 10100)] := by
  have first := readQuery_handled 10100 opening rfl
  have file : (readQuery 10100 opening).1.lib.pcapFileCapture = true := by
    rw [first]
    decide +kernel
  rw [readQuery_handled 10200 _ file, first]
  decide +kernel

end Example

end Ptnet.TrailerUid
