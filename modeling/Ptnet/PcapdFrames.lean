import Ptnet.ByteMemory
import Ptnet.Connection

/-!
pcapd/pcapd.c and pcapd/pcapd.h: what `read_pkt` makes of a frame of `pcap_next_ex`, and the
header it sends before the packet. A host is little endian; `timeBytes` is the size of the
two integers of a `struct timeval`, which differs between 32 and 64 bit builds.
-/

namespace Ptnet.PcapdFrames

open ByteMemory

def UID_UNKNOWN : BitVec 32 := BitVec.ofInt 32 (-1)

/-- The answer of `uid_lru_find` for an unknown tuple. -/
def LRU_MISS : BitVec 32 := BitVec.ofInt 32 (-2)

def PCAPD_FLAG_TX : BitVec 8 := 1

/-- The link layers `open_interface` supports. -/
inductive Dlink where
  | raw
  | en10mb
  | linuxSll
  | linuxSll2
  deriving DecidableEq, Repr

namespace Dlink

def code : Dlink → Nat
  | raw => 12
  | en10mb => 1
  | linuxSll => 113
  | linuxSll2 => 276

def ipoffset : Dlink → Nat
  | raw => 0
  | en10mb => 14
  | linuxSll => 16
  | linuxSll2 => 20

end Dlink

structure PcapdHdr (timeBytes : Nat) where
  tvSec : BitVec (8 * timeBytes)
  tvUsec : BitVec (8 * timeBytes)
  pktDrops : BitVec 32
  uid : BitVec 32
  len : BitVec 16
  linktype : BitVec 16
  flags : BitVec 8
  ifid : BitVec 8
  /-- Not written by `read_pkt`. -/
  pad : BitVec 16
  deriving DecidableEq, Repr

section Header

variable (timeBytes : Nat)

def hdrSize : Nat := 2 * timeBytes + 16

variable {timeBytes}

def PcapdHdr.encode (hdr : PcapdHdr timeBytes) : Bytes :=
  encodeLe timeBytes hdr.tvSec.toNat ++ (encodeLe timeBytes hdr.tvUsec.toNat ++
    (encodeLe 4 hdr.pktDrops.toNat ++ (encodeLe 4 hdr.uid.toNat ++ (encodeLe 2 hdr.len.toNat ++
      (encodeLe 2 hdr.linktype.toNat ++ (encodeLe 1 hdr.flags.toNat ++
        (encodeLe 1 hdr.ifid.toNat ++ (encodeLe 2 hdr.pad.toNat ++ []))))))))

def PcapdHdr.decode (bytes : Bytes) : PcapdHdr timeBytes :=
  let tvSec := takeLe timeBytes bytes
  let tvUsec := takeLe timeBytes tvSec.2
  let pktDrops := takeLe 4 tvUsec.2
  let uid := takeLe 4 pktDrops.2
  let len := takeLe 2 uid.2
  let linktype := takeLe 2 len.2
  let flags := takeLe 1 linktype.2
  let ifid := takeLe 1 flags.2
  let pad := takeLe 2 ifid.2
  { tvSec := BitVec.ofNat _ tvSec.1
    tvUsec := BitVec.ofNat _ tvUsec.1
    pktDrops := BitVec.ofNat _ pktDrops.1
    uid := BitVec.ofNat _ uid.1
    len := BitVec.ofNat _ len.1
    linktype := BitVec.ofNat _ linktype.1
    flags := BitVec.ofNat _ flags.1
    ifid := BitVec.ofNat _ ifid.1
    pad := BitVec.ofNat _ pad.1 }

@[simp] theorem PcapdHdr.encode_length (hdr : PcapdHdr timeBytes) :
    hdr.encode.length = hdrSize timeBytes := by
  simp only [PcapdHdr.encode, List.length_append, encodeLe_length, List.length_nil, hdrSize]
  omega

theorem ofNat_bytes (count : Nat) (value : BitVec (8 * count)) :
    BitVec.ofNat (8 * count) (value.toNat % 256 ^ count) = value := by
  have size : (256 : Nat) ^ count = 2 ^ (8 * count) := by rw [Nat.pow_mul]
  rw [size, Nat.mod_eq_of_lt value.isLt, BitVec.ofNat_toNat, BitVec.setWidth_eq]

/-- A header is read back as it was sent. -/
theorem PcapdHdr.decode_encode (hdr : PcapdHdr timeBytes) :
    PcapdHdr.decode hdr.encode = hdr := by
  unfold PcapdHdr.decode PcapdHdr.encode
  simp only [takeLe_encodeLe]
  rw [ofNat_bytes timeBytes hdr.tvSec, ofNat_bytes timeBytes hdr.tvUsec,
    ofNat_bytes 4 hdr.pktDrops, ofNat_bytes 4 hdr.uid, ofNat_bytes 2 hdr.len,
    ofNat_bytes 2 hdr.linktype, ofNat_bytes 1 hdr.flags, ofNat_bytes 1 hdr.ifid,
    ofNat_bytes 2 hdr.pad]

end Header

/-- `pcapd_iface_t`, with the statistics as they are when a packet is read. -/
structure Iface where
  dlink : Dlink
  ifid : BitVec 8
  isFile : Bool
  isInet : Bool := false
  mac : Nat := 0
  ip : Nat := 0
  ip6 : Bytes := List.replicate 16 0
  psDrop : BitVec 32 := 0
  deriving DecidableEq, Repr

def savefile : Iface := { dlink := .raw, ifid := 0, isFile := true }

structure Conf where
  /-- The uids of the filter before its terminator. -/
  uidFilter : Option (List (BitVec 32)) := none
  dumpDatalink : Bool := false
  noClient : Bool := false
  deriving DecidableEq, Repr

/-- A frame with the answers of the environment while it is handled. -/
structure Frame (timeBytes : Nat) where
  tvSec : BitVec (8 * timeBytes)
  tvUsec : BitVec (8 * timeBytes)
  /-- The captured bytes; their number is `caplen`. -/
  pkt : Bytes
  /-- The protocol in the tuple of `zdtun_parse_pkt`, when that succeeds. -/
  ipproto : Option Nat := none
  lruUid : BitVec 32 := LRU_MISS
  netlinkUid : BitVec 32 := UID_UNKNOWN
  resolverUid : BitVec 32 := UID_UNKNOWN
  /-- What the padding of the header happens to hold. -/
  pad : BitVec 16 := 0
  deriving DecidableEq, Repr

inductive NextEx (timeBytes : Nat) where
  | packet (frame : Frame timeBytes)
  | timeout
  | error
  | eof
  deriving DecidableEq, Repr

section Direction

def LINUX_SLL_HOST : Nat := 0
def LINUX_SLL_OUTGOING : Nat := 4

def byteAt (pkt : Bytes) (index : Nat) : Nat := (pkt.getD index 0).toNat

def bytes2mac (buf : Bytes) : Nat := decodeLe (buf.take 6)

/-- The end of `is_tx_packet`: from the IP header. -/
def isTxIp (iface : Iface) (pkt : Bytes) (len : Nat) : Bool :=
  if len < 20 then false
  else if byteAt pkt 0 / 16 = 4 then decodeLe ((pkt.drop 16).take 4) ≠ iface.ip
  else if byteAt pkt 0 / 16 = 6 ∧ 40 ≤ len then (pkt.drop 24).take 16 ≠ iface.ip6
  else true

/-- The packet type of a cooked link layer decides, when it is one of two. -/
def isTxCooked (iface : Iface) (pkttype size : Nat) (pkt : Bytes) (len : Nat) : Bool :=
  if pkttype = LINUX_SLL_HOST then false
  else if pkttype = LINUX_SLL_OUTGOING then true
  else isTxIp iface (pkt.drop size) (len - size)

/-- `is_tx_packet`, whose `len` is a 16-bit integer. -/
def isTxPacket (iface : Iface) (pkt : Bytes) (len : BitVec 16) : Bool :=
  let size := len.toNat
  match iface.dlink with
  | .en10mb =>
      if 14 ≤ size then
        let smac := bytes2mac (pkt.drop 6)
        let dmac := bytes2mac pkt
        if smac ≠ dmac ∧ smac = iface.mac then true
        else if smac ≠ dmac ∧ dmac = iface.mac then false
        else isTxIp iface (pkt.drop 14) (size - 14)
      else isTxIp iface pkt size
  | .linuxSll =>
      if 16 ≤ size then isTxCooked iface (byteAt pkt 0 * 256 + byteAt pkt 1) 16 pkt size
      else isTxIp iface pkt size
  | .linuxSll2 =>
      -- `ntohs` of a field that is one byte wide
      if 20 ≤ size then isTxCooked iface (byteAt pkt 10 * 256) 20 pkt size
      else isTxIp iface pkt size
  | .raw => isTxIp iface pkt size

end Direction

section Packets

variable {timeBytes : Nat}

/-- The answer of `matches_uid_filter`; `none` where it does not return, as its loop never
    advances. -/
def uidAccepted : List (BitVec 32) → BitVec 32 → Option Bool
  | [], _ => some true
  | first :: _, uid => if first = uid then some true else none

/-- The uid of a packet, and whether the netlink socket is still open. -/
def resolveUid (iface : Iface) (frame : Frame timeBytes) (nldiag : Bool) : BitVec 32 × Bool :=
  match frame.ipproto with
  | none => (UID_UNKNOWN, nldiag)
  | some ipproto =>
      if iface.isFile then (UID_UNKNOWN, nldiag)
      else if frame.lruUid ≠ LRU_MISS then (frame.lruUid, nldiag)
      else if nldiag ∧ ipproto ≠ Connection.IPPROTO_ICMP then
        if frame.netlinkUid.toInt < 0 ∧ frame.netlinkUid ≠ UID_UNKNOWN then
          (frame.resolverUid, false)
        else (frame.netlinkUid, nldiag)
      else (frame.resolverUid, nldiag)

/-- What `read_pkt` exports: the header, and the packet it points to. -/
structure Export (timeBytes : Nat) where
  hdr : PcapdHdr timeBytes
  packet : Bytes
  deriving DecidableEq, Repr

def exportFrame (conf : Conf) (iface : Iface) (frame : Frame timeBytes) (uid : BitVec 32) :
    Export timeBytes :=
  let packet := if conf.dumpDatalink then frame.pkt else frame.pkt.drop iface.dlink.ipoffset
  let isTx := isTxPacket iface frame.pkt (BitVec.ofNat 16 frame.pkt.length)
  { hdr :=
      { tvSec := frame.tvSec
        tvUsec := frame.tvUsec
        pktDrops := iface.psDrop
        uid := uid
        len := BitVec.ofNat 16 packet.length
        linktype := BitVec.ofNat 16 (if conf.dumpDatalink then iface.dlink.code else Dlink.raw.code)
        flags := if isTx then PCAPD_FLAG_TX else 0
        ifid := iface.ifid
        pad := frame.pad }
    packet := packet }

/-- Why `pcapd` reads no more packets. -/
inductive Stop where
  | readError
  | eof
  | hung
  deriving DecidableEq, Repr

/-- `read_pkt`; the result has what is exported, and whether the netlink socket is open. -/
def readPkt (conf : Conf) (nldiag : Bool) (iface : Iface) :
    NextEx timeBytes → Except Stop (Option (Export timeBytes) × Bool)
  | .timeout => .ok (none, nldiag)
  | .eof => .error .eof
  | .error => if iface.isInet then .ok (none, nldiag) else .error .readError
  | .packet frame =>
      if frame.pkt.length < iface.dlink.ipoffset then .ok (none, nldiag)
      else
        let (uid, nldiag) := resolveUid iface frame nldiag
        let accepted :=
          match conf.uidFilter with
          | none => some true
          | some uids => uidAccepted uids uid
        match accepted with
        | none => .error .hung
        | some false => .ok (none, nldiag)
        | some true =>
            if conf.noClient then .ok (none, nldiag)
            else .ok (some (exportFrame conf iface frame uid), nldiag)

/-- What the loop of `run_pcap_dump` exports, packet after packet. -/
def exports (conf : Conf) : Bool → List (Iface × NextEx timeBytes) → List (Export timeBytes)
  | _, [] => []
  | nldiag, (iface, next) :: rest =>
      match readPkt conf nldiag iface next with
      | .error _ => []
      | .ok (none, nldiag) => exports conf nldiag rest
      | .ok (some sent, nldiag) => sent :: exports conf nldiag rest

theorem readPkt_sent (conf : Conf) (nldiag : Bool) (iface : Iface) (read : NextEx timeBytes)
    (sent : Export timeBytes) (after : Bool)
    (handled : readPkt conf nldiag iface read = .ok (some sent, after)) :
    ∃ frame uid, read = .packet frame ∧ sent = exportFrame conf iface frame uid := by
  cases read with
  | timeout => simp [readPkt] at handled
  | eof => simp [readPkt] at handled
  | error =>
      unfold readPkt at handled
      by_cases inet : iface.isInet = true <;> simp [inet] at handled
  | packet frame =>
      simp only [readPkt] at handled
      by_cases short : frame.pkt.length < iface.dlink.ipoffset
      · simp [short] at handled
      · rw [if_neg short] at handled
        split at handled
        · cases handled
        · simp at handled
        · by_cases silent : conf.noClient = true
          · simp [silent] at handled
          · rw [if_neg silent] at handled
            obtain ⟨exported, -⟩ := Prod.mk.inj (Except.ok.inj handled)
            exact ⟨frame, _, rfl, (Option.some.inj exported).symm⟩

/-- The header of an export says the low 16 bits of the length. -/
theorem exports_len (conf : Conf) (nldiag : Bool) (reads : List (Iface × NextEx timeBytes))
    (sent : Export timeBytes) (member : sent ∈ exports conf nldiag reads) :
    sent.hdr.len = BitVec.ofNat 16 sent.packet.length := by
  induction reads generalizing nldiag with
  | nil => cases member
  | cons read rest ih =>
      rw [exports] at member
      rcases handled : readPkt conf nldiag read.1 read.2 with stop | ⟨_ | first, after⟩
      · rw [handled] at member
        cases member
      · rw [handled] at member
        exact ih after member
      · rw [handled] at member
        rcases List.mem_cons.mp member with rfl | later
        · obtain ⟨frame, uid, -, rfl⟩ := readPkt_sent conf nldiag read.1 read.2 sent after handled
          rfl
        · exact ih after later

end Packets

end Ptnet.PcapdFrames
