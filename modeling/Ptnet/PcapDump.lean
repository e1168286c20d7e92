import Ptnet.ByteMemory

/-!
core/pcap_dump.c and core/pcap_dump.h: the dumper, its packet buffer and its keylog buffer,
and the preambles. Buffers are memory with arbitrary earlier contents that is written in
place; integers are little endian, as on the hosts this runs on.
-/

namespace Ptnet.PcapDump

open ByteMemory

def LINKTYPE_ETHERNET : Nat := 1
def LINKTYPE_RAW : Nat := 101

def MAX_PCAP_DUMP_DELAY_MS : Nat := 1000
def PCAP_BUFFER_SIZE : Nat := 512 * 1024
def PCAP_BUFFER_ALMOST_FULL_SIZE : Nat := 450 * 1024

/-- `sizeof(struct pcap_rec)` -/
def PCAP_REC_SIZE : Nat := 16
/-- `sizeof(pcapng_section_hdr_block_t)` -/
def SHB_SIZE : Nat := 24
/-- `sizeof(pcapng_intf_descr_block_t)` -/
def IDB_SIZE : Nat := 16
/-- `sizeof(pcapng_decr_secrets_block_t)` -/
def DSB_SIZE : Nat := 16
/-- `sizeof(pcapng_enh_packet_block_t)` -/
def EPB_SIZE : Nat := 28
/-- `sizeof(struct ethhdr)` -/
def ETH_SIZE : Nat := 14
/-- `sizeof(pcapdroid_trailer_t)` -/
def TRAILER_SIZE : Nat := 32

def KEYLOG_BUFFER_HEADROOM : Nat := DSB_SIZE
def KEYLOG_BUFFER_TAILROOM : Nat := 8

def PCAPDROID_TRAILER_MAGIC : Nat := 0x01072021

inductive Mode where
  | pcapDump
  | pcapDumpWithTrailer
  | pcapngDump
  deriving DecidableEq, Repr

structure Timeval where
  tvSec : Int
  tvUsec : Int
  deriving DecidableEq, Repr

/-- A packet; its length is an `int`. The byte `behind` it in memory is no part of it. -/
structure Packet where
  bytes : Bytes
  short : bytes.length < 2 ^ 31
  behind : UInt8 := 0
  deriving DecidableEq, Repr

/-- A master secret; the receiver takes messages of 64 MB at most. -/
structure Secret where
  bytes : Bytes
  short : bytes.length ≤ 67108864
  deriving DecidableEq, Repr

/-- What the trailer mode takes from elsewhere: the field of the app name, and the checksum. -/
structure Trailers where
  appname : Int → { name : Bytes // name.length = 20 }
  crc32 : Bytes → Nat

/-- `pd_device`, `pd_os` and `pd_appver` -/
structure Platform where
  device : Bytes
  os : Bytes
  appver : Bytes
  deriving DecidableEq, Repr

structure Dumper where
  mode : Mode
  snaplen : Nat
  maxDumpSize : Nat
  dumpSize : Nat := 0
  lastDumpMs : Nat := 0
  buffer : Memory
  bufferIdx : Nat := 0
  keylogBuf : Option Memory := none
  keylogIdx : Nat := 0
  /-- `pd->now_ms` -/
  nowMs : Nat := 0
  /-- What the callback has got. -/
  exported : List Bytes := []

def add64 (first last : Nat) : Nat := (first + last) % 2 ^ 64

def sub64 (first last : Nat) : Nat := (first + 2 ^ 64 - last) % 2 ^ 64

def low32 (value : Int) : Nat := (value % 2 ^ 32).toNat

def writeLe (memory : Memory) (offset count value : Nat) : Memory :=
  memory.write offset (encodeLe count value)

def pcapNewDumper (mode : Mode) (snaplen maxDumpSize : Nat) (cells : Nat → UInt8) : Dumper where
  mode := mode
  snaplen := snaplen
  maxDumpSize := maxDumpSize
  buffer := { cells := cells, size := PCAP_BUFFER_SIZE }

section Export

/-- The block that `export_keylog_buffer` completes around the collected secrets. -/
def completeKeylog (memory : Memory) (secLen : Nat) : Memory :=
  let blockSize := DSB_SIZE + secLen + padding secLen + 4
  let header := writeLe (writeLe (writeLe (writeLe memory 0 4 0x0000000A) 4 4 blockSize)
    8 4 0x544c534b) 12 4 secLen
  let padded := header.write (KEYLOG_BUFFER_HEADROOM + secLen) (zeros (padding secLen))
  writeLe padded (KEYLOG_BUFFER_HEADROOM + secLen + padding secLen) 4 blockSize

/-- The part of `export_keylog_buffer` under the mutex. -/
def keylogSection (dumper : Dumper) : Dumper :=
  match dumper.keylogBuf with
  | none => dumper
  | some keylogBuf =>
      let secLen := dumper.keylogIdx
      let blockSize := DSB_SIZE + secLen + padding secLen + 4
      if 0 < dumper.maxDumpSize ∧ dumper.maxDumpSize ≤ add64 dumper.dumpSize blockSize then
        { dumper with keylogIdx := 0 }
      else
        let completed := completeKeylog keylogBuf secLen
        { dumper with
          keylogBuf := some completed
          exported := dumper.exported ++ [completed.read 0 blockSize]
          dumpSize := add64 dumper.dumpSize blockSize
          keylogIdx := 0 }

def exportKeylogBuffer (dumper : Dumper) : Dumper :=
  if dumper.keylogIdx = 0 then dumper else keylogSection dumper

/-- The part of `export_buffer` after the keylog. -/
def flushBuffer (dumper : Dumper) : Dumper :=
  if dumper.bufferIdx = 0 then dumper
  else
    { dumper with
      exported := dumper.exported ++ [dumper.buffer.read 0 dumper.bufferIdx]
      bufferIdx := 0
      lastDumpMs := dumper.nowMs }

def exportBuffer (dumper : Dumper) : Dumper := flushBuffer (exportKeylogBuffer dumper)

def exportDue (dumper : Dumper) : Bool :=
  (decide (0 < dumper.bufferIdx) &&
      decide (MAX_PCAP_DUMP_DELAY_MS ≤ sub64 dumper.nowMs dumper.lastDumpMs)) ||
    decide (PCAP_BUFFER_ALMOST_FULL_SIZE < dumper.keylogIdx)

def pcapCheckExport (dumper : Dumper) : Dumper × Bool :=
  if exportDue dumper then (exportBuffer dumper, true) else (dumper, false)

/-- What `pcap_destroy_dumper` exports before it frees the dumper. -/
def pcapDestroyDumper (dumper : Dumper) : Dumper := exportBuffer dumper

end Export

section Preamble

/-- `pcapng_opt_t`; the lengths are 16-bit integers. -/
structure PcapngOpt where
  type : Nat
  length : Nat
  padding : Nat
  totLength : Nat
  data : Bytes
  deriving DecidableEq, Repr

def pcapngOption (type : Nat) (data : Bytes) : PcapngOpt :=
  let length := data.length % 2 ^ 16
  { type := type
    length := length
    padding := padding length
    totLength := (4 + length + padding length) % 2 ^ 16
    data := data }

def writePcapngOpt (memory : Memory) (offset : Nat) (opt : PcapngOpt) : Memory :=
  let header := writeLe (writeLe memory offset 2 opt.type) (offset + 2) 2 opt.length
  let data := header.write (offset + 4) (opt.data.take opt.length)
  data.write (offset + 4 + opt.length) (zeros opt.padding)

def getPcapFileHeader (dumper : Dumper) (cells : Nat → UInt8) : Memory × Nat :=
  let memory : Memory := { cells := cells, size := 24 }
  let network := if dumper.mode = .pcapDumpWithTrailer then LINKTYPE_ETHERNET else LINKTYPE_RAW
  (writeLe (writeLe (writeLe (writeLe (writeLe (writeLe (writeLe memory
    0 4 0xa1b2c3d4) 4 2 2) 6 2 4) 8 4 0) 12 4 0) 16 4 dumper.snaplen) 20 4 network, 24)

def getPcapngPreamble (dumper : Dumper) (platform : Platform) (cells : Nat → UInt8) :
    Memory × Nat :=
  let hw := pcapngOption 2 platform.device
  let os := pcapngOption 3 platform.os
  let app := pcapngOption 4 platform.appver
  let shbLength := SHB_SIZE + hw.totLength + os.totLength + app.totLength + 4
  let idbLength := IDB_SIZE + 4
  let memory : Memory := { cells := cells, size := shbLength + idbLength }
  let shb := writeLe (writeLe (writeLe (writeLe (writeLe (writeLe memory 0 4 0x0A0D0D0A)
    4 4 shbLength) 8 4 0x1a2b3c4d) 12 2 1) 14 2 0) 16 8 (2 ^ 64 - 1)
  let osAt := SHB_SIZE + hw.totLength
  let appAt := osAt + os.totLength
  let endAt := appAt + app.totLength
  let options :=
    writePcapngOpt (writePcapngOpt (writePcapngOpt shb SHB_SIZE hw) osAt os) appAt app
  let section' := writeLe options endAt 4 shbLength
  let idbAt := endAt + 4
  let idb := writeLe (writeLe (writeLe (writeLe (writeLe section' idbAt 4 1) (idbAt + 4) 4 idbLength)
    (idbAt + 8) 2 LINKTYPE_RAW) (idbAt + 10) 2 0) (idbAt + 12) 4 dumper.snaplen
  (writeLe idb (idbAt + IDB_SIZE) 4 idbLength, shbLength + idbLength)

/-- The allocated memory and the size that is returned. -/
def pcapGetPreamble (dumper : Dumper) (platform : Platform) (cells : Nat → UInt8) : Memory × Nat :=
  if dumper.mode = .pcapngDump then getPcapngPreamble dumper platform cells
  else getPcapFileHeader dumper cells

end Preamble

section Packets

def pcapRecSize (mode : Mode) (snaplen pktLen : Nat) : Nat :=
  let captured := min pktLen snaplen
  match mode with
  | .pcapngDump => EPB_SIZE + 4 + captured + padding captured
  | .pcapDumpWithTrailer =>
      let framed := captured + TRAILER_SIZE + ETH_SIZE
      framed + padding framed + PCAP_REC_SIZE
  | .pcapDump => captured + PCAP_REC_SIZE

/-- The Ethernet type of a packet, in the order of the network. Of an empty packet the byte at
    its address is read too. -/
def etherType (pkt : Packet) : Bytes :=
  if (pkt.bytes.headD pkt.behind).toNat / 16 = 4 then [0x08, 0x00] else [0x86, 0xDD]

def encodeBe (count value : Nat) : Bytes := (encodeLe count value).reverse

/-- What `dump_packet_pcap` copies of a packet behind `offset` bytes of the frame. -/
def payloadToCopy (pktLen inclLen offset : Nat) : Nat := min pktLen (inclLen - offset)

/-- `dump_packet_pcap` without a trailer. -/
def dumpPacketRaw (buffer : Memory) (at' : Nat) (pkt : Packet) (tv : Timeval) (totRecSize : Nat) :
    Memory :=
  let inclLen := totRecSize - PCAP_REC_SIZE
  let header := writeLe (writeLe (writeLe (writeLe buffer at' 4 (low32 tv.tvSec))
    (at' + 4) 4 (low32 tv.tvUsec)) (at' + 8) 4 inclLen) (at' + 12) 4 pkt.bytes.length
  header.write (at' + PCAP_REC_SIZE) (pkt.bytes.take (payloadToCopy pkt.bytes.length inclLen 0))

/-- `dump_packet_pcap` with the Ethernet header and the trailer around the packet. -/
def dumpPacketTrailer (trailers : Trailers) (buffer : Memory) (at' : Nat) (pkt : Packet)
    (tv : Timeval) (uid : Int) (totRecSize : Nat) : Memory :=
  let inclLen := totRecSize - PCAP_REC_SIZE
  let frame := at' + PCAP_REC_SIZE
  let copied := payloadToCopy pkt.bytes.length inclLen ETH_SIZE
  let offset := ETH_SIZE + copied
  let trailed := decide (TRAILER_SIZE ≤ inclLen - offset)
  let origLen := pkt.bytes.length + ETH_SIZE +
    if trailed then padding offset + TRAILER_SIZE else 0
  let header := writeLe (writeLe (writeLe (writeLe buffer at' 4 (low32 tv.tvSec))
    (at' + 4) 4 (low32 tv.tvUsec)) (at' + 8) 4 inclLen) (at' + 12) 4 origLen
  let ethernet := header.write frame (zeros 12 ++ etherType pkt)
  let payload := ethernet.write (frame + ETH_SIZE) (pkt.bytes.take copied)
  if trailed then
    let padded := payload.write (frame + offset) (zeros (padding offset))
    let trailer := frame + offset + padding offset
    let described := padded.write trailer
      (encodeBe 4 PCAPDROID_TRAILER_MAGIC ++ encodeBe 4 (low32 uid) ++ (trailers.appname uid).val)
    writeLe described (trailer + 28) 4 (trailers.crc32 (described.read frame (inclLen - 4)))
  else payload

def dumpPacketPcapng (buffer : Memory) (at' snaplen : Nat) (pkt : Packet) (tv : Timeval)
    (totRecSize : Nat) : Memory :=
  let nowUsec := ((tv.tvSec * 1000000 + tv.tvUsec) % 2 ^ 64).toNat
  let captured := min pkt.bytes.length snaplen
  let header := writeLe (writeLe (writeLe (writeLe (writeLe (writeLe (writeLe buffer
    at' 4 6) (at' + 4) 4 totRecSize) (at' + 8) 4 0) (at' + 12) 4 (nowUsec / 2 ^ 32))
    (at' + 16) 4 nowUsec) (at' + 20) 4 captured) (at' + 24) 4 pkt.bytes.length
  let data := header.write (at' + EPB_SIZE) (pkt.bytes.take captured)
  let padded := data.write (at' + EPB_SIZE + captured) (zeros (padding captured))
  writeLe padded (at' + EPB_SIZE + captured + padding captured) 4 totRecSize

def writePacket (trailers : Trailers) (dumper : Dumper) (pkt : Packet) (tv : Timeval) (uid : Int) :
    Memory :=
  let totRecSize := pcapRecSize dumper.mode dumper.snaplen pkt.bytes.length
  match dumper.mode with
  | .pcapngDump =>
      dumpPacketPcapng dumper.buffer dumper.bufferIdx dumper.snaplen pkt tv totRecSize
  | .pcapDump => dumpPacketRaw dumper.buffer dumper.bufferIdx pkt tv totRecSize
  | .pcapDumpWithTrailer =>
      dumpPacketTrailer trailers dumper.buffer dumper.bufferIdx pkt tv uid totRecSize

def lacksRoom (dumper : Dumper) (totRecSize : Nat) : Bool :=
  decide (PCAP_BUFFER_SIZE ≤ dumper.bufferIdx + totRecSize)

def makeRoom (dumper : Dumper) (totRecSize : Nat) : Dumper :=
  if lacksRoom dumper totRecSize then exportBuffer dumper else dumper

def refuses (dumper : Dumper) (totRecSize : Nat) : Bool :=
  lacksRoom dumper totRecSize ||
    (decide (0 < dumper.maxDumpSize) &&
      decide (dumper.maxDumpSize ≤ add64 dumper.dumpSize totRecSize))

def recordPacket (trailers : Trailers) (dumper : Dumper) (pkt : Packet) (tv : Timeval)
    (uid : Int) : Dumper :=
  let totRecSize := pcapRecSize dumper.mode dumper.snaplen pkt.bytes.length
  { dumper with
    buffer := writePacket trailers dumper pkt tv uid
    bufferIdx := dumper.bufferIdx + totRecSize
    dumpSize := add64 dumper.dumpSize totRecSize }

def pcapDumpPacket (trailers : Trailers) (dumper : Dumper) (pkt : Packet) (tv : Timeval)
    (uid : Int) : Dumper × Bool :=
  let totRecSize := pcapRecSize dumper.mode dumper.snaplen pkt.bytes.length
  let dumper := makeRoom dumper totRecSize
  if refuses dumper totRecSize then (dumper, false)
  else ((pcapCheckExport (recordPacket trailers dumper pkt tv uid)).1, true)

/-- The keylog memory of `pcap_dump_secret`; `cells` is what an allocation finds in memory, and
`none` that it fails. -/
def allocateKeylog (dumper : Dumper) (cells : Option (Nat → UInt8)) : Dumper :=
  { dumper with
    keylogBuf := dumper.keylogBuf.or (cells.map fun cells =>
      { cells := cells
        size := KEYLOG_BUFFER_HEADROOM + PCAP_BUFFER_SIZE + KEYLOG_BUFFER_TAILROOM }) }

def secretFits (dumper : Dumper) (secret : Secret) : Bool :=
  decide (dumper.keylogIdx + (secret.bytes.length + 1) < PCAP_BUFFER_SIZE)

/-- The part of `pcap_dump_secret` under the mutex. -/
def secretSection (dumper : Dumper) (secret : Secret) : Dumper :=
  { dumper with
    keylogBuf := dumper.keylogBuf.map fun keylogBuf =>
      (keylogBuf.write (KEYLOG_BUFFER_HEADROOM + dumper.keylogIdx) secret.bytes).write
        (KEYLOG_BUFFER_HEADROOM + (dumper.keylogIdx + secret.bytes.length)) [10]
    keylogIdx := dumper.keylogIdx + secret.bytes.length + 1 }

def pcapDumpSecret (dumper : Dumper) (secret : Secret) (cells : Option (Nat → UInt8)) :
    Dumper × Bool :=
  let dumper := allocateKeylog dumper cells
  if dumper.keylogBuf.isNone then (dumper, false)
  else if secretFits dumper secret then (secretSection dumper secret, true)
  else (dumper, false)

end Packets

inductive Call where
  | refreshTime (nowMs : Nat)
  | dumpPacket (pkt : Packet) (tv : Timeval) (uid : Int)
  | dumpSecret (secret : Secret) (cells : Option (Nat → UInt8))
  | checkExport

def step (trailers : Trailers) (dumper : Dumper) : Call → Dumper
  | .refreshTime nowMs => { dumper with nowMs := nowMs }
  | .dumpPacket pkt tv uid => (pcapDumpPacket trailers dumper pkt tv uid).1
  | .dumpSecret secret cells => (pcapDumpSecret dumper secret cells).1
  | .checkExport => (pcapCheckExport dumper).1

end Ptnet.PcapDump
