import Mathlib.Data.BitVec
import Ptnet.Connection

/-!
The statistics path from a native `pd_conn_t` to the Kotlin `ConnectionDescriptor`:
`getConnUpdate` packs the record, `ConnectionUpdate` carries it over JNI and
`ConnectionDescriptor.processUpdate` unpacks it. JNI allocation failures belong to the
dump itself; here the update exists.
-/

namespace Ptnet.ConnectionMirror

open Connection

/-- `ConnectionUpdate`, with its `updateType` bits. -/
structure ConnectionUpdate where
  incrId : Nat := 0
  updateType : BitVec 32 := 0
  lastSeen : Int := 0
  payloadLength : Int := 0
  sentBytes : Int := 0
  rcvdBytes : Int := 0
  sentPkts : Int := 0
  rcvdPkts : Int := 0
  blockedPkts : Int := 0
  tcpFlags : BitVec 32 := 0
  status : BitVec 32 := 0
  infoFlags : BitVec 32 := 0
  info : Option String := none
  url : Option String := none
  l7proto : Option String := none
  payloadChunks : Option (List PayloadChunk) := none
  payloadTruncated : Bool := false
  deriving DecidableEq, Repr

def UPDATE_STATS : BitVec 32 := 0x1
def UPDATE_INFO : BitVec 32 := 0x2
def UPDATE_PAYLOAD : BitVec 32 := 0x4
def UPDATE_INFO_FLAG_ENCRYPTED_L7 : BitVec 32 := 0x1

namespace ConnectionUpdate

def setStats (update : ConnectionUpdate) (lastSeen payloadLength sentBytes rcvdBytes : Int)
    (sentPkts rcvdPkts blockedPkts : Int) (tcpFlags status : BitVec 32) : ConnectionUpdate :=
  { update with
    updateType := update.updateType ||| UPDATE_STATS
    lastSeen := lastSeen
    payloadLength := payloadLength
    sentBytes := sentBytes
    rcvdBytes := rcvdBytes
    sentPkts := sentPkts
    blockedPkts := blockedPkts
    rcvdPkts := rcvdPkts
    tcpFlags := tcpFlags
    status := status }

def setInfo (update : ConnectionUpdate) (info url l7proto : String) (infoFlags : BitVec 32) :
    ConnectionUpdate :=
  { update with
    updateType := update.updateType ||| UPDATE_INFO
    info := some info
    url := some url
    l7proto := some l7proto
    infoFlags := infoFlags }

def setPayload (update : ConnectionUpdate) (payloadChunks : Option (List PayloadChunk))
    (payloadTruncated : Bool) : ConnectionUpdate :=
  { update with
    updateType := update.updateType ||| UPDATE_PAYLOAD
    payloadChunks := payloadChunks
    payloadTruncated := payloadTruncated }

end ConnectionUpdate

/-- A C or Kotlin `Boolean` in an `int` expression. -/
def ofBool (value : Bool) : BitVec 32 := (BitVec.ofBool value).setWidth 32

/-- `(data->tcp_flags[0] << 8) | data->tcp_flags[1]` -/
def packTcpFlags (flags : TcpFlags) : BitVec 32 :=
  (flags.cli2srv.setWidth 32 <<< 8) ||| flags.srv2cli.setWidth 32

/-- The last argument of `connUpdateSetStats`. -/
def packStatus (vpnCapture : Bool) (data : PdConn) : BitVec 32 :=
  (ofBool data.portMappingApplied <<< 13) |||
  (ofBool data.decryptionIgnored <<< 12) |||
  (ofBool data.netdBlockMissed <<< 11) |||
  (ofBool (data.toBlock && vpnCapture) <<< 10) |||
  (ofBool data.blacklistedDomain <<< 9) |||
  (ofBool data.blacklistedIp <<< 8) |||
  (BitVec.ofNat 32 data.status.code &&& 0xFF)

/-- `getConnUpdate`: the update and the record it leaves behind. -/
def getConnUpdate (ndpi : NdpiTables) (vpnCapture : Bool) (tuple : Tuple) (data : PdConn) :
    ConnectionUpdate × PdConn :=
  let created : ConnectionUpdate := { incrId := data.incrId }
  let stats :=
    if data.dirty CONN_UPDATE_STATS then
      created.setStats data.lastSeen data.payloadLength data.sentBytes data.rcvdBytes
        data.sentPkts data.rcvdPkts data.blockedPkts
        (packTcpFlags data.tcpFlags) (packStatus vpnCapture data)
    else created
  let described :=
    if data.dirty CONN_UPDATE_INFO then
      stats.setInfo (data.info.getD "") (data.url.getD "")
        (pdGetProtoName ndpi data.l7proto data.alpn tuple.ipproto) (ofBool data.encryptedL7)
    else stats
  if data.dirty CONN_UPDATE_PAYLOAD then
    (described.setPayload data.payloadChunks data.payloadTruncated,
      { data with payloadChunks := none, updateType := 0 })
  else (described, { data with updateType := 0 })

/-- The part of `ConnectionDescriptor` which updates write or consult. `lateinit`
    properties are `none` until they are assigned. -/
structure ConnectionDescriptor where
  incrId : Nat := 0
  lastSeen : Int := 0
  payloadLength : Int := 0
  sentBytes : Int := 0
  rcvdBytes : Int := 0
  sentPkts : Int := 0
  rcvdPkts : Int := 0
  blockedPkts : Int := 0
  info : Option String := none
  url : Option String := none
  l7proto : Option String := none
  payloadChunks : List PayloadChunk := []
  mitmDecrypt : Bool := false
  status : BitVec 32 := 0
  tcpFlags : BitVec 32 := 0
  blacklistedIp : Bool := false
  blacklistedHost : Bool := false
  isBlocked : Bool := false
  portMappingApplied : Bool := false
  decryptionIgnored : Bool := false
  netdBlockMissed : Bool := false
  payloadTruncated : Bool := false
  encryptedL7 : Bool := false
  decryptionError : Option String := none
  deriving DecidableEq, Repr

def CONN_STATUS_CLOSED : BitVec 32 := 3
def CONN_STATUS_CLIENT_ERROR : BitVec 32 := 6

namespace ConnectionDescriptor

/-- The `UPDATE_STATS` part of `processUpdate`. `sentBytes` is assigned twice there. -/
def processStats (desc : ConnectionDescriptor) (update : ConnectionUpdate) :
    ConnectionDescriptor :=
  let status := update.status &&& 0x00FF
  { desc with
    sentBytes := update.sentBytes
    rcvdBytes := update.rcvdBytes
    rcvdPkts := update.rcvdPkts
    blockedPkts := update.blockedPkts
    status :=
      if status = CONN_STATUS_CLOSED ∧ desc.decryptionError.isSome then CONN_STATUS_CLIENT_ERROR
      else status
    portMappingApplied := update.status &&& 0x2000 != 0
    decryptionIgnored := update.status &&& 0x1000 != 0
    netdBlockMissed := update.status &&& 0x0800 != 0
    isBlocked := update.status &&& 0x0400 != 0
    blacklistedHost := update.status &&& 0x0200 != 0
    blacklistedIp := update.status &&& 0x0100 != 0
    lastSeen := update.lastSeen
    tcpFlags := update.tcpFlags
    payloadLength := if desc.mitmDecrypt then desc.payloadLength else update.payloadLength }

def processInfo (desc : ConnectionDescriptor) (update : ConnectionUpdate) :
    ConnectionDescriptor :=
  { desc with
    info := update.info
    url := update.url
    l7proto := update.l7proto
    encryptedL7 := update.infoFlags &&& UPDATE_INFO_FLAG_ENCRYPTED_L7 != 0 }

def processPayload (desc : ConnectionDescriptor) (lowMemory : Bool)
    (update : ConnectionUpdate) : ConnectionDescriptor :=
  if lowMemory then desc
  else
    { desc with
      payloadChunks := desc.payloadChunks ++ update.payloadChunks.getD []
      payloadTruncated := update.payloadTruncated }

/-- `processUpdate`. `lowMemory` is `CaptureService.isLowMemory()`; the assertion in the
    payload part is disabled on Android and left out. -/
def processUpdate (desc : ConnectionDescriptor) (lowMemory : Bool) (update : ConnectionUpdate) :
    ConnectionDescriptor :=
  let stats :=
    if update.updateType &&& UPDATE_STATS != 0 then desc.processStats update else desc
  let described :=
    if update.updateType &&& UPDATE_INFO != 0 then stats.processInfo update else stats
  if update.updateType &&& UPDATE_PAYLOAD != 0 then described.processPayload lowMemory update
  else described

def getSentTcpFlags (desc : ConnectionDescriptor) : BitVec 32 := desc.tcpFlags.sshiftRight 8

def getRcvdTcpFlags (desc : ConnectionDescriptor) : BitVec 32 := desc.tcpFlags &&& 0xFF

end ConnectionDescriptor

section Packing

theorem and_twoPow_bne_zero {width : Nat} (word : BitVec width) (bit : Nat)
    (bound : bit < width) :
    (word &&& BitVec.twoPow width bit != 0) = word.getLsbD bit := by
  cases present : word.getLsbD bit with
  | false => simp [BitVec.and_twoPow, present]
  | true =>
      have set : (BitVec.twoPow width bit).getLsbD bit = true := by simp [bound]
      have nonzero : BitVec.twoPow width bit ≠ 0 := by
        rintro empty
        simp [empty] at set
      simpa [BitVec.and_twoPow, present] using nonzero

theorem status_code_getLsbD (status : ConnStatus) (bit : Nat) (high : 8 ≤ bit) :
    (BitVec.ofNat 32 status.code).getLsbD bit = false := by
  have small : status.code < 2 ^ bit :=
    Nat.lt_of_lt_of_le (Nat.lt_trans status.code_lt (by decide : 10 < 2 ^ 8))
      (Nat.pow_le_pow_right (by decide) high)
  simp [BitVec.getLsbD_ofNat, Nat.testBit_lt_two_pow small]

theorem byte_mask_getLsbD :
    ∀ bit < 32, (BitVec.ofNat 32 255).getLsbD bit = decide (bit < 8) := by
  decide

theorem packStatus_low (vpnCapture : Bool) (data : PdConn) :
    packStatus vpnCapture data &&& 0x00FF = BitVec.ofNat 32 data.status.code := by
  apply BitVec.eq_of_getLsbD_eq
  intro bit bound
  have mask := byte_mask_getLsbD bit bound
  by_cases low : bit < 8
  · simp [packStatus, mask, low, show bit < 9 by omega, show bit < 10 by omega,
      show bit < 11 by omega, show bit < 12 by omega, show bit < 13 by omega]
  · simp [mask, low, status_code_getLsbD data.status bit (by omega)]

/-- Every flag above the status byte is read back by its own mask. -/
theorem packStatus_flags (vpnCapture : Bool) (data : PdConn) :
    (packStatus vpnCapture data &&& 0x2000 != 0) = data.portMappingApplied ∧
    (packStatus vpnCapture data &&& 0x1000 != 0) = data.decryptionIgnored ∧
    (packStatus vpnCapture data &&& 0x0800 != 0) = data.netdBlockMissed ∧
    (packStatus vpnCapture data &&& 0x0400 != 0) = (data.toBlock && vpnCapture) ∧
    (packStatus vpnCapture data &&& 0x0200 != 0) = data.blacklistedDomain ∧
    (packStatus vpnCapture data &&& 0x0100 != 0) = data.blacklistedIp := by
  refine ⟨?_, ?_, ?_, ?_, ?_, ?_⟩
  · rw [show (0x2000 : BitVec 32) = .twoPow 32 13 by decide, and_twoPow_bne_zero _ _ (by decide)]
    simp [packStatus, ofBool]
  · rw [show (0x1000 : BitVec 32) = .twoPow 32 12 by decide, and_twoPow_bne_zero _ _ (by decide)]
    simp [packStatus, ofBool]
  · rw [show (0x0800 : BitVec 32) = .twoPow 32 11 by decide, and_twoPow_bne_zero _ _ (by decide)]
    simp [packStatus, ofBool]
  · rw [show (0x0400 : BitVec 32) = .twoPow 32 10 by decide, and_twoPow_bne_zero _ _ (by decide)]
    simp [packStatus, ofBool]
  · rw [show (0x0200 : BitVec 32) = .twoPow 32 9 by decide, and_twoPow_bne_zero _ _ (by decide)]
    simp [packStatus, ofBool]
  · rw [show (0x0100 : BitVec 32) = .twoPow 32 8 by decide, and_twoPow_bne_zero _ _ (by decide)]
    simp [packStatus, ofBool]

theorem packTcpFlags_sent (flags : TcpFlags) :
    (packTcpFlags flags).sshiftRight 8 = flags.cli2srv.setWidth 32 := by
  have positive : (packTcpFlags flags).msb = false := by
    simp [packTcpFlags, BitVec.msb_eq_getLsbD_last]
  rw [BitVec.sshiftRight_eq_of_msb_false positive]
  apply BitVec.eq_of_getLsbD_eq
  intro bit bound
  by_cases low : bit < 8
  · simp [packTcpFlags, low, bound, show 8 + bit < 32 by omega, show ¬ 8 + bit < 8 by omega]
  · simp [packTcpFlags, bound, BitVec.getLsbD_of_ge flags.cli2srv bit (by omega)]

theorem packTcpFlags_rcvd (flags : TcpFlags) :
    packTcpFlags flags &&& 0xFF = flags.srv2cli.setWidth 32 := by
  apply BitVec.eq_of_getLsbD_eq
  intro bit bound
  have mask := byte_mask_getLsbD bit bound
  by_cases low : bit < 8
  · simp [packTcpFlags, low, mask]
  · simp [low, mask, BitVec.getLsbD_of_ge flags.srv2cli bit (by omega)]

end Packing

/-- The native statistics as the descriptor should show them. The only rewrite is the
    documented one of `CLOSED` after a decryption error. -/
structure StatsMirrored (vpnCapture : Bool) (data : PdConn)
    (before after : ConnectionDescriptor) : Prop where
  lastSeen : after.lastSeen = data.lastSeen
  sentBytes : after.sentBytes = data.sentBytes
  rcvdBytes : after.rcvdBytes = data.rcvdBytes
  sentPkts : after.sentPkts = data.sentPkts
  rcvdPkts : after.rcvdPkts = data.rcvdPkts
  blockedPkts : after.blockedPkts = data.blockedPkts
  sentFlags : after.getSentTcpFlags = data.tcpFlags.cli2srv.setWidth 32
  rcvdFlags : after.getRcvdTcpFlags = data.tcpFlags.srv2cli.setWidth 32
  status : after.status =
    if data.status = .closed ∧ before.decryptionError.isSome then CONN_STATUS_CLIENT_ERROR
    else BitVec.ofNat 32 data.status.code
  portMapping : after.portMappingApplied = data.portMappingApplied
  ignored : after.decryptionIgnored = data.decryptionIgnored
  netdMissed : after.netdBlockMissed = data.netdBlockMissed
  blocked : after.isBlocked = (data.toBlock && vpnCapture)
  host : after.blacklistedHost = data.blacklistedDomain
  ip : after.blacklistedIp = data.blacklistedIp
  payload : before.mitmDecrypt = false → after.payloadLength = data.payloadLength

structure CarriesStats (vpnCapture : Bool) (data : PdConn) (update : ConnectionUpdate) :
    Prop where
  present : (update.updateType &&& UPDATE_STATS != 0) = true
  lastSeen : update.lastSeen = data.lastSeen
  payloadLength : update.payloadLength = data.payloadLength
  sentBytes : update.sentBytes = data.sentBytes
  rcvdBytes : update.rcvdBytes = data.rcvdBytes
  sentPkts : update.sentPkts = data.sentPkts
  rcvdPkts : update.rcvdPkts = data.rcvdPkts
  blockedPkts : update.blockedPkts = data.blockedPkts
  tcpFlags : update.tcpFlags = packTcpFlags data.tcpFlags
  status : update.status = packStatus vpnCapture data

theorem setInfo_carries (vpnCapture : Bool) (data : PdConn) (update : ConnectionUpdate)
    (carries : CarriesStats vpnCapture data update) (info url l7proto : String)
    (infoFlags : BitVec 32) :
    CarriesStats vpnCapture data (update.setInfo info url l7proto infoFlags) := by
  have kept : (update.updateType ||| UPDATE_INFO) &&& UPDATE_STATS =
      update.updateType &&& UPDATE_STATS := by
    rw [BitVec.and_comm, BitVec.and_or_distrib_left]
    simp [UPDATE_STATS, UPDATE_INFO, BitVec.and_comm]
  exact { carries with present := by simpa [ConnectionUpdate.setInfo, kept] using carries.present }

theorem setPayload_carries (vpnCapture : Bool) (data : PdConn) (update : ConnectionUpdate)
    (carries : CarriesStats vpnCapture data update) (chunks : Option (List PayloadChunk))
    (truncated : Bool) :
    CarriesStats vpnCapture data (update.setPayload chunks truncated) := by
  have kept : (update.updateType ||| UPDATE_PAYLOAD) &&& UPDATE_STATS =
      update.updateType &&& UPDATE_STATS := by
    rw [BitVec.and_comm, BitVec.and_or_distrib_left]
    simp [UPDATE_STATS, UPDATE_PAYLOAD, BitVec.and_comm]
  exact { carries with
    present := by simpa [ConnectionUpdate.setPayload, kept] using carries.present }

theorem getConnUpdate_carries (ndpi : NdpiTables) (vpnCapture : Bool) (tuple : Tuple)
    (data : PdConn) (set : data.dirty CONN_UPDATE_STATS = true) :
    CarriesStats vpnCapture data (getConnUpdate ndpi vpnCapture tuple data).1 := by
  have stats : CarriesStats vpnCapture data
      (({ incrId := data.incrId } : ConnectionUpdate).setStats data.lastSeen
        data.payloadLength data.sentBytes data.rcvdBytes data.sentPkts data.rcvdPkts
        data.blockedPkts (packTcpFlags data.tcpFlags) (packStatus vpnCapture data)) := by
    constructor
    case present => simp [ConnectionUpdate.setStats, UPDATE_STATS]
    all_goals rfl
  simp only [getConnUpdate, set, ↓reduceIte]
  cases info : data.dirty CONN_UPDATE_INFO <;>
    cases payload : data.dirty CONN_UPDATE_PAYLOAD
  · exact stats
  · exact setPayload_carries _ _ _ stats _ _
  · exact setInfo_carries _ _ _ stats _ _ _ _
  · exact setPayload_carries _ _ _ (setInfo_carries _ _ _ stats _ _ _ _) _ _

theorem processUpdate_frame (desc : ConnectionDescriptor) (lowMemory : Bool)
    (update : ConnectionUpdate) (present : (update.updateType &&& UPDATE_STATS != 0) = true) :
    ∃ info url l7proto encryptedL7 payloadChunks payloadTruncated,
      desc.processUpdate lowMemory update =
        { desc.processStats update with
          info := info
          url := url
          l7proto := l7proto
          encryptedL7 := encryptedL7
          payloadChunks := payloadChunks
          payloadTruncated := payloadTruncated } := by
  simp only [ConnectionDescriptor.processUpdate, present, ↓reduceIte]
  cases update.updateType &&& UPDATE_INFO != 0 <;>
    cases update.updateType &&& UPDATE_PAYLOAD != 0 <;>
    cases lowMemory <;> exact ⟨_, _, _, _, _, _, rfl⟩

theorem status_code_closed (status : ConnStatus) :
    BitVec.ofNat 32 status.code = CONN_STATUS_CLOSED ↔ status = .closed := by
  cases status <;> decide

/-- All of the native statistics are shown after an update, the number of sent packets
    excepted: `processUpdate` never assigns it. -/
theorem processUpdate_mirrored (ndpi : NdpiTables) (vpnCapture lowMemory : Bool)
    (tuple : Tuple) (data : PdConn) (before : ConnectionDescriptor)
    (set : data.dirty CONN_UPDATE_STATS = true) :
    StatsMirrored vpnCapture data before
        (before.processUpdate lowMemory (getConnUpdate ndpi vpnCapture tuple data).1) ↔
      before.sentPkts = data.sentPkts := by
  have carries := getConnUpdate_carries ndpi vpnCapture tuple data set
  generalize (getConnUpdate ndpi vpnCapture tuple data).1 = update at carries
  obtain ⟨info, url, l7proto, encryptedL7, chunks, truncated, frame⟩ :=
    processUpdate_frame before lowMemory update carries.present
  rw [frame]
  have flags := packStatus_flags vpnCapture data
  constructor
  · intro mirrored
    exact mirrored.sentPkts
  · intro same
    constructor
    case sentPkts => exact same
    case status =>
      simp only [ConnectionDescriptor.processStats, carries.status, packStatus_low,
        status_code_closed]
    case sentFlags =>
      simpa [ConnectionDescriptor.getSentTcpFlags, ConnectionDescriptor.processStats,
        carries.tcpFlags] using packTcpFlags_sent data.tcpFlags
    case rcvdFlags =>
      simpa [ConnectionDescriptor.getRcvdTcpFlags, ConnectionDescriptor.processStats,
        carries.tcpFlags] using packTcpFlags_rcvd data.tcpFlags
    case payload =>
      intro plain
      simp [ConnectionDescriptor.processStats, plain, carries.payloadLength]
    case portMapping => simpa [ConnectionDescriptor.processStats, carries.status] using flags.1
    case ignored => simpa [ConnectionDescriptor.processStats, carries.status] using flags.2.1
    case netdMissed =>
      simpa [ConnectionDescriptor.processStats, carries.status] using flags.2.2.1
    case blocked =>
      simpa [ConnectionDescriptor.processStats, carries.status] using flags.2.2.2.1
    case host =>
      simpa [ConnectionDescriptor.processStats, carries.status] using flags.2.2.2.2.1
    case ip =>
      simpa [ConnectionDescriptor.processStats, carries.status] using flags.2.2.2.2.2
    case lastSeen => exact carries.lastSeen
    case sentBytes => exact carries.sentBytes
    case rcvdBytes => exact carries.rcvdBytes
    case rcvdPkts => exact carries.rcvdPkts
    case blockedPkts => exact carries.blockedPkts

/-- One sent packet, known natively and dirty; the descriptor still shows zero. -/
def oneSentPacket : PdConn := { sentPkts := 1, updateType := CONN_UPDATE_STATS }

def closedConn : PdConn where
  incrId := 7
  lastSeen := 1500
  payloadLength := 900
  sentBytes := 1200
  rcvdBytes := 3400
  sentPkts := 12
  rcvdPkts := 15
  blockedPkts := 3
  status := .closed
  tcpFlags := ⟨0x1B, 0x13⟩
  blacklistedIp := true
  blacklistedDomain := true
  toBlock := true
  netdBlockMissed := true
  decryptionIgnored := true
  portMappingApplied := true
  updateType := CONN_UPDATE_STATS ||| CONN_UPDATE_INFO

/-- What the app knew of it before its last update, and what it knows then. -/
def seenConn (sentPkts : Int) : ConnectionDescriptor :=
  { sentPkts := sentPkts, rcvdPkts := 14, sentBytes := 1100, rcvdBytes := 3000, lastSeen := 1400 }

def updatedConn (sentPkts : Int) : ConnectionDescriptor :=
  (seenConn sentPkts).processUpdate false
    (getConnUpdate ⟨fun _ => true, fun _ => true, 0, fun _ => ""⟩ true ⟨0, 0, 40000, 443, 4, 6⟩
      closedConn).1

theorem processUpdate_mirrored_closed :
    StatsMirrored true closedConn (seenConn 12) (updatedConn 12) ∧
      ¬ StatsMirrored true closedConn (seenConn 11) (updatedConn 11) := by
  constructor
  · exact (processUpdate_mirrored _ true false _ closedConn (seenConn 12) (by decide)).mpr rfl
  · intro mirrored
    have same := (processUpdate_mirrored _ true false _ closedConn (seenConn 11) (by decide)).mp
      mirrored
    revert same
    decide

theorem sentPkts_not_mirrored :
    ¬ ∀ (ndpi : NdpiTables) (vpnCapture lowMemory : Bool) (tuple : Tuple) (data : PdConn)
        (before : ConnectionDescriptor), data.dirty CONN_UPDATE_STATS = true →
      StatsMirrored vpnCapture data before
        (before.processUpdate lowMemory (getConnUpdate ndpi vpnCapture tuple data).1) := by
  intro mirrors
  have shown := (mirrors ⟨fun _ => true, fun _ => true, 0, fun _ => ""⟩ true false
    ⟨0, 0, 0, 0, 4, 6⟩ oneSentPacket {} (by decide)).sentPkts
  revert shown
  decide

end Ptnet.ConnectionMirror
