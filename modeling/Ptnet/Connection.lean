import Mathlib.Data.List.Infix

/-!
The connection record `pd_conn_t` of core/pcapdroid.h and the values it is made of.
Counters and timestamps (`jlong`, `jint`) are integers: no modelled branch depends on
their width. Flag bytes and dirty bits keep their width. Union members that belong to
one capture mode each (`pcap`, `vpn`) are separate fields.
-/

namespace Ptnet.Connection

/-- `zdtun_conn_status_t`; the order of the constructors is the order of the C values. -/
inductive ConnStatus where
  | new
  | connecting
  | connected
  | closed
  | error
  | socketError
  | clientError
  | reset
  | unreachable
  | socks5Error
  deriving DecidableEq, Repr

namespace ConnStatus

def code : ConnStatus → Nat
  | new => 0
  | connecting => 1
  | connected => 2
  | closed => 3
  | error => 4
  | socketError => 5
  | clientError => 6
  | reset => 7
  | unreachable => 8
  | socks5Error => 9

/-- `status >= CONN_STATUS_CLOSED` -/
def isClosed (status : ConnStatus) : Bool := decide (closed.code ≤ status.code)

def closing (status : ConnStatus) : ConnStatus := if status.isClosed then status else .closed

theorem closing_closed (status : ConnStatus) : status.closing.isClosed = true := by
  unfold closing
  split
  · assumption
  · rfl

theorem code_lt (status : ConnStatus) : status.code < 10 := by
  cases status <;> decide

end ConnStatus

/-- `zdtun_ip_t`: both address families share the same storage. -/
abbrev Ip := BitVec 128

/-- `zdtun_5tuple_t`, with the ports in host order. -/
structure Tuple where
  srcIp : Ip
  dstIp : Ip
  srcPort : Nat
  dstPort : Nat
  ipver : Nat
  ipproto : Nat
  deriving DecidableEq, Repr

def IPPROTO_ICMP : Nat := 1
def IPPROTO_TCP : Nat := 6
def IPPROTO_UDP : Nat := 17

def NDPI_PROTOCOL_UNKNOWN : Nat := 0
def NDPI_PROTOCOL_MAIL_SMTP : Nat := 3
def NDPI_PROTOCOL_MAIL_IMAP : Nat := 4
def NDPI_PROTOCOL_DNS : Nat := 5
def NDPI_PROTOCOL_HTTP : Nat := 7
def NDPI_PROTOCOL_TLS : Nat := 91
def NDPI_PROTOCOL_HTTP_CONNECT : Nat := 130
def NDPI_PROTOCOL_HTTP_PROXY : Nat := 131
def NDPI_PROTOCOL_QUIC : Nat := 188

def UID_UNKNOWN : Int := -1
def UID_NO_FILTER : Int := -2
def UID_PHONE : Int := 1001
def UID_NETD : Int := 1051

def CONN_UPDATE_STATS : BitVec 8 := 0x1
def CONN_UPDATE_INFO : BitVec 8 := 0x2
def CONN_UPDATE_PAYLOAD : BitVec 8 := 0x4

/-- The metadata the code reads from an `ndpi_flow_struct`. -/
structure NdpiFlow where
  hostServerName : String
  tlsAlpn : Option String
  httpUrl : Option String
  deriving DecidableEq, Repr

inductive ChunkType where
  | raw
  | http
  deriving DecidableEq, Repr

structure PayloadChunk where
  payload : List UInt8
  type : ChunkType
  isSent : Bool
  timestamp : Int
  deriving DecidableEq, Repr

structure TcpFlags where
  cli2srv : BitVec 8
  srv2cli : BitVec 8
  deriving DecidableEq, Repr

structure PdConn where
  incrId : Nat := 0
  ndpiFlow : Option NdpiFlow := none
  l7proto : Nat := NDPI_PROTOCOL_UNKNOWN
  alpn : Nat := 0
  lastUpdateMs : Nat := 0
  ifidx : Nat := 0
  localPort : Nat := 0
  payloadChunks : Option (List PayloadChunk) := none
  firstSeen : Int := 0
  lastSeen : Int := 0
  payloadLength : Int := 0
  sentBytes : Int := 0
  rcvdBytes : Int := 0
  sentPkts : Int := 0
  rcvdPkts : Int := 0
  blockedPkts : Int := 0
  status : ConnStatus := .new
  info : Option String := none
  uid : Int := 0
  tcpFlags : TcpFlags := ⟨0, 0⟩
  /-- The byte shared by `last_ack` (TCP) and `pending_dns_queries` (DNS over UDP). -/
  lastAck : BitVec 8 := 0
  pendingNotification : Bool := false
  toPurge : Bool := false
  infoFromLru : Bool := false
  blacklistedInternal : Bool := false
  blacklistedIp : Bool := false
  blacklistedDomain : Bool := false
  whitelistedApp : Bool := false
  toBlock : Bool := false
  netdBlockMissed : Bool := false
  proxied : Bool := false
  decryptionIgnored : Bool := false
  portMappingApplied : Bool := false
  encryptedL7 : Bool := false
  payloadTruncated : Bool := false
  hasPayloadRx : Bool := false
  hasPayloadTx : Bool := false
  url : Option String := none
  updateType : BitVec 8 := 0
  deriving DecidableEq, Repr

namespace PdConn

/-- `data->update_type |= bit` -/
def touch (data : PdConn) (bit : BitVec 8) : PdConn :=
  { data with updateType := data.updateType ||| bit }

/-- `data->to_block = value` -/
def setToBlock (data : PdConn) (value : Bool) : PdConn := { data with toBlock := value }

section SetToBlock

variable (data : PdConn) (value : Bool)

@[simp] theorem setToBlock_toBlock : (data.setToBlock value).toBlock = value := rfl
theorem setToBlock_same (same : data.toBlock = value) : data.setToBlock value = data := by
  subst same
  rfl

@[simp] theorem setToBlock_uid : (data.setToBlock value).uid = data.uid := rfl
@[simp] theorem setToBlock_info : (data.setToBlock value).info = data.info := rfl
@[simp] theorem setToBlock_infoFromLru :
    (data.setToBlock value).infoFromLru = data.infoFromLru := rfl

@[simp] theorem setToBlock_twice (other : Bool) :
    (data.setToBlock value).setToBlock other = data.setToBlock other := rfl

end SetToBlock

/-- `data->update_type & bit` -/
def dirty (data : PdConn) (bit : BitVec 8) : Bool := data.updateType &&& bit != 0

/-- `data->info && data->info[0]`: the host to match rules against, if there is one. -/
def host (data : PdConn) : Option String :=
  match data.info with
  | some info => if info = "" then none else some info
  | none => none

end PdConn

/-- `is_encrypted_l7` and `ndpi_get_proto_name` read tables of nDPI, which the build
    links; they are kept as parameters. -/
structure NdpiTables where
  isClearTextProto : Nat → Bool
  isMasterProto : Nat → Bool
  maxProtocols : Nat
  protoName : Nat → String

def zdtunProto2str (ipproto : Nat) : String :=
  if ipproto = IPPROTO_TCP then "TCP"
  else if ipproto = IPPROTO_UDP then "UDP"
  else if ipproto = IPPROTO_ICMP then "ICMP"
  else "Unknown"

def pdGetProtoName (ndpi : NdpiTables) (proto alpn ipproto : Nat) : String :=
  if proto = NDPI_PROTOCOL_UNKNOWN then zdtunProto2str ipproto
  else if proto = NDPI_PROTOCOL_TLS ∧ alpn = NDPI_PROTOCOL_HTTP then "HTTPS"
  else if proto = NDPI_PROTOCOL_TLS ∧ alpn = NDPI_PROTOCOL_MAIL_IMAP then "IMAPS"
  else if proto = NDPI_PROTOCOL_TLS ∧ alpn = NDPI_PROTOCOL_MAIL_SMTP then "SMTPS"
  else ndpi.protoName proto

end Ptnet.Connection
