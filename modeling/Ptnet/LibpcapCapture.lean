import Ptnet.CaptureClient

/-!
core/capture_libpcap.c: the table of connections, the handling of one packet with its
connection status, the purge of idle connections and the end of `pd_run`. One turn of the
loop of `run_libpcap` is `refreshTime`, at most one `packet`, `housekeeping`, `purgeIfDue`.
-/

namespace Ptnet.LibpcapCapture

open Connection Pcapdroid
open CaptureClient (Requests)
open Detection (Ndpi)

def ICMP_TIMEOUT_SEC : Nat := 5
def UDP_TIMEOUT_SEC : Nat := 30
def TCP_CLOSED_TIMEOUT_SEC : Nat := 60
def TCP_TIMEOUT_SEC : Nat := 300

def TH_FIN : BitVec 8 := 0x01
def TH_SYN : BitVec 8 := 0x02
def TH_RST : BitVec 8 := 0x04
def TH_ACK : BitVec 8 := 0x10

def DNS_FLAGS_MASK : BitVec 16 := 0x8000
def DNS_TYPE_REQUEST : BitVec 16 := 0x0000
def DNS_TYPE_RESPONSE : BitVec 16 := 0x8000

/-- `sizeof(dns_packet_t)` -/
def DNS_PACKET_SIZE : Nat := 12

/-- The fields of `pcapdroid_t` this module owns; `connections` is in table order. -/
structure Libpcap where
  pd : Pd
  connections : List Slot := []
  nextPurgeMs : Nat := 0
  pcapFileCapture : Bool := false

/-- `pcapd_hdr_t`, with what `handle_packet` reads beside the IP packet. -/
structure PcapdHdr where
  uid : Int
  isTx : Bool
  ms : Int
  /-- The interface index of a cooked (SLL2) link layer. -/
  ifidx : Option Nat := none
  /-- The uid of the trailer, when there is one. -/
  trailerUid : Option Int := none

/-- A packet with the answers of the environment while it is handled. -/
structure Arrival where
  hdr : PcapdHdr
  parsed : Option Pkt
  malloc : Bool := true
  env : NewConnEnv := {}
  ndpi : Ndpi
  payload : ChunkResult := .added

def tupleSwapPeers (tuple : Tuple) : Tuple :=
  { tuple with
    srcIp := tuple.dstIp, dstIp := tuple.srcIp
    srcPort := tuple.dstPort, dstPort := tuple.srcPort }

def findConnection (connections : List Slot) (tuple : Tuple) : Option Slot :=
  connections.find? fun conn => conn.tuple = tuple

def removeConnection (connections : List Slot) (conn : Slot) : List Slot :=
  connections.filter fun other => other.data ≠ conn.data

def TcpFlags.add (flags : TcpFlags) (fromClient : Bool) (bits : BitVec 8) : TcpFlags :=
  if fromClient then { flags with cli2srv := flags.cli2srv ||| bits }
  else { flags with srv2cli := flags.srv2cli ||| bits }

/-- The TCP branch of `update_connection_status`. -/
def updateTcpStatus (pkt : Pkt) (isTx : Bool) (data : PdConn) : PdConn :=
  let flagged := { data with tcpFlags := TcpFlags.add data.tcpFlags isTx pkt.thFlags }
  let seenFlags := flagged.tcpFlags.cli2srv &&& flagged.tcpFlags.srv2cli
  if pkt.thFlags &&& TH_RST ≠ 0 then { flagged with status := .reset }
  else if seenFlags &&& TH_FIN ≠ 0 then
    if flagged.lastAck = 0 then { flagged with lastAck := 1 }
    else if pkt.thFlags &&& TH_ACK ≠ 0 then { flagged with status := .closed }
    else flagged
  else if flagged.status.code < ConnStatus.connected.code then
    let handshake := seenFlags &&& (TH_SYN ||| TH_ACK) = TH_SYN ||| TH_ACK
    { flagged with
      status := if pkt.l7.length ≠ 0 ∨ handshake then .connected else .connecting }
  else flagged

def isDnsPacket (tuple : Tuple) (pkt : Pkt) : Bool :=
  tuple.ipproto = IPPROTO_UDP && DNS_PACKET_SIZE ≤ pkt.l7.length && tuple.dstPort = 53

/-- The other branch; the result tells that all DNS responses have arrived. -/
def updateUdpStatus (tuple : Tuple) (pkt : Pkt) (data : PdConn) : PdConn × Bool :=
  let connected :=
    if data.status.code < ConnStatus.connected.code then { data with status := .connected }
    else data
  if isDnsPacket tuple pkt then
    if pkt.dnsFlags &&& DNS_FLAGS_MASK = DNS_TYPE_REQUEST then
      ({ connected with lastAck := connected.lastAck + 1 }, false)
    else if pkt.dnsFlags &&& DNS_FLAGS_MASK = DNS_TYPE_RESPONSE then
      let answered := { connected with lastAck := connected.lastAck - 1 }
      if answered.lastAck = 0 then ({ answered with status := .closed, toPurge := true }, true)
      else (answered, false)
    else (connected, false)
  else (connected, false)

/-- `update_connection_status` on the record; the result tells to remove the connection. -/
def recordStatus (tuple : Tuple) (pkt : Pkt) (isTx : Bool) (data : PdConn) : PdConn × Bool :=
  if data.status.isClosed || pkt.isFragment then (data, false)
  else if tuple.ipproto = IPPROTO_TCP then (updateTcpStatus pkt isTx data, false)
  else updateUdpStatus tuple pkt data

def updateConnectionStatus (state : Libpcap) (conn : Slot) (pkt : Pkt) (isTx : Bool) : Libpcap :=
  let pd := state.pd.access conn.data
  let updated := recordStatus conn.tuple pkt isTx (pd.heap conn.data)
  let stored := pd.modify conn.data fun _ => updated.1
  if updated.2 then
    { state with pd := stored, connections := removeConnection state.connections conn }
  else { state with pd := stored }

/-- `handle_packet` once the connection is known. -/
def handleConnection (arrival : Arrival) (pkt : Pkt) (isTx : Bool) (state : Libpcap)
    (conn : Slot) : Libpcap :=
  let pinfo : PktContext := ⟨pkt, arrival.hdr.ms, isTx, conn.tuple, conn.data⟩
  let stamped := state.pd.modify conn.data fun data =>
    { data with lastUpdateMs := state.pd.nowMs }
  let processed := pdProcessPacket arrival.ndpi arrival.payload stamped pinfo
  let updated := updateConnectionStatus { state with pd := processed } conn pkt isTx
  { updated with pd := pdAccountStats arrival.ndpi updated.pd pinfo }

/-- The fields `handle_packet` writes into a new record. -/
def describeConn (tlsEnabled : Bool) (ifidx : Option Nat) (tuple : Tuple) (data : PdConn) :
    PdConn :=
  { data with
    ifidx := ifidx.getD data.ifidx
    proxied := tlsEnabled && tuple.ipproto = IPPROTO_TCP }

/-- The uid of a packet of a capture file comes from its trailer. -/
def packetUid (state : Libpcap) (hdr : PcapdHdr) : Int :=
  if state.pcapFileCapture && hdr.uid = UID_UNKNOWN then hdr.trailerUid.getD hdr.uid else hdr.uid

/-- The branch of `handle_packet` that starts a connection. -/
def openConnection (arrival : Arrival) (pkt : Pkt) (state : Libpcap) : Libpcap × Bool :=
  if (pkt.isFragment && !pkt.isFirstFragment) || !arrival.malloc then (state, false)
  else
    match pdNewConnection arrival.ndpi arrival.env state.pd pkt.tuple
        (packetUid state arrival.hdr) with
    | (pd, none) => ({ state with pd := pd }, false)
    | (pd, some ref) =>
        let described := pd.modify ref
          (describeConn pd.tlsEnabled arrival.hdr.ifidx pkt.tuple)
        let conn : Slot := ⟨pkt.tuple, ref⟩
        (handleConnection arrival pkt arrival.hdr.isTx
          { state with pd := described, connections := state.connections ++ [conn] } conn, true)

def handlePacket (arrival : Arrival) (state : Libpcap) : Libpcap × Bool :=
  match arrival.parsed with
  | none => (state, false)
  | some parsed =>
      if parsed.isFragment && parsed.tuple.srcPort = 0 && parsed.tuple.dstPort = 0 then
        (state, false)
      else
        let pkt :=
          if arrival.hdr.isTx then parsed
          else { parsed with tuple := tupleSwapPeers parsed.tuple }
        let swapped := { pkt with tuple := tupleSwapPeers pkt.tuple }
        match findConnection state.connections pkt.tuple with
        | some conn => (handleConnection arrival pkt arrival.hdr.isTx state conn, true)
        | none =>
            match findConnection state.connections swapped.tuple with
            | some conn => (handleConnection arrival swapped (!arrival.hdr.isTx) state conn, true)
            | none => openConnection arrival pkt state

/-- The idle time after which a connection is purged; the ICMP one is as written. -/
def purgeTimeout (ipproto : Nat) (status : ConnStatus) : Nat :=
  if ipproto = IPPROTO_TCP then
    if status.isClosed then TCP_CLOSED_TIMEOUT_SEC * 1000 else TCP_TIMEOUT_SEC * 1000
  else if ipproto = IPPROTO_UDP then UDP_TIMEOUT_SEC * 1000
  else if ipproto = IPPROTO_ICMP then ICMP_TIMEOUT_SEC + 1000
  else 0

/-- What an expired record becomes before its last notification. -/
def expireConn (data : PdConn) : PdConn :=
  if data.status.isClosed then { data with toPurge := true }
  else { data with toPurge := true, status := .closed }.touch CONN_UPDATE_STATS

/-- One connection of `purge_expired_connections`. -/
def purgeConnection (ndpi : Ref → Ndpi) (purgeAll : Bool) (state : Libpcap) (conn : Slot) :
    Libpcap :=
  let pd := state.pd.access conn.data
  let data := pd.heap conn.data
  if purgeAll ||
      data.lastUpdateMs + purgeTimeout conn.tuple.ipproto data.status ≤ pd.nowMs then
    let expired := pd.modify conn.data expireConn
    let (notified, queued) :=
      if (expired.heap conn.data).updateType = 0 then (expired, false)
      else pdNotifyConnectionUpdate (ndpi conn.data) expired conn.tuple conn.data
    let settled := if queued then notified else pdPurgeConnection notified conn.data
    { state with pd := settled, connections := removeConnection state.connections conn }
  else { state with pd := pd }

def purgeExpiredConnections (ndpi : Ref → Ndpi) (purgeAll : Bool) (state : Libpcap) : Libpcap :=
  state.connections.foldl (purgeConnection ndpi purgeAll) state

inductive Event where
  | refreshTime (nowMs : Nat)
  | allocator (reallocs : List Bool)
  | request (wanted : Requests)
  | packet (arrival : Arrival)
  | housekeeping (pass : Pass)
  | purgeIfDue (ndpi : Ref → Ndpi)

def step (state : Libpcap) : Event → Libpcap
  | .refreshTime nowMs => { state with pd := { state.pd with nowMs := nowMs } }
  | .allocator reallocs => { state with pd := { state.pd with reallocs := reallocs } }
  | .request wanted => { state with pd := wanted.apply state.pd }
  | .packet arrival => (handlePacket arrival state).1
  | .housekeeping pass =>
      { state with pd := pdHousekeeping pass state.connections state.pd }
  | .purgeIfDue ndpi =>
      if state.nextPurgeMs ≤ state.pd.nowMs then
        { purgeExpiredConnections ndpi false state with
          nextPurgeMs := state.pd.nowMs + PERIODIC_PURGE_TIMEOUT_MS }
      else state

/-- The end of `run_libpcap` and of `pd_run`. -/
def finish (ndpi : Ref → Ndpi) (jni : Jni) (state : Libpcap) : Pd :=
  let purged := (purgeExpiredConnections ndpi true state).pd
  connsClear (connsClear (sendConnectionsDump jni purged) .newConns true) .connsUpdates true

/-- The state `run_libpcap` enters its loop in. -/
def start (config : Pd) (pcapFileCapture : Bool) : Libpcap where
  pd := (CaptureClient.start config).pd
  nextPurgeMs := config.nowMs + PERIODIC_PURGE_TIMEOUT_MS
  pcapFileCapture := pcapFileCapture

end Ptnet.LibpcapCapture
