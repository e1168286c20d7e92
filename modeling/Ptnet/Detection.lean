import Ptnet.Connection
import Ptnet.NativeBlacklist

/-!
What core/pcapdroid.c and core/capture_vpn.c decide about one connection: deep packet
inspection, blacklist and firewall checks. nDPI is linked, so its answers to a call are an
argument of the call. The functions here only touch the record; queueing it for the next
dump is the caller's part of the model.
-/

namespace Ptnet.Detection

open Connection
open NativeBlacklist (Blacklist)

def MAX_DPI_PACKETS : Int := 12

structure NdpiProto where
  master : Nat
  app : Nat
  deriving DecidableEq, Repr

/-- The answers of nDPI and of the allocator during one call. -/
structure Ndpi where
  tables : NdpiTables
  processPacket : NdpiFlow → NdpiFlow × NdpiProto
  giveup : NdpiFlow → NdpiFlow × NdpiProto
  extraDissectionPossible : NdpiFlow → Bool
  strndupInfo : Bool
  strndupUrl : Bool

def pdNdpi2proto (tables : NdpiTables) (proto : NdpiProto) : Nat :=
  let master := if proto.master ≠ NDPI_PROTOCOL_UNKNOWN then proto.master else proto.app
  let l7proto :=
    if master = NDPI_PROTOCOL_HTTP_CONNECT ∨ master = NDPI_PROTOCOL_HTTP_PROXY then
      NDPI_PROTOCOL_HTTP
    else master
  if tables.isMasterProto l7proto then l7proto else NDPI_PROTOCOL_UNKNOWN

def isEncryptedL7 (tables : NdpiTables) (l7proto : Nat) : Bool :=
  if tables.maxProtocols ≤ l7proto then false else !tables.isClearTextProto l7proto

inductive BlockQuicMode where
  | never
  | always
  | toDecrypt
  deriving DecidableEq, Repr

structure MalwareDetection where
  bl : Option Blacklist := none
  whitelist : Option Blacklist := none
  deriving DecidableEq, Repr

structure Firewall where
  enabled : Bool := false
  bl : Option Blacklist := none
  wlEnabled : Bool := false
  wl : Option Blacklist := none
  deriving DecidableEq, Repr

/-- The lists and toggles of `pcapdroid_t` that a decision reads. -/
structure Policy where
  malware : MalwareDetection := {}
  firewall : Firewall := {}
  vpnCapture : Bool := false
  blockQuicMode : BlockQuicMode := .never
  blockPrivateDns : Bool := false
  knownDnsServers : Blacklist := {}
  tlsList : Option Blacklist := none
  deriving DecidableEq, Repr

def isDns (tuple : Tuple) : Bool := tuple.ipproto = IPPROTO_UDP && tuple.dstPort = 53

def unspecifiedApp (uid : Int) : Bool := uid = UID_NETD || uid = UID_PHONE || uid = UID_UNKNOWN

def matchesDomain (list : Option Blacklist) (host : String) : Bool :=
  list.any fun bl => bl.matchDomain host

/-- The malware part of `check_blacklisted_domain`. -/
def checkMalwareDomain (policy : Policy) (data : PdConn) (host : String) : PdConn :=
  if !data.blacklistedDomain && !data.whitelistedApp &&
      matchesDomain policy.malware.bl host && !matchesDomain policy.malware.whitelist host then
    { data with blacklistedDomain := true, toBlock := true }
  else data

/-- The firewall part of `check_blacklisted_domain`. -/
def checkFirewallDomain (policy : Policy) (data : PdConn) (host : String) : PdConn :=
  if policy.firewall.enabled && policy.firewall.bl.isSome && !data.toBlock then
    data.setToBlock (matchesDomain policy.firewall.bl host)
  else data

def checkBlacklistedDomain (policy : Policy) (data : PdConn) : PdConn :=
  match data.host with
  | none => data
  | some host => checkFirewallDomain policy (checkMalwareDomain policy data host) host

def checkWhitelistModeBlock (policy : Policy) (tuple : Tuple) (data : PdConn) : PdConn :=
  match policy.firewall.wl with
  | none => data
  | some wl =>
      if policy.firewall.enabled && policy.firewall.wlEnabled && !data.toBlock &&
          (!isDns tuple || !unspecifiedApp data.uid) then
        data.setToBlock (!wl.matchUid data.uid)
      else data

/-- The malware check of the destination in `pd_new_connection`. -/
def checkMalwareIp (policy : Policy) (tuple : Tuple) (data : PdConn) : PdConn :=
  let blacklisted := policy.malware.bl.any fun bl => bl.matchIp tuple.dstIp tuple.ipver
  let whitelisted := policy.malware.whitelist.any fun bl => bl.matchIp tuple.dstIp tuple.ipver
  if !data.whitelistedApp && blacklisted && !whitelisted then
    { data with blacklistedIp := true, toBlock := true }
  else data

/-- The firewall check of the destination and of the app in `pd_new_connection`. -/
def checkFirewall (policy : Policy) (tuple : Tuple) (data : PdConn) : PdConn :=
  match policy.firewall.bl with
  | none => data
  | some bl =>
      if policy.firewall.enabled && !data.toBlock then
        if bl.matchIp tuple.dstIp tuple.ipver then data.setToBlock true
        else data.setToBlock (bl.matchUid data.uid)
      else data

def checkWhitelistedApp (policy : Policy) (data : PdConn) : PdConn :=
  match policy.malware.whitelist with
  | none => data
  | some wl => { data with whitelistedApp := wl.matchUid data.uid }

/-- The host the LRU cache knows for the destination: `ip_lru_find`. -/
def guessHost (policy : Policy) (lruHost : Option String) (data : PdConn) : PdConn :=
  match lruHost with
  | none => { data with info := none }
  | some host =>
      checkBlacklistedDomain policy { data with info := some host, infoFromLru := true }

/-- The checks of `pd_new_connection`, once the record has its uid. -/
def checkNewConnection (policy : Policy) (tuple : Tuple) (lruHost : Option String)
    (data : PdConn) : PdConn :=
  let known := checkWhitelistedApp policy data
  let guessed := guessHost policy lruHost known
  let malware := checkMalwareIp policy tuple guessed
  let firewall := checkFirewall policy tuple malware
  checkWhitelistModeBlock policy tuple firewall

def matchesDecryptionWhitelist (policy : Policy) (tuple : Tuple) (data : PdConn) : Bool :=
  match policy.tlsList with
  | none => false
  | some list =>
      list.matchIp tuple.dstIp tuple.ipver || list.matchUid data.uid ||
        data.info.any fun info => list.matchDomain info

def blockQuic (policy : Policy) (tuple : Tuple) (data : PdConn) : PdConn :=
  if data.l7proto = NDPI_PROTOCOL_QUIC ∧
      (policy.blockQuicMode = .always ∨
        policy.blockQuicMode = .toDecrypt ∧ matchesDecryptionWhitelist policy tuple data) then
    { data with blacklistedInternal := true, toBlock := true }
  else data

def blockPrivateDns (policy : Policy) (data : PdConn) : PdConn :=
  if policy.blockPrivateDns && !data.toBlock && data.l7proto = NDPI_PROTOCOL_TLS &&
      (data.info.any fun info => policy.knownDnsServers.matchDomain info) then
    { data with blacklistedInternal := true, toBlock := true }
  else data

def vpnProcessNdpi (policy : Policy) (tuple : Tuple) (data : PdConn) : PdConn :=
  blockPrivateDns policy (blockQuic policy tuple data)

/-- `is_numeric_host`: a leading digit, or a colon before the first dot. -/
def colonBeforeDot : List Char → Bool
  | [] => false
  | char :: rest => if char = ':' then true else if char = '.' then false else colonBeforeDot rest

def isNumericHost (host : String) : Bool :=
  match host.toList with
  | [] => false
  | first :: rest => first.isDigit || colonBeforeDot (first :: rest)

def strstr (text pattern : String) : Bool := decide (pattern.toList <:+: text.toList)

def strndup (malloc : Bool) (text : String) (size : Nat) : Option String :=
  if malloc then some (String.ofList (text.toList.take size)) else none

def readAlpn (flow : NdpiFlow) (data : PdConn) : PdConn :=
  if data.alpn ≠ 0 then data
  else
    match flow.tlsAlpn with
    | none => data
    | some alpn =>
        if strstr alpn "http/" then
          { data with alpn := NDPI_PROTOCOL_HTTP }.touch CONN_UPDATE_INFO
        else if strstr alpn "imap" then
          { data with alpn := NDPI_PROTOCOL_MAIL_IMAP }.touch CONN_UPDATE_INFO
        else if strstr alpn "stmp" then
          { data with alpn := NDPI_PROTOCOL_MAIL_SMTP }.touch CONN_UPDATE_INFO
        else { data with alpn := NDPI_PROTOCOL_TLS }

def readUrl (ndpi : Ndpi) (flow : NdpiFlow) (data : PdConn) : PdConn :=
  match data.url, flow.httpUrl with
  | none, some url =>
      { data with url := strndup ndpi.strndupUrl url 256 }.touch CONN_UPDATE_INFO
  | _, _ => data

/-- `found_info`: the host name nDPI reports for the protocol. -/
def foundInfo (l7proto : Nat) (flow : NdpiFlow) : Option String :=
  if l7proto = NDPI_PROTOCOL_TLS ∨ l7proto = NDPI_PROTOCOL_DNS then
    if flow.hostServerName = "" then none else some flow.hostServerName
  else if l7proto = NDPI_PROTOCOL_HTTP then
    if flow.hostServerName = "" ∨ isNumericHost flow.hostServerName then none
    else some flow.hostServerName
  else none

/-- Whether a reported host replaces the one the record has. -/
def takesInfo (data : PdConn) : Bool := data.info.isNone || data.infoFromLru

def setInfo (policy : Policy) (ndpi : Ndpi) (found : Option String) (data : PdConn) : PdConn :=
  match found with
  | none => data
  | some info =>
      if takesInfo data then
        (checkBlacklistedDomain policy
          { data with info := strndup ndpi.strndupInfo info 256, infoFromLru := false }).touch
            CONN_UPDATE_INFO
      else data

/-- `process_ndpi_data` on a record whose flow is `flow`. -/
def processNdpiData (policy : Policy) (ndpi : Ndpi) (tuple : Tuple) (flow : NdpiFlow)
    (data : PdConn) : PdConn :=
  let named := if data.l7proto = NDPI_PROTOCOL_TLS then readAlpn flow data else data
  let located := if named.l7proto = NDPI_PROTOCOL_HTTP then readUrl ndpi flow named else named
  let hosted := setInfo policy ndpi (foundInfo located.l7proto flow) located
  if policy.vpnCapture then vpnProcessNdpi policy tuple hosted else hosted

/-- The guess of `pd_giveup_dpi` when no protocol was detected. -/
def guessProto (ndpi : Ndpi) (flow : NdpiFlow) (data : PdConn) : NdpiFlow × PdConn :=
  if data.l7proto = NDPI_PROTOCOL_UNKNOWN then
    let (next, proto) := ndpi.giveup flow
    let l7proto := pdNdpi2proto ndpi.tables proto
    (next,
      { data with
        ndpiFlow := some next
        l7proto := l7proto
        encryptedL7 := isEncryptedL7 ndpi.tables l7proto })
  else (flow, data)

def pdGiveupDpi (policy : Policy) (ndpi : Ndpi) (tuple : Tuple) (data : PdConn) : PdConn :=
  match data.ndpiFlow with
  | none => data
  | some flow =>
      let (next, guessed) := guessProto ndpi flow data
      { processNdpiData policy ndpi tuple next guessed with ndpiFlow := none }

/-- The protocol a packet reveals, in `perform_dpi`. -/
def detectProto (ndpi : Ndpi) (flow : NdpiFlow) (data : PdConn) : NdpiFlow × PdConn :=
  let (next, proto) := ndpi.processPacket flow
  let l7proto := pdNdpi2proto ndpi.tables proto
  let detected := { data with ndpiFlow := some next, l7proto := l7proto }
  if data.l7proto ≠ l7proto then
    (next, { detected with encryptedL7 := isEncryptedL7 ndpi.tables l7proto }.touch CONN_UPDATE_INFO)
  else (next, detected)

def startsWith (text : Option String) (start : String) : Bool :=
  text.any fun info => start.toList.isPrefixOf info.toList

/-- The guess of the ALPN once detection is complete, and whether the record is queued. -/
def guessAlpn (tuple : Tuple) (data : PdConn) : PdConn × Bool :=
  if data.ndpiFlow.isNone ∧ data.l7proto = NDPI_PROTOCOL_TLS ∧ data.alpn = 0 then
    if tuple.dstPort = 443 then
      ({ data with alpn := NDPI_PROTOCOL_HTTP }.touch CONN_UPDATE_INFO, true)
    else if startsWith data.info "imap." then
      ({ data with alpn := NDPI_PROTOCOL_MAIL_IMAP }.touch CONN_UPDATE_INFO, true)
    else if startsWith data.info "smtp." then
      ({ data with alpn := NDPI_PROTOCOL_MAIL_SMTP }.touch CONN_UPDATE_INFO, true)
    else (data, false)
  else (data, false)

/-- Whether the packet is the last to be inspected; the sum is a `jint`. -/
def giveup (data : PdConn) : Bool :=
  MAX_DPI_PACKETS ≤ Int.bmod (data.sentPkts + data.rcvdPkts + 1) (2 ^ 32)

/-- The inspection in `perform_dpi`, up to and including the possible give-up. -/
def inspectPacket (policy : Policy) (ndpi : Ndpi) (pktTuple : Tuple) (flow : NdpiFlow)
    (data : PdConn) : PdConn :=
  let (next, detected) := detectProto ndpi flow data
  if giveup data ∨
      detected.l7proto ≠ NDPI_PROTOCOL_UNKNOWN ∧ !ndpi.extraDissectionPossible next then
    pdGiveupDpi policy ndpi pktTuple detected
  else processNdpiData policy ndpi pktTuple next detected

/-- `perform_dpi` on the record; the result tells whether it queues the record. -/
def performDpi (policy : Policy) (ndpi : Ndpi) (tuple pktTuple : Tuple) (data : PdConn) :
    PdConn × Bool :=
  match data.ndpiFlow with
  | none => (data, false)
  | some flow => guessAlpn tuple (inspectPacket policy ndpi pktTuple flow data)

/-- The first-packet check of `run_vpn`; `allowed` is `check_dns_req_allowed`. -/
def checkDnsBlocked (allowed : Bool) (data : PdConn) : PdConn :=
  if data.sentPkts = 0 then
    let internal :=
      if data.portMappingApplied then data.blacklistedInternal
      else data.blacklistedInternal || !allowed
    { data with blacklistedInternal := internal, toBlock := data.toBlock || internal }
  else data

/-- `pd_account_stats` on the record. -/
def accountStats (isTx : Bool) (len l7Len : Int) (data : PdConn) : PdConn :=
  let counted := { data with payloadLength := data.payloadLength + l7Len }
  let directed :=
    if isTx then
      { counted with sentPkts := data.sentPkts + 1, sentBytes := data.sentBytes + len }
    else { counted with rcvdPkts := data.rcvdPkts + 1, rcvdBytes := data.rcvdBytes + len }
  directed.touch CONN_UPDATE_STATS

/-- `check_blocked_conn_cb` up to the notification, which the result asks for. -/
def recheckBlocked (policy : Policy) (tuple : Tuple) (data : PdConn) : PdConn :=
  let stored := data.blacklistedInternal || data.blacklistedIp || data.blacklistedDomain
  let ruled :=
    if !stored && policy.firewall.enabled then
      policy.firewall.bl.any fun bl =>
        bl.matchUid data.uid || bl.matchIp tuple.dstIp tuple.ipver ||
          data.host.any fun host => bl.matchDomain host
    else stored
  checkWhitelistModeBlock policy tuple (data.setToBlock ruled)

def checkBlockedConnCb (policy : Policy) (tuple : Tuple) (data : PdConn) : PdConn × Bool :=
  let rechecked := recheckBlocked policy tuple data
  if data.toBlock ≠ rechecked.toBlock then (rechecked.touch CONN_UPDATE_STATS, true)
  else (rechecked, false)

/-- The flags `check_blacklisted_conn_cb` clears against a new malware whitelist. -/
def clearWhitelisted (whitelist : Blacklist) (tuple : Tuple) (data : PdConn) : PdConn :=
  let whitelistedApp := whitelist.matchUid data.uid
  { data with
    whitelistedApp := whitelistedApp
    blacklistedIp := data.blacklistedIp &&
      !(whitelistedApp || whitelist.matchIp tuple.dstIp tuple.ipver)
    blacklistedDomain := data.blacklistedDomain &&
      !(whitelistedApp || data.info.any fun info => whitelist.matchDomain info) }

end Ptnet.Detection
