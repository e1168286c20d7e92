import Mathlib.Logic.Function.Basic
import Ptnet.ConnectionMirror
import Ptnet.Detection

/-!
The part of core/pcapdroid.c and core/jni_impl.c that owns connection records between two
packets: creation, the two notification arrays, the dump to the app and housekeeping.
Records live in a heap addressed by `Ref`; freeing a record is counted, and touching a
freed one is noted in `misused`. The answers of `realloc` are consumed from `reallocs`.
-/

namespace Ptnet.Pcapdroid

open Connection
open ConnectionMirror (ConnectionUpdate getConnUpdate UPDATE_STATS UPDATE_INFO UPDATE_PAYLOAD)
open Detection (Policy Ndpi)
open NativeBlacklist (Blacklist)

def CAPTURE_STATS_UPDATE_FREQUENCY_MS : Nat := 300
def CONNECTION_DUMP_UPDATE_FREQUENCY_MS : Nat := 1000
def NETD_RESOLVE_DELAY_MS : Nat := 1000
def PERIODIC_PURGE_TIMEOUT_MS : Nat := 5000
def MINIMAL_PAYLOAD_MAX_DIRECTION_SIZE : Nat := 512

/-- Subtraction of `uint64_t` values. -/
def subU64 (left right : Nat) : Nat :=
  (left + 18446744073709551616 - right) % 18446744073709551616

/-- The address of a `pd_conn_t`, in the order of allocation. -/
abbrev Ref := Nat

/-- `conn_and_tuple_t` -/
structure Slot where
  tuple : Tuple
  data : Ref
  deriving DecidableEq, Repr

/-- `conn_array_t`; `none` is a null pointer. -/
structure ConnArray where
  items : Option (List Slot) := none
  size : Nat := 0
  curItems : Nat := 0
  deriving DecidableEq, Repr

namespace ConnArray

def slots (arr : ConnArray) : List Slot := arr.items.getD []

def refs (arr : ConnArray) : List Ref := arr.slots.map Slot.data

/-- The growth of a full array; a failed `realloc` returns a null pointer. -/
def extend (arr : ConnArray) (realloc : Bool) : ConnArray :=
  { arr with
    items := if realloc then some arr.slots else none
    size := if arr.size = 0 then 8 else arr.size * 2 }

end ConnArray

inductive Which where
  | newConns
  | connsUpdates
  deriving DecidableEq, Repr

inductive PayloadMode where
  | none
  | minimal
  | full
  deriving DecidableEq, Repr

/-- What the app has been sent: the new connections in order, and for each of them the last
    value of every part of an update. -/
structure Java where
  ids : List Nat := []
  sent : Nat → Option ConnectionUpdate := fun _ => none

/-- `pcapdroid_t` with the variables of its module. -/
structure Pd where
  heap : Ref → PdConn := fun _ => {}
  purged : Ref → Nat := fun _ => 0
  created : Nat := 0
  misused : Bool := false
  crashed : Bool := false
  reallocs : List Bool := []
  newConnId : Nat := 0
  nowMs : Nat := 0
  newConns : ConnArray := {}
  connsUpdates : ConnArray := {}
  policy : Policy := {}
  malwareEnabled : Bool := false
  malwareNewWl : Option Blacklist := none
  firewallNewBl : Option Blacklist := none
  firewallNewWl : Option Blacklist := none
  tlsEnabled : Bool := false
  tlsNewList : Option Blacklist := none
  payloadMode : PayloadMode := .none
  dumpsPayload : Bool := false
  newStats : Bool := false
  statsUpdateMs : Nat := 0
  dumpCaptureStatsNow : Bool := false
  nextConnectionsDump : Nat := 0
  netdResolveWaiting : Nat := 0
  tables : NdpiTables
  java : Java := {}

namespace Pd

variable (pd : Pd)

def alive (ref : Ref) : Prop := ref < pd.created ∧ pd.purged ref = 0

instance (ref : Ref) : Decidable (pd.alive ref) :=
  inferInstanceAs (Decidable (ref < pd.created ∧ pd.purged ref = 0))

def access (ref : Ref) : Pd :=
  if pd.alive ref then pd else { pd with misused := true }

def modify (ref : Ref) (change : PdConn → PdConn) : Pd :=
  { pd.access ref with heap := Function.update pd.heap ref (change (pd.heap ref)) }

def array : Which → ConnArray
  | .newConns => pd.newConns
  | .connsUpdates => pd.connsUpdates

def setArray (which : Which) (arr : ConnArray) : Pd :=
  match which with
  | .newConns => { pd with newConns := arr }
  | .connsUpdates => { pd with connsUpdates := arr }

def queued : List Ref := pd.newConns.refs ++ pd.connsUpdates.refs

end Pd

def pdPurgeConnection (pd : Pd) (ref : Ref) : Pd :=
  let used := pd.access ref
  { used with purged := Function.update used.purged ref (used.purged ref + 1) }

/-- Writes the slot; a null array with room left by a failed growth is written as well. -/
def storeSlot (pd : Pd) (which : Which) (slot : Slot) : Pd :=
  let arr := pd.array which
  match arr.items with
  | none => { pd with crashed := true }
  | some slots =>
      (pd.setArray which
        { arr with items := some (slots ++ [slot]), curItems := arr.curItems + 1 }).modify
          slot.data fun data => { data with pendingNotification := true }

/-- The queueing part of `notif_connection`; `false` is a negative result. -/
def enqueue (pd : Pd) (which : Which) (slot : Slot) : Pd × Bool :=
  let arr := pd.array which
  if arr.size ≤ arr.curItems then
    let answer := pd.reallocs.headD true
    let grown := { pd.setArray which (arr.extend answer) with reallocs := pd.reallocs.tail }
    if answer then (storeSlot grown which slot, true) else (grown, false)
  else (storeSlot pd which slot, true)

def pdGiveupDpi (ndpi : Ndpi) (pd : Pd) (ref : Ref) (tuple : Tuple) : Pd :=
  pd.modify ref (Detection.pdGiveupDpi pd.policy ndpi tuple)

def notifConnection (ndpi : Ndpi) (pd : Pd) (which : Which) (tuple : Tuple) (ref : Ref) :
    Pd × Bool :=
  let used := pd.access ref
  let ended := if (used.heap ref).status.isClosed then pdGiveupDpi ndpi used ref tuple else used
  if (ended.heap ref).pendingNotification then (ended, true)
  else enqueue ended which ⟨tuple, ref⟩

def pdNotifyConnectionUpdate (ndpi : Ndpi) (pd : Pd) (tuple : Tuple) (ref : Ref) : Pd × Bool :=
  notifConnection ndpi pd .connsUpdates tuple ref

def clearSlot (freeAll : Bool) (pd : Pd) (slot : Slot) : Pd :=
  let used := pd.access slot.data
  if (used.heap slot.data).toPurge || freeAll then pdPurgeConnection used slot.data else used

def connsClear (pd : Pd) (which : Which) (freeAll : Bool) : Pd :=
  ((pd.array which).slots.foldl (clearSlot freeAll) pd).setArray which {}

/-- The answers of the allocator and of the LRU cache while a connection is created. -/
structure NewConnEnv where
  calloc : Bool := true
  ndpiCalloc : Bool := true
  lruHost : Option String := none
  deriving DecidableEq, Repr

/-- One record of the loop that passes the uid of a connection on to its netd request. -/
def resolveNetd (uid : Int) (info : Option String) (current : Pd) (slot : Slot) : Pd :=
  let pd := current.access slot.data
  let data := pd.heap slot.data
  if data.uid = UID_NETD ∧ data.info.isSome ∧ data.info = info then
    let missed := !data.toBlock && pd.policy.firewall.enabled &&
      pd.policy.firewall.bl.any fun bl => bl.matchUid uid ||
        (pd.policy.firewall.wlEnabled && pd.policy.firewall.wl.any fun wl => !wl.matchUid uid)
    let resolved := pd.modify slot.data fun conn =>
      { conn with uid := uid, netdBlockMissed := conn.netdBlockMissed || missed }
    if 0 < pd.netdResolveWaiting then
      { resolved with
        netdResolveWaiting := pd.netdResolveWaiting - 1
        nextConnectionsDump :=
          if pd.netdResolveWaiting = 1 then subU64 pd.nextConnectionsDump NETD_RESOLVE_DELAY_MS
          else pd.nextConnectionsDump }
    else resolved
  else pd

def attributeHost (pd : Pd) (ref : Ref) (lruHost : Option String) : Pd :=
  match lruHost with
  | none => pd.modify ref fun data => { data with info := none }
  | some host =>
      let guessed := pd.modify ref fun data =>
        { data with info := some host, infoFromLru := true }
      let uid := (guessed.heap ref).uid
      let resolved :=
        if uid ≠ UID_UNKNOWN then
          guessed.newConns.slots.foldl (resolveNetd uid (some host)) guessed
        else guessed
      resolved.modify ref (Detection.checkBlacklistedDomain pd.policy)

def freshConn : PdConn := { ndpiFlow := some ⟨"", none, none⟩ }

def pdNewConnection (ndpi : Ndpi) (env : NewConnEnv) (pd : Pd) (tuple : Tuple) (uid : Int) :
    Pd × Option Ref :=
  if !env.calloc then (pd, none)
  else
    let ref := pd.created
    let allocated := { pd with
      created := pd.created + 1
      heap := Function.update pd.heap ref freshConn }
    if !env.ndpiCalloc then (pdPurgeConnection allocated ref, none)
    else
      let (notified, queued) := notifConnection ndpi allocated .newConns tuple ref
      if !queued then (pdPurgeConnection notified ref, none)
      else
        let numbered := { notified.modify ref fun data =>
          Detection.checkWhitelistedApp pd.policy
            { data with uid := uid, incrId := pd.newConnId }
          with newConnId := pd.newConnId + 1 }
        let hosted := attributeHost numbered ref env.lruHost
        (hosted.modify ref fun data =>
          Detection.checkWhitelistModeBlock pd.policy tuple
            (Detection.checkFirewall pd.policy tuple
              (Detection.checkMalwareIp pd.policy tuple data)), some ref)

/-- The packet as `zdtun_parse_pkt` describes it. -/
structure Pkt where
  tuple : Tuple
  isFragment : Bool := false
  isFirstFragment : Bool := false
  len : Nat := 0
  l7 : List UInt8 := []
  thFlags : BitVec 8 := 0
  /-- `dns->flags` as loaded, when the payload holds a DNS header. -/
  dnsFlags : BitVec 16 := 0
  deriving DecidableEq, Repr

structure PktContext where
  pkt : Pkt
  ms : Int
  isTx : Bool
  tuple : Tuple
  data : Ref
  deriving DecidableEq, Repr

/-- How far `dumpPayloadChunk` gets. -/
inductive ChunkResult where
  | noList
  | noChunk
  | added
  deriving DecidableEq, Repr

def dumpPayloadChunk (result : ChunkResult) (pctx : PktContext) (size : Nat) (data : PdConn) :
    PdConn × Bool :=
  let type := if data.l7proto = NDPI_PROTOCOL_HTTP then ChunkType.http else .raw
  let chunk : PayloadChunk := ⟨pctx.pkt.l7.take size, type, pctx.isTx, pctx.ms⟩
  match data.payloadChunks, result with
  | none, .noList => (data, false)
  | none, .noChunk => ({ data with payloadChunks := some [] }, false)
  | none, .added => ({ data with payloadChunks := some [chunk] }, true)
  | some chunks, .added => ({ data with payloadChunks := some (chunks ++ [chunk]) }, true)
  | some _, _ => (data, false)

def hasPayload (data : PdConn) (isTx : Bool) : Bool :=
  if isTx then data.hasPayloadTx else data.hasPayloadRx

def setHasPayload (data : PdConn) (isTx : Bool) : PdConn :=
  if isTx then { data with hasPayloadTx := true } else { data with hasPayloadRx := true }

/-- The capture of the payload: the record, `updated` and `truncated`. -/
def capturePayload (pd : Pd) (result : ChunkResult) (pctx : PktContext) (data : PdConn) :
    PdConn × Bool × Bool :=
  if pd.payloadMode ≠ .minimal || !hasPayload data pctx.isTx then
    let cut := pd.payloadMode = .minimal ∧ MINIMAL_PAYLOAD_MAX_DIRECTION_SIZE < pctx.pkt.l7.length
    let toDump := if cut then MINIMAL_PAYLOAD_MAX_DIRECTION_SIZE else pctx.pkt.l7.length
    let (dumped, added) := dumpPayloadChunk result pctx toDump data
    if added then (setHasPayload dumped pctx.isTx, true, data.payloadTruncated || cut)
    else (dumped, false, true)
  else (data, false, true)

/-- `process_payload` on the record; the result tells whether it queues the record. -/
def recordPayload (pd : Pd) (result : ChunkResult) (pctx : PktContext) (data : PdConn) :
    PdConn × Bool :=
  if pd.payloadMode = .none || !pd.dumpsPayload || pctx.pkt.l7.isEmpty ||
      (pd.tlsEnabled && data.proxied) then (data, false)
  else
    let (captured, updated, truncated) := capturePayload pd result pctx data
    if (updated && captured.payloadChunks.isSome) || truncated ≠ captured.payloadTruncated then
      ({ captured with payloadTruncated := captured.payloadTruncated || truncated }.touch
        CONN_UPDATE_PAYLOAD, true)
    else (captured, false)

def processPayload (ndpi : Ndpi) (result : ChunkResult) (pd : Pd) (pctx : PktContext) : Pd :=
  let used := pd.access pctx.data
  let recorded := recordPayload used result pctx (used.heap pctx.data)
  let stored := used.modify pctx.data fun _ => recorded.1
  if recorded.2 then (pdNotifyConnectionUpdate ndpi stored pctx.tuple pctx.data).1 else stored

/-- The delay of the next dump for the first packet of a netd DNS request. -/
def delayForNetd (pd : Pd) (data : PdConn) : Pd :=
  if data.l7proto = NDPI_PROTOCOL_DNS ∧ data.uid = UID_NETD ∧ data.sentPkts + data.rcvdPkts = 0 ∧
      (0 < pd.netdResolveWaiting ∨
        subU64 pd.nextConnectionsDump NETD_RESOLVE_DELAY_MS < pd.nowMs) then
    { pd with
      nextConnectionsDump :=
        if pd.netdResolveWaiting = 0 then pd.nextConnectionsDump + NETD_RESOLVE_DELAY_MS
        else pd.nextConnectionsDump
      netdResolveWaiting := pd.netdResolveWaiting + 1 }
  else pd

/-- `perform_dpi`; the LRU cache that DNS replies fill is not part of the state. -/
def performDpi (ndpi : Ndpi) (pd : Pd) (pctx : PktContext) : Pd :=
  let used := pd.access pctx.data
  let inspected := Detection.performDpi used.policy ndpi pctx.tuple pctx.pkt.tuple
    (used.heap pctx.data)
  let stored := used.modify pctx.data fun _ => inspected.1
  let delayed := delayForNetd stored inspected.1
  if inspected.2 then (pdNotifyConnectionUpdate ndpi delayed pctx.tuple pctx.data).1 else delayed

def setSeen (ms : Int) (data : PdConn) : PdConn :=
  { data with lastSeen := ms, firstSeen := if data.firstSeen = 0 then ms else data.firstSeen }

def pdProcessPacket (ndpi : Ndpi) (result : ChunkResult) (pd : Pd) (pctx : PktContext) : Pd :=
  let seen := pd.modify pctx.data (setSeen pctx.ms)
  let inspected :=
    if (seen.heap pctx.data).ndpiFlow.isSome &&
        (!pctx.pkt.isFragment || pctx.pkt.isFirstFragment) then performDpi ndpi seen pctx
    else seen
  processPayload ndpi result inspected pctx

/-- `pd_account_stats` without the dump of the packet. -/
def pdAccountStats (ndpi : Ndpi) (pd : Pd) (pctx : PktContext) : Pd :=
  let counted := { pd.modify pctx.data
    (Detection.accountStats pctx.isTx pctx.pkt.len pctx.pkt.l7.length) with newStats := true }
  (pdNotifyConnectionUpdate ndpi counted pctx.tuple pctx.data).1

end Ptnet.Pcapdroid
