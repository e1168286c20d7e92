import Ptnet.Pcapdroid

/-!
The dump of the notification arrays to the app (`sendConnectionsDump` of core/jni_impl.c)
and the periodic tasks of `pd_housekeeping`. JNI calls can fail at every element; the
callback stops there and the caller clears both arrays in any case.
-/

namespace Ptnet.Pcapdroid

open Connection
open ConnectionMirror (ConnectionUpdate getConnUpdate UPDATE_STATS UPDATE_INFO UPDATE_PAYLOAD)
open Detection (Policy Ndpi)
open NativeBlacklist (Blacklist)

/-- How far the dump of one connection gets: no descriptor (new connections only), no update
    object, an exception once the update is built, or success. -/
inductive DumpResult where
  | noDescriptor
  | noUpdate
  | exception
  | sent
  deriving DecidableEq, Repr

/-- The answers of JNI during one dump, by position in the arrays. -/
structure Jni where
  arrays : Bool := true
  newConns : Nat → DumpResult := fun _ => .sent
  updates : Nat → DumpResult := fun _ => .sent

/-- The last value of every part of the updates sent so far. -/
def mergeUpdate (old new : ConnectionUpdate) : ConnectionUpdate :=
  let stats :=
    if new.updateType &&& UPDATE_STATS != 0 then
      { new with
        updateType := old.updateType ||| UPDATE_STATS, infoFlags := old.infoFlags
        info := old.info, url := old.url, l7proto := old.l7proto
        payloadChunks := old.payloadChunks, payloadTruncated := old.payloadTruncated }
    else old
  let described :=
    if new.updateType &&& UPDATE_INFO != 0 then
      { stats with
        updateType := stats.updateType ||| UPDATE_INFO, infoFlags := new.infoFlags
        info := new.info, url := new.url, l7proto := new.l7proto }
    else stats
  if new.updateType &&& UPDATE_PAYLOAD != 0 then
    { described with
      updateType := described.updateType ||| UPDATE_PAYLOAD
      payloadChunks := new.payloadChunks, payloadTruncated := new.payloadTruncated }
  else described

namespace Java

def addConnection (java : Java) (update : ConnectionUpdate) : Java :=
  { ids := java.ids ++ [update.incrId]
    sent := Function.update java.sent update.incrId (some update) }

def updateConnection (java : Java) (update : ConnectionUpdate) : Java :=
  { java with
    sent := Function.update java.sent update.incrId
      ((java.sent update.incrId).map fun old => mergeUpdate old update) }

def updateConnections (java : Java) (newConns updates : List ConnectionUpdate) : Java :=
  updates.foldl updateConnection (newConns.foldl addConnection java)

end Java

def clearPending (pd : Pd) (ref : Ref) : Pd :=
  pd.modify ref fun data => { data with pendingNotification := false }

/-- The update object of a record, with what `getConnUpdate` leaves behind. -/
def takeUpdate (pd : Pd) (slot : Slot) : ConnectionUpdate × Pd :=
  let used := pd.access slot.data
  let built := getConnUpdate used.tables used.policy.vpnCapture slot.tuple (used.heap slot.data)
  (built.1, used.modify slot.data fun _ => built.2)

def dumpNewConnection (result : DumpResult) (pd : Pd) (slot : Slot) :
    Pd × Option ConnectionUpdate :=
  match result with
  | .noDescriptor => (pd, none)
  | _ =>
      let touched := pd.modify slot.data fun data => data.touch (CONN_UPDATE_STATS ||| CONN_UPDATE_INFO)
      match result with
      | .noUpdate => (touched, none)
      | .exception => ((takeUpdate touched slot).2, none)
      | _ => ((takeUpdate touched slot).2, some (takeUpdate touched slot).1)

def dumpConnectionUpdate (result : DumpResult) (pd : Pd) (slot : Slot) :
    Pd × Option ConnectionUpdate :=
  match result with
  | .noDescriptor | .noUpdate => (pd, none)
  | .exception => ((takeUpdate pd slot).2, none)
  | .sent => ((takeUpdate pd slot).2, some (takeUpdate pd slot).1)

/-- A loop of `sendConnectionsDump`; no list means that it has jumped to the cleanup. -/
def dumpSlots (dump : DumpResult → Pd → Slot → Pd × Option ConnectionUpdate)
    (results : Nat → DumpResult) : Nat → List Slot → Pd → Pd × Option (List ConnectionUpdate)
  | _, [], pd => (pd, some [])
  | index, slot :: rest, pd =>
      match dump (results index) (clearPending pd slot.data) slot with
      | (failed, none) => (failed, none)
      | (dumped, some update) =>
          let (last, updates) := dumpSlots dump results (index + 1) rest dumped
          (last, updates.map fun later => update :: later)

/-- Iterating over a null array dereferences it. -/
def checkArray (pd : Pd) (arr : ConnArray) : Pd :=
  if arr.items.isNone && 0 < arr.curItems then { pd with crashed := true } else pd

def sendConnectionsDump (jni : Jni) (pd : Pd) : Pd :=
  if !jni.arrays then pd
  else
    match dumpSlots dumpNewConnection jni.newConns 0 pd.newConns.slots
        (checkArray pd pd.newConns) with
    | (failed, none) => failed
    | (dumped, some newConns) =>
        match dumpSlots dumpConnectionUpdate jni.updates 0 dumped.connsUpdates.slots
            (checkArray dumped dumped.connsUpdates) with
        | (failed, none) => failed
        | (finished, some updates) =>
            { finished with java := finished.java.updateConnections newConns updates }

/-- The dump branch of `pd_housekeeping`. -/
def dumpConnections (jni : Jni) (pd : Pd) : Pd :=
  let dumped :=
    if pd.newConns.curItems ≠ 0 ∨ pd.connsUpdates.curItems ≠ 0 then
      let sent := sendConnectionsDump jni pd
      connsClear (connsClear sent .newConns false) .connsUpdates false
    else pd
  { dumped with
    nextConnectionsDump := dumped.nowMs + CONNECTION_DUMP_UPDATE_FREQUENCY_MS
    netdResolveWaiting := 0 }

def checkBlockedConnCb (ndpi : Ref → Ndpi) (pd : Pd) (slot : Slot) : Pd :=
  let used := pd.access slot.data
  let checked := Detection.checkBlockedConnCb used.policy slot.tuple (used.heap slot.data)
  let stored := used.modify slot.data fun _ => checked.1
  if checked.2 then (pdNotifyConnectionUpdate (ndpi slot.data) stored slot.tuple slot.data).1
  else stored

def checkBlacklistedConnCb (ndpi : Ref → Ndpi) (whitelist : Blacklist) (pd : Pd) (slot : Slot) :
    Pd :=
  let used := pd.access slot.data
  let data := used.heap slot.data
  let cleared := Detection.clearWhitelisted whitelist slot.tuple data
  let stored := used.modify slot.data fun _ => cleared
  if data.blacklistedIp ≠ cleared.blacklistedIp ∨
      data.blacklistedDomain ≠ cleared.blacklistedDomain then
    let checked :=
      if stored.policy.firewall.bl.isSome then checkBlockedConnCb ndpi stored slot else stored
    let touched := checked.modify slot.data fun conn => conn.touch CONN_UPDATE_STATS
    (pdNotifyConnectionUpdate (ndpi slot.data) touched slot.tuple slot.data).1
  else stored

/-- What a pass of `pd_housekeeping` meets: the time, JNI, nDPI, the allocator, whether the
    dumper exports its buffer and a blacklist the worker has finished. -/
structure Pass where
  now : Nat := 0
  jni : Jni := {}
  ndpi : Ref → Ndpi
  reallocs : List Bool := []
  pcapExport : Bool := false
  reloadedBl : Option Blacklist := none

/-- Whether the pass sends the statistics; then nothing else of the first chain runs. -/
def sendsStats (pd : Pd) : Bool :=
  pd.dumpCaptureStatsNow ||
    (pd.newStats && CAPTURE_STATS_UPDATE_FREQUENCY_MS ≤ subU64 pd.nowMs pd.statsUpdateMs)

def dumpsConnections (pd : Pd) : Bool := !sendsStats pd && pd.nextConnectionsDump ≤ pd.nowMs

/-- The chain of tasks of which one pass runs at most one. -/
def periodicTask (pass : Pass) (pd : Pd) : Pd :=
  if sendsStats pd then
    { pd with dumpCaptureStatsNow := false, newStats := false, statsUpdateMs := pd.nowMs }
  else if pd.nextConnectionsDump ≤ pd.nowMs then dumpConnections pass.jni pd
  else if pass.pcapExport then pd
  else
    match pass.reloadedBl with
    | some bl =>
        if pd.malwareEnabled then
          { pd with policy := { pd.policy with malware.bl := some bl } }
        else pd
    | none => pd

def loadMalwareWhitelist (ndpi : Ref → Ndpi) (active : List Slot) (pd : Pd) : Pd :=
  match pd.malwareNewWl with
  | some wl =>
      active.foldl (checkBlacklistedConnCb ndpi wl)
        { pd with
          policy := { pd.policy with malware.whitelist := some wl }, malwareNewWl := none }
  | none => pd

def loadFirewallLists (ndpi : Ref → Ndpi) (active : List Slot) (pd : Pd) : Pd :=
  match pd.firewallNewBl, pd.firewallNewWl with
  | some bl, _ =>
      active.foldl (checkBlockedConnCb ndpi)
        { pd with policy := { pd.policy with firewall.bl := some bl }, firewallNewBl := none }
  | none, some wl =>
      active.foldl (checkBlockedConnCb ndpi)
        { pd with policy := { pd.policy with firewall.wl := some wl }, firewallNewWl := none }
  | none, none => pd

def Waiting (pd : Pd) : Prop := pd.firewallNewBl.isSome ∨ pd.firewallNewWl.isSome

instance (pd : Pd) : Decidable (Waiting pd) := inferInstanceAs (Decidable (_ ∨ _))

def loadDecryptionList (pd : Pd) : Pd :=
  match pd.tlsNewList with
  | some list => { pd with policy := { pd.policy with tlsList := some list }, tlsNewList := none }
  | none => pd

/-- `pd_housekeeping`; `active` is what `iter_active_connections` visits. -/
def pdHousekeeping (pass : Pass) (active : List Slot) (pd : Pd) : Pd :=
  loadDecryptionList
    (loadFirewallLists pass.ndpi active
      (loadMalwareWhitelist pass.ndpi active (periodicTask pass pd)))

end Ptnet.Pcapdroid
