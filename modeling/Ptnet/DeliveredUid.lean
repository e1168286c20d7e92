import Ptnet.CaptureCalls
import Ptnet.ConnectionsDump
import Ptnet.NotificationArray
import Ptnet.RecordLifetime
import Ptnet.UidFrame

/-!
The uid of a connection that Java has received. `pd_new_connection` passes the uid of a new
connection on to netd requests that wait in `new_conns`, and a dump empties that array: a record
that was in a dump is not found there again.
-/

namespace Ptnet.Pcapdroid

open Connection
open Detection (Ndpi Policy)
open NotificationArray

/-- No record is created or queued as new, and none gets another uid. -/
structure Unmoved (before after : Pd) : Prop where
  created : after.created = before.created
  newConns : after.newConns = before.newConns
  uids : SameUids before after

namespace Unmoved

variable {before between after : Pd}

theorem refl (pd : Pd) : Unmoved pd pd := ⟨rfl, rfl, fun _ => rfl⟩

theorem trans (first : Unmoved before between) (last : Unmoved between after) :
    Unmoved before after :=
  ⟨last.created.trans first.created, last.newConns.trans first.newConns,
    first.uids.trans last.uids⟩

theorem of_framed (framed : Framed SameCapture before after)
    (newConns : after.newConns = before.newConns) : Unmoved before after :=
  ⟨framed.created, newConns, framed.sameUids⟩

theorem foldl (visit : Pd → Slot → Pd) (slots : List Slot) (pd : Pd)
    (keeps : ∀ current slot, Unmoved current (visit current slot)) :
    Unmoved pd (slots.foldl visit pd) := by
  induction slots generalizing pd with
  | nil => exact refl pd
  | cons slot rest ih => exact (keeps pd slot).trans (ih (visit pd slot))

section Calls

variable (pd : Pd) (ndpi : Ndpi)

theorem access (ref : Ref) : Unmoved pd (pd.access ref) :=
  of_framed (capture_frame.access pd ref) (access_array pd ref .newConns)

theorem modify (ref : Ref) (change : PdConn → PdConn)
    (kept : (change (pd.heap ref)).uid = (pd.heap ref).uid) : Unmoved pd (pd.modify ref change) :=
  ⟨modify_created pd ref change, modify_array pd ref change .newConns,
    modify_uids pd ref change kept⟩

theorem notify (tuple : Tuple) (ref : Ref) :
    Unmoved pd (pdNotifyConnectionUpdate ndpi pd tuple ref).1 :=
  of_framed (capture_frame.notifConnection pd ref ndpi .connsUpdates tuple)
    (Store.notify_others ⟨pd, fun _ => 0⟩ ndpi .connsUpdates tuple ref .newConns (by decide))

theorem notifyIf (wanted : Bool) (tuple : Tuple) (ref : Ref) :
    Unmoved pd (if wanted then (pdNotifyConnectionUpdate ndpi pd tuple ref).1 else pd) := by
  cases wanted with
  | true => exact notify pd ndpi tuple ref
  | false => exact refl pd

theorem giveup (ref : Ref) (tuple : Tuple) : Unmoved pd (pdGiveupDpi ndpi pd ref tuple) :=
  modify pd ref _ (capture_frame.giveup _ ndpi tuple _).uid

theorem performDpi (pctx : PktContext) : Unmoved pd (Pcapdroid.performDpi ndpi pd pctx) := by
  have delayed : ∀ current data, Unmoved current (delayForNetd current data) := by
    intro current data
    unfold delayForNetd
    split <;> exact ⟨rfl, rfl, fun _ => rfl⟩
  have stored := (access pd pctx.data).trans (modify (pd.access pctx.data) pctx.data (fun _ =>
    (Detection.performDpi (pd.access pctx.data).policy ndpi pctx.tuple pctx.pkt.tuple
      ((pd.access pctx.data).heap pctx.data)).1) (capture_frame.inspected _ _ _ _ _).uid)
  exact (stored.trans (delayed _ _)).trans (notifyIf _ ndpi _ pctx.tuple pctx.data)

theorem processPayload (result : ChunkResult) (pctx : PktContext) :
    Unmoved pd (Pcapdroid.processPayload ndpi result pd pctx) := by
  have stored := (access pd pctx.data).trans (modify (pd.access pctx.data) pctx.data (fun _ =>
    (recordPayload (pd.access pctx.data) result pctx ((pd.access pctx.data).heap pctx.data)).1)
    (capture_frame.captured _ _ _ _).uid)
  exact stored.trans (notifyIf _ ndpi _ pctx.tuple pctx.data)

theorem process (result : ChunkResult) (pctx : PktContext) :
    Unmoved pd (pdProcessPacket ndpi result pd pctx) := by
  have seen := modify pd pctx.data (setSeen pctx.ms) rfl
  simp only [pdProcessPacket]
  split
  · exact (seen.trans (performDpi _ ndpi pctx)).trans (processPayload _ ndpi result pctx)
  · exact seen.trans (processPayload _ ndpi result pctx)

theorem account (pctx : PktContext) : Unmoved pd (pdAccountStats ndpi pd pctx) := by
  have counted := modify pd pctx.data (Detection.accountStats pctx.isTx pctx.pkt.len
    pctx.pkt.l7.length) (capture_frame.accounted _ _ _ _).uid
  have marked : ∀ current : Pd, Unmoved current { current with newStats := true } :=
    fun _ => ⟨rfl, rfl, fun _ => rfl⟩
  exact (counted.trans (marked _)).trans (notify _ ndpi pctx.tuple pctx.data)

theorem purge (ref : Ref) : Unmoved pd (pdPurgeConnection pd ref) :=
  of_framed (capture_frame.pdPurgeConnection pd ref) (purge_array pd ref .newConns)

theorem checkBlockedConnCb (ndpi : Ref → Ndpi) (slot : Slot) :
    Unmoved pd (Pcapdroid.checkBlockedConnCb ndpi pd slot) := by
  have stored := (access pd slot.data).trans (modify (pd.access slot.data) slot.data (fun _ =>
    (Detection.checkBlockedConnCb (pd.access slot.data).policy slot.tuple
      ((pd.access slot.data).heap slot.data)).1) (capture_frame.rechecked _ _ _).uid)
  exact stored.trans (notifyIf _ (ndpi slot.data) _ slot.tuple slot.data)

theorem checkBlacklistedConnCb (ndpi : Ref → Ndpi) (whitelist : NativeBlacklist.Blacklist)
    (slot : Slot) : Unmoved pd (Pcapdroid.checkBlacklistedConnCb ndpi whitelist pd slot) := by
  have stored := (access pd slot.data).trans (modify (pd.access slot.data) slot.data (fun _ =>
    Detection.clearWhitelisted whitelist slot.tuple ((pd.access slot.data).heap slot.data)) rfl)
  have checked : ∀ current : Pd, Unmoved current (if current.policy.firewall.bl.isSome then
      Pcapdroid.checkBlockedConnCb ndpi current slot else current) := by
    intro current
    split
    · exact checkBlockedConnCb current ndpi slot
    · exact refl current
  simp only [Pcapdroid.checkBlacklistedConnCb]
  split
  · exact ((stored.trans (checked _)).trans (modify _ slot.data _ rfl)).trans
      (notify _ (ndpi slot.data) slot.tuple slot.data)
  · exact stored

end Calls

end Unmoved

/-- A record that is new in `new_conns` was created since, and the uid of a record is kept unless
    the record waits there. -/
structure KeepsUids (before after : Pd) : Prop where
  created : before.created ≤ after.created
  queued : ∀ ref ∈ after.newConns.refs,
    ref ∈ before.newConns.refs ∨ (before.created ≤ ref ∧ ref < after.created)
  uids : ∀ ref, ref < before.created → ref ∉ before.newConns.refs →
    (after.heap ref).uid = (before.heap ref).uid

namespace KeepsUids

variable {before between after : Pd}

theorem of_unmoved (same : Unmoved before after) : KeepsUids before after where
  created := Nat.le_of_eq same.created.symm
  queued _ member := Or.inl (same.newConns ▸ member)
  uids ref _ _ := same.uids ref

theorem trans (first : KeepsUids before between) (last : KeepsUids between after) :
    KeepsUids before after where
  created := Nat.le_trans first.created last.created
  queued ref member := by
    rcases last.queued ref member with waiting | ⟨newer, present⟩
    · rcases first.queued ref waiting with older | ⟨newer, present⟩
      · exact Or.inl older
      · exact Or.inr ⟨newer, Nat.lt_of_lt_of_le present last.created⟩
    · exact Or.inr ⟨Nat.le_trans first.created newer, present⟩
  uids ref older sent := by
    have still : ref ∉ between.newConns.refs := by
      intro waiting
      rcases first.queued ref waiting with same | ⟨newer, -⟩
      · exact sent same
      · exact absurd older (Nat.not_lt.mpr newer)
    exact (last.uids ref (Nat.lt_of_lt_of_le older first.created) still).trans
      (first.uids ref older sent)

end KeepsUids

section Creation

/-- The record is the next one; the others keep their uid unless they wait in `new_conns`. -/
structure Opens (before after : Pd) : Prop where
  created : after.created = before.created + 1
  queued : ∀ ref ∈ after.newConns.refs, ref ∈ before.newConns.refs ∨ ref = before.created
  uids : ∀ ref, ref < before.created → ref ∉ before.newConns.refs →
    (after.heap ref).uid = (before.heap ref).uid

namespace Opens

variable {before between after : Pd}

theorem keeps (opens : Opens before after) : KeepsUids before after where
  created := by
    rw [opens.created]
    exact Nat.le_succ _
  queued ref member := by
    rcases opens.queued ref member with waiting | rfl
    · exact Or.inl waiting
    · refine Or.inr ⟨Nat.le_refl _, ?_⟩
      rw [opens.created]
      exact Nat.lt_succ_self _
  uids := opens.uids

theorem unmoved (first : Opens before between) (last : Unmoved between after) :
    Opens before after where
  created := last.created.trans first.created
  queued ref member := first.queued ref (last.newConns ▸ member)
  uids ref older sent := (last.uids ref).trans (first.uids ref older sent)

theorem modify (opens : Opens before between) (ref : Ref) (change : PdConn → PdConn)
    (waiting : ref ∈ before.newConns.refs ∨ ref = before.created) :
    Opens before (between.modify ref change) where
  created := (modify_created between ref change).trans opens.created
  queued other member := by
    have array := modify_array between ref change .newConns
    change (between.modify ref change).newConns = between.newConns at array
    rw [array] at member
    exact opens.queued other member
  uids other older sent := by
    have differs : other ≠ ref := by
      rintro rfl
      rcases waiting with member | rfl
      · exact sent member
      · exact absurd older (Nat.lt_irrefl _)
    rw [modify_heap, Function.update_of_ne differs]
    exact opens.uids other older sent

theorem resolveNetd (opens : Opens before between) (uid : Int) (info : Option String) (slot : Slot)
    (waiting : slot.data ∈ before.newConns.refs ∨ slot.data = before.created) :
    Opens before (Pcapdroid.resolveNetd uid info between slot) := by
  have used := Unmoved.access between slot.data
  have resolved : ∀ missed, Opens before ((between.access slot.data).modify slot.data fun conn =>
      { conn with uid := uid, netdBlockMissed := conn.netdBlockMissed || missed }) := fun missed =>
    (opens.unmoved used).modify slot.data _ waiting
  have rescheduled : ∀ (current : Pd) delayed next, Opens before current → Opens before
      { current with netdResolveWaiting := delayed, nextConnectionsDump := next } :=
    fun _ _ _ kept => ⟨kept.created, kept.queued, kept.uids⟩
  simp only [Pcapdroid.resolveNetd]
  split
  · split
    · exact rescheduled _ _ _ (resolved _)
    · exact resolved _
  · exact opens.unmoved used

theorem resolveAll (uid : Int) (info : Option String) (slots : List Slot)
    (waiting : ∀ slot ∈ slots, slot.data ∈ before.newConns.refs ∨ slot.data = before.created)
    (opens : Opens before between) :
    Opens before (slots.foldl (Pcapdroid.resolveNetd uid info) between) := by
  induction slots generalizing between with
  | nil => exact opens
  | cons slot rest ih =>
      have first := opens.resolveNetd uid info slot (waiting slot List.mem_cons_self)
      exact ih (fun later member => waiting later (List.mem_cons_of_mem slot member)) first

theorem attributeHost (opens : Opens before between) (lruHost : Option String) :
    Opens before (Pcapdroid.attributeHost between before.created lruHost) := by
  unfold Pcapdroid.attributeHost
  split
  · exact opens.modify _ _ (Or.inr rfl)
  · next host =>
      have guessed := opens.modify before.created (fun data =>
        { data with info := some host, infoFromLru := true }) (Or.inr rfl)
      dsimp only
      refine modify ?_ _ _ (Or.inr rfl)
      split
      · exact resolveAll _ _ _ (fun slot member =>
          guessed.queued slot.data (List.mem_map_of_mem member)) guessed
      · exact guessed

end Opens

theorem pushed_refs (arr : ConnArray) (answer : Bool) (slot : Slot) (ref : Ref)
    (member : ref ∈ (pushed arr answer slot).refs) : ref ∈ arr.refs ∨ ref = slot.data := by
  have appended : ref ∈ (arr.slots ++ [slot]).map Slot.data → ref ∈ arr.refs ∨ ref = slot.data := by
    simp [ConnArray.refs]
  cases full : isFull arr with
  | true =>
      cases answer with
      | true =>
          rw [pushed_grown arr slot full] at member
          exact appended member
      | false =>
          rw [pushed_failed arr slot full] at member
          cases member
  | false =>
      cases block : arr.items.isSome with
      | true =>
          rw [pushed_written arr slot answer full block] at member
          exact appended member
      | false =>
          rw [pushed_lost arr slot answer full block] at member
          exact Or.inl member

variable (pd : Pd) (ndpi : Ndpi)

theorem newConns_queued (tuple : Tuple) (ref other : Ref)
    (member : other ∈ (notifConnection ndpi pd .newConns tuple ref).1.newConns.refs) :
    other ∈ pd.newConns.refs ∨ other = ref := by
  cases pending : isPending pd ref with
  | true =>
      have same := Store.notify_pending ⟨pd, fun _ => 0⟩ ndpi .newConns tuple ref pending .newConns
      change (notifConnection ndpi pd .newConns tuple ref).1.newConns = pd.newConns at same
      rw [same] at member
      exact Or.inl member
  | false =>
      have array := Store.notify_array ⟨pd, fun _ => 0⟩ ndpi .newConns tuple ref pending
      change (notifConnection ndpi pd .newConns tuple ref).1.newConns =
        pushed pd.newConns (pd.reallocs.headD true) ⟨tuple, ref⟩ at array
      rw [array] at member
      exact pushed_refs _ _ _ _ member

theorem pdNewConnection_keeps (env : NewConnEnv) (tuple : Tuple) (uid : Int) :
    KeepsUids pd (pdNewConnection ndpi env pd tuple uid).1 := by
  let allocated : Pd := { pd with
    created := pd.created + 1
    heap := Function.update pd.heap pd.created freshConn }
  have born : Opens pd allocated := by
    refine ⟨rfl, fun _ member => Or.inl member, fun ref older _ => ?_⟩
    exact congrArg PdConn.uid (Function.update_of_ne (Nat.ne_of_lt older) _ _)
  have framed := capture_frame.notifConnection allocated pd.created ndpi .newConns tuple
  have notified : Opens pd (notifConnection ndpi allocated .newConns tuple pd.created).1 :=
    ⟨framed.created, newConns_queued allocated ndpi tuple pd.created, fun ref older sent =>
      (framed.sameUids ref).trans (born.uids ref older sent)⟩
  rw [pdNewConnection]
  split
  · exact KeepsUids.of_unmoved (Unmoved.refl pd)
  · dsimp only
    split
    · exact (born.unmoved (Unmoved.purge allocated pd.created)).keeps
    · split
      · exact (notified.unmoved (Unmoved.purge _ pd.created)).keeps
      · have numbered : Opens pd
            { (notifConnection ndpi allocated .newConns tuple pd.created).1.modify pd.created fun data =>
                Detection.checkWhitelistedApp pd.policy
                  { data with uid := uid, incrId := pd.newConnId }
              with newConnId := pd.newConnId + 1 } := by
          have written := notified.modify pd.created (fun data =>
            Detection.checkWhitelistedApp pd.policy
              { data with uid := uid, incrId := pd.newConnId }) (Or.inr rfl)
          exact ⟨written.created, written.queued, written.uids⟩
        exact ((numbered.attributeHost env.lruHost).modify pd.created (fun data =>
          Detection.checkWhitelistModeBlock pd.policy tuple
            (Detection.checkFirewall pd.policy tuple
              (Detection.checkMalwareIp pd.policy tuple data))) (Or.inr rfl)).keeps

/-- A record that gets another uid waits in `new_conns`. -/
theorem rewrites_waiting (env : NewConnEnv) (tuple : Tuple) (uid : Int) (ref : Ref)
    (older : ref < pd.created)
    (rewritten : ((pdNewConnection ndpi env pd tuple uid).1.heap ref).uid ≠ (pd.heap ref).uid) :
    ref ∈ pd.newConns.refs := by
  by_contra sent
  exact rewritten ((pdNewConnection_keeps pd ndpi env tuple uid).uids ref older sent)

end Creation

theorem CaptureCall.keeps {before after : Pd} (call : CaptureCall before after) :
    KeepsUids before after := by
  cases call with
  | access ref => exact .of_unmoved (Unmoved.access before ref)
  | refreshTime nowMs => exact .of_unmoved ⟨rfl, rfl, fun _ => rfl⟩
  | allocator reallocs => exact .of_unmoved ⟨rfl, rfl, fun _ => rfl⟩
  | request wanted => exact .of_unmoved ⟨rfl, rfl, fun _ => rfl⟩
  | write ref change own =>
      exact .of_unmoved (Unmoved.modify before ref change (congrArg CoreFields.uid own))
  | notify ndpi tuple ref => exact .of_unmoved (Unmoved.notify before ndpi tuple ref)
  | giveup ndpi ref tuple => exact .of_unmoved (Unmoved.giveup before ndpi ref tuple)
  | process ndpi result pctx => exact .of_unmoved (Unmoved.process before ndpi result pctx)
  | account ndpi pctx => exact .of_unmoved (Unmoved.account before ndpi pctx)
  | create ndpi env tuple uid => exact pdNewConnection_keeps before ndpi env tuple uid
  | purge ref => exact .of_unmoved (Unmoved.purge before ref)

theorem CaptureCalls.keeps {before after : Pd} (calls : CaptureCalls before after) :
    KeepsUids before after :=
  CaptureCalls.keep (fun pd => KeepsUids.of_unmoved (Unmoved.refl pd)) (fun _ _ _ => KeepsUids.trans)
    (fun _ _ => CaptureCall.keeps) calls

section Housekeeping

/-- What Java gets about a new connection: its record and the uid in its descriptor. -/
structure Delivery where
  ref : Ref
  uid : Int
  deriving DecidableEq, Repr

/-- The descriptors that `dumpNewConnection` builds. -/
def descriptors (pd : Pd) : List Delivery :=
  pd.newConns.slots.map fun slot => ⟨slot.data, (pd.heap slot.data).uid⟩

/-- What `sendConnectionsDump` delivers. -/
def delivered (jni : Jni) (pd : Pd) : List Delivery :=
  if succeeds jni pd then descriptors pd else []

def housekeepingDelivers (pass : Pass) (pd : Pd) : List Delivery :=
  if dumpsConnections pd ∧ (pd.newConns.curItems ≠ 0 ∨ pd.connsUpdates.curItems ≠ 0) then
    delivered pass.jni pd
  else []

theorem delivered_mem (jni : Jni) (pd : Pd) (item : Delivery) (member : item ∈ delivered jni pd) :
    item.ref ∈ pd.newConns.refs ∧ (pd.heap item.ref).uid = item.uid := by
  unfold delivered at member
  split at member
  · obtain ⟨slot, listed, rfl⟩ := List.mem_map.mp member
    exact ⟨List.mem_map_of_mem listed, rfl⟩
  · cases member

theorem delivered_ids (jni : Jni) (pd : Pd) (kept : Set Ref) (ledger : Ledger pd kept) :
    (sendConnectionsDump jni pd).java.ids =
      pd.java.ids ++ (delivered jni pd).map fun item => (pd.heap item.ref).incrId := by
  obtain ⟨between, dumped, outcome⟩ := sendConnectionsDump_spec jni pd kept ledger
  unfold delivered
  cases success : succeeds jni pd with
  | true =>
      rw [if_pos success] at outcome
      obtain ⟨newConns, updates, ids, sent⟩ := outcome
      rw [sent, if_pos rfl]
      dsimp only
      rw [updateConnections_ids, ids]
      simp [newIds, descriptors, ConnArray.refs]
  | false =>
      rw [if_neg (by rw [success]; exact Bool.false_ne_true)] at outcome
      rw [outcome, dumped.java]
      simp

/-- Records and their uids as they were, and `new_conns` as it was or empty. -/
structure Settles (before after : Pd) : Prop where
  created : after.created = before.created
  newConns : after.newConns = before.newConns ∨ after.newConns = {}
  uids : SameUids before after

namespace Settles

variable {before between after : Pd}

theorem unmoved (first : Settles before between) (last : Unmoved between after) :
    Settles before after where
  created := last.created.trans first.created
  newConns := by
    rw [last.newConns]
    exact first.newConns
  uids := first.uids.trans last.uids

theorem keeps (settles : Settles before after) : KeepsUids before after where
  created := Nat.le_of_eq settles.created.symm
  queued _ member := by
    rcases settles.newConns with same | empty
    · exact Or.inl (same ▸ member)
    · rw [empty] at member
      cases member
  uids ref _ _ := settles.uids ref

end Settles

variable (pd : Pd)

theorem cleared_newConns :
    (connsClear (connsClear pd .newConns false) .connsUpdates false).newConns = {} := by
  have last := Store.connsClear_array .connsUpdates (connsClear pd .newConns false) false .newConns
  have first := Store.connsClear_array .newConns pd false .newConns
  rw [if_neg (by decide)] at last
  rw [if_pos rfl] at first
  exact last.trans first

theorem dumpConnections_empties (jni : Jni)
    (waiting : pd.newConns.curItems ≠ 0 ∨ pd.connsUpdates.curItems ≠ 0) :
    (dumpConnections jni pd).newConns = {} := by
  rw [dumpConnections, if_pos waiting]
  exact cleared_newConns (sendConnectionsDump jni pd)

theorem dumpConnections_settles (jni : Jni) : Settles pd (dumpConnections jni pd) := by
  have framed := capture_frame.dumpFrame.dumpConnections jni pd
  refine ⟨framed.created, ?_, framed.sameUids⟩
  by_cases waiting : pd.newConns.curItems ≠ 0 ∨ pd.connsUpdates.curItems ≠ 0
  · exact Or.inr (dumpConnections_empties pd jni waiting)
  · rw [dumpConnections, if_neg waiting]
    exact Or.inl rfl

theorem periodicTask_settles (pass : Pass) : Settles pd (periodicTask pass pd) := by
  have same : Settles pd pd := ⟨rfl, Or.inl rfl, fun _ => rfl⟩
  unfold periodicTask
  split
  · exact same.unmoved ⟨rfl, rfl, fun _ => rfl⟩
  · split
    · exact dumpConnections_settles pd pass.jni
    · split
      · exact same
      · split
        · split
          · exact same.unmoved ⟨rfl, rfl, fun _ => rfl⟩
          · exact same
        · exact same

theorem loadLists_unmoved (pass : Pass) (active : List Slot) :
    Unmoved pd (loadDecryptionList (loadFirewallLists pass.ndpi active
      (loadMalwareWhitelist pass.ndpi active pd))) := by
  have relisted : ∀ (before between : Pd) {after : Pd}, Unmoved between after →
      between.created = before.created → between.newConns = before.newConns →
        between.heap = before.heap → Unmoved before after := by
    intro before between after last created newConns heap
    exact Unmoved.trans ⟨created, newConns, fun ref => by rw [heap]⟩ last
  have whitelisted : ∀ current, Unmoved current (loadMalwareWhitelist pass.ndpi active current) := by
    intro current
    unfold loadMalwareWhitelist
    split
    · exact relisted _ _ (Unmoved.foldl _ active _ fun pd slot =>
        Unmoved.checkBlacklistedConnCb pd pass.ndpi _ slot) rfl rfl rfl
    · exact Unmoved.refl current
  have checked := fun current => Unmoved.foldl (checkBlockedConnCb pass.ndpi) active current
    fun pd slot => Unmoved.checkBlockedConnCb pd pass.ndpi slot
  have listed : ∀ current, Unmoved current (loadFirewallLists pass.ndpi active current) := by
    intro current
    unfold loadFirewallLists
    split
    · exact relisted _ _ (checked _) rfl rfl rfl
    · exact relisted _ _ (checked _) rfl rfl rfl
    · exact Unmoved.refl current
  have decrypting : ∀ current, Unmoved current (loadDecryptionList current) := by
    intro current
    unfold loadDecryptionList
    split <;> exact ⟨rfl, rfl, fun _ => rfl⟩
  exact ((whitelisted pd).trans (listed _)).trans (decrypting _)

theorem pdHousekeeping_settles (pass : Pass) (active : List Slot) :
    Settles pd (pdHousekeeping pass active pd) :=
  (periodicTask_settles pd pass).unmoved (loadLists_unmoved _ pass active)

/-- A pass that delivers something leaves no new connection behind. -/
theorem pdHousekeeping_empties (pass : Pass) (active : List Slot)
    (sent : housekeepingDelivers pass pd ≠ []) :
    (pdHousekeeping pass active pd).newConns = {} := by
  unfold housekeepingDelivers at sent
  split at sent
  · next dumps =>
    obtain ⟨due, waiting⟩ := dumps
    have dumped : periodicTask pass pd = dumpConnections pass.jni pd := by
      simp only [dumpsConnections, Bool.and_eq_true, Bool.not_eq_true', decide_eq_true_eq] at due
      rw [periodicTask, if_neg (by rw [due.1]; exact Bool.false_ne_true), if_pos due.2]
    rw [pdHousekeeping, (loadLists_unmoved _ pass active).newConns, dumped]
    exact dumpConnections_empties pd pass.jni waiting
  · exact absurd rfl sent

end Housekeeping

/-- What ties `new_conns` to the deliveries so far. -/
structure Fixed (sent : List Delivery) (pd : Pd) : Prop where
  uids : ∀ item ∈ sent, (pd.heap item.ref).uid = item.uid
  apart : ∀ item ∈ sent, item.ref ∉ pd.newConns.refs
  created : ∀ item ∈ sent, item.ref < pd.created
  queued : ∀ ref ∈ pd.newConns.refs, ref < pd.created

namespace Fixed

variable {sent : List Delivery} {before after : Pd}

theorem later (fixed : Fixed sent before) (keeps : KeepsUids before after) : Fixed sent after where
  uids item member :=
    (keeps.uids item.ref (fixed.created item member) (fixed.apart item member)).trans
      (fixed.uids item member)
  apart item member waiting := by
    rcases keeps.queued item.ref waiting with older | ⟨newer, -⟩
    · exact fixed.apart item member older
    · exact Nat.not_lt.mpr newer (fixed.created item member)
  created item member := Nat.lt_of_lt_of_le (fixed.created item member) keeps.created
  queued ref waiting := by
    rcases keeps.queued ref waiting with older | ⟨-, present⟩
    · exact Nat.lt_of_lt_of_le (fixed.queued ref older) keeps.created
    · exact present

/-- What is delivered waits in `new_conns`, which is empty afterwards. -/
theorem housekeeping (fixed : Fixed sent before) (pass : Pass) (active : List Slot) :
    Fixed (sent ++ housekeepingDelivers pass before) (pdHousekeeping pass active before) := by
  have settles := pdHousekeeping_settles before pass active
  have kept := fixed.later settles.keeps
  by_cases quiet : housekeepingDelivers pass before = []
  · rw [quiet, List.append_nil]
    exact kept
  · have waiting : ∀ item ∈ housekeepingDelivers pass before,
        item.ref ∈ before.newConns.refs ∧ (before.heap item.ref).uid = item.uid := by
      intro item member
      unfold housekeepingDelivers at member
      split at member
      · exact delivered_mem pass.jni before item member
      · cases member
    have empty := pdHousekeeping_empties before pass active quiet
    refine ⟨?_, ?_, ?_, kept.queued⟩
    · intro item member
      rcases List.mem_append.mp member with old | new
      · exact kept.uids item old
      · exact (settles.uids item.ref).trans (waiting item new).2
    · intro item _ listed
      rw [empty] at listed
      cases listed
    · intro item member
      rcases List.mem_append.mp member with old | new
      · exact kept.created item old
      · rw [settles.created]
        exact fixed.queued item.ref (waiting item new).1

theorem start (config : Pd) : Fixed [] (CaptureClient.start config).pd where
  uids _ member := by cases member
  apart _ member := by cases member
  created _ member := by cases member
  queued _ member := by cases member

theorem run {State Event : Type} (step : State → Event → State) (pd : State → Pd)
    (delivers : State → Event → List Delivery)
    (keeps : ∀ state event sent, Fixed sent (pd state) →
      Fixed (sent ++ delivers state event) (pd (step state event)))
    (state : State) (events : List Event) (sent : List Delivery) (fixed : Fixed sent (pd state)) :
    Fixed (sent ++ (Machine.trace step delivers state events).flatten)
      (pd (Machine.run step state events)) := by
  induction events generalizing state sent with
  | nil => simpa [Machine.trace] using fixed
  | cons event rest ih =>
      have next := ih (step state event) _ (keeps state event sent fixed)
      rwa [List.append_assoc] at next

/-- The dump at the end of `pd_run`, after which all records are freed. -/
theorem finished (fixed : Fixed sent before) (jni : Jni) (item : Delivery)
    (member : item ∈ sent ++ delivered jni before) :
    ((connsClear (connsClear (sendConnectionsDump jni before) .newConns true) .connsUpdates true).heap
      item.ref).uid = item.uid := by
  have dump := capture_frame.dumpFrame
  have same := (((dump.sendConnectionsDump jni before).sameUids.trans
    (dump.connsClear _ .newConns true).sameUids).trans
      (dump.connsClear _ .connsUpdates true).sameUids) item.ref
  rw [same]
  rcases List.mem_append.mp member with old | new
  · exact fixed.uids item old
  · exact (delivered_mem jni before item new).2

end Fixed

/-- The records that were delivered have the uid they were delivered with. -/
def KeepsDelivered (sent : List Delivery) (pd : Pd) : Prop :=
  ∀ item ∈ sent, (pd.heap item.ref).uid = item.uid

/-- A record to which `pd_new_connection` gives another uid waits in `new_conns`, and Java has not
    received it. -/
def RewritesUnsent (sent : List Delivery) (pd : Pd) : Prop :=
  ∀ ndpi env tuple uid ref, ref < pd.created →
    ((pdNewConnection ndpi env pd tuple uid).1.heap ref).uid ≠ (pd.heap ref).uid →
      ref ∈ pd.newConns.refs ∧ ∀ item ∈ sent, item.ref ≠ ref

theorem Fixed.rewritesUnsent {sent : List Delivery} {pd : Pd} (fixed : Fixed sent pd) :
    RewritesUnsent sent pd := by
  intro ndpi env tuple uid ref older rewritten
  have waiting := rewrites_waiting pd ndpi env tuple uid ref older rewritten
  refine ⟨waiting, fun item member same => ?_⟩
  exact fixed.apart item member (same ▸ waiting)

end Ptnet.Pcapdroid

namespace Ptnet.LibpcapCapture

open Pcapdroid

def delivers (state : Libpcap) : Event → List Delivery
  | .housekeeping pass => housekeepingDelivers pass state.pd
  | _ => []

theorem step_fixed (state : Libpcap) (event : Event) (sent : List Delivery)
    (fixed : Fixed sent state.pd) :
    Fixed (sent ++ delivers state event) (step state event).pd := by
  by_cases pass : ∃ pass, event = .housekeeping pass
  · obtain ⟨pass, rfl⟩ := pass
    exact fixed.housekeeping pass state.connections
  · have quiet : delivers state event = [] := by
      cases event with
      | housekeeping pass' => exact absurd ⟨pass', rfl⟩ pass
      | _ => rfl
    rw [quiet, List.append_nil]
    exact fixed.later (step_calls state event fun own same => pass ⟨own, same⟩).keeps

def sent (config : Pd) (pcapFileCapture : Bool) (events : List Event) : List Delivery :=
  (Machine.trace step delivers (start config pcapFileCapture) events).flatten

theorem run_fixed (config : Pd) (pcapFileCapture : Bool) (events : List Event) :
    Fixed (sent config pcapFileCapture events)
      (Machine.run step (start config pcapFileCapture) events).pd :=
  Fixed.run step Libpcap.pd delivers step_fixed (start config pcapFileCapture) events []
    (Fixed.start config)

end Ptnet.LibpcapCapture

namespace Ptnet.VpnCapture

open Pcapdroid

def delivers (vpn : Vpn) : Event → List Delivery
  | .loopTurn turn =>
      if vpn.running && !vpn.finalized then
        housekeepingDelivers turn.pass (handleInput (vpn.refreshTime turn.nowMs) turn.input).pd
      else []
  | _ => []

theorem loopTurn_fixed (turn : Turn) (vpn : Vpn) (sent : List Delivery) (fixed : Fixed sent vpn.pd) :
    Fixed (sent ++ housekeepingDelivers turn.pass
        (handleInput (vpn.refreshTime turn.nowMs) turn.input).pd) (loopTurn turn vpn).pd := by
  let handled := handleInput (vpn.refreshTime turn.nowMs) turn.input
  let kept := { handled with pd := pdHousekeeping turn.pass handled.connections handled.pd }
  have calls : CaptureCalls vpn.pd handled.pd := handleInput_calls vpn turn.nowMs turn.input
  have done : Fixed _ kept.pd :=
    (fixed.later calls.keeps).housekeeping turn.pass handled.connections
  have purged := done.later (zdtunPurgeExpired_calls kept turn.idle).keeps
  unfold loopTurn
  dsimp only
  split
  · exact purged
  · exact done

theorem step_fixed (vpn : Vpn) (event : Event) (sent : List Delivery) (fixed : Fixed sent vpn.pd) :
    Fixed (sent ++ delivers vpn event) (step vpn event).pd := by
  have quiet : ∀ after, CaptureCalls vpn.pd after → Fixed (sent ++ []) after := by
    intro after calls
    rw [List.append_nil]
    exact fixed.later calls.keeps
  cases event with
  | allocator reallocs => exact quiet _ (.single (.allocator reallocs))
  | request wanted => exact quiet _ (.single (.request wanted))
  | stop => exact quiet _ .refl
  | loopTurn turn =>
      simp only [delivers, step]
      split
      · exact loopTurn_fixed turn vpn sent fixed
      · exact quiet _ .refl
  | finalize closings =>
      simp only [delivers, step]
      split
      · exact quiet _ .refl
      · exact quiet _ (zdtunFinalize_calls vpn closings)

def sent (settings : Pd) (config : VpnConfig) (events : List Event) : List Delivery :=
  (Machine.trace step delivers (start settings config) events).flatten

theorem run_fixed (settings : Pd) (config : VpnConfig) (events : List Event) :
    Fixed (sent settings config events) (Machine.run step (start settings config) events).pd :=
  Fixed.run step Vpn.pd delivers step_fixed (start settings config) events []
    (Fixed.start settings)

end Ptnet.VpnCapture

namespace Ptnet.Pcapdroid

/-- In every run of either capture a record keeps the uid it was delivered with, and
    `pd_new_connection` passes its uid on to records that were not delivered. In VPN mode it is called
    behind the purge that makes room for the connection. -/
theorem delivered_uid_kept :
    (∀ config pcapFileCapture events,
      let capture := Machine.run LibpcapCapture.step
        (LibpcapCapture.start config pcapFileCapture) events
      let sent := LibpcapCapture.sent config pcapFileCapture events
      KeepsDelivered sent capture.pd ∧ RewritesUnsent sent capture.pd ∧
        ∀ ndpi jni,
          let purged := (LibpcapCapture.purgeExpiredConnections ndpi true capture).pd
          KeepsDelivered (sent ++ delivered jni purged) (LibpcapCapture.finish ndpi jni capture)) ∧
    ∀ settings config events,
      let vpn := Machine.run VpnCapture.step (VpnCapture.start settings config) events
      let sent := VpnCapture.sent settings config events
      KeepsDelivered sent vpn.pd ∧
        (∀ nowMs expired,
          RewritesUnsent sent (VpnCapture.zdtunPurgeExpired expired (vpn.refreshTime nowMs)).pd) ∧
        ∀ jni, KeepsDelivered (sent ++ delivered jni vpn.pd) (VpnCapture.finish jni vpn) := by
  constructor
  · intro config pcapFileCapture events
    have fixed := LibpcapCapture.run_fixed config pcapFileCapture events
    refine ⟨fixed.uids, fixed.rewritesUnsent, fun ndpi jni item member => ?_⟩
    exact (fixed.later (LibpcapCapture.purgeExpiredConnections_calls _ ndpi true).keeps).finished jni
      item member
  · intro settings config events
    have fixed := VpnCapture.run_fixed settings config events
    refine ⟨fixed.uids, fun nowMs expired => ?_, fun jni item member => fixed.finished jni item member⟩
    have refreshed := fixed.later (CaptureCall.keeps (.refreshTime nowMs))
    exact (refreshed.later (VpnCapture.zdtunPurgeExpired_calls (VpnCapture.Vpn.refreshTime _ nowMs)
      expired).keeps).rewritesUnsent

end Ptnet.Pcapdroid
