import Ptnet.ConnectionsDump

/-!
Housekeeping on the records: the list reloads revisit every active connection and may queue
it again, the dump frees what is to be purged. Together they keep the ledger whenever the
dump reaches the app.
-/

namespace Ptnet.Pcapdroid

open Connection
open Detection (Policy Ndpi)
open NativeBlacklist (Blacklist)

theorem clearWhitelisted_revised (whitelist : Blacklist) (tuple : Tuple) (data : PdConn) :
    Revised data (Detection.clearWhitelisted whitelist tuple data) := ⟨⟨rfl, rfl, rfl, rfl⟩, BitVec.and_self⟩

theorem checkBlockedConnCb_progress (ndpi : Ref → Ndpi) (pd : Pd) (slot : Slot) (ready : Ready pd)
    (held : pd.alive slot.data) : Progress pd (checkBlockedConnCb ndpi pd slot) := by
  have first := Progress.of_revised (modify_revised pd slot.data
    (fun _ => (Detection.checkBlockedConnCb pd.policy slot.tuple (pd.heap slot.data)).1) held
    (checkBlockedConnCb_revised pd.policy slot.tuple _))
  unfold checkBlockedConnCb
  simp only [Pd.access_alive pd _ held]
  split
  · refine first.trans (notify_progress _ _ _ _ (first.ready ready)
      ((first.alive slot.data).mpr held) ?_)
    rw [Pd.modify_heap_self]
    exact checkBlockedConnCb_dirty pd.policy slot.tuple _ ‹_›
  · exact first

theorem checkBlacklistedConnCb_progress (ndpi : Ref → Ndpi) (whitelist : Blacklist) (pd : Pd)
    (slot : Slot) (ready : Ready pd) (held : pd.alive slot.data) :
    Progress pd (checkBlacklistedConnCb ndpi whitelist pd slot) := by
  let stored := pd.modify slot.data fun _ =>
    Detection.clearWhitelisted whitelist slot.tuple (pd.heap slot.data)
  have first : Progress pd stored := Progress.of_revised (modify_revised pd slot.data _ held
    (clearWhitelisted_revised whitelist slot.tuple _))
  let checked := if stored.policy.firewall.bl.isSome then checkBlockedConnCb ndpi stored slot
    else stored
  have second : Progress pd checked := by
    change Progress pd (if _ then _ else _)
    split
    · exact first.trans (checkBlockedConnCb_progress ndpi stored slot (first.ready ready)
        ((first.alive slot.data).mpr held))
    · exact first
  have heldChecked : checked.alive slot.data := (second.alive slot.data).mpr held
  have third := second.trans (Progress.of_revised (modify_revised checked slot.data
    (fun conn => conn.touch CONN_UPDATE_STATS) heldChecked (touch_revised _ _)))
  have last := third.trans (notify_progress (ndpi slot.data) _ slot.tuple slot.data
    (third.ready ready) ((third.alive slot.data).mpr held) (by
      rw [Pd.modify_heap_self]
      exact touch_dirty _ _ (by decide)))
  unfold checkBlacklistedConnCb
  simp only [Pd.access_alive pd _ held]
  split
  · exact last
  · exact first

theorem fold_progress (callback : Pd → Slot → Pd)
    (one : ∀ pd slot, Ready pd → pd.alive slot.data → Progress pd (callback pd slot))
    (active : List Slot) (pd : Pd) (ready : Ready pd)
    (held : ∀ slot ∈ active, pd.alive slot.data) : Progress pd (active.foldl callback pd) := by
  induction active generalizing pd with
  | nil => exact Progress.refl pd
  | cons slot rest ih =>
      have first := one pd slot ready (held slot List.mem_cons_self)
      refine first.trans (ih (callback pd slot) (first.ready ready) ?_)
      intro other member
      exact (first.alive other.data).mpr (held other (List.mem_cons_of_mem slot member))

/-- The part of `pd_housekeeping` behind the periodic task. -/
def reloadLists (ndpi : Ref → Ndpi) (active : List Slot) (pd : Pd) : Pd :=
  loadDecryptionList (loadFirewallLists ndpi active (loadMalwareWhitelist ndpi active pd))

theorem relist_progress (before after : Pd) (same : SameQueues before after)
    (heap : after.heap = before.heap) : Progress before after :=
  Progress.of_revised ⟨same, fun ref => by rw [heap]; exact Revised.refl _⟩

/-- A list is swapped in and every active connection is checked against it. -/
theorem revisit_progress (callback : Pd → Slot → Pd)
    (one : ∀ pd slot, Ready pd → pd.alive slot.data → Progress pd (callback pd slot))
    (active : List Slot) (pd relisted : Pd) (swap : Progress pd relisted) (ready : Ready pd)
    (held : ∀ slot ∈ active, pd.alive slot.data) :
    Progress pd (active.foldl callback relisted) := by
  refine swap.trans (fold_progress callback one active relisted (swap.ready ready) ?_)
  intro slot member
  exact (swap.alive slot.data).mpr (held slot member)

theorem loadMalwareWhitelist_progress (ndpi : Ref → Ndpi) (active : List Slot) (pd : Pd)
    (ready : Ready pd) (held : ∀ slot ∈ active, pd.alive slot.data) :
    Progress pd (loadMalwareWhitelist ndpi active pd) := by
  unfold loadMalwareWhitelist
  split
  · refine revisit_progress _ (checkBlacklistedConnCb_progress ndpi _) active pd _ ?_ ready held
    exact relist_progress _ _ ⟨⟨rfl, rfl, rfl, rfl, rfl, rfl, rfl, rfl, id⟩, rfl, rfl⟩ rfl
  · exact Progress.refl pd

theorem loadFirewallLists_progress (ndpi : Ref → Ndpi) (active : List Slot) (pd : Pd)
    (ready : Ready pd) (held : ∀ slot ∈ active, pd.alive slot.data) :
    Progress pd (loadFirewallLists ndpi active pd) := by
  have checked := fun relisted swap =>
    revisit_progress _ (checkBlockedConnCb_progress ndpi) active pd relisted swap ready held
  unfold loadFirewallLists
  split
  · refine checked _ (relist_progress _ _ ?_ rfl)
    exact ⟨⟨rfl, rfl, rfl, rfl, rfl, rfl, rfl, rfl, id⟩, rfl, rfl⟩
  · refine checked _ (relist_progress _ _ ?_ rfl)
    exact ⟨⟨rfl, rfl, rfl, rfl, rfl, rfl, rfl, rfl, id⟩, rfl, rfl⟩
  · exact Progress.refl pd

theorem loadDecryptionList_progress (pd : Pd) : Progress pd (loadDecryptionList pd) := by
  unfold loadDecryptionList
  split
  · exact relist_progress _ _ ⟨⟨rfl, rfl, rfl, rfl, rfl, rfl, rfl, rfl, id⟩, rfl, rfl⟩ rfl
  · exact Progress.refl pd

theorem reloadLists_progress (ndpi : Ref → Ndpi) (active : List Slot) (pd : Pd) (ready : Ready pd)
    (held : ∀ slot ∈ active, pd.alive slot.data) :
    Progress pd (reloadLists ndpi active pd) := by
  have malware := loadMalwareWhitelist_progress ndpi active pd ready held
  have firewall := loadFirewallLists_progress ndpi active _ (malware.ready ready)
    fun slot member => (malware.alive slot.data).mpr (held slot member)
  exact (malware.trans firewall).trans (loadDecryptionList_progress _)

theorem pdHousekeeping_eq (pass : Pass) (active : List Slot) (pd : Pd) :
    pdHousekeeping pass active pd = reloadLists pass.ndpi active (periodicTask pass pd) := rfl

/-- The periodic task is the dump, or it does not touch the records. -/
theorem periodicTask_cases (pass : Pass) (pd : Pd) :
    (dumpsConnections pd = true ∧ periodicTask pass pd = dumpConnections pass.jni pd) ∨
      (dumpsConnections pd = false ∧ RevisedRecords pd (periodicTask pass pd)) := by
  have quiet : ∀ after : Pd, SameQueues pd after → after.heap = pd.heap →
      RevisedRecords pd after := by
    intro after same heap
    exact ⟨same, fun ref => by rw [heap]; exact Revised.refl _⟩
  unfold periodicTask dumpsConnections
  by_cases stats : sendsStats pd = true
  · refine Or.inr ⟨by simp [stats], ?_⟩
    rw [if_pos stats]
    exact quiet _ ⟨⟨rfl, rfl, rfl, rfl, rfl, rfl, rfl, rfl, id⟩, rfl, rfl⟩ rfl
  · rw [if_neg stats]
    by_cases due : pd.nextConnectionsDump ≤ pd.nowMs
    · refine Or.inl ⟨by simp [stats, due], ?_⟩
      rw [if_pos due]
    · refine Or.inr ⟨by simp [due], ?_⟩
      rw [if_neg due]
      split
      · exact RevisedRecords.refl pd
      · split
        · split
          · exact quiet _ ⟨⟨rfl, rfl, rfl, rfl, rfl, rfl, rfl, rfl, id⟩, rfl, rfl⟩ rfl
          · exact RevisedRecords.refl pd
        · exact RevisedRecords.refl pd

theorem ledger_ready (pd : Pd) (kept : Set Ref) (ledger : Ledger pd kept) (growth : GrowthOk pd) :
    Ready pd := ⟨array_packed pd kept ledger, growth⟩

/-- A pass of `pd_housekeeping` whose dump, if it makes one, spares the records in use. -/
theorem pdHousekeeping_ledger (pass : Pass) (active : List Slot) (pd : Pd) (kept : Set Ref)
    (ledger : Ledger pd kept) (growth : GrowthOk pd)
    (spares : dumpsConnections pd = true → Spares pass.jni pd)
    (idle : ∀ ref ∈ kept, (pd.heap ref).toPurge = true → ref ∉ pd.queued)
    (listed : ∀ slot ∈ active, slot.data ∈ kept) :
    Ledger (pdHousekeeping pass active pd) kept ∧ GrowthOk (pdHousekeeping pass active pd) := by
  have task : Ledger (periodicTask pass pd) kept ∧ GrowthOk (periodicTask pass pd) := by
    rcases periodicTask_cases pass pd with ⟨dumps, equal⟩ | ⟨-, revised⟩
    · rw [equal]
      exact ⟨dumpConnections_ledger pass.jni pd kept ledger (spares dumps) idle,
        (dumpConnections_after pass.jni pd kept ledger).growth growth⟩
    · exact ⟨revisedRecords_ledger pd _ kept ledger revised, revised.growth growth⟩
  have reloaded := reloadLists_progress pass.ndpi active _ (ledger_ready _ kept task.1 task.2)
    fun slot member => task.1.keptAlive _ (listed slot member)
  rw [pdHousekeeping_eq]
  exact ⟨reloaded.ledger kept task.1, reloaded.growth task.2⟩

end Ptnet.Pcapdroid
