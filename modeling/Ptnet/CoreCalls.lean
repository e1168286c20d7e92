import Ptnet.HousekeepingLedger

/-!
The functions of core/pcapdroid.c a capture module calls for a connection: what opening,
inspecting and accounting do to the records and to the queues.
-/

namespace Ptnet.Pcapdroid

open Connection
open Detection (Policy Ndpi)

theorem pdGiveupDpi_progress (ndpi : Ndpi) (pd : Pd) (tuple : Tuple) (ref : Ref)
    (held : pd.alive ref) : Progress pd (pdGiveupDpi ndpi pd ref tuple) :=
  Progress.of_revised (modify_revised pd ref _ held (pdGiveupDpi_revised pd.policy ndpi tuple _))

theorem delayForNetd_progress (pd : Pd) (data : PdConn) : Progress pd (delayForNetd pd data) := by
  unfold delayForNetd
  split
  · exact relist_progress _ _ ⟨⟨rfl, rfl, rfl, rfl, rfl, rfl, rfl, rfl, id⟩, rfl, rfl⟩ rfl
  · exact Progress.refl pd

theorem delayForNetd_heap (pd : Pd) (data : PdConn) : (delayForNetd pd data).heap = pd.heap := by
  unfold delayForNetd
  split <;> rfl

/-- Notifying is the last thing a call does, and it may do without. -/
theorem notifyIf_progress (ndpi : Ndpi) (before after : Pd) (tuple : Tuple) (ref : Ref)
    (notifies : Bool) (first : Progress before after) (ready : Ready before)
    (held : before.alive ref) (dirty : notifies = true → (after.heap ref).updateType ≠ 0) :
    Progress before
      (if notifies then (pdNotifyConnectionUpdate ndpi after tuple ref).1 else after) := by
  split
  · exact first.trans (notify_progress ndpi after tuple ref (first.ready ready)
      ((first.alive ref).mpr held) (dirty ‹_›))
  · exact first

theorem processPayload_progress (ndpi : Ndpi) (result : ChunkResult) (pd : Pd) (pctx : PktContext)
    (ready : Ready pd) (held : pd.alive pctx.data) :
    Progress pd (processPayload ndpi result pd pctx) := by
  have stored := Progress.of_revised (modify_revised pd pctx.data
    (fun _ => (recordPayload pd result pctx (pd.heap pctx.data)).1) held
    (recordPayload_revised _ pd result pctx))
  unfold processPayload
  simp only [Pd.access_alive pd _ held]
  refine notifyIf_progress ndpi pd _ pctx.tuple pctx.data _ stored ready held fun notifies => ?_
  rw [Pd.modify_heap_self]
  exact recordPayload_dirty _ pd result pctx notifies

theorem performDpi_progress (ndpi : Ndpi) (pd : Pd) (pctx : PktContext) (ready : Ready pd)
    (held : pd.alive pctx.data) : Progress pd (performDpi ndpi pd pctx) := by
  have stored := Progress.of_revised (modify_revised pd pctx.data
    (fun _ => (Detection.performDpi pd.policy ndpi pctx.tuple pctx.pkt.tuple
      (pd.heap pctx.data)).1) held (performDpi_revised pd.policy ndpi pctx.tuple _ _))
  unfold performDpi
  simp only [Pd.access_alive pd _ held]
  refine notifyIf_progress ndpi pd _ pctx.tuple pctx.data _
    (stored.trans (delayForNetd_progress _ _)) ready held fun notifies => ?_
  rw [delayForNetd_heap, Pd.modify_heap_self]
  exact performDpi_dirty pd.policy ndpi pctx.tuple _ _ notifies

theorem pdProcessPacket_progress (ndpi : Ndpi) (result : ChunkResult) (pd : Pd)
    (pctx : PktContext) (ready : Ready pd) (held : pd.alive pctx.data) :
    Progress pd (pdProcessPacket ndpi result pd pctx) := by
  have seen : Progress pd (pd.modify pctx.data (setSeen pctx.ms)) :=
    Progress.of_revised (modify_revised pd pctx.data _ held ⟨⟨rfl, rfl, rfl, rfl⟩, BitVec.and_self⟩)
  have inspected : Progress pd
      (if ((pd.modify pctx.data (setSeen pctx.ms)).heap pctx.data).ndpiFlow.isSome &&
          (!pctx.pkt.isFragment || pctx.pkt.isFirstFragment) then
        performDpi ndpi (pd.modify pctx.data (setSeen pctx.ms)) pctx
      else pd.modify pctx.data (setSeen pctx.ms)) := by
    split
    · exact seen.trans (performDpi_progress ndpi _ pctx (seen.ready ready)
        ((seen.alive pctx.data).mpr held))
    · exact seen
  exact inspected.trans (processPayload_progress ndpi result _ pctx (inspected.ready ready)
    ((inspected.alive pctx.data).mpr held))

theorem pdAccountStats_progress (ndpi : Ndpi) (pd : Pd) (pctx : PktContext) (ready : Ready pd)
    (held : pd.alive pctx.data) : Progress pd (pdAccountStats ndpi pd pctx) := by
  let counted := pd.modify pctx.data
    (Detection.accountStats pctx.isTx pctx.pkt.len pctx.pkt.l7.length)
  have first : Progress pd counted := Progress.of_revised
    (modify_revised pd pctx.data _ held (accountStats_revised _ _ _ _))
  have second : Progress counted { counted with newStats := true } :=
    relist_progress _ _ ⟨⟨rfl, rfl, rfl, rfl, rfl, rfl, rfl, rfl, id⟩, rfl, rfl⟩ rfl
  have both := first.trans second
  refine both.trans (notify_progress ndpi _ pctx.tuple pctx.data (both.ready ready)
    ((both.alive pctx.data).mpr held) ?_)
  change (counted.heap pctx.data).updateType ≠ 0
  rw [Pd.modify_heap_self]
  exact accountStats_dirty _ _ _ _

/-- What a successful `pd_new_connection` does: the record is queued as new and numbered. -/
structure Opened (before after : Pd) (tuple : Tuple) (ref : Ref) : Prop where
  named : ref = before.created
  created : after.created = before.created + 1
  purged : after.purged = before.purged
  misused : after.misused = before.misused
  crashed : after.crashed = before.crashed
  newConnId : after.newConnId = before.newConnId + 1
  java : after.java = before.java
  tables : after.tables = before.tables
  vpnCapture : after.policy.vpnCapture = before.policy.vpnCapture
  growth : GrowthOk after
  packed : ∀ which, (after.array which).Packed
  newSlots : after.newConns.slots = before.newConns.slots ++ [⟨tuple, ref⟩]
  updateSlots : after.connsUpdates.slots = before.connsUpdates.slots
  others : ∀ other, other ≠ ref → Revised (before.heap other) (after.heap other)
  pending : (after.heap ref).pendingNotification = true
  toPurge : (after.heap ref).toPurge = false
  incrId : (after.heap ref).incrId = before.newConnId
  status : (after.heap ref).status = .new
  ledger : ∀ kept, Ledger before kept → Ledger after (insert ref kept)

/-- The record as `calloc` and nDPI leave it. -/
def allocateConn (pd : Pd) : Pd :=
  { pd with
    created := pd.created + 1
    heap := Function.update pd.heap pd.created freshConn }

theorem allocateConn_alive (pd : Pd) (kept : Set Ref) (ledger : Ledger pd kept) (ref : Ref) :
    (allocateConn pd).alive ref ↔ pd.alive ref ∨ ref = pd.created := by
  unfold Pd.alive allocateConn
  constructor
  · rintro ⟨born, unpurged⟩
    rcases Nat.lt_succ_iff_lt_or_eq.mp born with earlier | same
    · exact Or.inl ⟨earlier, unpurged⟩
    · exact Or.inr same
  · rintro (⟨born, unpurged⟩ | rfl)
    · exact ⟨Nat.lt_succ_of_lt born, unpurged⟩
    · exact ⟨Nat.lt_succ_self _, ledger.unborn _ (Nat.le_refl _)⟩

theorem Ledger.fresh {pd : Pd} {kept : Set Ref} (ledger : Ledger pd kept) :
    pd.created ∉ pd.queued :=
  fun member => absurd (ledger.queuedAlive _ member).1 (Nat.lt_irrefl _)

theorem allocateConn_ledger (pd : Pd) (kept : Set Ref) (ledger : Ledger pd kept) :
    Ledger (allocateConn pd) (insert pd.created kept) := by
  have alive := allocateConn_alive pd kept ledger
  have same : ∀ ref, pd.alive ref → (allocateConn pd).heap ref = pd.heap ref := by
    rintro ref ⟨born, -⟩
    exact Function.update_of_ne (Nat.ne_of_lt born) ..
  constructor
  · exact ledger.sound
  · exact ledger.newPacked
  · exact ledger.updatesPacked
  · exact ledger.distinct
  · intro ref member
    exact (alive ref).mpr (Or.inl (ledger.queuedAlive ref member))
  · intro ref held
    rcases (alive ref).mp held with earlier | rfl
    · rw [same ref earlier]
      exact ledger.pending ref earlier
    · have born : (allocateConn pd).heap pd.created = freshConn := Function.update_self ..
      rw [born]
      exact iff_of_false Bool.false_ne_true ledger.fresh
  · rintro ref (rfl | member)
    · exact (alive pd.created).mpr (Or.inr rfl)
    · exact (alive ref).mpr (Or.inl (ledger.keptAlive ref member))
  · intro ref held
    rcases (alive ref).mp held with earlier | rfl
    · rw [same ref earlier]
      rcases ledger.covered ref earlier with member | queued
      · exact Or.inl (Set.mem_insert_of_mem _ member)
      · exact Or.inr queued
    · exact Or.inl (Set.mem_insert _ _)
  · exact ledger.once
  · intro ref late
    exact ledger.unborn ref (Nat.le_of_succ_le late)

theorem resolveNetd_revised (uid : Int) (info : Option String) (pd : Pd) (slot : Slot)
    (held : pd.alive slot.data) : RevisedRecords pd (resolveNetd uid info pd slot) := by
  unfold resolveNetd
  simp only [Pd.access_alive pd _ held]
  split
  · have resolved := fun missed : Bool => modify_revised pd slot.data
      (fun conn => { conn with uid := uid, netdBlockMissed := conn.netdBlockMissed || missed })
      held ⟨⟨rfl, rfl, rfl, rfl⟩, BitVec.and_self⟩
    split
    · exact (resolved _).trans
        ⟨⟨⟨rfl, rfl, rfl, rfl, rfl, rfl, rfl, rfl, id⟩, rfl, rfl⟩, fun _ => Revised.refl _⟩
    · exact resolved _
  · exact RevisedRecords.refl pd

theorem resolveNetd_fold (uid : Int) (info : Option String) (slots : List Slot) (pd : Pd)
    (held : ∀ slot ∈ slots, pd.alive slot.data) :
    RevisedRecords pd (slots.foldl (resolveNetd uid info) pd) := by
  induction slots generalizing pd with
  | nil => exact RevisedRecords.refl pd
  | cons slot rest ih =>
      have first := resolveNetd_revised uid info pd slot (held slot List.mem_cons_self)
      refine first.trans (ih _ ?_)
      intro other member
      exact (first.alive other.data).mpr (held other (List.mem_cons_of_mem slot member))

theorem attributeHost_revised (pd : Pd) (ref : Ref) (lruHost : Option String)
    (held : pd.alive ref) (queued : ∀ slot ∈ pd.newConns.slots, pd.alive slot.data) :
    RevisedRecords pd (attributeHost pd ref lruHost) := by
  cases lruHost with
  | none =>
      exact modify_revised pd ref (fun data => { data with info := none }) held
        ⟨⟨rfl, rfl, rfl, rfl⟩, BitVec.and_self⟩
  | some host =>
      let guess : PdConn → PdConn := fun data => { data with info := some host, infoFromLru := true }
      let guessed := pd.modify ref guess
      have first : RevisedRecords pd guessed :=
        modify_revised pd ref guess held ⟨⟨rfl, rfl, rfl, rfl⟩, BitVec.and_self⟩
      have resolved : RevisedRecords pd
          (if (guessed.heap ref).uid ≠ UID_UNKNOWN then
            guessed.newConns.slots.foldl
              (resolveNetd (guessed.heap ref).uid (some host)) guessed
          else guessed) := by
        split
        · refine first.trans (resolveNetd_fold _ _ _ guessed ?_)
          intro slot member
          rw [first.newConns] at member
          exact (first.alive slot.data).mpr (queued slot member)
        · exact first
      exact resolved.trans (modify_revised _ ref _ ((resolved.alive ref).mpr held)
        (checkBlacklistedDomain_revised pd.policy _))

theorem ledger_renumber (pd : Pd) (kept : Set Ref) (newConnId : Nat) (ledger : Ledger pd kept) :
    Ledger { pd with newConnId := newConnId } kept :=
  ⟨ledger.sound, ledger.newPacked, ledger.updatesPacked, ledger.distinct, ledger.queuedAlive,
    ledger.pending, ledger.keptAlive, ledger.covered, ledger.once, ledger.unborn⟩

def numberConn (pd : Pd) (uid : Int) (data : PdConn) : PdConn :=
  Detection.checkWhitelistedApp pd.policy { data with uid := uid, incrId := pd.newConnId }

def screenConn (policy : Policy) (tuple : Tuple) (data : PdConn) : PdConn :=
  Detection.checkWhitelistModeBlock policy tuple
    (Detection.checkFirewall policy tuple (Detection.checkMalwareIp policy tuple data))

theorem screenConn_revised (policy : Policy) (tuple : Tuple) (data : PdConn) :
    Revised data (screenConn policy tuple data) :=
  ((checkMalwareIp_revised policy tuple data).trans (checkFirewall_revised policy tuple _)).trans
    (checkWhitelistModeBlock_revised policy tuple _)

/-- The part of `pd_new_connection` behind the notification. -/
def completeConn (env : NewConnEnv) (uid : Int) (pd notified : Pd) (tuple : Tuple) (ref : Ref) :
    Pd :=
  let numbered := { notified.modify ref (numberConn pd uid) with newConnId := pd.newConnId + 1 }
  (attributeHost numbered ref env.lruHost).modify ref (screenConn pd.policy tuple)

theorem numberConn_marks (pd : Pd) (uid : Int) (data : PdConn) :
    (numberConn pd uid data).pendingNotification = data.pendingNotification ∧
      (numberConn pd uid data).toPurge = data.toPurge ∧
      (numberConn pd uid data).incrId = pd.newConnId ∧
      (numberConn pd uid data).status = data.status := by
  have revised := checkWhitelistedApp_revised pd.policy { data with uid := uid, incrId := pd.newConnId }
  exact ⟨revised.pending, revised.toPurge, revised.incrId, revised.status⟩

theorem completeConn_opened (ndpi : Ndpi) (env : NewConnEnv) (uid : Int) (pd notified : Pd)
    (tuple : Tuple) (kept : Set Ref) (ledger : Ledger pd kept) (growth : GrowthOk pd)
    (queued : Notified ndpi (allocateConn pd) notified .newConns tuple pd.created) :
    Opened pd (completeConn env uid pd notified tuple pd.created) tuple pd.created := by
  let ref := pd.created
  have born : (allocateConn pd).heap ref = freshConn := Function.update_self ..
  have heldBorn : (allocateConn pd).alive ref :=
    (allocateConn_alive pd kept ledger ref).mpr (Or.inr rfl)
  have held : notified.alive ref := (queued.alive ref).mpr heldBorn
  let numbered : Pd :=
    { notified.modify ref (numberConn pd uid) with newConnId := pd.newConnId + 1 }
  have equal : numbered = { notified with
      heap := Function.update notified.heap ref (numberConn pd uid (notified.heap ref))
      newConnId := pd.newConnId + 1 } := by
    change { notified.modify ref (numberConn pd uid) with newConnId := pd.newConnId + 1 } = _
    rw [Pd.modify_alive notified ref _ held]
  have heldNumbered : numbered.alive ref := by
    rw [equal]
    exact held
  -- A guessed host lets netd resolutions that wait in the array be renamed as well.
  have waiting : ∀ slot ∈ numbered.newConns.slots, numbered.alive slot.data := by
    intro slot member
    have filed := (queued.ledger _ (allocateConn_ledger pd kept ledger) heldBorn).queuedAlive
    rw [equal] at member ⊢
    exact filed slot.data (List.mem_append_left _ (List.mem_map_of_mem member))
  let hosted := attributeHost numbered ref env.lruHost
  have first : RevisedRecords numbered hosted :=
    attributeHost_revised numbered ref env.lruHost heldNumbered waiting
  have second : RevisedRecords hosted (completeConn env uid pd notified tuple ref) :=
    modify_revised hosted ref _ ((first.alive ref).mpr heldNumbered)
      (screenConn_revised pd.policy tuple _)
  -- Behind the numbering every write only revises names and verdicts.
  have last := first.trans second
  have marks := numberConn_marks pd uid (notified.heap ref)
  have at_ref : numbered.heap ref = numberConn pd uid (notified.heap ref) := by
    rw [equal]
    exact Function.update_self ..
  have at_other : ∀ other, other ≠ ref → numbered.heap other = pd.heap other := by
    intro other differs
    rw [equal]
    change Function.update notified.heap ref _ other = pd.heap other
    rw [Function.update_of_ne differs, queued.heap_other other differs]
    exact Function.update_of_ne differs ..
  have numberedMarks : (numbered.heap ref).pendingNotification = true ∧
      (numbered.heap ref).toPurge = false ∧ (numbered.heap ref).status = .new := by
    rw [at_ref, marks.1, marks.2.1, marks.2.2.2, queued.pending, queued.toPurge, queued.status, born]
    exact ⟨by simp [ref], rfl, rfl⟩
  have numberedId : (numbered.heap ref).incrId = pd.newConnId := by rw [at_ref, marks.2.2.1]
  refine
    { named := rfl, created := last.created.trans ?_, purged := last.purged.trans ?_,
      misused := last.misused.trans ?_, crashed := last.crashed.trans ?_,
      newConnId := last.newConnId, java := last.java.trans ?_, tables := last.tables.trans ?_,
      vpnCapture := last.vpnCapture.trans ?_, growth := last.growth ?_,
      packed := ?_, newSlots := ?_, updateSlots := ?_, others := ?_,
      pending := (last.revised ref).pending.trans numberedMarks.1,
      toPurge := (last.revised ref).toPurge.trans numberedMarks.2.1,
      incrId := (last.revised ref).incrId.trans numberedId,
      status := (last.revised ref).status.trans numberedMarks.2.2, ledger := ?_ }
  · rw [equal]
    exact queued.created
  · rw [equal]
    exact queued.purged
  · rw [equal]
    exact queued.misused
  · rw [equal]
    exact queued.crashed
  · rw [equal]
    exact queued.java
  · rw [equal]
    exact queued.tables
  · rw [equal]
    exact queued.vpnCapture
  · rw [equal]
    exact queued.growth growth
  · refine (Progress.of_revised last).packed ?_
    rw [equal]
    exact queued.packed
  · rw [last.newConns, equal]
    have slots := queued.slots .newConns
    rw [born] at slots
    simpa [freshConn, Pd.array, allocateConn] using slots
  · rw [last.connsUpdates, equal]
    simpa [Pd.array, allocateConn] using queued.slots .connsUpdates
  · intro other differs
    rw [← at_other other differs]
    exact last.revised other
  · intro kept ledger
    have filed := queued.ledger _ (allocateConn_ledger pd kept ledger) heldBorn
    have named := modify_ledger notified _ ref (numberConn pd uid) filed held
      ⟨marks.1, fun toPurge => marks.2.1.trans toPurge⟩
    exact revisedRecords_ledger _ _ _ (ledger_renumber _ _ _ named) last

/-- A failure of `pd_new_connection` frees what it has allocated. -/
def Refused (before after : Pd) : Prop :=
  after = before ∨ after = pdPurgeConnection (allocateConn before) before.created

theorem refused_ledger (before after : Pd) (refused : Refused before after) (kept : Set Ref)
    (ledger : Ledger before kept) : Ledger after kept := by
  rcases refused with rfl | rfl
  · exact ledger
  · have held : (allocateConn before).alive before.created :=
      (allocateConn_alive before kept ledger before.created).mpr (Or.inr rfl)
    have freed := pdPurgeConnection_ledger _ _ before.created
      (allocateConn_ledger before kept ledger) held ledger.fresh
    have unkept : before.created ∉ kept :=
      fun member => absurd (ledger.keptAlive _ member).1 (Nat.lt_irrefl _)
    rwa [Set.insert_sdiff_self_of_notMem unkept] at freed

theorem pdNewConnection_spec (ndpi : Ndpi) (env : NewConnEnv) (pd : Pd) (tuple : Tuple) (uid : Int)
    (kept : Set Ref) (ledger : Ledger pd kept) (growth : GrowthOk pd) :
    (∃ after ref, pdNewConnection ndpi env pd tuple uid = (after, some ref) ∧
      Opened pd after tuple ref) ∨
    ∃ after, pdNewConnection ndpi env pd tuple uid = (after, none) ∧ Refused pd after := by
  unfold pdNewConnection
  cases env.calloc with
  | false => exact Or.inr ⟨pd, rfl, Or.inl rfl⟩
  | true =>
      cases env.ndpiCalloc with
      | false => exact Or.inr ⟨_, rfl, Or.inr rfl⟩
      | true =>
          have held : (allocateConn pd).alive pd.created :=
            (allocateConn_alive pd kept ledger pd.created).mpr (Or.inr rfl)
          obtain ⟨notified, result, queued⟩ := notifConnection_spec ndpi (allocateConn pd) .newConns
            tuple pd.created (array_packed _ _ (allocateConn_ledger pd kept ledger)) held growth
          have opened := completeConn_opened ndpi env uid pd notified tuple kept ledger growth queued
          refine Or.inl ⟨_, pd.created, ?_, opened⟩
          unfold allocateConn at result
          simp only [Bool.not_true, Bool.false_eq_true, if_false, result]
          rfl

end Ptnet.Pcapdroid
