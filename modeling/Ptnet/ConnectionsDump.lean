import Ptnet.Ledger

/-!
What a dump does to the records, for every outcome of its JNI calls: it clears the pending
marks from the front of both arrays up to the element where it stops, and the app receives
the whole batch or nothing. A dump that reaches the app keeps the ledger.
-/

namespace Ptnet.Pcapdroid

open Connection
open ConnectionMirror (ConnectionUpdate getConnUpdate)

/-- The dump withdraws the bits of `update_type`, the marks and identifiers stay. -/
structure SteadyRecords (before after : Pd) : Prop extends SameQueues before after where
  steady : ∀ ref, Steady (before.heap ref) (after.heap ref)

namespace SteadyRecords

variable {before between after : Pd}

theorem refl (pd : Pd) : SteadyRecords pd pd := ⟨SameQueues.refl pd, fun _ => Steady.refl _⟩

theorem trans (first : SteadyRecords before between) (last : SteadyRecords between after) :
    SteadyRecords before after :=
  ⟨first.toSameQueues.trans last.toSameQueues,
    fun ref => (first.steady ref).trans (last.steady ref)⟩

end SteadyRecords

theorem modify_steady (pd : Pd) (ref : Ref) (change : PdConn → PdConn) (held : pd.alive ref)
    (steady : Steady (pd.heap ref) (change (pd.heap ref))) :
    SteadyRecords pd (pd.modify ref change) := by
  refine ⟨modify_same pd ref change held, ?_⟩
  intro other
  by_cases same : other = ref
  · subst same
    rw [Pd.modify_heap_self]
    exact steady
  · rw [Pd.modify_heap_other pd ref change other same]
    exact Steady.refl _

theorem getConnUpdate_steady (tables : NdpiTables) (vpnCapture : Bool) (tuple : Tuple)
    (data : PdConn) : Steady data (getConnUpdate tables vpnCapture tuple data).2 := by
  unfold getConnUpdate
  dsimp only
  split <;> exact ⟨rfl, rfl, rfl, rfl⟩

theorem getConnUpdate_incrId (tables : NdpiTables) (vpnCapture : Bool) (tuple : Tuple)
    (data : PdConn) : (getConnUpdate tables vpnCapture tuple data).1.incrId = data.incrId := by
  unfold getConnUpdate
  cases data.dirty CONN_UPDATE_STATS <;> cases data.dirty CONN_UPDATE_INFO <;>
    cases data.dirty CONN_UPDATE_PAYLOAD <;> rfl

theorem takeUpdate_steady (pd : Pd) (slot : Slot) (held : pd.alive slot.data) :
    SteadyRecords pd (takeUpdate pd slot).2 := by
  unfold takeUpdate
  simp only [Pd.access_alive pd _ held]
  exact modify_steady pd slot.data _ held (getConnUpdate_steady _ _ _ _)

theorem takeUpdate_incrId (pd : Pd) (slot : Slot) (held : pd.alive slot.data) :
    (takeUpdate pd slot).1.incrId = (pd.heap slot.data).incrId := by
  unfold takeUpdate
  simp only [Pd.access_alive pd _ held]
  exact getConnUpdate_incrId _ _ _ _

/-- What one element of either loop does. -/
def DumpsOne (dump : DumpResult → Pd → Slot → Pd × Option ConnectionUpdate) : Prop :=
  ∀ result pd slot, pd.alive slot.data →
    SteadyRecords pd (dump result pd slot).1 ∧
      (dump result pd slot).2.map ConnectionUpdate.incrId
        = if result = .sent then some (pd.heap slot.data).incrId else none

theorem dumpNewConnection_one : DumpsOne dumpNewConnection := by
  intro result pd slot held
  let touched := pd.modify slot.data fun data =>
    data.touch (CONN_UPDATE_STATS ||| CONN_UPDATE_INFO)
  have first : SteadyRecords pd touched := modify_steady pd slot.data _ held
    (touch_revised _ _).toSteady
  have still : touched.alive slot.data := (first.alive slot.data).mpr held
  have taken := first.trans (takeUpdate_steady touched slot still)
  have named := takeUpdate_incrId touched slot still
  rw [(first.steady slot.data).incrId] at named
  cases result with
  | noDescriptor => exact ⟨SteadyRecords.refl pd, rfl⟩
  | noUpdate => exact ⟨first, rfl⟩
  | exception => exact ⟨taken, rfl⟩
  | sent => exact ⟨taken, congrArg some named⟩

theorem dumpConnectionUpdate_one : DumpsOne dumpConnectionUpdate := by
  intro result pd slot held
  have taken := takeUpdate_steady pd slot held
  have named := takeUpdate_incrId pd slot held
  cases result with
  | noDescriptor => exact ⟨SteadyRecords.refl pd, rfl⟩
  | noUpdate => exact ⟨SteadyRecords.refl pd, rfl⟩
  | exception => exact ⟨taken, rfl⟩
  | sent => exact ⟨taken, congrArg some named⟩

/-- The slots a loop works on: it stops at the first element that fails. -/
def processed (results : Nat → DumpResult) : Nat → List Slot → List Slot
  | _, [] => []
  | index, slot :: rest =>
      if results index = .sent then slot :: processed results (index + 1) rest else [slot]

def completes (results : Nat → DumpResult) : Nat → List Slot → Bool
  | _, [] => true
  | index, _ :: rest => results index == .sent && completes results (index + 1) rest

theorem processed_completes (results : Nat → DumpResult) (index : Nat) (slots : List Slot)
    (complete : completes results index slots = true) : processed results index slots = slots := by
  induction slots generalizing index with
  | nil => rfl
  | cons slot rest ih =>
      simp only [completes, Bool.and_eq_true, beq_iff_eq] at complete
      rw [processed, if_pos complete.1, ih (index + 1) complete.2]

/-- The state after the pending marks of `cleared` have been taken away. -/
structure Dumped (before after : Pd) (cleared : List Ref) : Prop
    extends SameQueues before after where
  pending : ∀ ref, (after.heap ref).pendingNotification
    = if ref ∈ cleared then false else (before.heap ref).pendingNotification
  toPurge : ∀ ref, (after.heap ref).toPurge = (before.heap ref).toPurge
  incrId : ∀ ref, (after.heap ref).incrId = (before.heap ref).incrId
  status : ∀ ref, (after.heap ref).status = (before.heap ref).status

namespace Dumped

variable {before between after : Pd} {first last : List Ref}

theorem nil (same : SteadyRecords before after) : Dumped before after [] :=
  ⟨same.toSameQueues, fun ref => (same.steady ref).pending,
    fun ref => (same.steady ref).toPurge, fun ref => (same.steady ref).incrId,
    fun ref => (same.steady ref).status⟩

theorem trans (head : Dumped before between first) (tail : Dumped between after last) :
    Dumped before after (first ++ last) := by
  refine ⟨head.toSameQueues.trans tail.toSameQueues, ?_,
    fun ref => (tail.toPurge ref).trans (head.toPurge ref),
    fun ref => (tail.incrId ref).trans (head.incrId ref),
    fun ref => (tail.status ref).trans (head.status ref)⟩
  intro ref
  rw [tail.pending, head.pending]
  by_cases here : ref ∈ first
  · by_cases there : ref ∈ last <;> simp [here, there]
  · by_cases there : ref ∈ last <;> simp [here, there]

end Dumped

theorem clearPending_dumped (pd : Pd) (ref : Ref) (held : pd.alive ref) :
    Dumped pd (clearPending pd ref) [ref] := by
  have at_self : (clearPending pd ref).heap ref
      = { pd.heap ref with pendingNotification := false } := Pd.modify_heap_self ..
  have at_other : ∀ other, other ≠ ref → (clearPending pd ref).heap other = pd.heap other :=
    fun other differs => Pd.modify_heap_other pd ref _ other differs
  refine ⟨modify_same pd ref _ held, ?_, ?_, ?_, ?_⟩ <;> intro other <;>
    by_cases same : other = ref
  · subst same
    simp [at_self]
  · simp [at_other other same, same]
  · subst same
    rw [at_self]
  · rw [at_other other same]
  · subst same
    rw [at_self]
  · rw [at_other other same]
  · subst same
    rw [at_self]
  · rw [at_other other same]

/-- A loop of the dump clears the marks it gets to, and yields the identifiers in order. -/
theorem dumpSlots_dumped (dump : DumpResult → Pd → Slot → Pd × Option ConnectionUpdate)
    (one : DumpsOne dump) (results : Nat → DumpResult) (index : Nat) (slots : List Slot) (pd : Pd)
    (held : ∀ slot ∈ slots, pd.alive slot.data) :
    Dumped pd (dumpSlots dump results index slots pd).1
        ((processed results index slots).map Slot.data) ∧
      (dumpSlots dump results index slots pd).2.map (List.map ConnectionUpdate.incrId)
        = if completes results index slots then
            some (slots.map fun slot => (pd.heap slot.data).incrId)
          else none := by
  induction slots generalizing index pd with
  | nil => exact ⟨Dumped.nil (SteadyRecords.refl pd), rfl⟩
  | cons slot rest ih =>
      have heldHere := held slot List.mem_cons_self
      have cleared := clearPending_dumped pd slot.data heldHere
      have heldCleared : (clearPending pd slot.data).alive slot.data :=
        (cleared.alive slot.data).mpr heldHere
      obtain ⟨steady, update⟩ := one (results index) (clearPending pd slot.data) slot heldCleared
      have moved := cleared.trans (Dumped.nil steady)
      unfold dumpSlots
      cases outcome : dump (results index) (clearPending pd slot.data) slot with
      | mk dumped result =>
          rw [outcome] at moved update
          cases result with
          | none =>
              -- The loop ends here: the mark of this slot is cleared, that of no later one.
              have failed : results index ≠ .sent := by
                intro sent
                simp [sent] at update
              have failedB : (results index == DumpResult.sent) = false := by simp [failed]
              simp only [processed, if_neg failed, completes, failedB, Bool.false_and,
                List.map_cons, List.map_nil]
              exact ⟨moved, rfl⟩
          | some sentUpdate =>
              have sent : results index = .sent := by
                by_contra failed
                simp [failed] at update
              have later : ∀ other ∈ rest, dumped.alive other.data := fun other member =>
                (moved.alive other.data).mpr (held other (List.mem_cons_of_mem _ member))
              obtain ⟨tail, updates⟩ := ih (index + 1) dumped later
              have named : sentUpdate.incrId = (pd.heap slot.data).incrId := by
                simpa [sent, cleared.incrId] using update
              have sameIds : (rest.map fun other => (dumped.heap other.data).incrId)
                  = rest.map fun other => (pd.heap other.data).incrId := by
                apply List.map_congr_left
                intro other _
                exact moved.incrId other.data
              simp only [processed, completes, sent, if_true, beq_self_eq_true, Bool.true_and]
              refine ⟨moved.trans tail, ?_⟩
              simp only [Option.map_map]
              rw [sameIds] at updates
              cases complete : completes results (index + 1) rest with
              | false =>
                  rw [complete] at updates
                  simp only [Bool.false_eq_true, if_false, Option.map_eq_none_iff] at updates ⊢
                  exact updates
              | true =>
                  rw [complete] at updates
                  simp only [if_true] at updates ⊢
                  obtain ⟨list, found, ids⟩ := Option.map_eq_some_iff.mp updates
                  rw [found, Option.map_some]
                  simp [ids, named]

theorem addConnection_ids (java : Java) (updates : List ConnectionUpdate) :
    (updates.foldl Java.addConnection java).ids
      = java.ids ++ updates.map ConnectionUpdate.incrId := by
  induction updates generalizing java with
  | nil => simp
  | cons update rest ih => simp [ih, Java.addConnection]

theorem updateConnection_ids (java : Java) (updates : List ConnectionUpdate) :
    (updates.foldl Java.updateConnection java).ids = java.ids := by
  induction updates generalizing java with
  | nil => rfl
  | cons update rest ih => simp [ih, Java.updateConnection]

theorem updateConnections_ids (java : Java) (newConns updates : List ConnectionUpdate) :
    (java.updateConnections newConns updates).ids
      = java.ids ++ newConns.map ConnectionUpdate.incrId := by
  rw [Java.updateConnections, updateConnection_ids, addConnection_ids]

def succeeds (jni : Jni) (pd : Pd) : Bool :=
  jni.arrays && completes jni.newConns 0 pd.newConns.slots &&
    completes jni.updates 0 pd.connsUpdates.slots

def clearedBy (jni : Jni) (pd : Pd) : List Ref :=
  if !jni.arrays then []
  else if completes jni.newConns 0 pd.newConns.slots then
    pd.newConns.refs ++ (processed jni.updates 0 pd.connsUpdates.slots).map Slot.data
  else (processed jni.newConns 0 pd.newConns.slots).map Slot.data

theorem clearedBy_succeeds (jni : Jni) (pd : Pd) (success : succeeds jni pd = true) :
    clearedBy jni pd = pd.queued := by
  simp only [succeeds, Bool.and_eq_true] at success
  obtain ⟨⟨arrays, newConns⟩, updates⟩ := success
  rw [clearedBy, arrays, newConns, processed_completes _ _ _ updates]
  rfl

def newIds (pd : Pd) : List Nat := pd.newConns.refs.map fun ref => (pd.heap ref).incrId

theorem checkArray_packed (pd : Pd) (arr : ConnArray) (packed : arr.Packed) :
    checkArray pd arr = pd := by
  unfold checkArray
  cases items : arr.items with
  | some slots => rfl
  | none =>
      have room := packed.room
      rw [packed.allocated items] at room
      rw [if_neg (by simp; omega)]

/-- `sendConnectionsDump`: marks are cleared up to the failure; only a complete dump is
    delivered, and it announces the new connections in their order. -/
theorem sendConnectionsDump_spec (jni : Jni) (pd : Pd) (kept : Set Ref) (ledger : Ledger pd kept) :
    ∃ between, Dumped pd between (clearedBy jni pd) ∧
      if succeeds jni pd then
        ∃ newConns updates, newConns.map ConnectionUpdate.incrId = newIds pd ∧
          sendConnectionsDump jni pd
            = { between with java := pd.java.updateConnections newConns updates }
      else sendConnectionsDump jni pd = between := by
  have heldNew : ∀ slot ∈ pd.newConns.slots, pd.alive slot.data := fun slot member =>
    ledger.queuedAlive _ (List.mem_append_left _ (List.mem_map_of_mem member))
  have heldUpd : ∀ slot ∈ pd.connsUpdates.slots, pd.alive slot.data := fun slot member =>
    ledger.queuedAlive _ (List.mem_append_right _ (List.mem_map_of_mem member))
  unfold sendConnectionsDump succeeds clearedBy
  cases arrays : jni.arrays with
  | false => exact ⟨pd, Dumped.nil (SteadyRecords.refl pd), rfl⟩
  | true =>
      simp only [Bool.not_true, Bool.false_eq_true, if_false, Bool.true_and]
      rw [checkArray_packed pd _ ledger.newPacked]
      obtain ⟨first, news⟩ := dumpSlots_dumped dumpNewConnection dumpNewConnection_one
        jni.newConns 0 pd.newConns.slots pd heldNew
      cases newOutcome : dumpSlots dumpNewConnection jni.newConns 0 pd.newConns.slots pd with
      | mk dumped result =>
          rw [newOutcome] at first news
          cases complete : completes jni.newConns 0 pd.newConns.slots with
          | false =>
              rw [complete] at news
              have failed : result = none := by simpa using news
              subst failed
              exact ⟨dumped, first, rfl⟩
          | true =>
              rw [complete] at news
              simp only [if_true] at news
              obtain ⟨newConns, rfl, newNames⟩ := Option.map_eq_some_iff.mp news
              simp only [Bool.true_and, if_true]
              rw [processed_completes _ _ _ complete] at first
              rw [checkArray_packed dumped _ (first.connsUpdates ▸ ledger.updatesPacked),
                first.connsUpdates]
              obtain ⟨second, upds⟩ := dumpSlots_dumped dumpConnectionUpdate
                dumpConnectionUpdate_one jni.updates 0 pd.connsUpdates.slots dumped
                fun slot member => (first.alive _).mpr (heldUpd slot member)
              -- The second loop begins where the first one ended.
              have both := first.trans second
              cases updOutcome : dumpSlots dumpConnectionUpdate jni.updates 0
                  pd.connsUpdates.slots dumped with
              | mk finished last =>
                  rw [updOutcome] at both upds
                  refine ⟨finished, both, ?_⟩
                  cases completeUpd : completes jni.updates 0 pd.connsUpdates.slots with
                  | false =>
                      rw [completeUpd] at upds
                      have failed : last = none := by simpa using upds
                      subst failed
                      rfl
                  | true =>
                      rw [completeUpd] at upds
                      simp only [if_true] at upds
                      obtain ⟨updates, rfl, -⟩ := Option.map_eq_some_iff.mp upds
                      refine ⟨newConns, updates, ?_, ?_⟩
                      · rw [newNames, newIds, ConnArray.refs, List.map_map]
                        rfl
                      · have java : finished.java = pd.java := both.java
                        dsimp only
                        rw [java]

/-- What the dump branch leaves behind, whatever JNI answered. -/
structure AfterDump (jni : Jni) (before after : Pd) : Prop where
  created : after.created = before.created
  misused : after.misused = before.misused
  crashed : after.crashed = before.crashed
  newConnId : after.newConnId = before.newConnId
  tables : after.tables = before.tables
  vpnCapture : after.policy.vpnCapture = before.policy.vpnCapture
  growth : GrowthOk before → GrowthOk after
  newPacked : after.newConns.Packed
  updatesPacked : after.connsUpdates.Packed
  queued : after.queued = []
  purged : after.purged = freed false before before.queued
  pending : ∀ ref, (after.heap ref).pendingNotification
    = if ref ∈ clearedBy jni before then false else (before.heap ref).pendingNotification
  toPurge : ∀ ref, (after.heap ref).toPurge = (before.heap ref).toPurge
  incrId : ∀ ref, (after.heap ref).incrId = (before.heap ref).incrId
  status : ∀ ref, (after.heap ref).status = (before.heap ref).status
  ids : after.java.ids = if succeeds jni before then before.java.ids ++ newIds before
    else before.java.ids

theorem packed_nil (arr : ConnArray) (packed : arr.Packed) (empty : arr.curItems = 0) :
    arr.refs = [] := by
  have filled := packed.filled
  rw [empty] at filled
  rw [ConnArray.refs, List.eq_nil_of_length_eq_zero filled, List.map_nil]

theorem sendConnectionsDump_clear (jni : Jni) (pd : Pd) (kept : Set Ref) (ledger : Ledger pd kept)
    (freeAll : Bool) :
    ∃ between, Dumped pd between (clearedBy jni pd) ∧ ∃ java : Java,
      java.ids = (if succeeds jni pd then pd.java.ids ++ newIds pd else pd.java.ids) ∧
      connsClear (connsClear (sendConnectionsDump jni pd) .newConns freeAll) .connsUpdates freeAll
        = { between with
            purged := freed freeAll pd pd.queued
            newConns := {}
            connsUpdates := {}
            java := java } := by
  obtain ⟨between, dumped, sent⟩ := sendConnectionsDump_spec jni pd kept ledger
  have queued := dumped.queued
  have marks : ∀ java : Java, freed freeAll { between with java := java } between.queued
      = freed freeAll pd pd.queued := by
    intro java
    funext ref
    simp only [freed, dumped.toPurge ref, dumped.purged, queued]
  have clear : ∀ java : Java, connsClear (connsClear { between with java := java } .newConns
      freeAll) .connsUpdates freeAll
        = { between with
            purged := freed freeAll pd pd.queued
            newConns := {}
            connsUpdates := {}
            java := java } := by
    intro java
    rw [connsClear_both freeAll { between with java := java }
      (by change between.queued.Nodup; rw [queued]; exact ledger.distinct)
      (by
        intro ref member
        change between.alive ref
        change ref ∈ between.queued at member
        rw [queued] at member
        exact (dumped.alive ref).mpr (ledger.queuedAlive ref member))]
    change { between with
      purged := freed freeAll { between with java := java } between.queued
      newConns := {}, connsUpdates := {}, java := java } = _
    rw [marks java]
  refine ⟨between, dumped, ?_⟩
  split at sent
  · rename_i success
    obtain ⟨newConns, updates, named, equal⟩ := sent
    refine ⟨pd.java.updateConnections newConns updates, ?_, ?_⟩
    · rw [if_pos success, updateConnections_ids, named]
    · rw [equal]
      exact clear _
  · rename_i failure
    refine ⟨between.java, ?_, ?_⟩
    · rw [if_neg failure, dumped.java]
    · rw [sent]
      exact clear between.java

theorem dumpConnections_after (jni : Jni) (pd : Pd) (kept : Set Ref) (ledger : Ledger pd kept) :
    AfterDump jni pd (dumpConnections jni pd) := by
  by_cases waiting : pd.newConns.curItems ≠ 0 ∨ pd.connsUpdates.curItems ≠ 0
  · obtain ⟨between, dumped, java, ids, equal⟩ :=
      sendConnectionsDump_clear jni pd kept ledger false
    unfold dumpConnections
    simp only [if_pos waiting, equal]
    exact ⟨dumped.created, dumped.misused, dumped.crashed, dumped.newConnId, dumped.tables,
      dumped.vpnCapture, dumped.growth, ConnArray.packed_empty, ConnArray.packed_empty, rfl, rfl,
      dumped.pending, dumped.toPurge, dumped.incrId, dumped.status, ids⟩
  · rw [not_or, not_not, not_not] at waiting
    have noNew := packed_nil pd.newConns ledger.newPacked waiting.1
    have noUpd := packed_nil pd.connsUpdates ledger.updatesPacked waiting.2
    have queued : pd.queued = [] := by rw [Pd.queued, noNew, noUpd, List.append_nil]
    have processedNil : ∀ results slots, slots.map Slot.data = [] →
        (processed results 0 slots).map Slot.data = [] := by
      intro results slots empty
      rw [List.map_eq_nil_iff.mp empty]
      rfl
    have nothing : clearedBy jni pd = [] := by
      unfold clearedBy
      split
      · rfl
      · split
        · rw [noNew, processedNil _ _ noUpd, List.append_nil]
        · exact processedNil _ _ noNew
    have unpurged : pd.purged = freed false pd pd.queued := by rw [queued, freed_nil]
    have noIds : newIds pd = [] := by rw [newIds, noNew, List.map_nil]
    unfold dumpConnections
    rw [if_neg (by simp [waiting.1, waiting.2])]
    refine ⟨rfl, rfl, rfl, rfl, rfl, rfl, id, ledger.newPacked, ledger.updatesPacked, queued,
      unpurged, ?_, fun _ => rfl, fun _ => rfl, fun _ => rfl, ?_⟩
    · intro ref
      rw [nothing, if_neg List.not_mem_nil]
    · rw [noIds, List.append_nil, ite_self]

def Spares (jni : Jni) (pd : Pd) : Prop :=
  ∀ ref ∈ pd.queued, ref ∉ clearedBy jni pd → (pd.heap ref).toPurge = true

theorem spares_of_succeeds (jni : Jni) (pd : Pd) (success : succeeds jni pd = true) :
    Spares jni pd := by
  intro ref member missed
  rw [clearedBy_succeeds jni pd success] at missed
  exact absurd member missed

/-- A dump over records that are not kept once they are queued to be freed. -/
theorem dumpConnections_ledger (jni : Jni) (pd : Pd) (kept : Set Ref) (ledger : Ledger pd kept)
    (spares : Spares jni pd)
    (idle : ∀ ref ∈ kept, (pd.heap ref).toPurge = true → ref ∉ pd.queued) :
    Ledger (dumpConnections jni pd) kept := by
  have after := dumpConnections_after jni pd kept ledger
  have count : ∀ ref, (dumpConnections jni pd).purged ref
      = if ref ∈ pd.queued ∧ (pd.heap ref).toPurge = true then 1 else pd.purged ref := by
    intro ref
    rw [after.purged, freed, Bool.or_false]
  have aliveBefore : ∀ ref, (dumpConnections jni pd).alive ref →
      pd.alive ref ∧ ¬ (ref ∈ pd.queued ∧ (pd.heap ref).toPurge = true) := by
    rintro ref ⟨born, unpurged⟩
    rw [count] at unpurged
    rw [after.created] at born
    split at unpurged
    · cases unpurged
    · exact ⟨⟨born, unpurged⟩, ‹_›⟩
  constructor
  · rw [after.crashed, after.misused]
    exact ledger.sound
  · exact after.newPacked
  · exact after.updatesPacked
  · rw [after.queued]
    exact List.nodup_nil
  · intro ref member
    rw [after.queued] at member
    cases member
  · intro ref held
    obtain ⟨before, unmarked⟩ := aliveBefore ref held
    rw [after.pending, after.queued]
    by_cases member : ref ∈ pd.queued
    -- A record that the dump did not get to was to be freed, so it is not alive.
    · have reached : ref ∈ clearedBy jni pd := by
        by_contra missed
        exact unmarked ⟨member, spares ref member missed⟩
      simp [reached]
    · have idle := (ledger.pending ref before).not.mpr member
      simp [idle]
  · intro ref member
    refine ⟨after.created ▸ (ledger.keptAlive ref member).1, ?_⟩
    rw [count, if_neg]
    · exact (ledger.keptAlive ref member).2
    · rintro ⟨queued, toPurge⟩
      exact idle ref member toPurge queued
  · intro ref held
    obtain ⟨before, unmarked⟩ := aliveBefore ref held
    rcases ledger.covered ref before with member | ⟨toPurge, member⟩
    · exact Or.inl member
    · exact absurd ⟨member, toPurge⟩ unmarked
  · intro ref
    rw [count]
    split
    · exact Nat.le_refl 1
    · exact ledger.once ref
  · intro ref late
    rw [after.created] at late
    rw [count, if_neg]
    · exact ledger.unborn ref late
    · rintro ⟨member, -⟩
      exact absurd (ledger.queuedAlive ref member).1 (Nat.not_lt.mpr late)

end Ptnet.Pcapdroid
