import Mathlib.Data.Set.Basic
import Ptnet.RecordFrame

/-!
Who holds a connection record. `kept` are the records the capture module still refers to;
the ledger says that a live record is kept or about to be freed by a dump, that it is queued
at most once, and exactly while its notification is pending. Each function of the core
keeps the ledger as long as no growth of a notification array fails.
-/

namespace Ptnet.Pcapdroid

open Connection
open Detection (Policy Ndpi)

namespace ConnArray

/-- An array as `notif_connection` leaves it. -/
structure Packed (arr : ConnArray) : Prop where
  filled : arr.slots.length = arr.curItems
  room : arr.curItems ≤ arr.size
  allocated : arr.items = none → arr.size = 0

theorem packed_empty : Packed {} := ⟨rfl, Nat.le_refl 0, fun _ => rfl⟩

end ConnArray

namespace Pd

variable (pd : Pd) (ref : Ref) (change : PdConn → PdConn)

theorem access_alive (held : pd.alive ref) : pd.access ref = pd := if_pos held

theorem modify_alive (held : pd.alive ref) : pd.modify ref change
    = { pd with heap := Function.update pd.heap ref (change (pd.heap ref)) } := by
  unfold modify
  rw [access_alive pd ref held]

theorem modify_heap_self : (pd.modify ref change).heap ref = change (pd.heap ref) :=
  Function.update_self ..

theorem modify_heap_other (other : Ref) (differs : other ≠ ref) :
    (pd.modify ref change).heap other = pd.heap other := Function.update_of_ne differs ..

end Pd

/-- The records of both arrays are distinct and alive, and queued means pending. -/
structure Ledger (pd : Pd) (kept : Set Ref) : Prop where
  sound : pd.crashed = false ∧ pd.misused = false
  newPacked : pd.newConns.Packed
  updatesPacked : pd.connsUpdates.Packed
  distinct : pd.queued.Nodup
  queuedAlive : ∀ ref ∈ pd.queued, pd.alive ref
  pending : ∀ ref, pd.alive ref → ((pd.heap ref).pendingNotification = true ↔ ref ∈ pd.queued)
  keptAlive : ∀ ref ∈ kept, pd.alive ref
  covered : ∀ ref, pd.alive ref →
    ref ∈ kept ∨ (pd.heap ref).toPurge = true ∧ ref ∈ pd.queued
  once : ∀ ref, pd.purged ref ≤ 1
  unborn : ∀ ref, pd.created ≤ ref → pd.purged ref = 0

/-- No growth the allocator is going to be asked for fails. -/
def GrowthOk (pd : Pd) : Prop := ∀ answer ∈ pd.reallocs, answer = true

structure SameCore (before after : Pd) : Prop where
  created : after.created = before.created
  purged : after.purged = before.purged
  misused : after.misused = before.misused
  crashed : after.crashed = before.crashed
  newConnId : after.newConnId = before.newConnId
  java : after.java = before.java
  tables : after.tables = before.tables
  vpnCapture : after.policy.vpnCapture = before.policy.vpnCapture
  growth : GrowthOk before → GrowthOk after

namespace SameCore

variable {before between after : Pd}

theorem refl (pd : Pd) : SameCore pd pd := ⟨rfl, rfl, rfl, rfl, rfl, rfl, rfl, rfl, id⟩

theorem trans (first : SameCore before between) (last : SameCore between after) :
    SameCore before after :=
  ⟨last.created.trans first.created, last.purged.trans first.purged,
    last.misused.trans first.misused, last.crashed.trans first.crashed,
    last.newConnId.trans first.newConnId, last.java.trans first.java,
    last.tables.trans first.tables, last.vpnCapture.trans first.vpnCapture,
    fun growth => last.growth (first.growth growth)⟩

theorem alive (same : SameCore before after) (ref : Ref) : after.alive ref ↔ before.alive ref := by
  rw [Pd.alive, Pd.alive, same.created, same.purged]

end SameCore

/-- Only the contents of the records and the clocks may differ. -/
structure SameQueues (before after : Pd) : Prop extends SameCore before after where
  newConns : after.newConns = before.newConns
  connsUpdates : after.connsUpdates = before.connsUpdates

namespace SameQueues

variable {before between after : Pd}

theorem refl (pd : Pd) : SameQueues pd pd := ⟨SameCore.refl pd, rfl, rfl⟩

theorem trans (first : SameQueues before between) (last : SameQueues between after) :
    SameQueues before after :=
  ⟨first.toSameCore.trans last.toSameCore, last.newConns.trans first.newConns,
    last.connsUpdates.trans first.connsUpdates⟩

theorem queued (same : SameQueues before after) : after.queued = before.queued := by
  rw [Pd.queued, Pd.queued, same.newConns, same.connsUpdates]

end SameQueues

theorem modify_same (pd : Pd) (ref : Ref) (change : PdConn → PdConn) (held : pd.alive ref) :
    SameQueues pd (pd.modify ref change) := by
  rw [Pd.modify_alive pd ref change held]
  exact ⟨⟨rfl, rfl, rfl, rfl, rfl, rfl, rfl, rfl, id⟩, rfl, rfl⟩

/-- Contents may change as long as pending marks stay and purge marks are not withdrawn. -/
structure SameMarks (before after : PdConn) : Prop where
  pending : after.pendingNotification = before.pendingNotification
  toPurge : before.toPurge = true → after.toPurge = true

theorem SameMarks.refl (data : PdConn) : SameMarks data data := ⟨rfl, id⟩

theorem ledger_of_same (before after : Pd) (kept : Set Ref) (ledger : Ledger before kept)
    (same : SameQueues before after) (marks : ∀ ref, SameMarks (before.heap ref) (after.heap ref)) :
    Ledger after kept := by
  constructor
  · rw [same.crashed, same.misused]
    exact ledger.sound
  · rw [same.newConns]
    exact ledger.newPacked
  · rw [same.connsUpdates]
    exact ledger.updatesPacked
  · rw [same.queued]
    exact ledger.distinct
  · intro ref member
    rw [same.queued] at member
    exact (same.alive ref).mpr (ledger.queuedAlive ref member)
  · intro ref held
    rw [same.queued, (marks ref).pending]
    exact ledger.pending ref ((same.alive ref).mp held)
  · intro ref member
    exact (same.alive ref).mpr (ledger.keptAlive ref member)
  · intro ref held
    rw [same.queued]
    rcases ledger.covered ref ((same.alive ref).mp held) with member | ⟨toPurge, member⟩
    · exact Or.inl member
    · exact Or.inr ⟨(marks ref).toPurge toPurge, member⟩
  · intro ref
    rw [same.purged]
    exact ledger.once ref
  · intro ref late
    rw [same.created] at late
    rw [same.purged]
    exact ledger.unborn ref late

theorem modify_ledger (pd : Pd) (kept : Set Ref) (ref : Ref) (change : PdConn → PdConn)
    (ledger : Ledger pd kept) (held : pd.alive ref)
    (marks : SameMarks (pd.heap ref) (change (pd.heap ref))) :
    Ledger (pd.modify ref change) kept := by
  refine ledger_of_same pd _ kept ledger (modify_same pd ref change held) ?_
  intro other
  by_cases same : other = ref
  · subst same
    rw [Pd.modify_heap_self]
    exact marks
  · rw [Pd.modify_heap_other pd ref change other same]
    exact SameMarks.refl _

/-- The state after a slot has been appended, whatever the growth left behind. -/
def queueSlot (pd : Pd) (which : Which) (slot : Slot) (size : Nat) (reallocs : List Bool) : Pd :=
  { pd.setArray which
      { items := some ((pd.array which).slots ++ [slot])
        size := size
        curItems := (pd.array which).curItems + 1 } with
    heap := Function.update pd.heap slot.data
      { pd.heap slot.data with pendingNotification := true }
    reallocs := reallocs }

theorem array_packed (pd : Pd) (kept : Set Ref) (ledger : Ledger pd kept) (which : Which) :
    (pd.array which).Packed := by
  cases which with
  | newConns => exact ledger.newPacked
  | connsUpdates => exact ledger.updatesPacked

theorem setArray_alive (pd : Pd) (which : Which) (arr : ConnArray) (reallocs : List Bool)
    (ref : Ref) : Pd.alive { pd.setArray which arr with reallocs := reallocs } ref
      ↔ pd.alive ref := by
  cases which <;> exact Iff.rfl

theorem enqueue_eq (pd : Pd) (which : Which) (slot : Slot) (packed : (pd.array which).Packed)
    (held : pd.alive slot.data) (growth : GrowthOk pd) :
    ∃ size reallocs, (pd.array which).curItems < size ∧ (∀ answer ∈ reallocs, answer = true) ∧
      enqueue pd which slot = (queueSlot pd which slot size reallocs, true) := by
  have first : pd.reallocs.headD true = true := by
    cases answers : pd.reallocs with
    | nil => rfl
    | cons answer rest => exact growth answer (by rw [answers]; exact List.mem_cons_self)
  have later : ∀ answer ∈ pd.reallocs.tail, answer = true :=
    fun answer member => growth answer (List.mem_of_mem_tail member)
  obtain ⟨filled, room, allocated⟩ := packed
  unfold enqueue
  by_cases full : (pd.array which).size ≤ (pd.array which).curItems
  · refine ⟨((pd.array which).extend true).size, pd.reallocs.tail, ?_, later, ?_⟩
    · simp only [ConnArray.extend]
      split <;> omega
    · have heldNow := (setArray_alive pd which ((pd.array which).extend true)
        pd.reallocs.tail slot.data).mpr held
      simp only [full, if_true, first]
      cases which <;>
        simp [storeSlot, queueSlot, Pd.array, Pd.setArray, ConnArray.extend, Pd.modify,
          Pd.access, Pd.alive, held.1, held.2]
  · refine ⟨(pd.array which).size, pd.reallocs, by omega, growth, ?_⟩
    simp only [full, if_false]
    cases items : (pd.array which).items with
    | none =>
        have empty := allocated items
        omega
    | some slots =>
        cases which <;>
          simp_all [storeSlot, queueSlot, Pd.array, Pd.setArray, Pd.modify, Pd.access, Pd.alive,
            ConnArray.slots]

/-- The record once `notif_connection` has ended the detection of a closed connection. -/
def concluded (ndpi : Ndpi) (pd : Pd) (tuple : Tuple) (ref : Ref) : PdConn :=
  if (pd.heap ref).status.isClosed then
    Detection.pdGiveupDpi pd.policy ndpi tuple (pd.heap ref)
  else pd.heap ref

theorem concluded_revised (ndpi : Ndpi) (pd : Pd) (tuple : Tuple) (ref : Ref) :
    Revised (pd.heap ref) (concluded ndpi pd tuple ref) := by
  unfold concluded
  split
  · exact pdGiveupDpi_revised pd.policy ndpi tuple _
  · exact Revised.refl _

/-- A notification leaves the record pending and queued, and nothing else changed. -/
structure Notified (ndpi : Ndpi) (before after : Pd) (which : Which) (tuple : Tuple) (ref : Ref) :
    Prop extends SameCore before after where
  heap : after.heap = Function.update before.heap ref
    { concluded ndpi before tuple ref with pendingNotification := true }
  slots : ∀ other, (after.array other).slots =
    if other = which ∧ (before.heap ref).pendingNotification = false then
      (before.array other).slots ++ [⟨tuple, ref⟩]
    else (before.array other).slots
  packed : ∀ other, (after.array other).Packed

namespace Notified

variable {ndpi : Ndpi} {before after : Pd} {which : Which} {tuple : Tuple} {ref : Ref}

theorem heap_self (notified : Notified ndpi before after which tuple ref) : after.heap ref
    = { concluded ndpi before tuple ref with pendingNotification := true } := by
  rw [notified.heap, Function.update_self]

theorem heap_other (notified : Notified ndpi before after which tuple ref) (other : Ref)
    (differs : other ≠ ref) : after.heap other = before.heap other := by
  rw [notified.heap, Function.update_of_ne differs]

theorem toPurge (notified : Notified ndpi before after which tuple ref) (other : Ref) :
    (after.heap other).toPurge = (before.heap other).toPurge := by
  by_cases same : other = ref
  · subst same
    rw [notified.heap_self]
    exact (concluded_revised ndpi before tuple other).toPurge
  · rw [notified.heap_other other same]

theorem incrId (notified : Notified ndpi before after which tuple ref) (other : Ref) :
    (after.heap other).incrId = (before.heap other).incrId := by
  by_cases same : other = ref
  · subst same
    rw [notified.heap_self]
    exact (concluded_revised ndpi before tuple other).incrId
  · rw [notified.heap_other other same]

theorem status (notified : Notified ndpi before after which tuple ref) (other : Ref) :
    (after.heap other).status = (before.heap other).status := by
  by_cases same : other = ref
  · subst same
    rw [notified.heap_self]
    exact (concluded_revised ndpi before tuple other).status
  · rw [notified.heap_other other same]

theorem dirty (notified : Notified ndpi before after which tuple ref) (other : Ref)
    (dirty : (before.heap other).updateType ≠ 0) : (after.heap other).updateType ≠ 0 := by
  by_cases same : other = ref
  · subst same
    rw [notified.heap_self]
    exact (concluded_revised ndpi before tuple other).dirty dirty
  · rwa [notified.heap_other other same]

theorem pending (notified : Notified ndpi before after which tuple ref) (other : Ref) :
    (after.heap other).pendingNotification
      = (decide (other = ref) || (before.heap other).pendingNotification) := by
  by_cases same : other = ref
  · subst same
    simp [notified.heap_self]
  · simp [notified.heap_other other same, same]

theorem queued (notified : Notified ndpi before after which tuple ref) : after.queued.Perm
    (if (before.heap ref).pendingNotification = false then ref :: before.queued
      else before.queued) := by
  have newSlots := notified.slots .newConns
  have updSlots := notified.slots .connsUpdates
  simp only [Pd.array] at newSlots updSlots
  unfold Pd.queued ConnArray.refs
  rw [newSlots, updSlots]
  cases which with
  | newConns =>
      by_cases idle : (before.heap ref).pendingNotification = false
      · simp only [idle, and_self, if_true, and_true, reduceCtorEq, if_false, List.map_append,
          List.map_cons, List.map_nil, List.append_assoc]
        exact List.perm_middle
      · simp [idle]
  | connsUpdates =>
      by_cases idle : (before.heap ref).pendingNotification = false
      · simp only [idle, and_self, if_true, and_true, reduceCtorEq, if_false, List.map_append,
          List.map_cons, List.map_nil, ← List.append_assoc]
        exact List.perm_append_singleton _ _
      · simp [idle]

theorem mem_queued (notified : Notified ndpi before after which tuple ref) (other : Ref) :
    other ∈ after.queued ↔
      other ∈ before.queued ∨ other = ref ∧ (before.heap ref).pendingNotification = false := by
  rw [notified.queued.mem_iff]
  split
  · rw [List.mem_cons]
    tauto
  · tauto

theorem ledger (notified : Notified ndpi before after which tuple ref) (kept : Set Ref)
    (ledger : Ledger before kept) (held : before.alive ref) : Ledger after kept := by
  have alive := notified.alive
  have idleFresh : (before.heap ref).pendingNotification = false → ref ∉ before.queued := by
    intro idle member
    rw [(ledger.pending ref held).mpr member] at idle
    cases idle
  constructor
  · rw [notified.crashed, notified.misused]
    exact ledger.sound
  · exact notified.packed .newConns
  · exact notified.packed .connsUpdates
  · rw [notified.queued.nodup_iff]
    split
    · exact List.nodup_cons.mpr ⟨idleFresh ‹_›, ledger.distinct⟩
    · exact ledger.distinct
  · intro other member
    rw [alive]
    rcases (notified.mem_queued other).mp member with old | ⟨rfl, -⟩
    · exact ledger.queuedAlive other old
    · exact held
  · intro other aliveNow
    have old := ledger.pending other ((alive other).mp aliveNow)
    rw [notified.pending, notified.mem_queued, Bool.or_eq_true, decide_eq_true_eq, old]
    constructor
    · rintro (rfl | member)
      · by_cases idle : (before.heap other).pendingNotification = false
        · exact Or.inr ⟨rfl, idle⟩
        · exact Or.inl (old.mp (by simpa using idle))
      · exact Or.inl member
    · rintro (member | ⟨rfl, -⟩)
      · exact Or.inr member
      · exact Or.inl rfl
  · intro other member
    rw [alive]
    exact ledger.keptAlive other member
  · intro other aliveNow
    rw [notified.toPurge, notified.mem_queued]
    rcases ledger.covered other ((alive other).mp aliveNow) with member | ⟨toPurge, member⟩
    · exact Or.inl member
    · exact Or.inr ⟨toPurge, Or.inl member⟩
  · rw [notified.purged]
    exact ledger.once
  · rw [notified.purged, notified.created]
    exact ledger.unborn

end Notified

theorem endDetection_eq (ndpi : Ndpi) (pd : Pd) (tuple : Tuple) (ref : Ref)
    (held : pd.alive ref) :
    (if (pd.heap ref).status.isClosed then pdGiveupDpi ndpi pd ref tuple else pd)
      = { pd with heap := Function.update pd.heap ref (concluded ndpi pd tuple ref) } := by
  unfold concluded pdGiveupDpi
  split
  · rw [Pd.modify_alive _ _ _ held]
  · rw [Function.update_eq_self]

/-- `notif_connection` on a live record, while the allocator answers. -/
theorem notifConnection_spec (ndpi : Ndpi) (pd : Pd) (which : Which) (tuple : Tuple) (ref : Ref)
    (packed : ∀ other, (pd.array other).Packed) (held : pd.alive ref) (growth : GrowthOk pd) :
    ∃ after, notifConnection ndpi pd which tuple ref = (after, true) ∧
      Notified ndpi pd after which tuple ref := by
  have revised := concluded_revised ndpi pd tuple ref
  let ended : Pd := { pd with heap := Function.update pd.heap ref (concluded ndpi pd tuple ref) }
  have endedHeap : ended.heap ref = concluded ndpi pd tuple ref := Function.update_self ..
  have unfolded : notifConnection ndpi pd which tuple ref
      = if (ended.heap ref).pendingNotification then (ended, true)
        else enqueue ended which ⟨tuple, ref⟩ := by
    unfold notifConnection
    simp only [Pd.access_alive pd ref held, endDetection_eq ndpi pd tuple ref held]
    rfl
  rw [unfolded]
  -- A record that is queued is only marked, any other takes a slot.
  by_cases pending : (ended.heap ref).pendingNotification = true
  · rw [if_pos pending]
    have before : (pd.heap ref).pendingNotification = true := by
      rw [← revised.pending, ← endedHeap]
      exact pending
    refine ⟨ended, rfl, ⟨rfl, rfl, rfl, rfl, rfl, rfl, rfl, rfl, id⟩, ?_, ?_, packed⟩
    · change Function.update pd.heap ref _ = _
      congr 1
      rw [endedHeap] at pending
      rw [← pending]
    · intro other
      rw [if_neg (by simp [before])]
      rfl
  · rw [if_neg pending]
    have idle : (ended.heap ref).pendingNotification = false := by simpa using pending
    have before : (pd.heap ref).pendingNotification = false := by
      rw [← revised.pending, ← endedHeap]
      exact idle
    obtain ⟨size, reallocs, room, answers, stored⟩ := enqueue_eq ended which ⟨tuple, ref⟩
      (packed which) held growth
    refine ⟨_, stored, ?_, ?_, ?_, ?_⟩
    · cases which <;> exact ⟨rfl, rfl, rfl, rfl, rfl, rfl, rfl, rfl, fun _ => answers⟩
    · have heap : (queueSlot ended which ⟨tuple, ref⟩ size reallocs).heap
          = Function.update ended.heap ref
            { ended.heap ref with pendingNotification := true } := by
        cases which <;> rfl
      rw [heap, endedHeap, Function.update_idem]
    · intro other
      cases which <;> cases other <;> simp [queueSlot, Pd.setArray, Pd.array, ConnArray.slots,
        before, ended]
    · intro other
      have filled := (packed which).filled
      have grown : ConnArray.Packed
          { items := some ((pd.array which).slots ++ [⟨tuple, ref⟩])
            size := size
            curItems := (pd.array which).curItems + 1 } := by
        refine ⟨?_, room, fun missing => by cases missing⟩
        rw [← filled]
        simp [ConnArray.slots]
      cases which <;> cases other
      · exact grown
      · exact packed .connsUpdates
      · exact packed .newConns
      · exact grown

theorem pdPurgeConnection_alive (pd : Pd) (ref : Ref) (held : pd.alive ref) :
    pdPurgeConnection pd ref = { pd with purged := Function.update pd.purged ref 1 } := by
  unfold pdPurgeConnection
  simp only [Pd.access_alive pd ref held, held.2]

theorem pdPurgeConnection_ledger (pd : Pd) (kept : Set Ref) (ref : Ref) (ledger : Ledger pd kept)
    (held : pd.alive ref) (idle : ref ∉ pd.queued) :
    Ledger (pdPurgeConnection pd ref) (kept \ {ref}) := by
  have alive : ∀ other, Pd.alive { pd with purged := Function.update pd.purged ref 1 } other
      ↔ pd.alive other ∧ other ≠ ref := by
    intro other
    by_cases same : other = ref
    · subst same
      simp [Pd.alive]
    · simp [Pd.alive, same]
  rw [pdPurgeConnection_alive pd ref held]
  constructor
  · exact ledger.sound
  · exact ledger.newPacked
  · exact ledger.updatesPacked
  · exact ledger.distinct
  · intro other member
    refine (alive other).mpr ⟨ledger.queuedAlive other member, ?_⟩
    rintro rfl
    exact idle member
  · intro other aliveNow
    exact ledger.pending other ((alive other).mp aliveNow).1
  · intro other member
    exact (alive other).mpr ⟨ledger.keptAlive other member.1, member.2⟩
  · intro other aliveNow
    obtain ⟨before, differs⟩ := (alive other).mp aliveNow
    rcases ledger.covered other before with member | purge
    · exact Or.inl ⟨member, differs⟩
    · exact Or.inr purge
  · intro other
    by_cases same : other = ref
    · subst same
      simp
    · simpa [Function.update_of_ne same] using ledger.once other
  · intro other late
    have differs : other ≠ ref := by
      rintro rfl
      exact absurd held.1 (Nat.not_lt.mpr late)
    simpa [Function.update_of_ne differs] using ledger.unborn other late

/-- The free counts after `conns_clear` has gone over `refs`. -/
def freed (freeAll : Bool) (pd : Pd) (refs : List Ref) (ref : Ref) : Nat :=
  if ref ∈ refs ∧ ((pd.heap ref).toPurge || freeAll) = true then 1 else pd.purged ref

theorem freed_nil (freeAll : Bool) (pd : Pd) : freed freeAll pd [] = pd.purged := by
  funext ref
  exact if_neg (by simp)

/-- Freeing in two goes: the second one only looks at the marks. -/
theorem freed_append (freeAll : Bool) (pd between : Pd) (first last : List Ref)
    (heap : between.heap = pd.heap) (purged : between.purged = freed freeAll pd first) :
    freed freeAll between last = freed freeAll pd (first ++ last) := by
  funext ref
  unfold freed at *
  rw [heap, purged]
  by_cases marked : ((pd.heap ref).toPurge || freeAll) = true
  · by_cases here : ref ∈ first
    · by_cases there : ref ∈ last <;> simp [here, there, marked]
    · by_cases there : ref ∈ last <;> simp [here, there, marked]
  · simp [marked]

theorem clearSlot_alive (freeAll : Bool) (pd : Pd) (slot : Slot) (held : pd.alive slot.data) :
    clearSlot freeAll pd slot = { pd with purged := freed freeAll pd [slot.data] } := by
  unfold clearSlot
  simp only [Pd.access_alive pd _ held]
  split
  · rename_i marked
    rw [pdPurgeConnection_alive pd _ held]
    congr 1
    funext ref
    by_cases same : ref = slot.data
    · subst same
      rw [Function.update_self, freed, if_pos ⟨List.mem_singleton.mpr rfl, marked⟩]
    · rw [Function.update_of_ne same, freed, if_neg (by simp [same])]
  · rename_i unmarked
    have unchanged : freed freeAll pd [slot.data] = pd.purged := by
      funext ref
      refine if_neg ?_
      rintro ⟨member, marked⟩
      rw [List.mem_singleton.mp member] at marked
      exact unmarked marked
    rw [unchanged]

theorem clearSlots_eq (freeAll : Bool) (slots : List Slot) (pd : Pd)
    (distinct : (slots.map Slot.data).Nodup) (held : ∀ ref ∈ slots.map Slot.data, pd.alive ref) :
    slots.foldl (clearSlot freeAll) pd
      = { pd with purged := freed freeAll pd (slots.map Slot.data) } := by
  induction slots generalizing pd with
  | nil => rw [List.map_nil, freed_nil, List.foldl_nil]
  | cons slot rest ih =>
      rw [List.map_cons] at distinct held
      obtain ⟨fresh, later⟩ := List.nodup_cons.mp distinct
      have still : ∀ ref ∈ rest.map Slot.data,
          Pd.alive { pd with purged := freed freeAll pd [slot.data] } ref := by
        intro ref member
        have before := held ref (List.mem_cons_of_mem _ member)
        have differs : ref ≠ slot.data := by
          rintro rfl
          exact fresh member
        refine ⟨before.1, ?_⟩
        change freed freeAll pd [slot.data] ref = 0
        rw [freed, if_neg (by simp [differs])]
        exact before.2
      rw [List.foldl_cons, clearSlot_alive freeAll pd slot (held _ List.mem_cons_self),
        ih _ later still, freed_append freeAll pd { pd with purged := freed freeAll pd [slot.data] }
          [slot.data] (rest.map Slot.data) rfl rfl]
      rfl

/-- Both calls of `conns_clear` after a dump, over records that are distinct and alive. -/
theorem connsClear_both (freeAll : Bool) (pd : Pd) (distinct : pd.queued.Nodup)
    (held : ∀ ref ∈ pd.queued, pd.alive ref) :
    connsClear (connsClear pd .newConns freeAll) .connsUpdates freeAll
      = { pd with
          purged := freed freeAll pd pd.queued
          newConns := {}
          connsUpdates := {} } := by
  obtain ⟨newDistinct, updDistinct, apart⟩ := List.nodup_append.mp distinct
  have first : connsClear pd .newConns freeAll
      = { pd with purged := freed freeAll pd pd.newConns.refs, newConns := {} } := by
    have cleared := clearSlots_eq freeAll pd.newConns.slots pd newDistinct fun ref member =>
      held ref (List.mem_append_left _ member)
    unfold connsClear
    simp only [Pd.array, cleared, Pd.setArray]
    rfl
  let between : Pd := { pd with purged := freed freeAll pd pd.newConns.refs, newConns := {} }
  have still : ∀ ref ∈ pd.connsUpdates.refs, between.alive ref := by
    intro ref member
    have before := held ref (List.mem_append_right _ member)
    refine ⟨before.1, ?_⟩
    change freed freeAll pd pd.newConns.refs ref = 0
    rw [freed, if_neg]
    · exact before.2
    · rintro ⟨other, -⟩
      exact apart ref other ref member rfl
  have last := clearSlots_eq freeAll pd.connsUpdates.slots between updDistinct still
  rw [freed_append freeAll pd between pd.newConns.refs _ rfl rfl] at last
  rw [first]
  unfold connsClear
  simp only [Pd.array]
  rw [show (pd.connsUpdates.slots.foldl (clearSlot freeAll)
    { pd with purged := freed freeAll pd pd.newConns.refs, newConns := {} }) = _ from last]
  rfl

/-- The records are read and rewritten, their marks and identifiers stay. -/
structure RevisedRecords (before after : Pd) : Prop extends SameQueues before after where
  revised : ∀ ref, Revised (before.heap ref) (after.heap ref)

namespace RevisedRecords

variable {before between after : Pd}

theorem refl (pd : Pd) : RevisedRecords pd pd := ⟨SameQueues.refl pd, fun _ => Revised.refl _⟩

theorem trans (first : RevisedRecords before between) (last : RevisedRecords between after) :
    RevisedRecords before after :=
  ⟨first.toSameQueues.trans last.toSameQueues,
    fun ref => (first.revised ref).trans (last.revised ref)⟩

end RevisedRecords

theorem modify_revised (pd : Pd) (ref : Ref) (change : PdConn → PdConn) (held : pd.alive ref)
    (revised : Revised (pd.heap ref) (change (pd.heap ref))) :
    RevisedRecords pd (pd.modify ref change) := by
  refine ⟨modify_same pd ref change held, ?_⟩
  intro other
  by_cases same : other = ref
  · subst same
    rw [Pd.modify_heap_self]
    exact revised
  · rw [Pd.modify_heap_other pd ref change other same]
    exact Revised.refl _

theorem revisedRecords_ledger (before after : Pd) (kept : Set Ref) (ledger : Ledger before kept)
    (same : RevisedRecords before after) : Ledger after kept := by
  refine ledger_of_same before after kept ledger same.toSameQueues ?_
  intro ref
  exact ⟨(same.revised ref).pending, fun toPurge => (same.revised ref).toPurge.trans toPurge⟩

/-- A step between two dumps: marks are only added, nothing that was pending already is
    queued again, and what becomes pending has something to send. -/
structure Progress (before after : Pd) : Prop extends SameCore before after where
  packed : (∀ which, (before.array which).Packed) → ∀ which, (after.array which).Packed
  toPurge : ∀ ref, (after.heap ref).toPurge = (before.heap ref).toPurge
  incrId : ∀ ref, (after.heap ref).incrId = (before.heap ref).incrId
  status : ∀ ref, (after.heap ref).status = (before.heap ref).status
  dirty : ∀ ref, (before.heap ref).updateType ≠ 0 → (after.heap ref).updateType ≠ 0
  pending : ∀ ref, (before.heap ref).pendingNotification = true →
    (after.heap ref).pendingNotification = true
  marked : ∀ ref, (after.heap ref).pendingNotification = true →
    (before.heap ref).pendingNotification = true ∨ (after.heap ref).updateType ≠ 0
  queued : ∀ ref ∈ before.queued, ref ∈ after.queued
  fresh : ∀ ref ∈ after.queued,
    ref ∈ before.queued ∨ (before.heap ref).pendingNotification = false
  newSlots : after.newConns.slots = before.newConns.slots
  ledger : ∀ kept, Ledger before kept → Ledger after kept

namespace Progress

variable {before between after : Pd}

theorem trans (first : Progress before between) (last : Progress between after) :
    Progress before after where
  toSameCore := first.toSameCore.trans last.toSameCore
  packed packed := last.packed (first.packed packed)
  toPurge ref := (last.toPurge ref).trans (first.toPurge ref)
  incrId ref := (last.incrId ref).trans (first.incrId ref)
  status ref := (last.status ref).trans (first.status ref)
  dirty ref dirty := last.dirty ref (first.dirty ref dirty)
  pending ref pending := last.pending ref (first.pending ref pending)
  marked := by
    intro ref pending
    rcases last.marked ref pending with earlier | dirty
    · rcases first.marked ref earlier with old | dirty
      · exact Or.inl old
      · exact Or.inr (last.dirty ref dirty)
    · exact Or.inr dirty
  queued ref member := last.queued ref (first.queued ref member)
  fresh := by
    intro ref member
    rcases last.fresh ref member with old | idle
    · exact first.fresh ref old
    · refine Or.inr ?_
      cases pending : (before.heap ref).pendingNotification with
      | false => rfl
      | true => exact absurd (first.pending ref pending) (by simp [idle])
  newSlots := last.newSlots.trans first.newSlots
  ledger kept ledger := last.ledger kept (first.ledger kept ledger)

theorem of_revised (same : RevisedRecords before after) : Progress before after where
  toSameCore := same.toSameCore
  packed packed which := by
    cases which with
    | newConns =>
        change after.newConns.Packed
        rw [same.newConns]
        exact packed .newConns
    | connsUpdates =>
        change after.connsUpdates.Packed
        rw [same.connsUpdates]
        exact packed .connsUpdates
  toPurge ref := (same.revised ref).toPurge
  incrId ref := (same.revised ref).incrId
  status ref := (same.revised ref).status
  dirty ref := (same.revised ref).dirty
  pending ref pending := (same.revised ref).pending.trans pending
  marked ref pending := Or.inl ((same.revised ref).pending.symm.trans pending)
  queued ref member := by
    rw [same.toSameQueues.queued]
    exact member
  fresh ref member := by
    rw [same.toSameQueues.queued] at member
    exact Or.inl member
  newSlots := by rw [same.newConns]
  ledger kept ledger := revisedRecords_ledger before after kept ledger same

theorem refl (pd : Pd) : Progress pd pd := of_revised (RevisedRecords.refl pd)

theorem of_notified {ndpi : Ndpi} {tuple : Tuple} {ref : Ref}
    (notified : Notified ndpi before after .connsUpdates tuple ref) (held : before.alive ref)
    (dirty : (before.heap ref).updateType ≠ 0) : Progress before after where
  toSameCore := notified.toSameCore
  packed _ := notified.packed
  toPurge := notified.toPurge
  incrId := notified.incrId
  status := notified.status
  dirty := notified.dirty
  pending other pending := by rw [notified.pending, pending, Bool.or_true]
  marked other pending := by
    by_cases same : other = ref
    · subst same
      exact Or.inr (notified.dirty other dirty)
    · rw [notified.heap_other other same] at pending
      exact Or.inl pending
  queued other member := (notified.mem_queued other).mpr (Or.inl member)
  fresh other member := by
    rcases (notified.mem_queued other).mp member with old | ⟨rfl, idle⟩
    · exact Or.inl old
    · exact Or.inr idle
  newSlots := (notified.slots .newConns).trans (if_neg (by simp))
  ledger kept ledger := notified.ledger kept ledger held

end Progress

structure Ready (pd : Pd) : Prop where
  packed : ∀ which, (pd.array which).Packed
  growth : GrowthOk pd

theorem Progress.ready {before after : Pd} (progress : Progress before after)
    (ready : Ready before) : Ready after :=
  ⟨progress.packed ready.packed, progress.growth ready.growth⟩

theorem notify_progress (ndpi : Ndpi) (pd : Pd) (tuple : Tuple) (ref : Ref) (ready : Ready pd)
    (held : pd.alive ref) (dirty : (pd.heap ref).updateType ≠ 0) :
    Progress pd (pdNotifyConnectionUpdate ndpi pd tuple ref).1 := by
  obtain ⟨after, result, notified⟩ :=
    notifConnection_spec ndpi pd .connsUpdates tuple ref ready.packed held ready.growth
  rw [pdNotifyConnectionUpdate, result]
  exact Progress.of_notified notified held dirty

end Ptnet.Pcapdroid
