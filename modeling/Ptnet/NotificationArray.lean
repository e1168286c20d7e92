import Ptnet.CaptureClient
import Ptnet.HousekeepingFrame

/-!
The growth of the two notification arrays, `notif_connection` and `conns_clear` of
core/pcapdroid.c, along any calls and any answers of the allocator. Beside each array stands the
number of slots its block was allocated with, which is what a write has to stay below.
-/

namespace Ptnet.NotificationArray

open Connection Pcapdroid
open Detection (Ndpi)

section Arrays

def isFull (arr : ConnArray) : Bool := decide (arr.size ≤ arr.curItems)

def stores (arr : ConnArray) (answer : Bool) : Bool :=
  if isFull arr then answer else arr.items.isSome

/-- What `notif_connection` makes of an array. -/
def pushed (arr : ConnArray) (answer : Bool) (slot : Slot) : ConnArray :=
  let grown := if isFull arr then arr.extend answer else arr
  if stores arr answer then
    { grown with items := some (arr.slots ++ [slot]), curItems := arr.curItems + 1 }
  else grown

section Cases

variable (arr : ConnArray) (slot : Slot)

theorem pushed_grown (full : isFull arr = true) :
    pushed arr true slot =
      { items := some (arr.slots ++ [slot])
        size := (arr.extend true).size
        curItems := arr.curItems + 1 } := by
  simp only [pushed, stores, full, if_true]

theorem pushed_failed (full : isFull arr = true) : pushed arr false slot = arr.extend false := by
  simp only [pushed, stores, full, if_true, Bool.false_eq_true, if_false]

theorem pushed_written (answer : Bool) (vacant : isFull arr = false) (block : arr.items.isSome = true) :
    pushed arr answer slot =
      { arr with items := some (arr.slots ++ [slot]), curItems := arr.curItems + 1 } := by
  simp only [pushed, stores, vacant, block, Bool.false_eq_true, if_true, if_false]

theorem pushed_lost (answer : Bool) (vacant : isFull arr = false) (null : arr.items.isSome = false) :
    pushed arr answer slot = arr := by
  simp only [pushed, stores, vacant, null, Bool.false_eq_true, if_false]

end Cases

theorem extend_grows (arr : ConnArray) (answer : Bool) (full : isFull arr = true)
    (room : arr.curItems ≤ arr.size) : arr.curItems < (arr.extend answer).size := by
  simp only [isFull, decide_eq_true_eq] at full
  simp only [ConnArray.extend]
  split <;> omega

theorem packed_vacant (arr : ConnArray) (packed : arr.Packed) (vacant : isFull arr = false) :
    arr.curItems < arr.size ∧ arr.items.isSome = true := by
  have room : arr.curItems < arr.size := by simpa [isFull] using vacant
  refine ⟨room, ?_⟩
  cases items : arr.items with
  | none =>
      have empty := packed.allocated items
      omega
  | some slots => rfl

theorem pushed_packed (arr : ConnArray) (answer : Bool) (slot : Slot) (packed : arr.Packed)
    (stored : isFull arr = true → answer = true) :
    (pushed arr answer slot).Packed ∧ (pushed arr answer slot).slots = arr.slots ++ [slot] ∧
      (pushed arr answer slot).curItems = arr.curItems + 1 ∧
      (pushed arr answer slot).size =
        if isFull arr then (if arr.size = 0 then 8 else arr.size * 2) else arr.size := by
  have filled := packed.filled
  by_cases full : isFull arr = true
  · obtain rfl := stored full
    have bigger := extend_grows arr true full packed.room
    rw [pushed_grown arr slot full, if_pos full]
    exact ⟨⟨by simp [ConnArray.slots, ← filled], bigger, fun absent => by cases absent⟩, rfl, rfl,
      rfl⟩
  · rw [Bool.not_eq_true] at full
    obtain ⟨vacant, block⟩ := packed_vacant arr packed full
    rw [pushed_written arr slot answer full block, if_neg (by rw [full]; exact Bool.false_ne_true)]
    exact ⟨⟨by simp [ConnArray.slots, ← filled], vacant, fun absent => by cases absent⟩, rfl, rfl,
      rfl⟩

end Arrays

section Calls

/-- What the queueing part of `notif_connection` does. -/
structure Enqueued (before after : Pd) (which : Which) (slot : Slot) (result : Bool) : Prop where
  result : result = !(isFull (before.array which) && !before.reallocs.headD true)
  array : after.array which = pushed (before.array which) (before.reallocs.headD true) slot
  others : ∀ other, other ≠ which → after.array other = before.array other
  heap : after.heap =
    if stores (before.array which) (before.reallocs.headD true) then
      Function.update before.heap slot.data
        { before.heap slot.data with pendingNotification := true }
    else before.heap
  reallocs : after.reallocs =
    if isFull (before.array which) then before.reallocs.tail else before.reallocs
  purged : after.purged = before.purged
  nowMs : after.nowMs = before.nowMs

theorem setArray_array (pd : Pd) (which : Which) (arr : ConnArray) (other : Which) :
    (pd.setArray which arr).array other = if other = which then arr else pd.array other := by
  cases which <;> cases other <;> rfl

section Fields

variable (pd : Pd) (ref : Ref) (change : PdConn → PdConn)

theorem access_array (which : Which) : (pd.access ref).array which = pd.array which := by
  unfold Pd.access
  cases which <;> split <;> rfl

theorem access_reallocs : (pd.access ref).reallocs = pd.reallocs := by
  unfold Pd.access
  split <;> rfl

theorem access_purged : (pd.access ref).purged = pd.purged := by
  unfold Pd.access
  split <;> rfl

theorem access_nowMs : (pd.access ref).nowMs = pd.nowMs := by
  unfold Pd.access
  split <;> rfl

theorem access_policy : (pd.access ref).policy = pd.policy := by
  unfold Pd.access
  split <;> rfl

theorem modify_array (which : Which) : (pd.modify ref change).array which = pd.array which :=
  Eq.trans (by cases which <;> rfl) (access_array pd ref which)

theorem modify_reallocs : (pd.modify ref change).reallocs = pd.reallocs := access_reallocs pd ref

theorem modify_purged : (pd.modify ref change).purged = pd.purged := access_purged pd ref

theorem modify_nowMs : (pd.modify ref change).nowMs = pd.nowMs := access_nowMs pd ref

theorem purge_array (which : Which) : (pdPurgeConnection pd ref).array which = pd.array which :=
  Eq.trans (by cases which <;> rfl) (access_array pd ref which)

end Fields

theorem storeSlot_written (pd : Pd) (which : Which) (slot : Slot) (slots : List Slot)
    (block : (pd.array which).items = some slots) :
    storeSlot pd which slot =
      (pd.setArray which
        { pd.array which with
          items := some ((pd.array which).slots ++ [slot])
          curItems := (pd.array which).curItems + 1 }).modify slot.data fun data =>
            { data with pendingNotification := true } := by
  rw [storeSlot, ConnArray.slots, block]
  rfl

theorem enqueue_spec (pd : Pd) (which : Which) (slot : Slot) :
    Enqueued pd (enqueue pd which slot).1 which slot (enqueue pd which slot).2 := by
  -- A full array grows, which only realloc can refuse.
  by_cases full : isFull (pd.array which) = true
  · have size : (pd.array which).size ≤ (pd.array which).curItems := by simpa [isFull] using full
    rw [enqueue, if_pos size]
    cases answer : pd.reallocs.headD true with
    | false =>
        constructor
        · rw [full, answer]
          rfl
        · rw [answer, pushed_failed _ slot full]
          cases which <;> rfl
        · intro other differs
          cases which <;> cases other <;> first | rfl | exact absurd rfl differs
        · simp only [stores, full, answer, if_true]
          cases which <;> rfl
        · rw [if_pos full]
          rfl
        · cases which <;> rfl
        · cases which <;> rfl
    | true =>
        let grown : Pd :=
          { pd.setArray which ((pd.array which).extend true) with reallocs := pd.reallocs.tail }
        have array : grown.array which = (pd.array which).extend true := by
          cases which <;> rfl
        have written := storeSlot_written grown which slot (pd.array which).slots
          (by rw [array]; rfl)
        dsimp only
        rw [if_pos rfl, written]
        constructor
        · rw [answer, Bool.not_true, Bool.and_false]
          rfl
        · rw [answer, pushed_grown _ slot full, modify_array, setArray_array, if_pos rfl, array]
          rfl
        · intro other differs
          rw [modify_array, setArray_array, if_neg differs]
          cases which <;> cases other <;> first | rfl | exact absurd rfl differs
        · simp only [stores, full, answer, if_true]
          cases which <;> rfl
        · rw [if_pos full, modify_reallocs]
          cases which <;> rfl
        · rw [modify_purged]
          cases which <;> rfl
        · rw [modify_nowMs]
          cases which <;> rfl
  · rw [Bool.not_eq_true] at full
    have size : ¬ (pd.array which).size ≤ (pd.array which).curItems := by simpa [isFull] using full
    rw [enqueue, if_neg size]
    cases block : (pd.array which).items with
    | none =>
        have null : (pd.array which).items.isSome = false := by rw [block]; rfl
        -- Room but no block: the slot is written through the null pointer.
        have lost : storeSlot pd which slot = { pd with crashed := true } := by
          rw [storeSlot, block]
        rw [lost]
        constructor
        · simp [full]
        · rw [pushed_lost _ slot _ full null]
          cases which <;> rfl
        · intro other _
          cases other <;> rfl
        · simp only [stores, full, null, Bool.false_eq_true, if_false]
        · simp only [full, Bool.false_eq_true, if_false]
        · rfl
        · rfl
    | some slots =>
        have present : (pd.array which).items.isSome = true := by rw [block]; rfl
        rw [storeSlot_written pd which slot slots block]
        constructor
        · simp [full]
        · rw [pushed_written _ slot _ full present, modify_array, setArray_array, if_pos rfl]
        · intro other differs
          rw [modify_array, setArray_array, if_neg differs]
        · simp only [stores, full, present, Bool.false_eq_true, if_false, if_true]
          cases which <;> rfl
        · simp only [full, Bool.false_eq_true, if_false, modify_reallocs]
          cases which <;> rfl
        · rw [modify_purged]
          cases which <;> rfl
        · rw [modify_nowMs]
          cases which <;> rfl

def isPending (pd : Pd) (ref : Ref) : Bool := (pd.heap ref).pendingNotification

theorem endDetection_update (ndpi : Ndpi) (pd : Pd) (tuple : Tuple) (ref : Ref) :
    (endDetection ndpi pd tuple ref).heap =
      Function.update pd.heap ref (concluded ndpi pd tuple ref) := by
  simp only [endDetection, concluded, access_heap]
  split
  · rw [pdGiveupDpi, Pd.modify, access_heap, access_policy]
  · rw [access_heap, Function.update_eq_self]

theorem endDetection_array (ndpi : Ndpi) (pd : Pd) (tuple : Tuple) (ref : Ref) (which : Which) :
    (endDetection ndpi pd tuple ref).array which = pd.array which := by
  simp only [endDetection]
  split
  · rw [pdGiveupDpi, modify_array, access_array]
  · exact access_array pd ref which

theorem endDetection_fields (ndpi : Ndpi) (pd : Pd) (tuple : Tuple) (ref : Ref) :
    (endDetection ndpi pd tuple ref).reallocs = pd.reallocs ∧
      (endDetection ndpi pd tuple ref).purged = pd.purged ∧
      (endDetection ndpi pd tuple ref).nowMs = pd.nowMs := by
  simp only [endDetection]
  split
  · rw [pdGiveupDpi, modify_reallocs, modify_purged, modify_nowMs]
    exact ⟨access_reallocs pd ref, access_purged pd ref, access_nowMs pd ref⟩
  · exact ⟨access_reallocs pd ref, access_purged pd ref, access_nowMs pd ref⟩

theorem notifConnection_idle (ndpi : Ndpi) (pd : Pd) (which : Which) (tuple : Tuple) (ref : Ref) :
    notifConnection ndpi pd which tuple ref =
      if isPending pd ref then (endDetection ndpi pd tuple ref, true)
      else enqueue (endDetection ndpi pd tuple ref) which ⟨tuple, ref⟩ := by
  have pending : ((endDetection ndpi pd tuple ref).heap ref).pendingNotification = isPending pd ref := by
    rw [endDetection_update, Function.update_self]
    exact (concluded_revised ndpi pd tuple ref).pending
  rw [← pending]
  rfl

end Calls

section Runs

/-- The arrays, and how many slots the block of each was allocated with. -/
structure Store where
  pd : Pd
  allocated : Which → Nat

inductive Call where
  | notify (ndpi : Ndpi) (which : Which) (tuple : Tuple) (ref : Ref)
  | clear (which : Which) (freeAll : Bool)
  | allocator (reallocs : List Bool)
  /-- What happens to the records between two calls. -/
  | records (heap : Ref → PdConn)

def grows (pd : Pd) (which : Which) (ref : Ref) : Bool :=
  !isPending pd ref && isFull (pd.array which)

def fails (pd : Pd) (which : Which) (ref : Ref) : Bool :=
  grows pd which ref && !pd.reallocs.headD true

def writtenSlot (pd : Pd) (which : Which) (ref : Ref) : Option Nat :=
  if isPending pd ref || fails pd which ref then none else some (pd.array which).curItems

namespace Store

def step (store : Store) : Call → Store
  | .notify ndpi which tuple ref =>
      { pd := (notifConnection ndpi store.pd which tuple ref).1
        allocated :=
          if grows store.pd which ref then
            Function.update store.allocated which
              (if store.pd.reallocs.headD true then ((store.pd.array which).extend true).size else 0)
          else store.allocated }
  | .clear which freeAll =>
      { pd := connsClear store.pd which freeAll
        allocated := Function.update store.allocated which 0 }
  | .allocator reallocs => { store with pd := { store.pd with reallocs } }
  | .records heap => { store with pd := { store.pd with heap } }

/-- What is asked of a call: a growth that fails is reported and leaves the array as it was, the
    earlier entries stay, and a write stays inside the block. -/
def Keeps (store : Store) : Call → Prop
  | .notify ndpi which tuple ref =>
      let outcome := notifConnection ndpi store.pd which tuple ref
      (fails store.pd which ref = true →
        outcome.2 = false ∧ outcome.1.array which = store.pd.array which) ∧
      (store.pd.array which).slots <+: (outcome.1.array which).slots ∧
      ∀ index ∈ writtenSlot store.pd which ref,
        index < (store.step (.notify ndpi which tuple ref)).allocated which
  | _ => True

/-- No growth fails. -/
def Grants (store : Store) : Call → Prop
  | .notify _ which _ ref => fails store.pd which ref = false
  | _ => True

instance (store : Store) (call : Call) : Decidable (Grants store call) :=
  match call with
  | .notify _ which _ ref => inferInstanceAs (Decidable (fails store.pd which ref = false))
  | .clear _ _ | .allocator _ | .records _ => isTrue trivial

/-- An array counts its entries, and its size is that of its block. -/
structure Sized (store : Store) : Prop where
  packed : ∀ which, (store.pd.array which).Packed
  allocated : ∀ which, store.allocated which = (store.pd.array which).size

section Growth

variable (store : Store) (ndpi : Ndpi) (which : Which) (tuple : Tuple) (ref : Ref)

theorem notify_pending (pending : isPending store.pd ref = true) (other : Which) :
    (notifConnection ndpi store.pd which tuple ref).1.array other = store.pd.array other := by
  rw [notifConnection_idle, if_pos pending]
  exact endDetection_array ndpi store.pd tuple ref other

theorem notify_array (idle : isPending store.pd ref = false) :
    (notifConnection ndpi store.pd which tuple ref).1.array which =
      pushed (store.pd.array which) (store.pd.reallocs.headD true) ⟨tuple, ref⟩ := by
  have array := (enqueue_spec (endDetection ndpi store.pd tuple ref) which ⟨tuple, ref⟩).array
  rw [endDetection_array, (endDetection_fields ndpi store.pd tuple ref).1] at array
  rw [notifConnection_idle, if_neg (by rw [idle]; exact Bool.false_ne_true)]
  exact array

theorem notify_others (other : Which) (differs : other ≠ which) :
    (notifConnection ndpi store.pd which tuple ref).1.array other = store.pd.array other := by
  cases pending : isPending store.pd ref with
  | true => exact notify_pending store ndpi which tuple ref pending other
  | false =>
      have others := (enqueue_spec (endDetection ndpi store.pd tuple ref) which ⟨tuple, ref⟩).others
      rw [notifConnection_idle, if_neg (by rw [pending]; exact Bool.false_ne_true)]
      exact (others other differs).trans (endDetection_array ndpi store.pd tuple ref other)

theorem extend_size (arr : ConnArray) (answer : Bool) : (arr.extend answer).size ≠ arr.size := by
  simp only [ConnArray.extend]
  split <;> omega

/-- A failed growth has already changed the size. -/
theorem keeps_grants (call : Call) (keeps : store.Keeps call) : store.Grants call := by
  cases call with
  | notify ndpi which tuple ref =>
      rw [Grants, ← Bool.not_eq_true]
      intro failed
      have unchanged := (keeps.1 failed).2
      simp only [fails, grows, Bool.and_eq_true, Bool.not_eq_true'] at failed
      obtain ⟨⟨idle, full⟩, refused⟩ := failed
      rw [notify_array store ndpi which tuple ref idle, refused, pushed_failed _ _ full] at unchanged
      exact extend_size _ false (congrArg ConnArray.size unchanged)
  | _ => trivial

variable (sized : store.Sized)

include sized

theorem granted_array (idle : isPending store.pd ref = false)
    (granted : fails store.pd which ref = false) :
    ∃ size, (notifConnection ndpi store.pd which tuple ref).1.array which =
        { items := some ((store.pd.array which).slots ++ [⟨tuple, ref⟩])
          size := size
          curItems := (store.pd.array which).curItems + 1 } ∧
      (store.step (.notify ndpi which tuple ref)).allocated which = size ∧
      (store.pd.array which).curItems < size := by
  have packed := sized.packed which
  rw [notify_array store ndpi which tuple ref idle]
  simp only [fails, grows, idle, Bool.not_false, Bool.true_and] at granted
  by_cases full : isFull (store.pd.array which) = true
  · have answered : store.pd.reallocs.headD true = true := by
      rw [full, Bool.true_and] at granted
      simpa using granted
    refine ⟨((store.pd.array which).extend true).size, ?_, ?_, extend_grows _ true full packed.room⟩
    · rw [answered, pushed_grown _ _ full]
    · simp only [step, grows, idle, full, answered, Bool.not_false, Bool.and_true, if_true,
        Function.update_self]
  · rw [Bool.not_eq_true] at full
    obtain ⟨vacant, block⟩ := packed_vacant _ packed full
    refine ⟨(store.pd.array which).size, ?_, ?_, vacant⟩
    · rw [pushed_written _ _ _ full block]
    · simp only [step, grows, full, Bool.and_false, Bool.false_eq_true, if_false]
      exact sized.allocated which

theorem grants_keeps (call : Call) (granted : store.Grants call) : store.Keeps call := by
  cases call with
  | notify ndpi which tuple ref =>
      have fine : fails store.pd which ref = false := granted
      refine ⟨fun failed => ?_, ?_⟩
      · rw [fine] at failed
        cases failed
      · cases pending : isPending store.pd ref with
        | true =>
            rw [notify_pending store ndpi which tuple ref pending]
            refine ⟨List.prefix_rfl, fun index written => ?_⟩
            rw [writtenSlot, pending] at written
            cases written
        | false =>
            obtain ⟨size, array, allocated, room⟩ :=
              granted_array store ndpi which tuple ref sized pending fine
            rw [array, allocated]
            refine ⟨List.prefix_append _ _, fun index written => ?_⟩
            rw [writtenSlot, pending, fine] at written
            cases written
            exact room
  | _ => trivial

omit sized in
theorem clearSlot_array (freeAll : Bool) (pd : Pd) (slot : Slot) (other : Which) :
    (clearSlot freeAll pd slot).array other = pd.array other := by
  unfold clearSlot
  dsimp only
  split
  · exact (purge_array (pd.access slot.data) slot.data other).trans (access_array pd _ other)
  · exact access_array pd slot.data other

omit sized in
theorem connsClear_array (pd : Pd) (freeAll : Bool) (other : Which) :
    (connsClear pd which freeAll).array other = if other = which then {} else pd.array other := by
  have each : ∀ (slots : List Slot) (current : Pd),
      (slots.foldl (clearSlot freeAll) current).array other = current.array other := by
    intro slots
    induction slots with
    | nil => exact fun _ => rfl
    | cons slot rest ih =>
        exact fun current => (ih _).trans (clearSlot_array freeAll current slot other)
  rw [connsClear, setArray_array, each]

theorem sized_step (call : Call) (granted : store.Grants call) : (store.step call).Sized := by
  cases call with
  | notify ndpi which tuple ref =>
      have others := notify_others store ndpi which tuple ref
      cases pending : isPending store.pd ref with
      | true =>
          -- A record that is queued already is not queued again.
          have same := notify_pending store ndpi which tuple ref pending
          constructor
          · exact fun other => (same other).symm ▸ sized.packed other
          · intro other
            simp only [step, grows, pending, Bool.not_true, Bool.false_and, Bool.false_eq_true,
              if_false, same]
            exact sized.allocated other
      | false =>
          obtain ⟨size, array, allocated, room⟩ :=
            granted_array store ndpi which tuple ref sized pending granted
          have untouched : ∀ other, other ≠ which →
              (store.step (.notify ndpi which tuple ref)).allocated other = store.allocated other := by
            intro other differs
            simp only [step]
            split
            · exact Function.update_of_ne differs ..
            · rfl
          constructor
          · intro other
            by_cases same : other = which
            · subst same
              have filled := (sized.packed other).filled
              rw [step, array]
              exact ⟨by simp [ConnArray.slots, ← filled], room, fun none => nomatch none⟩
            · rw [step, others other same]
              exact sized.packed other
          · intro other
            by_cases same : other = which
            · subst same
              rw [allocated, step, array]
            · rw [untouched other same, step, others other same]
              exact sized.allocated other
  | clear which freeAll =>
      have cleared := connsClear_array which store.pd freeAll
      constructor
      · intro other
        rw [step, cleared]
        split
        · exact ConnArray.packed_empty
        · exact sized.packed other
      · intro other
        rw [step, cleared]
        by_cases same : other = which
        · subst same
          rw [if_pos rfl]
          exact Function.update_self ..
        · rw [if_neg same]
          exact (Function.update_of_ne same ..).trans (sized.allocated other)
  | allocator reallocs =>
      constructor
      · intro other
        cases other with
        | newConns => exact sized.packed .newConns
        | connsUpdates => exact sized.packed .connsUpdates
      · intro other
        cases other with
        | newConns => exact sized.allocated .newConns
        | connsUpdates => exact sized.allocated .connsUpdates
  | records heap =>
      constructor
      · intro other
        cases other with
        | newConns => exact sized.packed .newConns
        | connsUpdates => exact sized.packed .connsUpdates
      · intro other
        cases other with
        | newConns => exact sized.allocated .newConns
        | connsUpdates => exact sized.allocated .connsUpdates

end Growth

/-- The arrays stay intact along just the runs in which no growth fails. -/
theorem growth_intact (store : Store) (sized : store.Sized) (calls : List Call) :
    (Machine.Along step Keeps store calls ↔ Machine.Along step Grants store calls) ∧
      (Machine.Along step Grants store calls → (Machine.run step store calls).Sized) := by
  refine ⟨⟨fun kept => ?_, fun granted => ?_⟩, fun granted => ?_⟩
  · exact Machine.along_of_invariant step Keeps Grants (fun _ => True) (fun _ _ _ _ => trivial)
      (fun current call _ keeps => keeps_grants current call keeps) store calls kept trivial
  · exact Machine.along_of_invariant step Grants Keeps Sized
      (fun current call sized granted => sized_step current sized call granted)
      (fun current call sized granted => grants_keeps current sized call granted)
      store calls granted sized
  · exact Machine.run_invariant step Grants Sized
      (fun current call sized granted => sized_step current sized call granted)
      store calls granted sized

section Example

open CaptureClient (plainTables plainNdpi webTuple)

def empty (reallocs : List Bool) : Store :=
  { pd := { tables := plainTables, created := 2, reallocs }, allocated := fun _ => 0 }

theorem empty_sized (reallocs : List Bool) : (empty reallocs).Sized where
  packed which := by cases which <;> exact ConnArray.packed_empty
  allocated which := by cases which <;> rfl

def manyOpened : List Call :=
  (List.range 10).map fun ref => .notify plainNdpi .newConns webTuple ref

/-- Intact if both growths are answered, and not if the second one fails. -/
theorem manyOpened_intact :
    Machine.Along step Keeps (empty []) manyOpened ∧
      ¬ Machine.Along step Keeps (empty [true, false]) manyOpened :=
  ⟨(growth_intact (empty []) (empty_sized []) manyOpened).1.mpr (by decide +kernel),
    mt (growth_intact (empty [true, false]) (empty_sized _) manyOpened).1.mp (by decide +kernel)⟩

/-- After a growth that fails there is a size but no block, and the next call writes to null. -/
theorem failedGrowth_writesNull :
    ¬ Machine.Along step Keeps (empty [false]) [.notify plainNdpi .newConns webTuple 0] ∧
      (Machine.run step (empty [false]) [.notify plainNdpi .newConns webTuple 0,
        .notify plainNdpi .newConns webTuple 1]).pd.crashed = true := by
  refine ⟨fun kept => ?_, by decide⟩
  have unchanged := (kept.1.1 (by decide)).2
  revert unchanged
  decide

end Example

end Store

end Runs

end Ptnet.NotificationArray
