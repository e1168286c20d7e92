import Ptnet.LibpcapCounters
import Ptnet.NotificationArray

/-!
The purge of idle connections, `purge_expired_connections` of core/capture_libpcap.c. The pass
deletes from the table it walks and may free a record or queue it for a last notification; what it
does to each connection is settled by the state before it and by the answers of the allocator.
-/

namespace Ptnet.IdlePurge

open Connection Pcapdroid LibpcapCapture
open Detection (Ndpi)
open NotificationArray

section Pushes

/-- The outcome of several notifications: the array, the answers that are left and the slots that
    were refused. -/
def pushAll : ConnArray → List Bool → List Slot → ConnArray × List Bool × List Slot
  | arr, answers, [] => (arr, answers, [])
  | arr, answers, slot :: rest =>
      let answer := answers.headD true
      let later := pushAll (pushed arr answer slot)
        (if isFull arr then answers.tail else answers) rest
      (later.1, later.2.1, (if isFull arr && !answer then [slot] else []) ++ later.2.2)

/-- One of the growths that `count` notifications need fails. -/
def growthFails : Nat → Nat → List Bool → Nat → Bool
  | _, _, _, 0 => false
  | size, curItems, answers, count + 1 =>
      if size ≤ curItems then
        !answers.headD true ||
          growthFails (if size = 0 then 8 else size * 2) (curItems + 1) answers.tail count
      else growthFails size (curItems + 1) answers count

theorem pushAll_lost (arr : ConnArray) (answers : List Bool) (slots : List Slot)
    (null : arr.items = none) (vacant : isFull arr = false) :
    pushAll arr answers slots = (arr, answers, []) := by
  induction slots with
  | nil => rfl
  | cons slot rest ih =>
      have same := NotificationArray.pushed_lost arr slot (answers.headD true) vacant
        (by rw [null]; rfl)
      simp only [pushAll, same, vacant, Bool.false_eq_true, if_false, Bool.false_and, ih,
        List.nil_append]

theorem pushAll_refused (arr : ConnArray) (answers : List Bool) (slots : List Slot) :
    ∀ slot ∈ (pushAll arr answers slots).2.2, slot ∈ slots := by
  induction slots generalizing arr answers with
  | nil => exact fun _ member => member
  | cons slot rest ih =>
      intro other member
      rcases List.mem_append.mp member with first | later
      · split at first
        · exact List.mem_singleton.mp first ▸ List.mem_cons_self
        · exact absurd first List.not_mem_nil
      · exact List.mem_cons_of_mem slot (ih _ _ other later)

/-- Every slot is stored, or a growth fails: then the array is lost, and just one slot refused. -/
theorem pushAll_packed (arr : ConnArray) (answers : List Bool) (slots : List Slot)
    (packed : arr.Packed) :
    (growthFails arr.size arr.curItems answers slots.length = false ∧
        (pushAll arr answers slots).2.2 = [] ∧
        (pushAll arr answers slots).1.slots = arr.slots ++ slots) ∨
      growthFails arr.size arr.curItems answers slots.length = true ∧
        (∃ slot ∈ slots, (pushAll arr answers slots).2.2 = [slot]) ∧
        (pushAll arr answers slots).1.slots = [] := by
  induction slots generalizing arr answers with
  | nil => exact Or.inl ⟨rfl, rfl, (List.append_nil _).symm⟩
  | cons slot rest ih =>
      let answer := answers.headD true
      by_cases granted : isFull arr = true → answer = true
      · obtain ⟨packed, slots, items, size⟩ := pushed_packed arr answer slot packed granted
        have refused : (isFull arr && !answers.headD true) = false := by
          cases full : isFull arr with
          | false => rfl
          | true => rw [show answers.headD true = true from granted full]; rfl
        have later := ih (pushed arr answer slot)
          (if isFull arr then answers.tail else answers) packed
        have fails : growthFails arr.size arr.curItems answers (rest.length + 1) =
            growthFails (pushed arr answer slot).size (pushed arr answer slot).curItems
              (if isFull arr then answers.tail else answers) rest.length := by
          rw [growthFails, size, items]
          by_cases full : isFull arr = true
          · have bound : arr.size ≤ arr.curItems := by simpa [isFull] using full
            rw [if_pos bound, if_pos full, if_pos full, show answers.headD true = true from granted full]
            rfl
          · have bound : ¬ arr.size ≤ arr.curItems := by simpa [isFull] using full
            rw [if_neg bound, if_neg full, if_neg full]
        rw [List.length_cons, fails]
        simp only [pushAll, refused, Bool.false_eq_true, if_false, List.nil_append]
        rw [slots, List.append_assoc, List.singleton_append] at later
        apply later.imp_right
        rintro ⟨failed, ⟨other, member, refused⟩, lost⟩
        exact ⟨failed, ⟨other, List.mem_cons_of_mem slot member, refused⟩, lost⟩
      · obtain ⟨full, negative⟩ := Classical.not_imp.mp granted
        have refused : answers.headD true = false := by simpa [answer] using negative
        have bound : arr.size ≤ arr.curItems := by simpa [isFull] using full
        have bigger := extend_grows arr false full packed.room
        have vacant : isFull (arr.extend false) = false := decide_eq_false (Nat.not_le.mpr bigger)
        have lost := pushAll_lost (arr.extend false) answers.tail rest rfl vacant
        refine Or.inr ⟨?_, ⟨slot, List.mem_cons_self, ?_⟩, ?_⟩
        · rw [List.length_cons, growthFails, if_pos bound, refused]
          rfl
        · simp only [pushAll, refused, full, pushed_failed arr slot full, if_true, lost]
          rfl
        · simp only [pushAll, refused, full, pushed_failed arr slot full, if_true, lost]
          rfl

end Pushes

section Removal

def expired (pd : Pd) (conn : Slot) : Bool :=
  (pd.heap conn.data).lastUpdateMs + purgeTimeout conn.tuple.ipproto (pd.heap conn.data).status ≤
    pd.nowMs

/-- Closed, and nothing to tell. -/
def spent (data : PdConn) : Bool := data.status.isClosed && data.updateType = 0

def needsSlot (data : PdConn) : Bool := !spent data && !data.pendingNotification

theorem isExpired_eq (state : Libpcap) (conn : Slot) :
    Counted.isExpired false state conn = expired state.pd conn := by
  simp only [Counted.isExpired, expired, access_heap, access_nowMs, Bool.false_or]

theorem expireConn_spent (data : PdConn) :
    ((expireConn data).updateType = 0) = (spent data = true) := by
  rw [expireConn, spent]
  cases closed : data.status.isClosed with
  | true => simp
  | false =>
      have dirty := touch_dirty { data with toPurge := true, status := .closed } CONN_UPDATE_STATS
        (by decide)
      simpa using dirty

theorem expireConn_closed (data : PdConn) : (expireConn data).status.isClosed = true := by
  rw [expireConn]
  cases closed : data.status.isClosed with
  | true => exact closed
  | false => rfl

/-- The state while a connection is removed: its record is closed, the others are as before, and
    these are the array, the answers of the allocator and the records that were freed. -/
structure Carries (before : Pd) (conn : Slot) (array : ConnArray) (reallocs : List Bool)
    (purged : Ref → Nat) (current : Pd) : Prop where
  nowMs : current.nowMs = before.nowMs
  newConns : current.newConns = before.newConns
  array : current.connsUpdates = array
  reallocs : current.reallocs = reallocs
  purged : current.purged = purged
  others : ∀ ref, ref ≠ conn.data → current.heap ref = before.heap ref
  closed : (current.heap conn.data).status.isClosed = true

theorem marked_carries (pd : Pd) (conn : Slot) :
    Carries pd conn pd.connsUpdates pd.reallocs pd.purged
      ((pd.access conn.data).modify conn.data expireConn) where
  nowMs := (modify_nowMs _ _ _).trans (access_nowMs _ _)
  newConns := (modify_array _ _ _ .newConns).trans (access_array _ _ .newConns)
  array := (modify_array _ _ _ .connsUpdates).trans (access_array _ _ .connsUpdates)
  reallocs := (modify_reallocs _ _ _).trans (access_reallocs _ _)
  purged := (modify_purged _ _ _).trans (access_purged _ _)
  others ref differs := by rw [modify_heap, access_heap, Function.update_of_ne differs]
  closed := by
    rw [modify_heap, access_heap, Function.update_self]
    exact expireConn_closed _

namespace Carries

variable {before current : Pd} {conn : Slot} {array : ConnArray} {reallocs : List Bool}
variable {purged : Ref → Nat} (carries : Carries before conn array reallocs purged current)

include carries

theorem ended (ndpi : Ndpi) :
    Carries before conn array reallocs purged (endDetection ndpi current conn.tuple conn.data) where
  nowMs := (endDetection_fields ndpi current _ _).2.2.trans carries.nowMs
  newConns := (endDetection_array ndpi current _ _ .newConns).trans carries.newConns
  array := (endDetection_array ndpi current _ _ .connsUpdates).trans carries.array
  reallocs := (endDetection_fields ndpi current _ _).1.trans carries.reallocs
  purged := (endDetection_fields ndpi current _ _).2.1.trans carries.purged
  others ref differs := by
    rw [endDetection_update, Function.update_of_ne differs]
    exact carries.others ref differs
  closed := by
    rw [endDetection_update, Function.update_self, (concluded_revised _ _ _ _).status]
    exact carries.closed

theorem enqueued :
    Carries before conn (pushed array (reallocs.headD true) conn)
      (if isFull array then reallocs.tail else reallocs) purged
      (enqueue current .connsUpdates conn).1 := by
  have stored := enqueue_spec current .connsUpdates conn
  have same : current.array .connsUpdates = array := carries.array
  constructor
  · exact stored.nowMs.trans carries.nowMs
  · exact (stored.others .newConns (by decide)).trans carries.newConns
  · rw [← same, ← carries.reallocs]
    exact stored.array
  · rw [← same, ← carries.reallocs]
    exact stored.reallocs
  · exact stored.purged.trans carries.purged
  · intro ref differs
    rw [stored.heap, ← carries.others ref differs]
    split
    · exact Function.update_of_ne differs ..
    · rfl
  · rw [stored.heap]
    split
    · rw [Function.update_self]
      exact carries.closed
    · exact carries.closed

theorem freed :
    Carries before conn array reallocs (Function.update purged conn.data (purged conn.data + 1))
      (pdPurgeConnection current conn.data) where
  nowMs := (access_nowMs current conn.data).trans carries.nowMs
  newConns := (purge_array current conn.data .newConns).trans carries.newConns
  array := (purge_array current conn.data .connsUpdates).trans carries.array
  reallocs := (access_reallocs current conn.data).trans carries.reallocs
  purged := by
    rw [← carries.purged, ← access_purged current conn.data]
    rfl
  others ref differs := by
    change (current.access conn.data).heap ref = _
    rw [access_heap]
    exact carries.others ref differs
  closed := by
    change ((current.access conn.data).heap conn.data).status.isClosed = true
    rw [access_heap]
    exact carries.closed

end Carries

def refusedSlot (pd : Pd) (conn : Slot) : Bool :=
  needsSlot (pd.heap conn.data) && (isFull pd.connsUpdates && !pd.reallocs.headD true)

structure Removed (state after : Libpcap) (conn : Slot) : Prop where
  table : after.connections = removeConnection state.connections conn
  carries : Carries state.pd conn
    (if needsSlot (state.pd.heap conn.data) then
      pushed state.pd.connsUpdates (state.pd.reallocs.headD true) conn
    else state.pd.connsUpdates)
    (if needsSlot (state.pd.heap conn.data) && isFull state.pd.connsUpdates then
      state.pd.reallocs.tail
    else state.pd.reallocs)
    (if spent (state.pd.heap conn.data) || refusedSlot state.pd conn then
      Function.update state.pd.purged conn.data (state.pd.purged conn.data + 1)
    else state.pd.purged) after.pd

theorem purgeConnection_removed (ndpi : Ref → Ndpi) (state : Libpcap) (conn : Slot)
    (due : expired state.pd conn = true) :
    Removed state (purgeConnection ndpi false state conn) conn := by
  rw [← isExpired_eq, Counted.isExpired] at due
  have marked := marked_carries state.pd conn
  have own : ((state.pd.access conn.data).modify conn.data expireConn).heap conn.data =
      expireConn (state.pd.heap conn.data) := by
    rw [modify_heap, access_heap, Function.update_self]
  rw [purgeConnection]
  dsimp only
  rw [if_pos due]
  generalize (state.pd.access conn.data).modify conn.data expireConn = current at marked own
  refine ⟨rfl, ?_⟩
  have clean : (current.heap conn.data).updateType = 0 ↔ spent (state.pd.heap conn.data) = true := by
    rw [own, expireConn_spent]
  have pending : isPending current conn.data = (state.pd.heap conn.data).pendingNotification := by
    rw [isPending, own]
    exact (expireConn_marks _).1
  rw [refusedSlot, needsSlot]
  cases quiet : spent (state.pd.heap conn.data) with
  | true =>
      rw [if_pos (clean.mpr quiet)]
      exact marked.freed
  | false =>
      have told : ¬ (current.heap conn.data).updateType = 0 := fun zero => by
        rw [clean.mp zero] at quiet
        cases quiet
      rw [if_neg told, pdNotifyConnectionUpdate, notifConnection_idle, pending]
      cases waiting : (state.pd.heap conn.data).pendingNotification with
      | true => exact marked.ended (ndpi conn.data)
      | false =>
          have ended := marked.ended (ndpi conn.data)
          have stored := ended.enqueued
          have result := (enqueue_spec (endDetection (ndpi conn.data) current conn.tuple conn.data)
            .connsUpdates conn).result
          rw [show (endDetection (ndpi conn.data) current conn.tuple conn.data).array .connsUpdates =
            state.pd.connsUpdates from ended.array, ended.reallocs] at result
          rw [if_neg Bool.false_ne_true]
          change Carries state.pd conn (pushed state.pd.connsUpdates _ conn) _ _
            (if (enqueue (endDetection (ndpi conn.data) current conn.tuple conn.data) .connsUpdates
              conn).2 then _ else _)
          rw [result]
          cases refused : isFull state.pd.connsUpdates && !state.pd.reallocs.headD true with
          | false => exact stored
          | true => exact stored.freed

end Removal

section Pass

def dueSlots (pd : Pd) (conns : List Slot) : List Slot := conns.filter (expired pd)

def needySlots (pd : Pd) (conns : List Slot) : List Slot :=
  (dueSlots pd conns).filter fun conn => needsSlot (pd.heap conn.data)

def spentSlots (pd : Pd) (conns : List Slot) : List Slot :=
  (dueSlots pd conns).filter fun conn => spent (pd.heap conn.data)

def pushes (pd : Pd) (conns : List Slot) : ConnArray × List Bool × List Slot :=
  pushAll pd.connsUpdates pd.reallocs (needySlots pd conns)

structure Passed (state after : Libpcap) (conns : List Slot) : Prop where
  table : after.connections = state.connections.filter fun other =>
    other.data ∉ (dueSlots state.pd conns).map Slot.data
  newConns : after.pd.newConns = state.pd.newConns
  array : after.pd.connsUpdates = (pushes state.pd conns).1
  purged : ∀ ref, after.pd.purged ref = state.pd.purged ref +
    if ref ∈ (spentSlots state.pd conns ++ (pushes state.pd conns).2.2).map Slot.data then 1 else 0
  others : ∀ ref, ref ∉ (dueSlots state.pd conns).map Slot.data →
    after.pd.heap ref = state.pd.heap ref
  closed : ∀ conn ∈ dueSlots state.pd conns, (after.pd.heap conn.data).status.isClosed = true

theorem dueSlots_congr (before after : Pd) (conns : List Slot) (nowMs : after.nowMs = before.nowMs)
    (heap : ∀ conn ∈ conns, after.heap conn.data = before.heap conn.data) :
    dueSlots after conns = dueSlots before conns :=
  List.filter_congr fun conn member => by rw [expired, expired, heap conn member, nowMs]

theorem filter_due_congr (before after : Pd) (conns : List Slot) (nowMs : after.nowMs = before.nowMs)
    (heap : ∀ conn ∈ conns, after.heap conn.data = before.heap conn.data) (test : PdConn → Bool) :
    (dueSlots after conns).filter (fun conn => test (after.heap conn.data)) =
      (dueSlots before conns).filter fun conn => test (before.heap conn.data) := by
  rw [dueSlots_congr before after conns nowMs heap]
  refine List.filter_congr fun conn member => ?_
  rw [heap conn (List.mem_of_mem_filter member)]

theorem purgeConnection_fresh (ndpi : Ref → Ndpi) (state : Libpcap) (conn : Slot)
    (fresh : expired state.pd conn = false) :
    (purgeConnection ndpi false state conn).connections = state.connections ∧
      (purgeConnection ndpi false state conn).pd.heap = state.pd.heap ∧
      (purgeConnection ndpi false state conn).pd.nowMs = state.pd.nowMs ∧
      (∀ which, (purgeConnection ndpi false state conn).pd.array which = state.pd.array which) ∧
      (purgeConnection ndpi false state conn).pd.reallocs = state.pd.reallocs ∧
      (purgeConnection ndpi false state conn).pd.purged = state.pd.purged := by
  rw [← isExpired_eq, Counted.isExpired] at fresh
  rw [purgeConnection]
  dsimp only
  rw [if_neg (by rw [fresh]; exact Bool.false_ne_true)]
  exact ⟨rfl, access_heap _ _, access_nowMs _ _, access_array _ _, access_reallocs _ _,
    access_purged _ _⟩

theorem freed_once (conn : Slot) (idle refused : Bool) (spents refusals : List Slot)
    (purged : Ref → Nat) (apart : ∀ other ∈ spents ++ refusals, other.data ≠ conn.data) (ref : Ref) :
    (if idle || refused then Function.update purged conn.data (purged conn.data + 1) else purged) ref +
        (if ref ∈ (spents ++ refusals).map Slot.data then 1 else 0) =
      purged ref + if ref ∈ (((if idle then [conn] else []) ++ spents) ++
        ((if refused then [conn] else []) ++ refusals)).map Slot.data then 1 else 0 := by
  have split : ref ∈ (((if idle then [conn] else []) ++ spents) ++
      ((if refused then [conn] else []) ++ refusals)).map Slot.data ↔
        ((idle || refused) = true ∧ ref = conn.data) ∨ ref ∈ (spents ++ refusals).map Slot.data := by
    cases idle <;> cases refused <;> simp [eq_comm, or_left_comm]
  by_cases own : ref = conn.data
  · subst own
    have later : conn.data ∉ (spents ++ refusals).map Slot.data := fun member => by
      obtain ⟨other, listed, same⟩ := List.mem_map.mp member
      exact apart other listed same
    rw [if_neg later]
    by_cases freed : (idle || refused) = true
    · rw [if_pos freed, Function.update_self, if_pos (split.mpr (Or.inl ⟨freed, rfl⟩))]
    · rw [if_neg freed, if_neg fun member => (split.mp member).elim (fun now => freed now.1) later]
  · have unchanged : (if idle || refused then Function.update purged conn.data (purged conn.data + 1)
        else purged) ref = purged ref := by
      split
      · exact Function.update_of_ne own ..
      · rfl
    rw [unchanged]
    by_cases member : ref ∈ (spents ++ refusals).map Slot.data
    · rw [if_pos member, if_pos (split.mpr (Or.inr member))]
    · rw [if_neg member, if_neg fun listed => (split.mp listed).elim (fun now => own now.2) member]

theorem purge_passes (ndpi : Ref → Ndpi) (conns : List Slot) (state : Libpcap)
    (apart : (conns.map Slot.data).Nodup) :
    Passed state (conns.foldl (purgeConnection ndpi false) state) conns := by
  induction conns generalizing state with
  | nil =>
      constructor
      · simp [dueSlots]
      · rfl
      · rfl
      · exact fun _ => rfl
      · exact fun _ _ => rfl
      · exact fun _ member => absurd member List.not_mem_nil
  | cons conn rest ih =>
      -- No two slots share a record, so the head leaves the records of the rest as they were.
      obtain ⟨fresh, later⟩ := List.nodup_cons.mp apart
      have differs : ∀ other ∈ rest, other.data ≠ conn.data := fun other member same =>
        fresh (same ▸ List.mem_map_of_mem member)
      rw [List.foldl_cons]
      cases due : expired state.pd conn with
      | false =>
          obtain ⟨connections, heap, nowMs, arrays, reallocs, purged⟩ :=
            purgeConnection_fresh ndpi state conn due
          -- A slot that is not due stays: both passes agree from here on.
          have passed := ih (purgeConnection ndpi false state conn) later
          generalize purgeConnection ndpi false state conn = middle at *
          have same : ∀ other ∈ rest, middle.pd.heap other.data = state.pd.heap other.data :=
            fun other _ => congrFun heap other.data
          have dueRest : dueSlots state.pd (conn :: rest) = dueSlots middle.pd rest := by
            rw [dueSlots_congr state.pd middle.pd rest nowMs same]
            exact List.filter_cons_of_neg (by rw [due]; exact Bool.false_ne_true)
          have chosen : ∀ test : PdConn → Bool,
              (dueSlots state.pd (conn :: rest)).filter (fun other => test (state.pd.heap other.data)) =
                (dueSlots middle.pd rest).filter fun other => test (middle.pd.heap other.data) := by
            intro test
            rw [dueRest, heap]
          have pushed : pushes state.pd (conn :: rest) = pushes middle.pd rest := by
            rw [pushes, pushes, needySlots, needySlots, chosen needsSlot, reallocs,
              show middle.pd.connsUpdates = _ from arrays .connsUpdates]
            rfl
          constructor
          · rw [dueRest, ← connections]
            exact passed.table
          · exact passed.newConns.trans (arrays .newConns)
          · rw [pushed]
            exact passed.array
          · intro ref
            rw [pushed, spentSlots, chosen spent, ← purged]
            exact passed.purged ref
          · intro ref absent
            rw [dueRest] at absent
            rw [passed.others ref absent, heap]
          · rw [dueRest]
            exact passed.closed
      | true =>
          have removed := purgeConnection_removed ndpi state conn due
          have passed := ih (purgeConnection ndpi false state conn) later
          generalize purgeConnection ndpi false state conn = middle at removed passed
          have heap : ∀ other ∈ rest, middle.pd.heap other.data = state.pd.heap other.data :=
            fun other member => removed.carries.others other.data (differs other member)
          have dueRest := dueSlots_congr state.pd middle.pd rest removed.carries.nowMs heap
          have needyRest := filter_due_congr state.pd middle.pd rest removed.carries.nowMs heap needsSlot
          have spentRest := filter_due_congr state.pd middle.pd rest removed.carries.nowMs heap spent
          -- The head leaves the table; for the rest the clock and the records are as before.
          have dueAll : dueSlots state.pd (conn :: rest) = conn :: dueSlots middle.pd rest := by
            rw [dueRest]
            exact List.filter_cons_of_pos due
          have chosen : ∀ test : PdConn → Bool,
              (dueSlots state.pd (conn :: rest)).filter (fun other => test (state.pd.heap other.data)) =
                (if test (state.pd.heap conn.data) then [conn] else []) ++
                  (dueSlots middle.pd rest).filter fun other => test (middle.pd.heap other.data) := by
            intro test
            rw [filter_due_congr state.pd middle.pd rest removed.carries.nowMs heap test, dueAll,
              dueRest, List.filter_cons]
            split <;> rfl
          -- A head that carries a change is queued first, or refused where realloc fails.
          have pushed : (pushes state.pd (conn :: rest)).1 = (pushes middle.pd rest).1 ∧
              (pushes state.pd (conn :: rest)).2.2 =
                (if refusedSlot state.pd conn then [conn] else []) ++ (pushes middle.pd rest).2.2 := by
            have array := removed.carries.array
            have reallocs := removed.carries.reallocs
            rw [pushes, needySlots, chosen needsSlot, refusedSlot]
            cases needs : needsSlot (state.pd.heap conn.data) with
            | true =>
                rw [needs, if_pos rfl] at array
                rw [needs, Bool.true_and] at reallocs
                rw [if_pos rfl, List.singleton_append, pushAll, ← array, ← reallocs, Bool.true_and]
                exact ⟨rfl, rfl⟩
            | false =>
                rw [needs, if_neg Bool.false_ne_true] at array
                rw [needs, Bool.false_and, if_neg Bool.false_ne_true] at reallocs
                rw [if_neg Bool.false_ne_true, Bool.false_and, if_neg Bool.false_ne_true,
                  List.nil_append, List.nil_append, ← array, ← reallocs]
                exact ⟨rfl, rfl⟩
          constructor
          · rw [passed.table, removed.table, removeConnection, List.filter_filter, dueAll]
            refine List.filter_congr fun other _ => ?_
            rw [Bool.eq_iff_iff]
            simp [and_comm]
          · exact passed.newConns.trans removed.carries.newConns
          · rw [pushed.1]
            exact passed.array
          · intro ref
            rw [passed.purged ref, removed.carries.purged, pushed.2,
              show spentSlots state.pd (conn :: rest) = _ ++ spentSlots middle.pd rest from chosen spent]
            exact freed_once conn _ _ _ _ state.pd.purged (fun other member => by
              rcases List.mem_append.mp member with idle | refused
              · exact differs other (List.mem_of_mem_filter (List.mem_of_mem_filter idle))
              · exact differs other (List.mem_of_mem_filter (List.mem_of_mem_filter
                  (pushAll_refused _ _ _ other refused)))) ref
          · intro ref absent
            rw [dueAll, List.map_cons, List.mem_cons, not_or] at absent
            rw [passed.others ref absent.2, removed.carries.others ref absent.1]
          · rw [dueAll]
            intro other member
            rcases List.mem_cons.mp member with rfl | among
            · rw [passed.others other.data]
              · exact removed.carries.closed
              · intro listed
                obtain ⟨same, within, equal⟩ := List.mem_map.mp listed
                exact differs same (List.mem_of_mem_filter within) equal
            · exact passed.closed other among

theorem remove_conns (stats : ConnStats) (ipproto : Nat) (protocol : Protocol) :
    (stats.remove ipproto).conns protocol =
      stats.conns protocol - if protocolOf ipproto = some protocol then 1 else 0 := by
  rw [ConnStats.remove]
  cases own : protocolOf ipproto with
  | none => simp
  | some other =>
      by_cases same : other = protocol
      · subst same
        simp
      · simp [same, Ne.symm same]

theorem purge_stats (ndpi : Ref → Ndpi) (conns : List Slot) (state : Counted)
    (apart : (conns.map Slot.data).Nodup) (protocol : Protocol) :
    (conns.foldl (Counted.purgeConnection ndpi false) state).stats.conns protocol =
        state.stats.conns protocol -
          BitVec.ofNat 16 (countOf protocol (dueSlots state.lib.pd conns)) ∧
      (conns.foldl (Counted.purgeConnection ndpi false) state).stats.opened = state.stats.opened := by
  induction conns generalizing state with
  | nil => exact ⟨(BitVec.sub_zero _).symm, rfl⟩
  | cons conn rest ih =>
      obtain ⟨fresh, later⟩ := List.nodup_cons.mp apart
      obtain ⟨conns, opened⟩ := ih (Counted.purgeConnection ndpi false state conn) later
      rw [List.foldl_cons, conns, opened]
      simp only [Counted.purgeConnection, isExpired_eq]
      cases due : expired state.lib.pd conn with
      | false =>
          obtain ⟨-, heap, nowMs, -, -, -⟩ := purgeConnection_fresh ndpi state.lib conn due
          have dueRest := dueSlots_congr state.lib.pd _ rest nowMs fun other _ =>
            congrFun heap other.data
          have dueAll : dueSlots state.lib.pd (conn :: rest) = dueSlots state.lib.pd rest :=
            List.filter_cons_of_neg (by rw [due]; exact Bool.false_ne_true)
          rw [dueRest, dueAll]
          exact ⟨rfl, rfl⟩
      | true =>
          have removed := purgeConnection_removed ndpi state.lib conn due
          have dueRest := dueSlots_congr state.lib.pd _ rest removed.carries.nowMs
            fun other member => removed.carries.others other.data fun same =>
              fresh (same ▸ List.mem_map_of_mem member)
          have dueAll : dueSlots state.lib.pd (conn :: rest) = conn :: dueSlots state.lib.pd rest :=
            List.filter_cons_of_pos due
          rw [dueRest, dueAll, if_pos rfl, remove_conns, remove_opened, countOf, countOf,
            List.countP_cons, BitVec.ofNat_add]
          refine ⟨?_, rfl⟩
          generalize List.countP _ (dueSlots state.lib.pd rest) = later
          by_cases own : protocolOf conn.tuple.ipproto = some protocol
          · simp only [own, if_true, decide_true]
            bv_omega
          · simp only [own, if_false, decide_false, Bool.false_eq_true]
            bv_omega

end Pass

section Purging

def idleTimeout (ipproto : Nat) (status : ConnStatus) : Nat :=
  if ipproto = IPPROTO_TCP then
    if status.isClosed then TCP_CLOSED_TIMEOUT_SEC * 1000 else TCP_TIMEOUT_SEC * 1000
  else if ipproto = IPPROTO_UDP then UDP_TIMEOUT_SEC * 1000
  else if ipproto = IPPROTO_ICMP then ICMP_TIMEOUT_SEC * 1000
  else 0

def idle (pd : Pd) (conn : Slot) : Bool :=
  (pd.heap conn.data).lastUpdateMs + idleTimeout conn.tuple.ipproto (pd.heap conn.data).status ≤
    pd.nowMs

/-- A periodic purge does what it is for. -/
structure Purges (ndpi : Ref → Ndpi) (state : Counted) : Prop where
  table : (state.purgeExpiredConnections ndpi false).lib.connections =
    state.lib.connections.filter fun conn => !idle state.lib.pd conn
  counters : ∀ protocol,
    (state.purgeExpiredConnections ndpi false).stats.conns protocol = state.stats.conns protocol -
      BitVec.ofNat 16 (countOf protocol (state.lib.connections.filter (idle state.lib.pd)))
  openings : (state.purgeExpiredConnections ndpi false).stats.opened = state.stats.opened
  others : ∀ ref, (∀ conn ∈ state.lib.connections, idle state.lib.pd conn = true → conn.data ≠ ref) →
    (state.purgeExpiredConnections ndpi false).lib.pd.heap ref = state.lib.pd.heap ref ∧
    (state.purgeExpiredConnections ndpi false).lib.pd.purged ref = state.lib.pd.purged ref ∧
    (ref ∈ (state.purgeExpiredConnections ndpi false).lib.pd.queued ↔ ref ∈ state.lib.pd.queued)
  closed : ∀ conn ∈ state.lib.connections, idle state.lib.pd conn = true →
    ((state.purgeExpiredConnections ndpi false).lib.pd.heap conn.data).status.isClosed = true
  settled : ∀ conn ∈ state.lib.connections, idle state.lib.pd conn = true →
    let after := (state.purgeExpiredConnections ndpi false).lib.pd
    after.purged conn.data = state.lib.pd.purged conn.data + 1 ∧ conn.data ∉ after.queued ∨
      after.purged conn.data = state.lib.pd.purged conn.data ∧ conn.data ∈ after.queued

structure Tidy (state : Libpcap) : Prop where
  distinct : (state.connections.map Slot.data).Nodup
  packed : state.pd.connsUpdates.Packed
  queues : state.pd.queued.Nodup
  pending : ∀ conn ∈ state.connections,
    (state.pd.heap conn.data).pendingNotification = true ↔ conn.data ∈ state.pd.queued
  dirty : ∀ conn ∈ state.connections,
    (state.pd.heap conn.data).pendingNotification = true → (state.pd.heap conn.data).updateType ≠ 0

/-- No ICMP connection has been idle for at least 1005 ms and less than 5000 ms. -/
def Timely (state : Libpcap) : Prop :=
  ∀ conn ∈ state.connections, conn.tuple.ipproto = IPPROTO_ICMP →
    ¬((state.pd.heap conn.data).lastUpdateMs + (ICMP_TIMEOUT_SEC + 1000) ≤ state.pd.nowMs ∧
      state.pd.nowMs < (state.pd.heap conn.data).lastUpdateMs + ICMP_TIMEOUT_SEC * 1000)

/-- The growths of the array are granted, or a single slot is refused and nothing is lost. -/
def Roomy (state : Libpcap) : Prop :=
  let arr := state.pd.connsUpdates
  let needy := needySlots state.pd state.connections
  growthFails arr.size arr.curItems state.pd.reallocs needy.length = false ∨
    arr.slots = [] ∧ needy.length = 1

theorem idle_expired (pd : Pd) (conn : Slot) (old : idle pd conn = true) :
    expired pd conn = true := by
  have within : purgeTimeout conn.tuple.ipproto (pd.heap conn.data).status ≤
      idleTimeout conn.tuple.ipproto (pd.heap conn.data).status := by
    rw [purgeTimeout, idleTimeout]
    split
    · exact Nat.le_refl _
    · split
      · exact Nat.le_refl _
      · split <;> decide
  have waited := of_decide_eq_true old
  exact decide_eq_true (Nat.le_trans (Nat.add_le_add_left within _) waited)

theorem expired_idle (pd : Pd) (conn : Slot) (due : expired pd conn = true)
    (timely : conn.tuple.ipproto = IPPROTO_ICMP →
      ¬((pd.heap conn.data).lastUpdateMs + (ICMP_TIMEOUT_SEC + 1000) ≤ pd.nowMs ∧
        pd.nowMs < (pd.heap conn.data).lastUpdateMs + ICMP_TIMEOUT_SEC * 1000)) :
    idle pd conn = true := by
  have waited := of_decide_eq_true due
  apply decide_eq_true
  by_cases icmp : conn.tuple.ipproto = IPPROTO_ICMP
  · have early := timely icmp
    have short : purgeTimeout conn.tuple.ipproto (pd.heap conn.data).status =
        ICMP_TIMEOUT_SEC + 1000 := by rw [icmp]; rfl
    have long : idleTimeout conn.tuple.ipproto (pd.heap conn.data).status =
        ICMP_TIMEOUT_SEC * 1000 := by rw [icmp]; rfl
    omega
  · have same : idleTimeout conn.tuple.ipproto (pd.heap conn.data).status =
        purgeTimeout conn.tuple.ipproto (pd.heap conn.data).status := by
      rw [idleTimeout, purgeTimeout, if_neg icmp, if_neg icmp]
    rw [same]
    exact waited

section Directions

variable (ndpi : Ref → Ndpi) (state : Counted) (tidy : Tidy state.lib)

theorem purge_passed (distinct : (state.lib.connections.map Slot.data).Nodup) :
    Passed state.lib (state.purgeExpiredConnections ndpi false).lib state.lib.connections := by
  rw [Counted.purgeExpiredConnections_lib]
  exact purge_passes ndpi state.lib.connections state.lib distinct

include tidy

theorem mem_data (conn : Slot) (listed : conn ∈ state.lib.connections) (some : List Slot)
    (among : ∀ other ∈ some, other ∈ state.lib.connections) :
    conn.data ∈ some.map Slot.data ↔ conn ∈ some := by
  constructor
  · intro member
    obtain ⟨other, chosen, same⟩ := List.mem_map.mp member
    exact List.inj_on_of_nodup_map tidy.distinct (among other chosen) listed same ▸ chosen
  · exact List.mem_map_of_mem

/-- A connection that has something to tell is queued, or needs a slot. -/
theorem queued_or_needy (conn : Slot) (listed : conn ∈ state.lib.connections) :
    (spent (state.lib.pd.heap conn.data) = true → conn.data ∉ state.lib.pd.queued) ∧
      (needsSlot (state.lib.pd.heap conn.data) = true → conn.data ∉ state.lib.pd.queued) ∧
      (spent (state.lib.pd.heap conn.data) = false →
        needsSlot (state.lib.pd.heap conn.data) = false → conn.data ∈ state.lib.pd.queued) := by
  refine ⟨fun idle queued => ?_, fun needs queued => ?_, fun busy unneeded => ?_⟩
  · have dirty := tidy.dirty conn listed ((tidy.pending conn listed).mpr queued)
    simp only [spent, Bool.and_eq_true, decide_eq_true_eq] at idle
    exact dirty idle.2
  · have pending := (tidy.pending conn listed).mpr queued
    simp only [needsSlot, pending, Bool.not_true, Bool.and_false] at needs
    cases needs
  · refine (tidy.pending conn listed).mp ?_
    simpa [needsSlot, busy] using unneeded

theorem freed_iff (conn : Slot) (listed : conn ∈ state.lib.connections)
    (due : expired state.lib.pd conn = true) :
    conn.data ∈ (spentSlots state.lib.pd state.lib.connections ++
        (pushes state.lib.pd state.lib.connections).2.2).map Slot.data ↔
      spent (state.lib.pd.heap conn.data) = true ∨
        conn ∈ (pushes state.lib.pd state.lib.connections).2.2 := by
  rw [mem_data state tidy conn listed, List.mem_append, spentSlots, dueSlots, List.mem_filter,
    List.mem_filter]
  · simp [listed, due]
  · intro other member
    rcases List.mem_append.mp member with idle | refused
    · exact List.mem_of_mem_filter (List.mem_of_mem_filter idle)
    · exact List.mem_of_mem_filter (List.mem_of_mem_filter (pushAll_refused _ _ _ other refused))

theorem needy_iff (conn : Slot) (listed : conn ∈ state.lib.connections)
    (due : expired state.lib.pd conn = true) :
    conn.data ∈ (needySlots state.lib.pd state.lib.connections).map Slot.data ↔
      needsSlot (state.lib.pd.heap conn.data) = true := by
  rw [mem_data state tidy conn listed, needySlots, dueSlots, List.mem_filter, List.mem_filter]
  · simp [listed, due]
  · exact fun other member => List.mem_of_mem_filter (List.mem_of_mem_filter member)

omit tidy in
theorem purge_queued (passed : Passed state.lib (state.purgeExpiredConnections ndpi false).lib
    state.lib.connections) (ref : Ref) :
    ref ∈ (state.purgeExpiredConnections ndpi false).lib.pd.queued ↔
      ref ∈ state.lib.pd.newConns.refs ∨
        ref ∈ (pushes state.lib.pd state.lib.connections).1.slots.map Slot.data := by
  rw [Pd.queued, List.mem_append, passed.newConns, passed.array]
  rfl

/-- Where there is room, a needy connection is either queued or the only one, and refused. -/
theorem roomy_queued (roomy : Roomy state.lib) :
    ((pushes state.lib.pd state.lib.connections).2.2 = [] ∧ ∀ ref,
        (ref ∈ state.lib.pd.newConns.refs ∨
            ref ∈ (pushes state.lib.pd state.lib.connections).1.slots.map Slot.data ↔
          ref ∈ state.lib.pd.queued ∨
            ref ∈ (needySlots state.lib.pd state.lib.connections).map Slot.data)) ∨
      (pushes state.lib.pd state.lib.connections).2.2 =
          needySlots state.lib.pd state.lib.connections ∧ ∀ ref,
        (ref ∈ state.lib.pd.newConns.refs ∨
            ref ∈ (pushes state.lib.pd state.lib.connections).1.slots.map Slot.data ↔
          ref ∈ state.lib.pd.queued) := by
  rcases pushAll_packed state.lib.pd.connsUpdates state.lib.pd.reallocs
    (needySlots state.lib.pd state.lib.connections) tidy.packed with
    ⟨granted, none, slots⟩ | ⟨failed, ⟨slot, member, refused⟩, lost⟩
  · refine Or.inl ⟨none, fun ref => ?_⟩
    rw [pushes, slots, List.map_append, List.mem_append, Pd.queued, List.mem_append, or_assoc]
    rfl
  · obtain ⟨empty, single⟩ := roomy.resolve_left (by rw [failed]; exact Bool.noConfusion)
    refine Or.inr ⟨?_, fun ref => ?_⟩
    · obtain ⟨other, only⟩ := List.length_eq_one_iff.mp single
      rw [only, List.mem_singleton] at member
      rw [pushes, refused, only, member]
    · rw [pushes, lost, Pd.queued, List.mem_append, ConnArray.refs, ConnArray.refs, empty]

/-- A pass that leaves the array alone or only appends to it settles every connection. -/
theorem purges_of_roomy (timely : Timely state.lib) (roomy : Roomy state.lib) : Purges ndpi state := by
  have passed := purge_passed ndpi state tidy.distinct
  have counters := fun protocol => purge_stats ndpi state.lib.connections state tidy.distinct protocol
  -- With no early ICMP connection, what is removed is what is idle.
  have due : dueSlots state.lib.pd state.lib.connections =
      state.lib.connections.filter (idle state.lib.pd) := by
    refine List.filter_congr fun conn listed => ?_
    rw [Bool.eq_iff_iff]
    exact ⟨fun old => expired_idle _ conn old (timely conn listed), idle_expired _ conn⟩
  have queued := purge_queued ndpi state passed
  constructor
  · rw [passed.table, due]
    refine List.filter_congr fun conn listed => ?_
    rw [Bool.eq_iff_iff]
    have among := mem_data state tidy conn listed (state.lib.connections.filter (idle state.lib.pd))
      fun other member => List.mem_of_mem_filter member
    simp [among, listed]
  · intro protocol
    rw [← due]
    exact (counters protocol).1
  · exact (counters .tcp).2
  · intro ref spared
    have absent : ref ∉ (dueSlots state.lib.pd state.lib.connections).map Slot.data := by
      rw [due]
      intro member
      obtain ⟨conn, old, same⟩ := List.mem_map.mp member
      obtain ⟨listed, idle⟩ := List.mem_filter.mp old
      exact spared conn listed idle same
    have needyDue : needySlots state.lib.pd state.lib.connections ⊆
        dueSlots state.lib.pd state.lib.connections := fun _ member => List.mem_of_mem_filter member
    have spentDue : spentSlots state.lib.pd state.lib.connections ⊆
        dueSlots state.lib.pd state.lib.connections := fun _ member => List.mem_of_mem_filter member
    have unneeded : ref ∉ (needySlots state.lib.pd state.lib.connections).map Slot.data :=
      fun member => absent (List.map_subset _ needyDue member)
    have unfreed : ref ∉ (spentSlots state.lib.pd state.lib.connections ++
        (pushes state.lib.pd state.lib.connections).2.2).map Slot.data := by
      rw [List.map_append, List.mem_append, not_or]
      constructor
      · exact fun member => absent (List.map_subset _ spentDue member)
      · exact fun member => unneeded (List.map_subset _ (pushAll_refused _ _ _) member)
    refine ⟨passed.others ref absent, ?_, ?_⟩
    · rw [passed.purged, if_neg unfreed, Nat.add_zero]
    · rw [queued]
      rcases roomy_queued state tidy roomy with ⟨-, kept⟩ | ⟨-, kept⟩
      · rw [kept, or_iff_left unneeded]
      · exact kept ref
  · intro conn listed old
    exact passed.closed conn (by rw [due]; exact List.mem_filter.mpr ⟨listed, old⟩)
  · intro conn listed old after
    have expired := idle_expired state.lib.pd conn old
    obtain ⟨unspent, unneeded, waiting⟩ := queued_or_needy state tidy conn listed
    have freed := freed_iff state tidy conn listed expired
    have needy := needy_iff state tidy conn listed expired
    simp only [after, passed.purged, freed, queued]
    -- Either nothing is refused, or the one refused slot is freed and nothing else was queued.
    rcases roomy_queued state tidy roomy with ⟨refused, kept⟩ | ⟨refused, kept⟩
    · rw [kept, refused, needy]
      cases idle : spent (state.lib.pd.heap conn.data) with
      | true =>
          have silent : needsSlot (state.lib.pd.heap conn.data) = false := by rw [needsSlot, idle]; rfl
          exact Or.inl ⟨by simp, by simp [unspent idle, silent]⟩
      | false =>
          refine Or.inr ⟨by simp, ?_⟩
          cases needs : needsSlot (state.lib.pd.heap conn.data) with
          | true => exact Or.inr rfl
          | false => exact Or.inl (waiting idle needs)
    · rw [kept, refused]
      have member : conn ∈ needySlots state.lib.pd state.lib.connections ↔
          needsSlot (state.lib.pd.heap conn.data) = true :=
        (mem_data state tidy conn listed _ fun other chosen =>
          List.mem_of_mem_filter (List.mem_of_mem_filter chosen)).symm.trans needy
      simp only [member]
      cases idle : spent (state.lib.pd.heap conn.data) with
      | true => exact Or.inl ⟨by simp, unspent idle⟩
      | false =>
          cases needs : needsSlot (state.lib.pd.heap conn.data) with
          | true => exact Or.inl ⟨by simp, unneeded needs⟩
          | false => exact Or.inr ⟨by simp, waiting idle needs⟩

theorem timely_of_purges (purges : Purges ndpi state) : Timely state.lib := by
  intro conn listed icmp ⟨due, early⟩
  have passed := purge_passed ndpi state tidy.distinct
  have long : idleTimeout conn.tuple.ipproto (state.lib.pd.heap conn.data).status =
      ICMP_TIMEOUT_SEC * 1000 := by rw [icmp]; rfl
  have short : purgeTimeout conn.tuple.ipproto (state.lib.pd.heap conn.data).status =
      ICMP_TIMEOUT_SEC + 1000 := by rw [icmp]; rfl
  have stays : conn ∈ (state.purgeExpiredConnections ndpi false).lib.connections := by
    rw [purges.table]
    have young : idle state.lib.pd conn = false := decide_eq_false (by rw [long]; omega)
    exact List.mem_filter.mpr ⟨listed, by rw [young]; rfl⟩
  rw [passed.table] at stays
  have old : expired state.lib.pd conn = true := decide_eq_true (by rw [short]; exact due)
  have gone := List.mem_map_of_mem (f := Slot.data) (List.mem_filter.mpr ⟨listed, old⟩)
  have apart := (List.mem_filter.mp stays).2
  exact of_decide_eq_true apart gone

/-- Where a growth fails, nothing that was queued or is to be queued is settled, but for the slot
    that is refused. -/
theorem roomy_of_purges (purges : Purges ndpi state) : Roomy state.lib := by
  have timely := timely_of_purges ndpi state tidy purges
  have passed := purge_passed ndpi state tidy.distinct
  have queued := purge_queued ndpi state passed
  rcases pushAll_packed state.lib.pd.connsUpdates state.lib.pd.reallocs
    (needySlots state.lib.pd state.lib.connections) tidy.packed with
    ⟨granted, -, -⟩ | ⟨failed, ⟨slot, member, refused⟩, lost⟩
  · exact Or.inl granted
  · obtain ⟨within, slotNeeds⟩ := List.mem_filter.mp member
    -- The failed growth forgets connsUpdates: only newConns is still queued.
    have announced : ∀ ref ∈ (state.purgeExpiredConnections ndpi false).lib.pd.queued,
        ref ∈ state.lib.pd.newConns.refs := by
      intro ref listed
      rw [queued, pushes, lost] at listed
      exact listed.resolve_right List.not_mem_nil
    have survivor : ∀ conn ∈ state.lib.connections, idle state.lib.pd conn = true →
        spent (state.lib.pd.heap conn.data) = false → conn ≠ slot →
        conn.data ∈ state.lib.pd.newConns.refs := by
      intro conn listed old busy differs
      rcases purges.settled conn listed old with ⟨freed, -⟩ | ⟨-, stays⟩
      · have kept : ¬ (spent (state.lib.pd.heap conn.data) = true ∨
            conn ∈ (pushes state.lib.pd state.lib.connections).2.2) := by
          rw [busy, pushes, refused]
          simpa using differs
        rw [passed.purged, if_neg fun member => kept ((freed_iff state tidy conn listed
          (idle_expired _ conn old)).mp member)] at freed
        omega
      · exact announced conn.data stays
    refine Or.inr ⟨List.eq_nil_iff_forall_not_mem.mpr fun entry stored => ?_, ?_⟩
    · have updates : entry.data ∈ state.lib.pd.connsUpdates.refs := List.mem_map_of_mem stored
      have unannounced : entry.data ∉ state.lib.pd.newConns.refs := fun listed =>
        (List.nodup_append.mp tidy.queues).2.2 _ listed _ updates rfl
      have inQueue : entry.data ∈ state.lib.pd.queued := List.mem_append_right _ updates
      -- Whatever the array held would have had to stay queued, removed or not.
      by_cases removed : ∃ conn ∈ state.lib.connections, idle state.lib.pd conn = true ∧
          conn.data = entry.data
      · obtain ⟨conn, listed, old, same⟩ := removed
        rw [← same] at unannounced inQueue
        obtain ⟨unspent, unneeded, -⟩ := queued_or_needy state tidy conn listed
        refine unannounced (survivor conn listed old ?_ ?_)
        · exact Bool.eq_false_iff.mpr fun idle => unspent idle inQueue
        · rintro rfl
          exact unneeded slotNeeds inQueue
      · have untouched := (purges.others entry.data fun conn listed old same =>
          removed ⟨conn, listed, old, same⟩).2.2
        exact unannounced (announced _ (untouched.mpr inQueue))
    · have only : ∀ conn ∈ needySlots state.lib.pd state.lib.connections, conn = slot := by
        intro conn chosen
        by_contra differs
        obtain ⟨among, needs⟩ := List.mem_filter.mp chosen
        obtain ⟨listed, due⟩ := List.mem_filter.mp among
        have busy : spent (state.lib.pd.heap conn.data) = false := by
          simp only [needsSlot, Bool.and_eq_true, Bool.not_eq_true'] at needs
          exact needs.1
        have new := survivor conn listed (expired_idle _ conn due (timely conn listed)) busy differs
        exact (queued_or_needy state tidy conn listed).2.1 needs (List.mem_append_left _ new)
      -- Every slot to be queued is the refused one, and a connection is listed once.
      have apart : (needySlots state.lib.pd state.lib.connections).Nodup :=
        ((List.Nodup.of_map Slot.data tidy.distinct).filter _).filter _
      rw [List.eq_replicate_of_mem only, List.nodup_replicate] at apart
      have some := List.length_pos_of_mem member
      omega

end Directions

theorem serves_tidy (config : Pd) (state : Libpcap) (client : CaptureClient.Client)
    (serves : Serves config state client) : Tidy state := by
  have ledger := serves.valid.ledger
  have apart := serves.valid.apart.sublist
    (List.Sublist.map _ (List.sublist_append_left client.active client.closing))
  have dirty := serves.calm.dirty
  rw [serves.represents.pd] at ledger dirty
  rw [serves.represents.active] at apart
  have alive : ∀ conn ∈ state.connections, state.pd.alive conn.data := fun conn member =>
    (serves_sound config state client serves).alive conn (List.mem_append_right _ member)
  exact
    { distinct := apart
      packed := ledger.updatesPacked
      queues := ledger.distinct
      pending := fun conn member => ledger.pending conn.data (alive conn member)
      dirty := fun conn member => dirty conn.data (Set.notMem_empty _) (alive conn member) }

/-- In a capture in which every dump was delivered and no growth has failed so far, a purge does
    what it is for just where no ICMP connection is idle between the timeout as written and the one
    that is meant, and no growth loses the array. -/
theorem idlePurge_exact (config : Pd) (pcapFileCapture : Bool) (events : List LibpcapCapture.Event)
    (delivered : Machine.Along step Delivers (start config pcapFileCapture) events)
    (granted : Machine.Along step Grants (start config pcapFileCapture) events)
    (stats : ConnStats) (answers : List Bool) (ndpi : Ref → Ndpi) :
    let reached := Machine.run step (start config pcapFileCapture) events
    let state : Counted := ⟨{ reached with pd := { reached.pd with reallocs := answers } }, stats⟩
    Purges ndpi state ↔ Timely state.lib ∧ Roomy state.lib := by
  intro reached state
  obtain ⟨client, serves⟩ := run_serves config pcapFileCapture events delivered granted
  have before := serves_tidy config reached client serves
  have tidy : Tidy state.lib :=
    ⟨before.distinct, before.packed, before.queues, before.pending, before.dirty⟩
  constructor
  · exact fun purges => ⟨timely_of_purges ndpi state tidy purges, roomy_of_purges ndpi state tidy purges⟩
  · exact fun holds => purges_of_roomy ndpi state tidy holds.1 holds.2

section Example

open CaptureClient (idleConfig plainNdpi clientIp serverIp)

def pinged (waitMs : Nat) : List LibpcapCapture.Event :=
  [.packet
    { hdr := ⟨10100, true, 0, none, none⟩
      parsed := some { tuple := ⟨clientIp, serverIp, 7, 0, 4, IPPROTO_ICMP⟩ }
      ndpi := plainNdpi },
    .refreshTime waitMs]

def waited (waitMs : Nat) : Counted :=
  ⟨{ Machine.run step (start idleConfig false) (pinged waitMs) with
      pd := { (Machine.run step (start idleConfig false) (pinged waitMs)).pd with reallocs := [] } }, {}⟩

theorem ping_purged : Purges (fun _ => plainNdpi) (waited 5000) := by
  refine (idlePurge_exact idleConfig false (pinged 5000) ?_ ?_ {} [] fun _ => plainNdpi).mpr ⟨?_, ?_⟩
  · exact ⟨trivial, trivial, trivial⟩
  · exact ⟨trivial, trivial, trivial⟩
  · rintro conn member icmp ⟨-, early⟩
    revert conn
    decide
  · exact Or.inl (by decide)

/-- Two seconds after the ping its connection is gone. -/
theorem earlyPing_removed : ¬ Purges (fun _ => plainNdpi) (waited 2000) := by
  intro purges
  have table := purges.table
  revert table
  decide

end Example

end Purging

end Ptnet.IdlePurge
