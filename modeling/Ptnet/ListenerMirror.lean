import Ptnet.RegisterHistory

/-!
Listeners of the connections register. A listener is told a number of connections when it
is added, and then removals, insertions and changed positions. The copy it keeps with these
callbacks alone always equals what the register shows.
-/

namespace Ptnet.ListenerMirror

open ConnectionMirror (ConnectionDescriptor ConnectionUpdate)
open ConnectionsRegister (mCurItems getConn getConnPositionById mostRecent outItems outItems_le)
open RegisterHistory
open Machine (run Along)

variable {mSize : Nat}

/-- The calls of a `ConnectionsListener`. -/
inductive Callback where
  | connectionsChanges (numOfConnection : Nat)
  | connectionsAdded (start : Int) (conns : List ConnectionDescriptor)
  | connectionsRemoved (start : Nat) (conns : List ConnectionDescriptor)
  | connectionsUpdated (positions : List Nat)

/-- What a call on the register tells its listeners, in order. -/
def callbacks (register : Register mSize) : Call → List Callback
  | .newConnections acd =>
      let told := (register.newConnections acd).2
      (if 0 < told.removedItems.length then [.connectionsRemoved 0 told.removedItems] else []) ++
        (if 0 < told.added.length then [.connectionsAdded told.start told.added] else [])
  | .connectionsUpdates acu =>
      let changedPos := (connectionsUpdates register acu).2
      if changedPos.length = 0 then [] else [.connectionsUpdated changedPos]

def refresh (register : Register mSize) (list : List ConnectionDescriptor) (position : Nat) :
    List ConnectionDescriptor :=
  match getConn register position with
  | some conn => list.set position conn
  | none => list

def receive (register : Register mSize) (list : List ConnectionDescriptor) :
    Callback → List ConnectionDescriptor
  | .connectionsChanges numOfConnection =>
      (List.range numOfConnection).filterMap fun (i : Nat) => getConn register i
  | .connectionsAdded start conns => list.take start.toNat ++ conns ++ list.drop start.toNat
  | .connectionsRemoved start conns => list.take start ++ list.drop (start + conns.length)
  | .connectionsUpdated positions => positions.foldl (refresh register) list

/-- The positions of a callback lie inside the list it is applied to. -/
def Inside (list : List ConnectionDescriptor) : Callback → Prop
  | .connectionsChanges _ => True
  | .connectionsAdded start _ => 0 ≤ start ∧ start ≤ list.length
  | .connectionsRemoved start conns => start + conns.length ≤ list.length
  | .connectionsUpdated positions => ∀ position ∈ positions, position < list.length

def Callback.refreshed : Callback → List Nat
  | .connectionsUpdated positions => positions
  | _ => []

structure Session (mSize : Nat) where
  register : Register mSize
  list : List ConnectionDescriptor

/-- `addListener` syncs the new listener. -/
def addListener (register : Register mSize) : Session mSize where
  register := register
  list := receive register [] (.connectionsChanges (mCurItems register))

def Session.step (session : Session mSize) (call : Call) : Session mSize where
  register := RegisterHistory.step session.register call
  list := run (receive (RegisterHistory.step session.register call)) session.list
    (callbacks session.register call)

theorem addListener_synced (register : Register mSize) :
    (addListener register).list = register.mItemsRing.contents := by
  have length := register.mItemsRing.contents_length
  have read := RingBuffer.filterMap_get register.mItemsRing (mCurItems register) le_rfl
  rw [mCurItems, ← length, List.take_length, length] at read
  refine (List.filterMap_congr fun i _ => ?_).trans read
  rw [getConn, if_neg (by omega), Int.toNat_natCast]

theorem removedItems_eq (register : Register mSize) (acd : List ConnectionDescriptor) :
    (register.newConnections acd).2.removedItems
      = register.mItemsRing.contents.take (outItems register acd) :=
  RingBuffer.filterMap_get register.mItemsRing _ (outItems_le register acd).1

/-- The oldest connections leave and the batch is appended. -/
theorem newConnections_shifts (register : Register mSize) (acd : List ConnectionDescriptor) :
    (register.newConnections acd).1.mItemsRing.contents
      = register.mItemsRing.contents.drop (outItems register acd) ++ mostRecent mSize acd := by
  have length := register.mItemsRing.contents_length
  have bounded := (outItems_le register acd).1
  rw [ConnectionsRegister.newConnections_contents, ← RingBuffer.rtake_append_of_rtake,
    ← ConnectionsRegister.mostRecent_eq acd, List.rtake, List.length_append, length,
    ← List.drop_append_of_le_length (by rw [length]; exact bounded)]
  congr 1
  have fits := register.mItemsRing.count_le
  unfold outItems mCurItems
  omega

theorem removed_synced (register : Register mSize) (acd : List ConnectionDescriptor) :
    let told := (register.newConnections acd).2
    let calls := if 0 < told.removedItems.length then
      [Callback.connectionsRemoved 0 told.removedItems] else []
    ∀ after : Register mSize,
    run (receive after) register.mItemsRing.contents calls
        = register.mItemsRing.contents.drop (outItems register acd) ∧
      Along (receive after) Inside register.mItemsRing.contents calls := by
  intro told calls after
  have length := register.mItemsRing.contents_length
  have bounded := (outItems_le register acd).1
  have counted : told.removedItems.length = outItems register acd := by
    rw [removedItems_eq, List.length_take_of_le (by rw [length]; exact bounded)]
  by_cases evicts : 0 < told.removedItems.length
  · have called : calls = [.connectionsRemoved 0 told.removedItems] := if_pos evicts
    rw [called]
    refine ⟨?_, ?_, trivial⟩
    · simp only [Machine.run_cons, Machine.run_nil, receive, List.take_zero, List.nil_append,
        Nat.zero_add, counted]
    · rw [Inside, Nat.zero_add, counted, length]
      exact bounded
  · have silent : calls = [] := if_neg evicts
    rw [silent, show outItems register acd = 0 by omega, List.drop_zero]
    exact ⟨rfl, trivial⟩

theorem newConnections_synced (register : Register mSize) (acd : List ConnectionDescriptor) :
    let after := (register.newConnections acd).1
    run (receive after) register.mItemsRing.contents (callbacks register (.newConnections acd))
        = after.mItemsRing.contents ∧
      Along (receive after) Inside register.mItemsRing.contents
        (callbacks register (.newConnections acd)) := by
  intro after
  obtain ⟨shifted, inside⟩ := removed_synced register acd after
  have length := register.mItemsRing.contents_length
  have bounded := (outItems_le register acd).1
  have rest : (register.mItemsRing.contents.drop (outItems register acd)).length
      = mCurItems register - outItems register acd := by
    rw [List.length_drop, length]
    rfl
  rw [callbacks, Machine.run_append, Machine.along_append, shifted, newConnections_shifts]
  by_cases adds : 0 < (mostRecent mSize acd).length
  · have called : (if 0 < (register.newConnections acd).2.added.length then
        [Callback.connectionsAdded (register.newConnections acd).2.start
          (register.newConnections acd).2.added] else [])
        = [.connectionsAdded ((mCurItems register : Int) - outItems register acd)
            (mostRecent mSize acd)] := if_pos adds
    have atEnd : ((mCurItems register : Int) - outItems register acd).toNat
        = (register.mItemsRing.contents.drop (outItems register acd)).length := by
      rw [rest]
      omega
    rw [called]
    refine ⟨?_, inside, ⟨by omega, ?_⟩, trivial⟩
    · rw [Machine.run_cons, Machine.run_nil, receive, atEnd, List.take_length, List.drop_length,
        List.append_nil]
    · rw [rest]
      omega
  · have silent : (if 0 < (register.newConnections acd).2.added.length then
        [Callback.connectionsAdded (register.newConnections acd).2.start
          (register.newConnections acd).2.added] else []) = [] := if_neg adds
    have nothing : mostRecent mSize acd = [] := List.eq_nil_of_length_eq_zero (by omega)
    rw [silent, nothing, List.append_nil]
    exact ⟨rfl, inside, trivial⟩

theorem refresh_length (register : Register mSize) (list : List ConnectionDescriptor)
    (position : Nat) : (refresh register list position).length = list.length := by
  unfold refresh
  split
  · exact List.length_set
  · rfl

/-- After a refresh, the given positions show the register and the others are unchanged. -/
theorem refresh_all (register : Register mSize) (positions : List Nat)
    (list : List ConnectionDescriptor) (same : list.length = mCurItems register) (index : Nat) :
    (positions.foldl (refresh register) list)[index]?
      = if index ∈ positions then register.mItemsRing.contents[index]? else list[index]? := by
  induction positions generalizing list with
  | nil => exact (if_neg List.not_mem_nil).symm
  | cons position rest ih =>
      have length := register.mItemsRing.contents_length
      rw [List.foldl_cons, ih _ ((refresh_length register list position).trans same)]
      by_cases later : index ∈ rest
      · rw [if_pos later, if_pos (List.mem_cons_of_mem _ later)]
      · have read : getConn register position = register.mItemsRing.contents[position]? := by
          rw [ConnectionsRegister.getConn_eq, if_neg (by omega), Int.toNat_natCast]
        rw [if_neg later, refresh, read]
        by_cases here : index = position
        · subst here
          rw [if_pos List.mem_cons_self]
          cases stored : register.mItemsRing.contents[index]? with
          | none =>
              rw [List.getElem?_eq_none_iff, length] at stored
              exact List.getElem?_eq_none (by rw [same]; exact stored)
          | some conn =>
              have inside := (List.getElem?_eq_some_iff.mp stored).1
              rw [length] at inside
              exact List.getElem?_set_self (by rw [same]; exact inside)
        · rw [if_neg (by simp [here, later])]
          split
          · exact List.getElem?_set_ne fun meet => here meet.symm
          · rfl

theorem updated_unnamed (acu : List Incoming) (conn : ConnectionDescriptor)
    (unnamed : ∀ incoming ∈ acu, incoming.incrId ≠ conn.incrId) : updated acu conn = conn := by
  have none : (acu.filter fun incoming => incoming.incrId = (conn.incrId : Int)) = [] := by
    rw [List.filter_eq_nil_iff]
    intro incoming member
    rw [decide_eq_true_iff]
    exact unnamed incoming member
  rw [updated, none, List.foldl_nil]

/-- The changed positions are those of the tracked connections that the batch names. -/
theorem mem_changedPos (base : Nat) (register : Register mSize)
    (known : List ConnectionDescriptor) (shows : Shows base register known)
    (acu : List Incoming) (position : Nat) :
    position ∈ (connectionsUpdates register acu).2 ↔
      ∃ conn, register.mItemsRing.contents[position]? = some conn ∧
        ∃ incoming ∈ acu, incoming.incrId = conn.incrId := by
  have reached := ConnectionsRegister.connectionsUpdates_updated ConnectionDescriptor.incrId
    Incoming.incrId processUpdate processUpdate_incrId register _ shows.consecutive acu
  have length := register.mItemsRing.contents_length
  have named := fun conn => ConnectionsRegister.contents_incrId ConnectionDescriptor.incrId register
    _ shows.consecutive position conn
  unfold connectionsUpdates
  rw [reached.positions, List.mem_filterMap]
  constructor
  · rintro ⟨incoming, member, found⟩
    rw [ConnectionsRegister.getConnPositionById_eq _ register _ shows.consecutive] at found
    split at found
    · rename_i inRange
      have offset := Option.some.inj found
      have inside : position < register.mItemsRing.contents.length := by
        unfold mCurItems at inRange
        omega
      have stored := List.getElem?_eq_getElem inside
      refine ⟨_, stored, incoming, member, ?_⟩
      rw [named _ stored]
      omega
    · cases found
  · rintro ⟨conn, stored, incoming, member, own⟩
    have inside := (List.getElem?_eq_some_iff.mp stored).1
    rw [named conn stored] at own
    refine ⟨incoming, member, ?_⟩
    rw [ConnectionsRegister.getConnPositionById_eq _ register _ shows.consecutive, own, if_pos]
    · congr 1
      omega
    · unfold mCurItems
      omega

theorem connectionsUpdates_synced (base : Nat) (register : Register mSize)
    (known : List ConnectionDescriptor) (shows : Shows base register known)
    (acu : List Incoming) :
    let after := (connectionsUpdates register acu).1
    run (receive after) register.mItemsRing.contents (callbacks register (.connectionsUpdates acu))
        = after.mItemsRing.contents ∧
      Along (receive after) Inside register.mItemsRing.contents
        (callbacks register (.connectionsUpdates acu)) := by
  intro after
  have contents := shows_updates base register known shows acu
  have changed := mem_changedPos base register known shows acu
  have sameLength : register.mItemsRing.contents.length = mCurItems after := by
    rw [mCurItems, ← RingBuffer.contents_length, contents, List.length_map]
  have refreshed : (connectionsUpdates register acu).2.foldl (refresh after)
      register.mItemsRing.contents = after.mItemsRing.contents := by
    apply List.ext_getElem?
    intro index
    rw [refresh_all after _ _ sameLength index]
    split
    · rfl
    · rename_i unreported
      rw [contents, List.getElem?_map]
      cases stored : register.mItemsRing.contents[index]? with
      | none => rfl
      | some conn =>
          have unnamed : ∀ incoming ∈ acu, incoming.incrId ≠ conn.incrId := by
            intro incoming member own
            exact unreported ((changed index).mpr ⟨conn, stored, incoming, member, own⟩)
          rw [Option.map_some, updated_unnamed acu conn unnamed]
  unfold callbacks
  dsimp only
  split
  · rename_i none
    rw [List.length_eq_zero_iff.mp none] at refreshed
    exact ⟨refreshed, trivial⟩
  · refine ⟨refreshed, ?_, trivial⟩
    intro position member
    obtain ⟨conn, stored, _⟩ := (changed position).mp member
    exact (List.getElem?_eq_some_iff.mp stored).1

/-- The listener shows the register, which shows the end of the known connections. -/
structure Synced (base : Nat) (session : Session mSize) (known : List ConnectionDescriptor) :
    Prop where
  shows : Shows base session.register known
  list : session.list = session.register.mItemsRing.contents

theorem step_synced (base : Nat) (session : Session mSize) (known : List ConnectionDescriptor)
    (call : Call) (synced : Synced base session known)
    (numbered : Numbered base (known ++ call.received)) :
    Synced base (session.step call) (record mSize known call) ∧
      Along (receive (session.step call).register) Inside session.list
        (callbacks session.register call) := by
  have stepped := step_shows base session.register known call synced.shows numbered
  suffices both : run (receive (session.step call).register) session.list
        (callbacks session.register call) = (session.step call).register.mItemsRing.contents ∧
      Along (receive (session.step call).register) Inside session.list
        (callbacks session.register call) from
    ⟨⟨stepped, both.1⟩, both.2⟩
  rw [synced.list]
  cases call with
  | newConnections acd => exact newConnections_synced session.register acd
  | connectionsUpdates acu => exact connectionsUpdates_synced base _ known synced.shows acu

theorem run_synced (base : Nat) (session : Session mSize) (known : List ConnectionDescriptor)
    (calls : List Call) (synced : Synced base session known)
    (numbered : Numbered base (known ++ received calls)) :
    Synced base (run Session.step session calls) (run (record mSize) known calls) := by
  induction calls generalizing session known with
  | nil => exact synced
  | cons call rest ih =>
      have split : received (call :: rest) = call.received ++ received rest := List.flatMap_cons
      rw [split, ← List.append_assoc, numbered_append] at numbered
      obtain ⟨stepped, _⟩ := step_synced base session known call synced numbered.1
      apply ih _ _ stepped
      rw [numbered_append, record_length, ← List.length_append]
      exact ⟨stepped.shows.numbered, numbered.2⟩

/-- A listener added at any point of a run mirrors the register through every later call. -/
theorem listener_mirrors (positive : 0 < mSize) (base : Nat) (earlier later : List Call)
    (call : Call) (numbered : Numbered base (received (earlier ++ later ++ [call]))) :
    let session := run Session.step (addListener (run step (start positive) earlier)) later
    session.list = session.register.mItemsRing.contents ∧
      Along (receive (session.step call).register) Inside session.list
        (callbacks session.register call) ∧
      (session.step call).list = (session.step call).register.mItemsRing.contents ∧
      ∀ acu, call = .connectionsUpdates acu → ∀ position,
        position ∈ (callbacks session.register call).flatMap Callback.refreshed ↔
          ∃ conn, session.register.mItemsRing.contents[position]? = some conn ∧
            ∃ incoming ∈ acu, incoming.incrId = conn.incrId := by
  intro session
  have split : received (earlier ++ later ++ [call])
      = received earlier ++ (received later ++ call.received) := by
    simp [received]
  rw [split, numbered_append, numbered_append] at numbered
  obtain ⟨first, second, third⟩ := numbered
  have added := run_shows base (start positive) [] earlier (start_shows positive base) first
  have earlierLength : (run (record mSize) [] earlier).length = (received earlier).length :=
    (run_record_length [] earlier).trans (Nat.zero_add _)
  have synced := run_synced base (addListener (run step (start positive) earlier)) _ later
    ⟨added, addListener_synced _⟩ (by
      rw [numbered_append, earlierLength]
      exact ⟨added.numbered, second⟩)
  obtain ⟨stepped, inside⟩ := step_synced base session _ call synced (by
    rw [numbered_append, run_record_length, earlierLength]
    exact ⟨synced.shows.numbered, by rwa [← Nat.add_assoc]⟩)
  refine ⟨synced.list, inside, stepped.list, ?_⟩
  rintro acu rfl position
  rw [← mem_changedPos base session.register _ synced.shows acu position, callbacks]
  split
  · rename_i none
    rw [List.length_eq_zero_iff.mp none, List.flatMap_nil]
  · rw [List.flatMap_singleton, Callback.refreshed]

/-- A listener added to a ring of two, told of an eviction and then of the updates. -/
theorem rollover_mirrors :
    let session := run Session.step
      (addListener (run step (start Nat.two_pos) (rollover.take 1))) ((rollover.drop 1).take 1)
    session.list = session.register.mItemsRing.contents ∧
      Along (receive (session.step (.connectionsUpdates twoUpdates)).register) Inside session.list
        (callbacks session.register (.connectionsUpdates twoUpdates)) ∧
      (session.step (.connectionsUpdates twoUpdates)).list
        = (session.step (.connectionsUpdates twoUpdates)).register.mItemsRing.contents ∧
      ∀ acu, Call.connectionsUpdates twoUpdates = .connectionsUpdates acu → ∀ position,
        position ∈ (callbacks session.register (.connectionsUpdates twoUpdates)).flatMap
            Callback.refreshed ↔
          ∃ conn, session.register.mItemsRing.contents[position]? = some conn ∧
            ∃ incoming ∈ acu, incoming.incrId = conn.incrId :=
  listener_mirrors Nat.two_pos 0 (rollover.take 1) ((rollover.drop 1).take 1)
    (.connectionsUpdates twoUpdates) (by decide)

end Ptnet.ListenerMirror
