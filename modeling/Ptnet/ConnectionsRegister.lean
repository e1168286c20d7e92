import Ptnet.RingBuffer

/-!
The connections register of the app (ConnectionsRegister.kt): a ring of the most recent
connections, looked up by identifier through their distance from the oldest one. The
counters and the per-app statistics kept beside the ring are not part of this module.
-/

namespace Ptnet

structure ConnectionsRegister (Descriptor : Type*) (mSize : Nat) where
  mItemsRing : RingBuffer Descriptor mSize
  mUntrackedItems : Nat

namespace ConnectionsRegister

variable {Descriptor : Type*} {mSize : Nat}

/-- What `newConnections` tells its listeners. -/
structure Notification (Descriptor : Type*) where
  removedItems : List Descriptor
  start : Int
  added : List Descriptor

def mCurItems (register : ConnectionsRegister Descriptor mSize) : Nat := register.mItemsRing.count

/-- A batch larger than the ring is cut to its most recent connections. -/
def mostRecent (mSize : Nat) (acd : List Descriptor) : List Descriptor :=
  if acd.length > mSize then acd.drop (acd.length - mSize) else acd

def newConnections (register : ConnectionsRegister Descriptor mSize) (acd : List Descriptor) :
    ConnectionsRegister Descriptor mSize × Notification Descriptor :=
  let conns := mostRecent mSize acd
  let outItems := conns.length - min (mSize - mCurItems register) conns.length
  ({ mItemsRing := register.mItemsRing.pushAll conns
     mUntrackedItems := register.mUntrackedItems + (acd.length - mSize) + outItems },
   { removedItems := (List.range outItems).filterMap register.mItemsRing.get
     start := (mCurItems register : Int) - outItems
     added := conns })

def getConn (register : ConnectionsRegister Descriptor mSize) (i : Int) : Option Descriptor :=
  if i < 0 then none else register.mItemsRing.get i.toNat

section ById

variable (incrId : Descriptor → Nat)

/-- `none` stands for the position -1. -/
def getConnPositionById (register : ConnectionsRegister Descriptor mSize) (id : Int) :
    Option Nat :=
  if mCurItems register = 0 then none
  else
    match register.mItemsRing.slots[register.mItemsRing.firstPos]?,
        register.mItemsRing.slots[register.mItemsRing.lastPos]? with
    | some first, some last =>
        if id < incrId first ∨ incrId last < id then none else some (id - incrId first).toNat
    | _, _ => none

def getConnById (register : ConnectionsRegister Descriptor mSize) (id : Int) : Option Descriptor :=
  (getConnPositionById incrId register id).bind fun pos => getConn register pos

section Updates

variable {Update : Type*} (updateId : Update → Int)
variable (processUpdate : Descriptor → Update → Descriptor)

/-- One turn of the loop of `connectionsUpdates`, which collects the changed positions. -/
def updateConn (first : Nat) (firstId lastId : Int)
    (state : ConnectionsRegister Descriptor mSize × List Nat) (update : Update) :
    ConnectionsRegister Descriptor mSize × List Nat :=
  let id := updateId update
  if firstId ≤ id ∧ id ≤ lastId then
    let pos := ((id - firstId).toNat + first) % mSize
    ({ state.1 with
        mItemsRing := state.1.mItemsRing.modifySlot pos fun conn => processUpdate conn update },
      state.2 ++ [(pos + mSize - first) % mSize])
  else state

/-- The updated register with the positions given to `connectionsUpdated`; the listeners are
    not called when there are none. -/
def connectionsUpdates (register : ConnectionsRegister Descriptor mSize) (acu : List Update) :
    ConnectionsRegister Descriptor mSize × List Nat :=
  if mCurItems register = 0 then (register, [])
  else
    let first := register.mItemsRing.firstPos
    match register.mItemsRing.slots[first]?,
        register.mItemsRing.slots[register.mItemsRing.lastPos]? with
    | some firstConn, some lastConn =>
        acu.foldl (updateConn updateId processUpdate first (incrId firstConn) (incrId lastConn))
          (register, [])
    | _, _ => (register, [])

end Updates

/-- The identifiers in the ring are consecutive, oldest first. -/
def Consecutive (register : ConnectionsRegister Descriptor mSize) (first : Nat) : Prop :=
  register.mItemsRing.contents.map incrId = List.range' first (mCurItems register)

theorem mostRecent_eq (acd : List Descriptor) : mostRecent mSize acd = acd.rtake mSize := by
  unfold mostRecent List.rtake
  split
  · rfl
  · rw [Nat.sub_eq_zero_of_le (by omega), List.drop_zero]

def outItems (register : ConnectionsRegister Descriptor mSize) (acd : List Descriptor) : Nat :=
  (mostRecent mSize acd).length - min (mSize - mCurItems register) (mostRecent mSize acd).length

theorem outItems_le (register : ConnectionsRegister Descriptor mSize) (acd : List Descriptor) :
    outItems register acd ≤ mCurItems register ∧
      outItems register acd = mCurItems register + (mostRecent mSize acd).length - mSize := by
  have few : (mostRecent mSize acd).length ≤ mSize := by
    rw [mostRecent_eq, List.rtake, List.length_drop]
    omega
  have bounded : mCurItems register ≤ mSize := register.mItemsRing.count_le
  rw [outItems]
  omega

/-- The cut of an oversized batch loses nothing that the ring could have kept. -/
theorem newConnections_contents (register : ConnectionsRegister Descriptor mSize)
    (acd : List Descriptor) : (newConnections register acd).1.mItemsRing.contents
      = (register.mItemsRing.contents ++ acd).rtake mSize := by
  change (register.mItemsRing.pushAll (mostRecent mSize acd)).contents = _
  rw [RingBuffer.contents_pushAll, mostRecent_eq, RingBuffer.rtake_append_of_rtake]

theorem rtake_range' (first count kept : Nat) :
    (List.range' first count).rtake kept
      = List.range' (first + (count - kept)) (min count kept) := by
  rw [List.rtake, List.length_range', List.drop_range']
  congr 1
  · omega
  · omega

theorem newConnections_consecutive (register : ConnectionsRegister Descriptor mSize)
    (acd : List Descriptor) (first : Nat) (consecutive : Consecutive incrId register first)
    (numbered : acd.map incrId = List.range' (first + mCurItems register) acd.length) :
    Consecutive incrId (newConnections register acd).1
      (first + (mCurItems register + acd.length - mSize)) := by
  have length : mCurItems (newConnections register acd).1
      = min (mCurItems register + acd.length) mSize := by
    have counted := (newConnections register acd).1.mItemsRing.contents_length
    rw [newConnections_contents, List.rtake, List.length_drop, List.length_append,
      RingBuffer.contents_length] at counted
    unfold mCurItems at *
    omega
  have joined : (register.mItemsRing.contents ++ acd).map incrId
      = List.range' first (mCurItems register + acd.length) := by
    rw [List.map_append, consecutive, numbered, List.range'_append_1]
  rw [Consecutive, newConnections_contents, length, List.rtake, List.map_drop, joined,
    ← rtake_range', List.rtake, List.length_range', List.length_append,
    RingBuffer.contents_length]
  rfl

theorem contents_incrId (register : ConnectionsRegister Descriptor mSize) (first : Nat)
    (consecutive : Consecutive incrId register first) (index : Nat) (conn : Descriptor)
    (stored : register.mItemsRing.contents[index]? = some conn) :
    incrId conn = first + index := by
  have inside : index < mCurItems register := by
    rw [mCurItems, ← RingBuffer.contents_length]
    exact (List.getElem?_eq_some_iff.mp stored).1
  have same : (register.mItemsRing.contents.map incrId)[index]? = some (incrId conn) := by
    rw [List.getElem?_map, stored, Option.map_some]
  rw [consecutive, List.getElem?_range' inside, Nat.one_mul] at same
  exact (Option.some.inj same).symm

theorem getConn_eq (register : ConnectionsRegister Descriptor mSize) (i : Int) :
    getConn register i = if i < 0 then none else register.mItemsRing.contents[i.toNat]? := by
  rw [getConn, RingBuffer.get_eq]

/-- The ends of the identifiers in the ring, as the lookups read them from its slots. -/
theorem ends_eq (register : ConnectionsRegister Descriptor mSize) (first : Nat)
    (consecutive : Consecutive incrId register first) (filled : mCurItems register ≠ 0) :
    ∃ firstConn lastConn,
      register.mItemsRing.slots[register.mItemsRing.firstPos]? = some firstConn ∧
      register.mItemsRing.slots[register.mItemsRing.lastPos]? = some lastConn ∧
      incrId firstConn = first ∧ incrId lastConn = first + (mCurItems register - 1) := by
  have length := register.mItemsRing.contents_length
  have positive : 0 < register.mItemsRing.count := Nat.pos_of_ne_zero filled
  have oldest := List.getElem?_eq_getElem (l := register.mItemsRing.contents) (i := 0) (by omega)
  have newest := List.getElem?_eq_getElem (l := register.mItemsRing.contents)
    (i := register.mItemsRing.count - 1) (by omega)
  refine ⟨_, _, ?_, ?_, contents_incrId incrId register first consecutive 0 _ oldest,
    contents_incrId incrId register first consecutive _ _ newest⟩
  · rw [RingBuffer.get_firstPos _ positive, RingBuffer.get_eq, oldest]
  · rw [RingBuffer.get_lastPos _ positive, RingBuffer.get_eq, newest]

theorem getConnPositionById_eq (register : ConnectionsRegister Descriptor mSize) (first : Nat)
    (consecutive : Consecutive incrId register first) (id : Int) :
    getConnPositionById incrId register id
      = if first ≤ id ∧ id < first + mCurItems register then some (id - first).toNat
        else none := by
  unfold getConnPositionById
  by_cases filled : mCurItems register = 0
  · rw [if_pos filled, if_neg (by omega)]
  · obtain ⟨firstConn, lastConn, atFirst, atLast, firstId, lastId⟩ :=
      ends_eq incrId register first consecutive filled
    rw [if_neg filled, atFirst, atLast]
    simp only [firstId, lastId]
    by_cases inRange : first ≤ id ∧ id < first + mCurItems register
    · rw [if_neg (by omega), if_pos inRange]
    · rw [if_pos (by omega), if_neg inRange]

theorem getConnById_eq (register : ConnectionsRegister Descriptor mSize) (first : Nat)
    (consecutive : Consecutive incrId register first) (id : Int) :
    getConnById incrId register id
      = register.mItemsRing.contents.find? fun conn => (incrId conn : Int) = id := by
  have length := register.mItemsRing.contents_length
  rw [getConnById, getConnPositionById_eq incrId register first consecutive]
  symm
  by_cases tracked : first ≤ id ∧ id < first + mCurItems register
  · have inside : (id - first).toNat < register.mItemsRing.contents.length := by
      unfold mCurItems at tracked
      omega
    have stored := List.getElem?_eq_getElem inside
    rw [if_pos tracked, Option.bind_some, getConn_eq, if_neg (by omega), Int.toNat_natCast, stored]
    rw [List.find?_eq_some_iff_getElem]
    refine ⟨?_, _, inside, rfl, ?_⟩
    · have same := contents_incrId incrId register first consecutive _ _ stored
      rw [decide_eq_true_iff, same]
      omega
    · intro earlier before
      have other := contents_incrId incrId register first consecutive earlier _
        (List.getElem?_eq_getElem (before.trans inside))
      rw [other, Bool.not_eq_true', decide_eq_false_iff_not]
      omega
  · rw [if_neg tracked, Option.bind_none, List.find?_eq_none]
    intro conn member
    obtain ⟨index, stored⟩ := List.mem_iff_getElem?.mp member
    have same := contents_incrId incrId register first consecutive index conn stored
    have inside := (List.getElem?_eq_some_iff.mp stored).1
    unfold mCurItems at tracked
    rw [decide_eq_true_iff, same]
    omega

theorem getConnById_tracked (register : ConnectionsRegister Descriptor mSize) (first : Nat)
    (consecutive : Consecutive incrId register first) (id : Nat)
    (tracked : (getConnPositionById incrId register id).isSome) :
    ∃ conn ∈ register.mItemsRing.contents,
      getConnById incrId register id = some conn ∧ incrId conn = id := by
  have length := register.mItemsRing.contents_length
  have position := getConnPositionById_eq incrId register first consecutive id
  split at position
  · have inside : ((id : Int) - first).toNat < register.mItemsRing.contents.length := by
      unfold mCurItems at *
      omega
    have stored := List.getElem?_eq_getElem inside
    refine ⟨_, List.getElem_mem inside, ?_, ?_⟩
    · rw [getConnById, position, Option.bind_some, getConn_eq, if_neg (by omega),
        Int.toNat_natCast, stored]
    · rw [contents_incrId incrId register first consecutive _ _ stored]
      omega
  · rw [position] at tracked
    cases tracked

section Updates

variable {Update : Type*} (updateId : Update → Int)
variable (processUpdate : Descriptor → Update → Descriptor)

/-- An update as the connection sees it: only its own identifier concerns it. -/
def processOwn (update : Update) (conn : Descriptor) : Descriptor :=
  if updateId update = incrId conn then processUpdate conn update else conn

variable (keepsId : ∀ conn update, incrId (processUpdate conn update) = incrId conn)

include keepsId in
theorem processOwn_incrId (update : Update) (conn : Descriptor) :
    incrId (processOwn incrId updateId processUpdate update conn) = incrId conn := by
  unfold processOwn
  split
  · exact keepsId conn update
  · rfl

/-- The distance from the oldest identifier addresses the connection with the identifier. -/
theorem modify_own (contents : List Descriptor) (first : Nat)
    (numbered : contents.map incrId = List.range' first contents.length) (update : Update)
    (inRange : first ≤ updateId update ∧ updateId update < first + contents.length) :
    contents.modify (updateId update - first).toNat (fun conn => processUpdate conn update)
      = contents.map (processOwn incrId updateId processUpdate update) := by
  apply List.ext_getElem?
  intro index
  rw [List.getElem?_modify, List.getElem?_map]
  cases stored : contents[index]? with
  | none => rfl
  | some conn =>
      have inside := (List.getElem?_eq_some_iff.mp stored).1
      have named : (contents.map incrId)[index]? = some (incrId conn) := by
        rw [List.getElem?_map, stored, Option.map_some]
      rw [numbered, List.getElem?_range' inside, Nat.one_mul] at named
      have id := Option.some.inj named
      have same : (updateId update - first).toNat = index ↔ updateId update = incrId conn := by
        omega
      simp only [Option.map_eq_map, Option.map_some, same, processOwn]

theorem map_own_untracked (contents : List Descriptor) (first : Nat)
    (numbered : contents.map incrId = List.range' first contents.length) (update : Update)
    (outside : ¬ (first ≤ updateId update ∧ updateId update < first + contents.length)) :
    contents.map (processOwn incrId updateId processUpdate update) = contents := by
  conv_rhs => rw [← List.map_id contents]
  apply List.map_congr_left
  intro conn member
  have named : incrId conn ∈ List.range' first contents.length :=
    numbered ▸ List.mem_map_of_mem member
  rw [List.mem_range'_1] at named
  exact if_neg (by omega)

theorem slot_offset (first offset : Nat) (head : first < mSize) (inside : offset < mSize) :
    ((offset + first) % mSize + mSize - first) % mSize = offset := by
  by_cases early : offset + first < mSize
  · rw [Nat.mod_eq_of_lt early, show offset + first + mSize - first = offset + mSize by omega,
      Nat.add_mod_right, Nat.mod_eq_of_lt inside]
  · have wrapped : (offset + first) % mSize = offset + first - mSize := by
      rw [Nat.mod_eq_sub_mod (by omega), Nat.mod_eq_of_lt (by omega)]
    rw [wrapped, show offset + first - mSize + mSize - first = offset by omega,
      Nat.mod_eq_of_lt inside]

structure Kept (before after : ConnectionsRegister Descriptor mSize) : Prop where
  curItems : mCurItems after = mCurItems before
  untrackedItems : after.mUntrackedItems = before.mUntrackedItems
  firstPos : after.mItemsRing.firstPos = before.mItemsRing.firstPos

/-- One update changes its own connection and reports that connection's position. -/
theorem updateConn_spec (register : ConnectionsRegister Descriptor mSize) (first : Nat)
    (consecutive : Consecutive incrId register first) (filled : mCurItems register ≠ 0)
    (changedPos : List Nat) (update : Update) (after : ConnectionsRegister Descriptor mSize)
    (positions : List Nat)
    (stepped : updateConn updateId processUpdate register.mItemsRing.firstPos first
      (first + (mCurItems register - 1) : Nat) (register, changedPos) update = (after, positions)) :
    Kept register after ∧
      after.mItemsRing.contents
        = register.mItemsRing.contents.map (processOwn incrId updateId processUpdate update) ∧
      positions = changedPos ++ (getConnPositionById incrId register (updateId update)).toList := by
  have length := register.mItemsRing.contents_length
  have numbered : register.mItemsRing.contents.map incrId
      = List.range' first register.mItemsRing.contents.length := by
    rw [length]
    exact consecutive
  have head := register.mItemsRing.firstPos_lt
  have bounded := register.mItemsRing.count_le
  rw [getConnPositionById_eq incrId register first consecutive]
  by_cases inRange : first ≤ updateId update ∧ updateId update < first + mCurItems register
  · have inside : (updateId update - first).toNat < register.mItemsRing.count := by
      unfold mCurItems at inRange
      omega
    rw [updateConn, if_pos (by omega), Prod.mk.injEq] at stepped
    obtain ⟨rfl, rfl⟩ := stepped
    refine ⟨⟨rfl, rfl, rfl⟩, ?_, ?_⟩
    · dsimp only
      rw [RingBuffer.contents_modifySlot _ _ _ inside]
      exact modify_own incrId updateId processUpdate _ first numbered update
        (by rw [length]; exact inRange)
    · rw [if_pos inRange, Option.toList_some, slot_offset _ _ head (by omega)]
  · rw [updateConn, if_neg (by omega), Prod.mk.injEq] at stepped
    obtain ⟨rfl, rfl⟩ := stepped
    refine ⟨⟨rfl, rfl, rfl⟩, ?_, ?_⟩
    · exact (map_own_untracked incrId updateId processUpdate _ first numbered update
        (by rw [length]; exact inRange)).symm
    · rw [if_neg inRange, Option.toList_none, List.append_nil]

/-- All updates of a batch, in order, on the connection they concern. -/
def processOwnAll (acu : List Update) (conn : Descriptor) : Descriptor :=
  acu.foldl (fun current update => processOwn incrId updateId processUpdate update current) conn

/-- What a batch of updates does to the register, and the positions it reports. -/
structure Updated (register : ConnectionsRegister Descriptor mSize) (acu : List Update)
    (after : ConnectionsRegister Descriptor mSize) (positions : List Nat) : Prop
    extends Kept register after where
  contents : after.mItemsRing.contents
    = register.mItemsRing.contents.map (processOwnAll incrId updateId processUpdate acu)
  positions : positions
    = acu.filterMap fun update => getConnPositionById incrId register (updateId update)

include keepsId in
theorem processOwnAll_incrId (acu : List Update) (conn : Descriptor) :
    incrId (processOwnAll incrId updateId processUpdate acu conn) = incrId conn := by
  induction acu generalizing conn with
  | nil => rfl
  | cons update rest ih =>
      exact (ih _).trans (processOwn_incrId incrId updateId processUpdate keepsId update conn)

include keepsId in
theorem Updated.consecutive (register after : ConnectionsRegister Descriptor mSize)
    (acu : List Update) (positions : List Nat) (first : Nat)
    (updated : Updated incrId updateId processUpdate register acu after positions)
    (consecutive : Consecutive incrId register first) : Consecutive incrId after first := by
  rw [Consecutive, updated.contents, updated.curItems, List.map_map]
  exact consecutive ▸ List.map_congr_left fun conn _ =>
    processOwnAll_incrId incrId updateId processUpdate keepsId acu conn

include keepsId in
theorem updateConns_spec (register : ConnectionsRegister Descriptor mSize) (first : Nat)
    (consecutive : Consecutive incrId register first) (filled : mCurItems register ≠ 0)
    (acu : List Update) (changedPos : List Nat) (after : ConnectionsRegister Descriptor mSize)
    (positions : List Nat)
    (stepped : acu.foldl (updateConn updateId processUpdate register.mItemsRing.firstPos first
      (first + (mCurItems register - 1) : Nat)) (register, changedPos) = (after, positions)) :
    ∃ named, positions = changedPos ++ named ∧
      Updated incrId updateId processUpdate register acu after named := by
  induction acu generalizing register changedPos with
  | nil =>
      rw [List.foldl_nil, Prod.mk.injEq] at stepped
      obtain ⟨rfl, rfl⟩ := stepped
      exact ⟨[], (List.append_nil _).symm, ⟨rfl, rfl, rfl⟩, (List.map_id _).symm, rfl⟩
  | cons update rest ih =>
      rw [List.foldl_cons] at stepped
      rcases found : updateConn updateId processUpdate register.mItemsRing.firstPos first
        (first + (mCurItems register - 1) : Nat) (register, changedPos) update with
        ⟨middle, changed⟩
      obtain ⟨kept, contents, rfl⟩ := updateConn_spec incrId updateId processUpdate register
        first consecutive filled changedPos update middle changed found
      have still : Consecutive incrId middle first := by
        rw [Consecutive, contents, kept.curItems, List.map_map]
        exact consecutive ▸ List.map_congr_left fun conn _ =>
          processOwn_incrId incrId updateId processUpdate keepsId update conn
      have samePositions : getConnPositionById incrId middle
          = getConnPositionById incrId register := by
        funext id
        rw [getConnPositionById_eq incrId middle first still,
          getConnPositionById_eq incrId register first consecutive, kept.curItems]
      rw [found, ← kept.firstPos, ← kept.curItems] at stepped
      obtain ⟨later, rfl, updated⟩ := ih middle still (kept.curItems ▸ filled) _ stepped
      refine ⟨_, List.append_assoc _ _ _, ⟨updated.curItems.trans kept.curItems,
        updated.untrackedItems.trans kept.untrackedItems,
        updated.firstPos.trans kept.firstPos⟩, ?_, ?_⟩
      · rw [updated.contents, contents, List.map_map]
        rfl
      · rw [updated.positions, samePositions, List.filterMap_cons]
        cases getConnPositionById incrId register (updateId update) with
        | none => rfl
        | some position => rfl

include keepsId in
/-- A batch of updates reaches exactly the connections it names, in any state of the ring. -/
theorem connectionsUpdates_updated (register : ConnectionsRegister Descriptor mSize) (first : Nat)
    (consecutive : Consecutive incrId register first) (acu : List Update) :
    Updated incrId updateId processUpdate register acu
      (connectionsUpdates incrId updateId processUpdate register acu).1
      (connectionsUpdates incrId updateId processUpdate register acu).2 := by
  by_cases filled : mCurItems register = 0
  · have skipped : connectionsUpdates incrId updateId processUpdate register acu = (register, []) :=
      if_pos filled
    have nothing : register.mItemsRing.contents = [] :=
      List.eq_nil_of_length_eq_zero (register.mItemsRing.contents_length.trans filled)
    rw [skipped]
    refine ⟨⟨rfl, rfl, rfl⟩, by rw [nothing, List.map_nil], ?_⟩
    symm
    apply List.filterMap_eq_nil_iff.mpr
    intro update _
    exact if_pos filled
  · obtain ⟨firstConn, lastConn, atFirst, atLast, firstId, lastId⟩ :=
      ends_eq incrId register first consecutive filled
    have looped : connectionsUpdates incrId updateId processUpdate register acu
        = acu.foldl (updateConn updateId processUpdate register.mItemsRing.firstPos first
            (first + (mCurItems register - 1) : Nat)) (register, []) := by
      unfold connectionsUpdates
      rw [if_neg filled]
      simp only [atFirst, atLast, firstId, lastId]
    obtain ⟨named, positions, updated⟩ := updateConns_spec incrId updateId processUpdate keepsId
      register first consecutive filled acu [] _ _ rfl
    rw [looped, positions]
    exact updated

end Updates

end ById

end ConnectionsRegister

end Ptnet
