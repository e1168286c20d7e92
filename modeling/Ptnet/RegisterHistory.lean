import Ptnet.ConnectionMirror
import Ptnet.ConnectionsRegister
import Ptnet.Machine

/-!
Runs of the connections register over the batches of the capture service, for the
descriptors and updates of the app. The abstract state is the list of all connections
received so far; the register shows the end of it. A listener that applies its callbacks
and nothing else keeps a copy of what the register shows.
-/

namespace Ptnet.RegisterHistory

open ConnectionMirror (ConnectionDescriptor ConnectionUpdate)
open ConnectionsRegister (mCurItems getConn getConnById getConnPositionById mostRecent)
open Machine (run Along)

abbrev Register (mSize : Nat) := ConnectionsRegister ConnectionDescriptor mSize

/-- A `ConnectionUpdate` as the register receives it: the `Int` read from `incrId`, and what
    `isLowMemory` answers while it is processed. -/
structure Incoming where
  incrId : Int
  lowMemory : Bool
  update : ConnectionUpdate

def processUpdate (conn : ConnectionDescriptor) (incoming : Incoming) : ConnectionDescriptor :=
  conn.processUpdate incoming.lowMemory incoming.update

inductive Call where
  | newConnections (acd : List ConnectionDescriptor)
  | connectionsUpdates (acu : List Incoming)

variable {mSize : Nat}

def start (positive : 0 < mSize) : Register mSize := ⟨RingBuffer.empty {} positive, 0⟩

def connectionsUpdates (register : Register mSize) (acu : List Incoming) :
    Register mSize × List Nat :=
  ConnectionsRegister.connectionsUpdates ConnectionDescriptor.incrId Incoming.incrId processUpdate
    register acu

def step (register : Register mSize) : Call → Register mSize
  | .newConnections acd => (register.newConnections acd).1
  | .connectionsUpdates acu => (connectionsUpdates register acu).1

def Call.received : Call → List ConnectionDescriptor
  | .newConnections acd => acd
  | .connectionsUpdates _ => []

def received (calls : List Call) : List ConnectionDescriptor := calls.flatMap Call.received

/-- The identifiers of successive batches are contiguous and increasing. -/
def Numbered (base : Nat) (conns : List ConnectionDescriptor) : Prop :=
  conns.map ConnectionDescriptor.incrId = List.range' base conns.length

instance (base : Nat) (conns : List ConnectionDescriptor) : Decidable (Numbered base conns) :=
  inferInstanceAs (Decidable (_ = _))

/-- The updates of a batch that carry the connection's own identifier, applied in order. -/
def updated (acu : List Incoming) (conn : ConnectionDescriptor) : ConnectionDescriptor :=
  (acu.filter fun incoming => incoming.incrId = (conn.incrId : Int)).foldl processUpdate conn

/-- All connections received so far, oldest first. Updates reach the last `mSize` of them. -/
def record (mSize : Nat) (known : List ConnectionDescriptor) : Call → List ConnectionDescriptor
  | .newConnections acd => known ++ acd
  | .connectionsUpdates acu =>
      known.take (known.length - mSize) ++ (known.rtake mSize).map (updated acu)

/-- The register shows the last `mSize` of the known connections. -/
structure Tracks (register : Register mSize) (known : List ConnectionDescriptor) : Prop where
  curItems : mCurItems register = min known.length mSize
  untrackedItems : register.mUntrackedItems = known.length - mCurItems register
  getConn : ∀ i : Int, getConn register i
    = if 0 ≤ i ∧ i < mCurItems register then known[known.length - mCurItems register + i.toNat]?
      else none
  getConnById : ∀ id : Int, getConnById ConnectionDescriptor.incrId register id
    = (known.rtake mSize).find? fun conn => (conn.incrId : Int) = id
  updates : ∀ (acu : List Incoming) (i : Int),
    ConnectionsRegister.getConn (connectionsUpdates register acu).1 i
      = (ConnectionsRegister.getConn register i).map (updated acu)

structure Shows (base : Nat) (register : Register mSize) (known : List ConnectionDescriptor) :
    Prop where
  contents : register.mItemsRing.contents = known.rtake mSize
  untrackedItems : register.mUntrackedItems = known.length - mSize
  numbered : Numbered base known

theorem processUpdate_incrId (conn : ConnectionDescriptor) (incoming : Incoming) :
    (processUpdate conn incoming).incrId = conn.incrId := by
  unfold processUpdate ConnectionDescriptor.processUpdate
  dsimp only
  split
  · split <;> split <;> unfold ConnectionDescriptor.processPayload <;> split <;> rfl
  · split <;> split <;> rfl

theorem processOwnAll_eq (acu : List Incoming) (conn : ConnectionDescriptor) :
    ConnectionsRegister.processOwnAll ConnectionDescriptor.incrId Incoming.incrId processUpdate
      acu conn = updated acu conn := by
  induction acu generalizing conn with
  | nil => rfl
  | cons incoming rest ih =>
      unfold updated at *
      rw [ConnectionsRegister.processOwnAll, List.foldl_cons]
      change ConnectionsRegister.processOwnAll _ _ _ rest _ = _
      rw [ih, ConnectionsRegister.processOwn, List.filter_cons]
      by_cases own : incoming.incrId = (conn.incrId : Int)
      · simp only [own, if_true, decide_true, List.foldl_cons, processUpdate_incrId]
      · simp only [own, if_false, decide_false, Bool.false_eq_true]

theorem updated_incrId (acu : List Incoming) (conn : ConnectionDescriptor) :
    (updated acu conn).incrId = conn.incrId := by
  rw [← processOwnAll_eq]
  exact ConnectionsRegister.processOwnAll_incrId _ _ _ processUpdate_incrId acu conn

theorem rtake_numbered (base : Nat) (known : List ConnectionDescriptor)
    (numbered : Numbered base known) :
    Numbered (base + (known.length - mSize)) (known.rtake mSize) := by
  rw [Numbered, List.rtake, List.map_drop, numbered, List.drop_range', Nat.mul_one,
    List.length_drop]

theorem Shows.consecutive (base : Nat) (register : Register mSize)
    (known : List ConnectionDescriptor) (shows : Shows base register known) :
    ConnectionsRegister.Consecutive ConnectionDescriptor.incrId register
      (base + (known.length - mSize)) := by
  rw [ConnectionsRegister.Consecutive, shows.contents, mCurItems, ← RingBuffer.contents_length,
    shows.contents]
  exact rtake_numbered base known shows.numbered

theorem Shows.length (base : Nat) (register : Register mSize)
    (known : List ConnectionDescriptor) (shows : Shows base register known) :
    mCurItems register = min known.length mSize := by
  rw [mCurItems, ← RingBuffer.contents_length, shows.contents, List.rtake, List.length_drop]
  omega

theorem shows_updates (base : Nat) (register : Register mSize)
    (known : List ConnectionDescriptor) (shows : Shows base register known)
    (acu : List Incoming) :
    (connectionsUpdates register acu).1.mItemsRing.contents
      = register.mItemsRing.contents.map (updated acu) := by
  have reached := ConnectionsRegister.connectionsUpdates_updated ConnectionDescriptor.incrId
    Incoming.incrId processUpdate processUpdate_incrId register _ (shows.consecutive) acu
  exact reached.contents.trans (List.map_congr_left fun conn _ => processOwnAll_eq acu conn)

theorem record_length (known : List ConnectionDescriptor) (call : Call) :
    (record mSize known call).length = known.length + call.received.length := by
  cases call with
  | newConnections acd => exact List.length_append
  | connectionsUpdates acu =>
      rw [record, List.length_append, List.length_map, List.length_take, List.rtake,
        List.length_drop, Call.received, List.length_nil]
      omega

/-- The updates reach all that the register can show. -/
theorem record_rtake (known : List ConnectionDescriptor) (acu : List Incoming) :
    (record mSize known (.connectionsUpdates acu)).rtake mSize
      = (known.rtake mSize).map (updated acu) := by
  have front : (known.take (known.length - mSize)).length = known.length - mSize :=
    List.length_take_of_le (Nat.sub_le _ _)
  have same : (record mSize known (.connectionsUpdates acu)).length = known.length :=
    record_length known (.connectionsUpdates acu)
  rw [List.rtake.eq_def _ mSize, same, record, List.drop_append, front, Nat.sub_self,
    List.drop_zero, List.drop_of_length_le front.le, List.nil_append]

theorem record_incrId (known : List ConnectionDescriptor) (call : Call) :
    (record mSize known call).map ConnectionDescriptor.incrId
      = (known ++ call.received).map ConnectionDescriptor.incrId := by
  cases call with
  | newConnections acd => rfl
  | connectionsUpdates acu =>
      have named : ((known.rtake mSize).map (updated acu)).map ConnectionDescriptor.incrId
          = (known.rtake mSize).map ConnectionDescriptor.incrId := by
        rw [List.map_map]
        exact List.map_congr_left fun conn _ => updated_incrId acu conn
      rw [record, List.map_append, named, ← List.map_append, List.rtake, List.take_append_drop,
        Call.received, List.append_nil]

theorem step_shows (base : Nat) (register : Register mSize) (known : List ConnectionDescriptor)
    (call : Call) (shows : Shows base register known)
    (numbered : Numbered base (known ++ call.received)) :
    Shows base (step register call) (record mSize known call) := by
  have curItems := shows.length
  have ids : Numbered base (record mSize known call) := by
    rw [Numbered, record_incrId, record_length, ← List.length_append]
    exact numbered
  cases call with
  | newConnections acd =>
      refine ⟨?_, ?_, ids⟩
      · change (register.newConnections acd).1.mItemsRing.contents = (known ++ acd).rtake mSize
        rw [ConnectionsRegister.newConnections_contents, shows.contents,
          RingBuffer.rtake_append_rtake]
      · have cut : (mostRecent mSize acd).length = min acd.length mSize := by
          rw [ConnectionsRegister.mostRecent_eq, List.rtake, List.length_drop]
          omega
        change register.mUntrackedItems + (acd.length - mSize)
          + ((mostRecent mSize acd).length
            - min (mSize - mCurItems register) (mostRecent mSize acd).length)
          = (known ++ acd).length - mSize
        rw [shows.untrackedItems, cut, curItems, List.length_append]
        omega
  | connectionsUpdates acu =>
      have reached := ConnectionsRegister.connectionsUpdates_updated ConnectionDescriptor.incrId
        Incoming.incrId processUpdate processUpdate_incrId register _ shows.consecutive acu
      refine ⟨?_, ?_, ids⟩
      · change (connectionsUpdates register acu).1.mItemsRing.contents = _
        rw [shows_updates base register known shows, shows.contents, record_rtake]
      · change (connectionsUpdates register acu).1.mUntrackedItems = _
        rw [record_length, Call.received, List.length_nil, Nat.add_zero, ← shows.untrackedItems]
        exact reached.untrackedItems

theorem numbered_append (base : Nat) (first last : List ConnectionDescriptor) :
    Numbered base (first ++ last) ↔
      Numbered base first ∧ Numbered (base + first.length) last := by
  unfold Numbered
  rw [List.map_append, List.length_append, ← List.range'_append_1]
  constructor
  · intro same
    exact List.append_inj same (by simp)
  · rintro ⟨front, back⟩
    rw [front, back]

theorem run_shows (base : Nat) (register : Register mSize) (known : List ConnectionDescriptor)
    (calls : List Call) (shows : Shows base register known)
    (numbered : Numbered base (known ++ received calls)) :
    Shows base (run step register calls) (run (record mSize) known calls) := by
  induction calls generalizing register known with
  | nil => exact shows
  | cons call rest ih =>
      rw [received, List.flatMap_cons, ← List.append_assoc, numbered_append] at numbered
      have stepped := step_shows base register known call shows numbered.1
      apply ih _ _ stepped
      rw [numbered_append]
      refine ⟨stepped.numbered, ?_⟩
      rw [record_length, ← List.length_append]
      exact numbered.2

theorem start_shows (positive : 0 < mSize) (base : Nat) : Shows base (start positive) [] :=
  ⟨(RingBuffer.contents_empty _ positive).trans (List.rtake_nil _).symm, (Nat.zero_sub _).symm, rfl⟩

theorem Shows.tracks (base : Nat) (register : Register mSize) (known : List ConnectionDescriptor)
    (shows : Shows base register known) : Tracks register known := by
  have curItems := shows.length
  refine ⟨curItems, ?_, ?_, ?_, ?_⟩
  · rw [shows.untrackedItems, curItems]
    omega
  · intro i
    have ends := List.length_drop (i := known.length - mSize) (l := known)
    rw [ConnectionsRegister.getConn_eq, shows.contents, List.rtake, List.getElem?_drop, curItems]
    by_cases inside : 0 ≤ i ∧ i < (min known.length mSize : Nat)
    · rw [if_neg (by omega), if_pos inside]
      congr 1
      omega
    · rw [if_neg inside]
      by_cases negative : i < 0
      · rw [if_pos negative]
      · rw [if_neg negative, List.getElem?_eq_none (by omega)]
  · intro id
    rw [ConnectionsRegister.getConnById_eq _ register _ shows.consecutive, shows.contents]
  · intro acu i
    rw [ConnectionsRegister.getConn_eq, ConnectionsRegister.getConn_eq,
      shows_updates base register known shows, List.getElem?_map]
    split
    · rfl
    · rfl

theorem run_record_length (known : List ConnectionDescriptor) (calls : List Call) :
    (run (record mSize) known calls).length = known.length + (received calls).length := by
  induction calls generalizing known with
  | nil => rfl
  | cons call rest ih =>
      have split : received (call :: rest) = call.received ++ received rest := List.flatMap_cons
      rw [Machine.run_cons, ih, record_length, split, List.length_append, Nat.add_assoc]

/-- The ring invariant over every run: the register shows the end of the connections received,
    each found under its own identifier and changed by its own updates only. -/
theorem run_tracks (positive : 0 < mSize) (calls : List Call) (base : Nat)
    (numbered : Numbered base (received calls)) :
    (run (record mSize) [] calls).length = (received calls).length ∧
      Numbered base (run (record mSize) [] calls) ∧
      Tracks (run step (start positive) calls) (run (record mSize) [] calls) := by
  have shows := run_shows base (start positive) [] calls (start_shows positive base) numbered
  refine ⟨?_, shows.numbered, shows.tracks⟩
  rw [run_record_length, List.length_nil, Nat.zero_add]

/-- Updates for an evicted and for a tracked connection of `rollover`. -/
def twoUpdates : List Incoming :=
  [⟨0, false, { updateType := 1, sentBytes := 5 }⟩, ⟨2, false, { updateType := 1, sentBytes := 7 }⟩]

/-- A ring of two that rolls over: the third connection evicts the first one. -/
def rollover : List Call :=
  [.newConnections [{ incrId := 0 }, { incrId := 1 }], .newConnections [{ incrId := 2 }],
    .connectionsUpdates twoUpdates]

theorem rollover_tracks :
    (run (record 2) [] rollover).length = (received rollover).length ∧
      Numbered 0 (run (record 2) [] rollover) ∧
      Tracks (run step (start Nat.two_pos) rollover) (run (record 2) [] rollover) :=
  run_tracks Nat.two_pos rollover 0 (by decide)

end Ptnet.RegisterHistory
