import Mathlib.Algebra.Group.Prod
import Mathlib.Algebra.BigOperators.Group.List.Basic
import Mathlib.Tactic.Abel
import Ptnet.RegisterHistory

/-!
The accounting of ConnectionsRegister.kt beside its ring: the statistics of the apps, and the
counters of malicious and blocked connections and of the connections of an interface. An app
without statistics reads as zero, as does an interface without a counter.
-/

namespace Ptnet.AppTotals

open ConnectionMirror (ConnectionDescriptor UPDATE_STATS)
open RegisterHistory (Incoming)
open ConnectionsRegister (mCurItems mostRecent Consecutive processOwn processOwnAll)
open Machine (run Along)

structure Conn extends ConnectionDescriptor where
  uid : Int := 0
  ifidx : Int := 0
  alerted : Bool := false
  blockAccounted : Bool := false
  deriving DecidableEq, Repr

structure AppStats where
  sentBytes : Int := 0
  rcvdBytes : Int := 0
  numConnections : Int := 0
  numBlockedConnections : Int := 0
  deriving DecidableEq, Repr

structure Counters where
  mAppsStats : Int → AppStats := fun _ => {}
  mNumMalicious : Int := 0
  mNumBlocked : Int := 0
  mLastFirewallBlock : Int := 0
  mConnsByIface : Int → Int := fun _ => 0

structure Register (mSize : Nat) where
  ring : ConnectionsRegister Conn mSize
  counters : Counters := {}

inductive Call where
  | newConnections (acd : List Conn)
  | connectionsUpdates (acu : List Incoming)

section Code

def Conn.isBlacklisted (conn : Conn) : Bool := conn.blacklistedIp || conn.blacklistedHost

def Conn.processUpdate (conn : Conn) (incoming : Incoming) : Conn :=
  { conn with
    toConnectionDescriptor :=
      conn.toConnectionDescriptor.processUpdate incoming.lowMemory incoming.update }

/-- A change of the statistics that `getAppsStatsOrCreate` returns. -/
def Counters.changeApp (counters : Counters) (uid : Int) (change : AppStats → AppStats) :
    Counters :=
  { counters with
    mAppsStats := Function.update counters.mAppsStats uid (change (counters.mAppsStats uid)) }

def accountMalicious (counters : Counters) (conn : Conn) : Counters × Conn :=
  if !conn.alerted && conn.isBlacklisted then
    ({ counters with mNumMalicious := counters.mNumMalicious + 1 }, { conn with alerted := true })
  else if conn.alerted && !conn.isBlacklisted then
    ({ counters with mNumMalicious := counters.mNumMalicious - 1 }, { conn with alerted := false })
  else (counters, conn)

def Counters.changeBlocked (counters : Counters) (uid : Int) (change : Int) : Counters :=
  { counters with mNumBlocked := counters.mNumBlocked + change }.changeApp uid fun stats =>
    { stats with numBlockedConnections := stats.numBlockedConnections + change }

def accountBlocked (counters : Counters) (conn : Conn) : Counters × Conn :=
  if !conn.blockAccounted && conn.isBlocked then
    (counters.changeBlocked conn.uid 1, { conn with blockAccounted := true })
  else if conn.blockAccounted && !conn.isBlocked then
    (counters.changeBlocked conn.uid (-1), { conn with blockAccounted := false })
  else (counters, conn)

def processConnectionStatus (counters : Counters) (conn : Conn) : Counters × Conn :=
  let (alerted, conn) := accountMalicious counters conn
  let (accounted, conn) := accountBlocked alerted conn
  (if conn.isBlocked then
    { accounted with mLastFirewallBlock := max conn.lastSeen accounted.mLastFirewallBlock }
  else accounted, conn)

def Counters.remove (counters : Counters) (conn : Conn) : Counters :=
  let left :=
    if 0 < conn.ifidx then
      let numConn := counters.mConnsByIface conn.ifidx - 1
      { counters with
        mConnsByIface := Function.update counters.mConnsByIface conn.ifidx
          (if numConn ≤ 0 then 0 else numConn) }
    else counters
  if conn.isBlacklisted then { left with mNumMalicious := left.mNumMalicious - 1 } else left

variable {mSize : Nat}

/-- One turn of the loop that adds connections. -/
def addConn (register : Register mSize) (conn : Conn) : Register mSize :=
  let counters := register.counters
  let joined :=
    if 0 < conn.ifidx then
      { counters with
        mConnsByIface := Function.update counters.mConnsByIface conn.ifidx
          (counters.mConnsByIface conn.ifidx + 1) }
    else counters
  let (processed, conn) := processConnectionStatus joined conn
  { ring :=
      { register.ring with mItemsRing := register.ring.mItemsRing.push conn }
    counters := processed.changeApp conn.uid fun stats =>
      { stats with
        numConnections := stats.numConnections + 1
        rcvdBytes := stats.rcvdBytes + conn.rcvdBytes
        sentBytes := stats.sentBytes + conn.sentBytes } }

def newConnections (register : Register mSize) (acd : List Conn) : Register mSize :=
  let conns := mostRecent mSize acd
  let outItems := conns.length - min (mSize - mCurItems register.ring) conns.length
  let removedItems := (List.range outItems).filterMap register.ring.mItemsRing.get
  let added := conns.foldl addConn
    { register with counters := removedItems.foldl Counters.remove register.counters }
  { added with
    ring :=
      { added.ring with
        mUntrackedItems := register.ring.mUntrackedItems + (acd.length - mSize) + outItems } }

/-- One turn of the loop of `connectionsUpdates`. -/
def updateConn (first : Nat) (firstId lastId : Int) (register : Register mSize)
    (update : Incoming) : Register mSize :=
  let id := update.incrId
  if firstId ≤ id ∧ id ≤ lastId then
    let pos := ((id - firstId).toNat + first) % mSize
    match register.ring.mItemsRing.slots[pos]? with
    | none => register
    | some conn =>
        let accounted := register.counters.changeApp conn.uid fun stats =>
          { stats with
            sentBytes := stats.sentBytes + (update.update.sentBytes - conn.sentBytes)
            rcvdBytes := stats.rcvdBytes + (update.update.rcvdBytes - conn.rcvdBytes) }
        let (processed, changed) :=
          processConnectionStatus accounted (conn.processUpdate update)
        { ring :=
            { register.ring with
              mItemsRing := register.ring.mItemsRing.modifySlot pos fun _ => changed }
          counters := processed }
  else register

def connectionsUpdates (register : Register mSize) (acu : List Incoming) : Register mSize :=
  if mCurItems register.ring = 0 then register
  else
    let first := register.ring.mItemsRing.firstPos
    match register.ring.mItemsRing.slots[first]?,
        register.ring.mItemsRing.slots[register.ring.mItemsRing.lastPos]? with
    | some firstConn, some lastConn =>
        acu.foldl (updateConn first firstConn.incrId lastConn.incrId) register
    | _, _ => register

def start (positive : 0 < mSize) : Register mSize where
  ring := ⟨RingBuffer.empty {} positive, 0⟩

def step (register : Register mSize) : Call → Register mSize
  | .newConnections acd => newConnections register acd
  | .connectionsUpdates acu => connectionsUpdates register acu

end Code

section Status

/-- What `processConnectionStatus` leaves in the connection. -/
def Conn.marked (conn : Conn) : Conn :=
  { conn with alerted := conn.isBlacklisted, blockAccounted := conn.isBlocked }

def Conn.updated (conn : Conn) (incoming : Incoming) : Conn :=
  (conn.processUpdate incoming).marked

def AppStats.tally (stats : AppStats) : Int × Int × Int :=
  (stats.sentBytes, stats.rcvdBytes, stats.numConnections)

def Counters.tally (counters : Counters) (uid : Int) : Int × Int × Int :=
  (counters.mAppsStats uid).tally

theorem accountMalicious_conn (counters : Counters) (conn : Conn) :
    (accountMalicious counters conn).2 = { conn with alerted := conn.isBlacklisted } := by
  cases alerted : conn.alerted <;> cases listed : conn.isBlacklisted
  · simp only [accountMalicious, alerted, listed]
    exact congrArg (fun flag => { conn with alerted := flag }) alerted
  · simp [accountMalicious, alerted, listed]
  · simp [accountMalicious, alerted, listed]
  · simp only [accountMalicious, alerted, listed]
    exact congrArg (fun flag => { conn with alerted := flag }) alerted

theorem accountMalicious_stats (counters : Counters) (conn : Conn) :
    (accountMalicious counters conn).1.mAppsStats = counters.mAppsStats := by
  unfold accountMalicious
  split
  · rfl
  · split <;> rfl

theorem accountBlocked_conn (counters : Counters) (conn : Conn) :
    (accountBlocked counters conn).2 = { conn with blockAccounted := conn.isBlocked } := by
  cases accounted : conn.blockAccounted <;> cases blocked : conn.isBlocked
  · simp only [accountBlocked, accounted, blocked]
    exact congrArg (fun flag => { conn with blockAccounted := flag }) accounted
  · simp [accountBlocked, accounted, blocked]
  · simp [accountBlocked, accounted, blocked]
  · simp only [accountBlocked, accounted, blocked]
    exact congrArg (fun flag => { conn with blockAccounted := flag }) accounted

theorem changeApp_tally (counters : Counters) (changed uid : Int) (change : AppStats → AppStats)
    (difference : Int × Int × Int)
    (changes : (change (counters.mAppsStats changed)).tally =
      (counters.mAppsStats changed).tally + difference) :
    (counters.changeApp changed change).tally uid =
      counters.tally uid + if changed = uid then difference else 0 := by
  by_cases same : changed = uid
  · subst same
    simp [Counters.tally, Counters.changeApp, changes]
  · simp [Counters.tally, Counters.changeApp, Function.update_of_ne (Ne.symm same), same]

theorem accountBlocked_tally (counters : Counters) (conn : Conn) (uid : Int) :
    (accountBlocked counters conn).1.tally uid = counters.tally uid := by
  have blocked : ∀ change, (counters.changeBlocked conn.uid change).tally uid =
      counters.tally uid := by
    intro change
    rw [Counters.changeBlocked, changeApp_tally _ _ _ _ 0 (by simp [AppStats.tally]), ite_self,
      add_zero]
    rfl
  unfold accountBlocked
  split
  · exact blocked 1
  · split
    · exact blocked (-1)
    · rfl

theorem processConnectionStatus_conn (counters : Counters) (conn : Conn) :
    (processConnectionStatus counters conn).2 = conn.marked := by
  simp only [processConnectionStatus]
  rw [accountBlocked_conn, accountMalicious_conn]
  rfl

/-- The status of a connection does not count for the totals. -/
theorem processConnectionStatus_tally (counters : Counters) (conn : Conn) (uid : Int) :
    (processConnectionStatus counters conn).1.tally uid = counters.tally uid := by
  have accounted := accountBlocked_tally (accountMalicious counters conn).1
    (accountMalicious counters conn).2 uid
  rw [Counters.tally, Counters.tally, accountMalicious_stats] at accounted
  simp only [processConnectionStatus]
  split <;> exact accounted

theorem remove_tally (counters : Counters) (conn : Conn) (uid : Int) :
    (counters.remove conn).tally uid = counters.tally uid := by
  unfold Counters.remove
  dsimp only
  split <;> split <;> rfl

theorem removeAll_tally (counters : Counters) (conns : List Conn) (uid : Int) :
    (conns.foldl Counters.remove counters).tally uid = counters.tally uid := by
  induction conns generalizing counters with
  | nil => rfl
  | cons conn rest ih => rw [List.foldl_cons, ih, remove_tally]

end Status

section Ring

variable {mSize : Nat}

theorem processUpdate_kept (conn : Conn) (incoming : Incoming) :
    (conn.updated incoming).incrId = conn.incrId ∧ (conn.updated incoming).uid = conn.uid := by
  exact ⟨RegisterHistory.processUpdate_incrId conn.toConnectionDescriptor incoming, rfl⟩

theorem addConn_ring (register : Register mSize) (conn : Conn) :
    (addConn register conn).ring.mItemsRing = register.ring.mItemsRing.push conn.marked ∧
      (addConn register conn).ring.mUntrackedItems = register.ring.mUntrackedItems := by
  constructor <;> simp [addConn, processConnectionStatus_conn]

theorem addConns_ring (register : Register mSize) (conns : List Conn) :
    (conns.foldl addConn register).ring.mItemsRing =
      register.ring.mItemsRing.pushAll (conns.map Conn.marked) := by
  induction conns generalizing register with
  | nil => rfl
  | cons conn rest ih =>
      rw [List.foldl_cons, ih, (addConn_ring register conn).1]
      rfl

theorem mostRecent_map (acd : List Conn) :
    (mostRecent mSize acd).map Conn.marked = mostRecent mSize (acd.map Conn.marked) := by
  unfold mostRecent
  rw [List.length_map]
  split
  · rw [List.map_drop]
  · rfl

theorem newConnections_ring (register : Register mSize) (acd : List Conn) :
    (newConnections register acd).ring =
      (register.ring.newConnections (acd.map Conn.marked)).1 := by
  simp only [newConnections, ConnectionsRegister.newConnections, ← mostRecent_map,
    List.length_map, addConns_ring]

theorem modify_const (slots : List Conn) (pos : Nat) (conn : Conn) (change : Conn → Conn)
    (found : slots[pos]? = some conn) :
    slots.modify pos (fun _ => change conn) = slots.modify pos change := by
  apply List.ext_getElem?
  intro index
  rw [List.getElem?_modify, List.getElem?_modify]
  by_cases here : pos = index
  · subst here
    simp [found]
  · simp [here]

theorem updateConn_ring (first : Nat) (firstId lastId : Int) (register : Register mSize)
    (changedPos : List Nat) (update : Incoming) :
    (updateConn first firstId lastId register update).ring =
      (ConnectionsRegister.updateConn Incoming.incrId Conn.updated first firstId lastId
        (register.ring, changedPos) update).1 := by
  by_cases inRange : firstId ≤ update.incrId ∧ update.incrId ≤ lastId
  · have below : ((update.incrId - firstId).toNat + first) % mSize <
        register.ring.mItemsRing.slots.length := by
      rw [register.ring.mItemsRing.slots_length]
      exact Nat.mod_lt _ (Nat.zero_lt_of_lt register.ring.mItemsRing.tail_lt)
    have found := List.getElem?_eq_getElem below
    simp only [updateConn, ConnectionsRegister.updateConn, if_pos inRange, found,
      processConnectionStatus_conn]
    congr 1
    simp only [RingBuffer.modifySlot]
    congr 1
    exact modify_const _ _ _ (fun conn => conn.updated update) found
  · simp only [updateConn, ConnectionsRegister.updateConn, if_neg inRange]

theorem updateConns_ring (first : Nat) (firstId lastId : Int) (acu : List Incoming)
    (register : Register mSize) (changedPos : List Nat) :
    (acu.foldl (updateConn first firstId lastId) register).ring =
      (acu.foldl (ConnectionsRegister.updateConn Incoming.incrId Conn.updated first firstId lastId)
        (register.ring, changedPos)).1 := by
  induction acu generalizing register changedPos with
  | nil => rfl
  | cons update rest ih =>
      rw [List.foldl_cons, List.foldl_cons, ih _ (ConnectionsRegister.updateConn Incoming.incrId
        Conn.updated first firstId lastId (register.ring, changedPos) update).2,
        updateConn_ring first firstId lastId register changedPos update]

theorem connectionsUpdates_ring (register : Register mSize) (acu : List Incoming) :
    (connectionsUpdates register acu).ring =
      (ConnectionsRegister.connectionsUpdates (fun conn : Conn => conn.incrId) Incoming.incrId
        Conn.updated register.ring acu).1 := by
  unfold connectionsUpdates ConnectionsRegister.connectionsUpdates
  split
  · rfl
  · dsimp only
    cases register.ring.mItemsRing.slots[register.ring.mItemsRing.firstPos]? with
    | none => rfl
    | some firstConn =>
        cases register.ring.mItemsRing.slots[register.ring.mItemsRing.lastPos]? with
        | none => rfl
        | some lastConn => exact updateConns_ring _ _ _ acu register []

end Ring

section Sums

def Conn.share (uid : Int) (conn : Conn) : Int × Int × Int :=
  if conn.uid = uid then (conn.sentBytes, conn.rcvdBytes, 1) else 0

def summary (conns : List Conn) (uid : Int) : Int × Int × Int := (conns.map (Conn.share uid)).sum

def unaccounted (update : Incoming) (conn : Conn) : Int × Int × Int :=
  if update.update.updateType &&& UPDATE_STATS != 0 then 0
  else
    (update.update.sentBytes - conn.sentBytes, update.update.rcvdBytes - conn.rcvdBytes, 0)

theorem summary_append (first last : List Conn) (uid : Int) :
    summary (first ++ last) uid = summary first uid + summary last uid := by
  rw [summary, List.map_append, List.sum_append]
  rfl

theorem summary_marked (conns : List Conn) (uid : Int) :
    summary (conns.map Conn.marked) uid = summary conns uid := by
  rw [summary, List.map_map]
  rfl

theorem sum_modify {Item Total : Type*} [AddCommGroup Total] (items : List Item) (index : Nat)
    (change : Item → Item) (value : Item → Total) (item : Item)
    (found : items[index]? = some item) :
    ((items.modify index change).map value).sum =
      (items.map value).sum + (value (change item) - value item) := by
  induction items generalizing index with
  | nil => simp at found
  | cons first rest ih =>
      cases index with
      | zero =>
          obtain rfl : first = item := by simpa using found
          simp only [List.modify_zero_cons, List.map_cons, List.sum_cons]
          abel
      | succ index =>
          have later := ih index (by simpa using found)
          simp only [List.modify_succ_cons, List.map_cons, List.sum_cons, later, add_assoc]

theorem processUpdate_bytes (conn : Conn) (update : Incoming) :
    (conn.processUpdate update).sentBytes =
        (if update.update.updateType &&& UPDATE_STATS != 0 then update.update.sentBytes
          else conn.sentBytes) ∧
      (conn.processUpdate update).rcvdBytes =
        (if update.update.updateType &&& UPDATE_STATS != 0 then update.update.rcvdBytes
          else conn.rcvdBytes) := by
  simp only [Conn.processUpdate, ConnectionDescriptor.processUpdate]
  cases update.update.updateType &&& UPDATE_STATS != 0 <;>
    cases update.update.updateType &&& ConnectionMirror.UPDATE_INFO != 0 <;>
    cases update.update.updateType &&& ConnectionMirror.UPDATE_PAYLOAD != 0 <;>
    cases update.lowMemory <;> exact ⟨rfl, rfl⟩

/-- What the loop adds is what the connection's share grows by, and what is unaccounted for. -/
theorem updated_share (conn : Conn) (update : Incoming) (uid : Int) :
    (if conn.uid = uid then (update.update.sentBytes - conn.sentBytes,
        update.update.rcvdBytes - conn.rcvdBytes, 0) else (0 : Int × Int × Int)) =
      ((conn.updated update).share uid - conn.share uid) +
        if conn.uid = uid then unaccounted update conn else 0 := by
  obtain ⟨sent, rcvd⟩ := processUpdate_bytes conn update
  have share : (conn.updated update).share uid = (conn.processUpdate update).share uid := rfl
  have kept : (conn.processUpdate update).uid = conn.uid := rfl
  rw [share, Conn.share, Conn.share, kept, sent, rcvd, unaccounted]
  by_cases same : conn.uid = uid
  · simp only [same, if_true]
    split <;> simp
  · simp [same]

end Sums

section Law

variable {mSize : Nat} (register : Register mSize)

def Register.contents : List Conn := register.ring.mItemsRing.contents

/-- What the statistics of an app show beyond the connections in the ring. -/
def Register.excess (uid : Int) : Int × Int × Int :=
  register.counters.tally uid - summary register.contents uid

def Register.find (id : Int) : Option Conn :=
  ConnectionsRegister.getConnById (fun conn : Conn => conn.incrId) register.ring id

def Register.Numbered (first : Nat) : Prop :=
  Consecutive (fun conn : Conn => conn.incrId) register.ring first

def drift (update : Incoming) (uid : Int) : Int × Int × Int :=
  match register.find update.incrId with
  | none => 0
  | some conn => if conn.uid = uid then unaccounted update conn else 0

theorem addConn_tally (conn : Conn) (uid : Int) :
    (addConn register conn).counters.tally uid = register.counters.tally uid + conn.share uid := by
  simp only [addConn]
  rw [changeApp_tally _ _ _ _ (conn.sentBytes, conn.rcvdBytes, 1) ?_,
    processConnectionStatus_tally, processConnectionStatus_conn]
  · rw [Conn.share]
    congr 1
    split <;> rfl
  · rw [processConnectionStatus_conn]
    simp only [AppStats.tally, Prod.mk_add_mk]
    rfl

theorem addConns_tally (conns : List Conn) (uid : Int) :
    (conns.foldl addConn register).counters.tally uid =
      register.counters.tally uid + summary conns uid := by
  induction conns generalizing register with
  | nil => simp [summary]
  | cons conn rest ih =>
      rw [List.foldl_cons, ih, addConn_tally, add_assoc, summary, summary, List.map_cons,
        List.sum_cons]

/-- Each connection that is placed in the ring is accounted, with its app. -/
theorem newConnections_tally (acd : List Conn) (uid : Int) :
    (newConnections register acd).counters.tally uid =
      register.counters.tally uid + summary (mostRecent mSize acd) uid := by
  simp only [newConnections]
  rw [addConns_tally, removeAll_tally]

/-- The ends of the loop, as the identifiers in the ring say them. -/
def updateOne (first : Nat) : Register mSize → Incoming → Register mSize :=
  updateConn register.ring.mItemsRing.firstPos first (first + (mCurItems register.ring - 1) : Nat)

theorem connectionsUpdates_eq (first : Nat) (numbered : register.Numbered first)
    (filled : mCurItems register.ring ≠ 0) (acu : List Incoming) :
    connectionsUpdates register acu = acu.foldl (updateOne register first) register := by
  obtain ⟨firstConn, lastConn, atFirst, atLast, firstId, lastId⟩ :=
    ConnectionsRegister.ends_eq (fun conn : Conn => conn.incrId) register.ring first numbered filled
  unfold connectionsUpdates
  rw [if_neg filled]
  simp only [atFirst, atLast, firstId, lastId]
  rfl

/-- An update finds the connection that carries its identifier, or leaves all as it is. -/
theorem updateOne_cases (first : Nat) (numbered : register.Numbered first)
    (filled : mCurItems register.ring ≠ 0) (update : Incoming) :
    (register.find update.incrId = none ∧ updateOne register first register update = register) ∨
      ∃ index conn, register.contents[index]? = some conn ∧
        register.find update.incrId = some conn ∧
        (updateOne register first register update).contents =
          register.contents.modify index (fun conn => conn.updated update) ∧
        (updateOne register first register update).counters =
          (processConnectionStatus
            (register.counters.changeApp conn.uid fun stats =>
              { stats with
                sentBytes := stats.sentBytes + (update.update.sentBytes - conn.sentBytes)
                rcvdBytes := stats.rcvdBytes + (update.update.rcvdBytes - conn.rcvdBytes) })
            (conn.processUpdate update)).1 := by
  have length := register.ring.mItemsRing.contents_length
  have position := ConnectionsRegister.getConnPositionById_eq (fun conn : Conn => conn.incrId)
    register.ring first numbered update.incrId
  by_cases inRange : (first : Int) ≤ update.incrId ∧
      update.incrId < first + mCurItems register.ring
  · have inside : (update.incrId - first).toNat < register.ring.mItemsRing.count := by
      unfold mCurItems at inRange
      omega
    have found := List.getElem?_eq_getElem (l := register.contents)
      (i := (update.incrId - first).toNat) (by
        rw [Register.contents, length]
        exact inside)
    have slot : register.ring.mItemsRing.slots[((update.incrId - first).toNat +
        register.ring.mItemsRing.firstPos) % mSize]? =
          register.contents[(update.incrId - first).toNat]? := by
      rw [Register.contents, ← RingBuffer.get_eq, RingBuffer.get, if_pos inside, Nat.add_comm]
    refine .inr ⟨_, _, found, ?_, ?_, ?_⟩
    · rw [Register.find, ConnectionsRegister.getConnById, position, if_pos inRange,
        Option.bind_some, ConnectionsRegister.getConn_eq, if_neg (by omega), Int.toNat_natCast]
      exact found
    · have ring := updateConn_ring register.ring.mItemsRing.firstPos first
        (first + (mCurItems register.ring - 1) : Nat) register [] update
      rw [Register.contents, updateOne, ring, ConnectionsRegister.updateConn, if_pos (by omega)]
      exact RingBuffer.contents_modifySlot _ _ _ inside
    · simp only [updateOne, updateConn]
      rw [if_pos (by omega), slot, found]
  · have outside : register.find update.incrId = none := by
      rw [Register.find, ConnectionsRegister.getConnById, position, if_neg inRange]
      rfl
    refine .inl ⟨outside, ?_⟩
    simp only [updateOne, updateConn]
    exact if_neg (by omega)

theorem updateOne_excess (first : Nat) (numbered : register.Numbered first)
    (filled : mCurItems register.ring ≠ 0) (update : Incoming) (uid : Int) :
    (updateOne register first register update).excess uid =
      register.excess uid + drift register update uid := by
  rcases updateOne_cases register first numbered filled update with
    ⟨missing, same⟩ | ⟨index, conn, stored, found, contents, counters⟩
  · rw [drift, missing, same]
    exact (add_zero _).symm
  · have share := updated_share conn update uid
    have sum := sum_modify register.contents index (fun conn => conn.updated update)
      (Conn.share uid) conn stored
    rw [drift, found, Register.excess, Register.excess, summary, contents, sum, counters,
      processConnectionStatus_tally, changeApp_tally _ _ _ _ (update.update.sentBytes -
        conn.sentBytes, update.update.rcvdBytes - conn.rcvdBytes, 0) ?_, share]
    · simp only [summary]
      abel
    · simp [AppStats.tally]

theorem updated_incrId (conn : Conn) (update : Incoming) :
    (conn.updated update).incrId = conn.incrId :=
  (processUpdate_kept conn update).1

/-- The updates of a batch that carry the connection's own identifier, applied in order. -/
def Conn.updatedAll (acu : List Incoming) (conn : Conn) : Conn :=
  processOwnAll (fun conn : Conn => conn.incrId) Incoming.incrId Conn.updated acu conn

theorem connectionsUpdates_kept (first : Nat) (numbered : register.Numbered first)
    (acu : List Incoming) :
    mCurItems (connectionsUpdates register acu).ring = mCurItems register.ring ∧
      (connectionsUpdates register acu).ring.mItemsRing.firstPos =
        register.ring.mItemsRing.firstPos ∧
      (connectionsUpdates register acu).contents =
        register.contents.map (Conn.updatedAll acu) ∧
      (connectionsUpdates register acu).Numbered first := by
  have updated := ConnectionsRegister.connectionsUpdates_updated
    (fun conn : Conn => conn.incrId) Incoming.incrId Conn.updated updated_incrId register.ring first
    numbered acu
  have still := updated.consecutive _ _ _ updated_incrId _ _ _ _ _ numbered
  rw [← connectionsUpdates_ring] at still
  refine ⟨?_, ?_, ?_, still⟩
  · rw [connectionsUpdates_ring]
    exact updated.curItems
  · rw [connectionsUpdates_ring]
    exact updated.firstPos
  · rw [Register.contents, connectionsUpdates_ring]
    exact updated.contents

/-- It does not matter how updates are batched. -/
theorem connectionsUpdates_append (first : Nat) (numbered : register.Numbered first)
    (acu more : List Incoming) :
    connectionsUpdates register (acu ++ more) =
      connectionsUpdates (connectionsUpdates register acu) more := by
  obtain ⟨curItems, firstPos, _, still⟩ := connectionsUpdates_kept register first numbered acu
  by_cases filled : mCurItems register.ring = 0
  · have skipped : ∀ updates, connectionsUpdates register updates = register :=
      fun updates => if_pos filled
    rw [skipped, skipped, skipped]
  · have same : updateOne (connectionsUpdates register acu) first = updateOne register first := by
      rw [updateOne, updateOne, curItems, firstPos]
    rw [connectionsUpdates_eq _ first still (curItems ▸ filled), same,
      connectionsUpdates_eq _ first numbered filled, connectionsUpdates_eq _ first numbered filled,
      List.foldl_append]

theorem connectionsUpdates_one (first : Nat) (numbered : register.Numbered first)
    (update : Incoming) (uid : Int) :
    (connectionsUpdates register [update]).excess uid =
      register.excess uid + drift register update uid := by
  by_cases filled : mCurItems register.ring = 0
  · have missing : register.find update.incrId = none := by
      rw [Register.find, ConnectionsRegister.getConnById, ConnectionsRegister.getConnPositionById,
        if_pos filled]
      rfl
    rw [connectionsUpdates, if_pos filled, drift, missing]
    exact (add_zero _).symm
  · rw [connectionsUpdates_eq register first numbered filled]
    exact updateOne_excess register first numbered filled update uid

def callDrift (register : Register mSize) (uid : Int) : Call → Int × Int × Int
  | .newConnections _ => 0
  | .connectionsUpdates acu =>
      (Machine.trace (fun register update => connectionsUpdates register [update])
        (fun register update => drift register update uid) register acu).sum

theorem connectionsUpdates_excess (first : Nat) (numbered : register.Numbered first)
    (acu : List Incoming) (uid : Int) :
    (connectionsUpdates register acu).excess uid =
      register.excess uid + callDrift register uid (.connectionsUpdates acu) := by
  induction acu generalizing register with
  | nil =>
      have nothing : connectionsUpdates register [] = register := by
        unfold connectionsUpdates
        split
        · rfl
        · dsimp only
          split <;> rfl
      rw [nothing, callDrift, Machine.trace, List.sum_nil, add_zero]
  | cons update rest ih =>
      have still := (connectionsUpdates_kept register first numbered [update]).2.2.2
      rw [← List.singleton_append, connectionsUpdates_append register first numbered, ih _ still,
        connectionsUpdates_one register first numbered, add_assoc, callDrift, callDrift,
        List.singleton_append, Machine.trace, List.sum_cons]

end Law

section Runs

variable {mSize : Nat}

def Call.received : Call → List Conn
  | .newConnections acd => acd
  | .connectionsUpdates _ => []

def received (calls : List Call) : List Conn := calls.flatMap Call.received

/-- The identifiers of successive connections are contiguous and increasing. -/
def NumberedFrom (base : Nat) (conns : List Conn) : Prop :=
  conns.map (fun conn => conn.incrId) = List.range' base conns.length

instance (base : Nat) (conns : List Conn) : Decidable (NumberedFrom base conns) :=
  inferInstanceAs (Decidable (_ = _))

/-- All connections ever placed in the ring, with what was last known of them. -/
def record (mSize : Nat) (known : List Conn) : Call → List Conn
  | .newConnections acd => known ++ (mostRecent mSize acd).map Conn.marked
  | .connectionsUpdates acu =>
      known.take (known.length - mSize) ++ (known.rtake mSize).map (Conn.updatedAll acu)

/-- What the statistics of an app show beyond the connections ever placed. -/
def error (register : Register mSize) (known : List Conn) (uid : Int) : Int × Int × Int :=
  register.counters.tally uid - summary known uid

structure Shows (next : Nat) (register : Register mSize) (known : List Conn) : Prop where
  contents : register.contents = known.rtake mSize
  numbered : ∃ first, register.Numbered first ∧ first + mCurItems register.ring = next

theorem summary_split (size : Nat) (known : List Conn) (uid : Int) :
    summary known uid = summary (known.take (known.length - size)) uid +
      summary (known.rtake size) uid := by
  rw [← summary_append, List.rtake, List.take_append_drop]

theorem step_error (next : Nat) (register : Register mSize) (known : List Conn)
    (shows : Shows next register known) (call : Call) (uid : Int) :
    error (step register call) (record mSize known call) uid =
      error register known uid + callDrift register uid call := by
  cases call with
  | newConnections acd =>
      rw [error, error, step, record, newConnections_tally, summary_append, summary_marked,
        callDrift]
      abel
  | connectionsUpdates acu =>
      obtain ⟨first, numbered, _⟩ := shows.numbered
      have excess := connectionsUpdates_excess register first numbered acu uid
      have contents := (connectionsUpdates_kept register first numbered acu).2.2.1
      rw [Register.excess, Register.excess, contents, shows.contents] at excess
      rw [error, error, step, record, summary_append, summary_split mSize known]
      calc (connectionsUpdates register acu).counters.tally uid -
            (summary (known.take (known.length - mSize)) uid +
              summary ((known.rtake mSize).map (Conn.updatedAll acu)) uid)
          = ((connectionsUpdates register acu).counters.tally uid -
              summary ((known.rtake mSize).map (Conn.updatedAll acu)) uid) -
                summary (known.take (known.length - mSize)) uid := by abel
        _ = _ := by
            rw [excess]
            abel

theorem record_rtake (known : List Conn) (change : Conn → Conn) :
    (known.take (known.length - mSize) ++ (known.rtake mSize).map change).rtake mSize =
      (known.rtake mSize).map change := by
  have front : (known.take (known.length - mSize)).length = known.length - mSize :=
    List.length_take_of_le (Nat.sub_le _ _)
  have same : (known.take (known.length - mSize) ++ (known.rtake mSize).map change).length =
      known.length := by
    rw [List.length_append, front, List.length_map, List.rtake, List.length_drop]
    omega
  rw [List.rtake.eq_def _ mSize, same, List.drop_append, front, Nat.sub_self, List.drop_zero,
    List.drop_of_length_le front.le, List.nil_append]

theorem step_shows (next : Nat) (register : Register mSize) (known : List Conn)
    (shows : Shows next register known) (call : Call)
    (numbered : NumberedFrom next call.received) :
    Shows (next + call.received.length) (step register call) (record mSize known call) := by
  obtain ⟨first, consecutive, ends⟩ := shows.numbered
  cases call with
  | newConnections acd =>
      have contents := ConnectionsRegister.newConnections_contents register.ring
        (acd.map Conn.marked)
      have ids : (acd.map Conn.marked).map (fun conn => conn.incrId) =
          List.range' (first + mCurItems register.ring) (acd.map Conn.marked).length := by
        rw [List.length_map, ends, List.map_map]
        exact numbered
      have later := ConnectionsRegister.newConnections_consecutive (fun conn : Conn => conn.incrId)
        register.ring _ first consecutive ids
      have count : mCurItems (register.ring.newConnections (acd.map Conn.marked)).1 =
          min (mCurItems register.ring + acd.length) mSize := by
        rw [mCurItems, ← RingBuffer.contents_length, contents, List.rtake, List.length_drop,
          List.length_append, List.length_map, RingBuffer.contents_length, mCurItems]
        omega
      rw [← newConnections_ring] at contents later count
      rw [List.length_map] at later
      refine ⟨?_, _, later, ?_⟩
      · rw [step, Register.contents, contents, record, mostRecent_map,
          ConnectionsRegister.mostRecent_eq, RingBuffer.rtake_append_of_rtake,
          ← RingBuffer.rtake_append_rtake known]
        exact congrArg (fun shown => (shown ++ acd.map Conn.marked).rtake mSize) shows.contents
      · rw [step, count, ← ends, Call.received]
        omega
  | connectionsUpdates acu =>
      obtain ⟨curItems, _, contents, still⟩ :=
        connectionsUpdates_kept register first consecutive acu
      refine ⟨?_, first, still, ?_⟩
      · rw [step, contents, record, record_rtake, shows.contents]
      · rw [step, curItems, ends]
        rfl

theorem numberedFrom_append (base : Nat) (first last : List Conn) :
    NumberedFrom base (first ++ last) ↔
      NumberedFrom base first ∧ NumberedFrom (base + first.length) last := by
  unfold NumberedFrom
  rw [List.map_append, List.length_append, ← List.range'_append_1]
  constructor
  · intro same
    exact List.append_inj same (by simp)
  · rintro ⟨front, back⟩
    rw [front, back]

theorem received_cons (call : Call) (rest : List Call) :
    received (call :: rest) = call.received ++ received rest := List.flatMap_cons

/-- From right totals on, they stay right as long as no call leaves bytes unaccounted for. -/
theorem error_iff (next : Nat) (register : Register mSize) (known : List Conn)
    (calls : List Call) (shows : Shows next register known)
    (numbered : NumberedFrom next (received calls)) (right : ∀ uid, error register known uid = 0) :
    (∀ reached, reached <+: calls → ∀ uid,
        error (run step register reached) (run (record mSize) known reached) uid = 0) ↔
      Along step (fun register call => ∀ uid, callDrift register uid call = 0) register calls := by
  induction calls generalizing next register known with
  | nil =>
      refine iff_of_true (fun reached within => ?_) trivial
      rw [List.prefix_nil.mp within]
      exact right
  | cons call rest ih =>
      rw [received_cons, numberedFrom_append] at numbered
      have stepped := step_shows next register known shows call numbered.1
      have exact' : ∀ uid, error (step register call) (record mSize known call) uid =
          callDrift register uid call := by
        intro uid
        rw [step_error next register known shows call uid, right uid, zero_add]
      constructor
      · intro always
        have first := always [call] ⟨rest, rfl⟩
        refine ⟨fun uid => (exact' uid).symm.trans (first uid), ?_⟩
        refine (ih _ _ _ stepped numbered.2 first).mp fun reached within => ?_
        exact always (call :: reached) ((List.cons_prefix_cons).mpr ⟨rfl, within⟩)
      · rintro ⟨here, along⟩ reached within
        cases reached with
        | nil => exact right
        | cons first others =>
            obtain ⟨rfl, inside⟩ := List.cons_prefix_cons.mp within
            exact (ih _ _ _ stepped numbered.2 fun uid => (exact' uid).trans (here uid)).mpr along
              others inside

/-- The statistics of each app are the sums over its connections ever placed in the ring. -/
def Totals (register : Register mSize) (known : List Conn) : Prop :=
  ∀ uid, let own := known.filter fun conn => conn.uid = uid
    (register.counters.mAppsStats uid).sentBytes = (own.map fun conn => conn.sentBytes).sum ∧
      (register.counters.mAppsStats uid).rcvdBytes = (own.map fun conn => conn.rcvdBytes).sum ∧
      (register.counters.mAppsStats uid).numConnections = own.length

theorem summary_eq (known : List Conn) (uid : Int) :
    let own := known.filter fun conn => conn.uid = uid
    summary known uid = ((own.map fun conn => conn.sentBytes).sum,
      (own.map fun conn => conn.rcvdBytes).sum, (own.length : Int)) := by
  intro own
  induction known with
  | nil => rfl
  | cons conn rest ih =>
      rw [summary, List.map_cons, List.sum_cons, ← summary, ih]
      by_cases mine : conn.uid = uid
      · simp [own, Conn.share, mine, add_comm]
      · simp [own, Conn.share, mine]

theorem totals_error (register : Register mSize) (known : List Conn) :
    Totals register known ↔ ∀ uid, error register known uid = 0 := by
  refine forall_congr' fun uid => ?_
  rw [error, sub_eq_zero, summary_eq, Counters.tally, AppStats.tally, Prod.mk.injEq, Prod.mk.injEq]

theorem trace_connections (register : Register mSize) (uid : Int) (acu : List Incoming) :
    (callDrift register uid (.connectionsUpdates acu)).2.2 = 0 := by
  induction acu generalizing register with
  | nil => rfl
  | cons update rest ih =>
      have first : (drift register update uid).2.2 = 0 := by
        unfold drift unaccounted
        split
        · rfl
        · split
          · split <;> rfl
          · rfl
      have later := ih (connectionsUpdates register [update])
      rw [callDrift] at later ⊢
      rw [Machine.trace, List.sum_cons, Prod.snd_add, Prod.snd_add, first, later]
      rfl

/-- The number of connections is right in any case. -/
theorem run_connections (next : Nat) (register : Register mSize) (known : List Conn)
    (calls : List Call) (shows : Shows next register known)
    (numbered : NumberedFrom next (received calls)) (uid : Int)
    (right : (error register known uid).2.2 = 0) :
    (error (run step register calls) (run (record mSize) known calls) uid).2.2 = 0 := by
  induction calls generalizing next register known with
  | nil => exact right
  | cons call rest ih =>
      rw [received_cons, numberedFrom_append] at numbered
      refine ih _ _ _ (step_shows next register known shows call numbered.1) numbered.2 ?_
      rw [step_error next register known shows call uid, Prod.snd_add, Prod.snd_add, right]
      cases call with
      | newConnections acd => rfl
      | connectionsUpdates acu => rw [trace_connections, add_zero]

theorem run_shows (next : Nat) (register : Register mSize) (known : List Conn)
    (calls : List Call) (shows : Shows next register known)
    (numbered : NumberedFrom next (received calls)) :
    Shows (next + (received calls).length) (run step register calls)
      (run (record mSize) known calls) := by
  induction calls generalizing next register known with
  | nil => exact shows
  | cons call rest ih =>
      rw [received_cons, numberedFrom_append] at numbered
      have later := ih _ _ _ (step_shows next register known shows call numbered.1) numbered.2
      rwa [Nat.add_assoc, ← List.length_append, ← received_cons] at later

theorem start_shows (positive : 0 < mSize) (base : Nat) : Shows base (start positive) [] where
  contents := (RingBuffer.contents_empty _ positive).trans (List.rtake_nil _).symm
  numbered := ⟨base, congrArg (List.map _) (RingBuffer.contents_empty _ positive), rfl⟩

theorem start_error (positive : 0 < mSize) (uid : Int) : error (start positive) [] uid = 0 := rfl

/-- Updates that all carry statistics leave nothing unaccounted for. -/
theorem callDrift_stats (register : Register mSize) (uid : Int) (acu : List Incoming)
    (stats : ∀ update ∈ acu, (update.update.updateType &&& UPDATE_STATS != 0) = true) :
    callDrift register uid (.connectionsUpdates acu) = 0 := by
  induction acu generalizing register with
  | nil => rfl
  | cons update rest ih =>
      have first : drift register update uid = 0 := by
        unfold drift unaccounted
        rw [stats update List.mem_cons_self]
        split
        · rfl
        · exact ite_self 0
      have later := ih (connectionsUpdates register [update]) fun other member =>
        stats other (List.mem_cons_of_mem _ member)
      rw [callDrift] at later ⊢
      rw [Machine.trace, List.sum_cons, first, later, add_zero]

/-- The byte totals are right in all states reached if and only if, at each call and for each
    app, the updates without statistics leave nothing unaccounted for. The number of connections
    is right in any case, and it does not matter how updates are batched. -/
theorem totals_iff (positive : 0 < mSize) (calls : List Call) (base : Nat)
    (numbered : NumberedFrom base (received calls)) :
    ((∀ reached, reached <+: calls →
        Totals (run step (start positive) reached) (run (record mSize) [] reached)) ↔
      Along step (fun register call => ∀ uid, callDrift register uid call = 0) (start positive)
        calls) ∧
    (∀ uid, ((run step (start positive) calls).counters.mAppsStats uid).numConnections =
      ((run (record mSize) [] calls).filter fun conn => conn.uid = uid).length) ∧
    ∀ acu more, connectionsUpdates (run step (start positive) calls) (acu ++ more) =
      connectionsUpdates (connectionsUpdates (run step (start positive) calls) acu) more := by
  refine ⟨?_, fun uid => ?_, fun acu more => ?_⟩
  · simp only [totals_error]
    exact error_iff base (start positive) [] calls (start_shows positive base) numbered
      (start_error positive)
  · have count := run_connections base (start positive) [] calls (start_shows positive base)
      numbered uid rfl
    rw [error, summary_eq] at count
    exact sub_eq_zero.mp count
  · obtain ⟨first, shown, _⟩ := (run_shows base (start positive) [] calls
      (start_shows positive base) numbered).numbered
    exact connectionsUpdates_append _ first shown acu more

/-- A connection of an app with 100 bytes sent, then an update which only carries its info. -/
def infoOnly : List Call :=
  [.newConnections [{ incrId := 0, sentBytes := 100, uid := 10100 }],
    .connectionsUpdates [⟨0, false, { updateType := 2, info := some "a" }⟩]]

theorem infoOnly_totals :
    ((∀ reached, reached <+: infoOnly →
        Totals (run step (start Nat.two_pos) reached) (run (record 2) [] reached)) ↔
      Along step (fun register call => ∀ uid, callDrift register uid call = 0)
        (start Nat.two_pos) infoOnly) ∧
    (∀ uid, ((run step (start Nat.two_pos) infoOnly).counters.mAppsStats uid).numConnections =
      ((run (record 2) [] infoOnly).filter fun conn => conn.uid = uid).length) ∧
    ∀ acu more, connectionsUpdates (run step (start Nat.two_pos) infoOnly) (acu ++ more) =
      connectionsUpdates (connectionsUpdates (run step (start Nat.two_pos) infoOnly) acu) more :=
  totals_iff Nat.two_pos infoOnly 0 (by decide)

/-- The app's total drops to zero, though its connection still shows 100 bytes. -/
theorem infoOnly_drifts :
    ¬ Totals (run step (start Nat.two_pos) infoOnly) (run (record 2) [] infoOnly) := by
  intro totals
  have sent := (totals 10100).1
  revert sent
  decide

end Runs

end Ptnet.AppTotals
