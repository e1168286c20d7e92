import Ptnet.AppTotals

/-!
The counters of the register against the connections in its ring: how many are blacklisted, how
many are blocked, and how many use an interface.
-/

namespace Ptnet.RegisterCounters

open RegisterHistory (Incoming)
open ConnectionsRegister (mCurItems mostRecent outItems outItems_le)
open AppTotals (Conn Counters Register Call NumberedFrom received start step processConnectionStatus
  accountMalicious accountBlocked addConn newConnections connectionsUpdates sum_modify updateOne
  updateOne_cases connectionsUpdates_eq connectionsUpdates_kept connectionsUpdates_append)
open Machine (run Along)

def mark (flag : Bool) : Int := if flag then 1 else 0

def counted (ifidx : Int) (conn : Conn) : Int × Int × Int :=
  (mark conn.isBlacklisted, mark conn.isBlocked, mark (conn.ifidx = ifidx))

def census (ifidx : Int) (conns : List Conn) : Int × Int × Int := (conns.map (counted ifidx)).sum

def status (counters : Counters) (ifidx : Int) : Int × Int × Int :=
  (counters.mNumMalicious, counters.mNumBlocked, counters.mConnsByIface ifidx)

def Settled (conn : Conn) : Prop :=
  conn.alerted = conn.isBlacklisted ∧ conn.blockAccounted = conn.isBlocked

section Status

theorem accountMalicious_status (counters : Counters) (conn : Conn) (ifidx : Int) :
    status (accountMalicious counters conn).1 ifidx =
      status counters ifidx + (mark conn.isBlacklisted - mark conn.alerted, 0, 0) := by
  cases alerted : conn.alerted <;> cases listed : conn.isBlacklisted <;>
    simp [accountMalicious, alerted, listed, status, mark, sub_eq_add_neg]

theorem accountBlocked_status (counters : Counters) (conn : Conn) (ifidx : Int) :
    status (accountBlocked counters conn).1 ifidx =
      status counters ifidx + (0, mark conn.isBlocked - mark conn.blockAccounted, 0) := by
  cases accounted : conn.blockAccounted <;> cases blocked : conn.isBlocked <;>
    simp [accountBlocked, accounted, blocked, status, mark, sub_eq_add_neg,
      Counters.changeBlocked, Counters.changeApp]

theorem processConnectionStatus_status (counters : Counters) (conn : Conn) (ifidx : Int) :
    status (processConnectionStatus counters conn).1 ifidx = status counters ifidx +
      (mark conn.isBlacklisted - mark conn.alerted,
        mark conn.isBlocked - mark conn.blockAccounted, 0) := by
  have blocked := accountBlocked_status (accountMalicious counters conn).1
    (accountMalicious counters conn).2 ifidx
  rw [accountMalicious_status, AppTotals.accountMalicious_conn] at blocked
  have same : status (processConnectionStatus counters conn).1 ifidx = status (accountBlocked
      (accountMalicious counters conn).1 (accountMalicious counters conn).2).1 ifidx := by
    simp only [processConnectionStatus]
    split <;> rfl
  rw [same, AppTotals.accountMalicious_conn, blocked, add_assoc]
  simp

end Status

section Leaving

theorem census_cons (ifidx : Int) (conn : Conn) (rest : List Conn) :
    census ifidx (conn :: rest) = counted ifidx conn + census ifidx rest := by
  rw [census, List.map_cons, List.sum_cons, ← census]

theorem census_append (ifidx : Int) (first last : List Conn) :
    census ifidx (first ++ last) = census ifidx first + census ifidx last := by
  rw [census, List.map_append, List.sum_append, ← census, ← census]

theorem census_nonneg (ifidx : Int) (conns : List Conn) :
    0 ≤ (census ifidx conns).2.1 ∧ 0 ≤ (census ifidx conns).2.2 := by
  induction conns with
  | nil => exact ⟨le_rfl, le_rfl⟩
  | cons conn rest ih =>
      have positive : ∀ flag, 0 ≤ mark flag := by decide
      rw [census_cons]
      exact ⟨add_nonneg (positive _) ih.1, add_nonneg (positive _) ih.2⟩

/-- A connection that leaves takes back all that it counted but its block. -/
theorem remove_status (counters : Counters) (conn : Conn) (ifidx : Int) (iface : 0 < ifidx)
    (present : (counted ifidx conn).2.2 ≤ counters.mConnsByIface ifidx) :
    status (counters.remove conn) ifidx =
      status counters ifidx - ((counted ifidx conn).1, 0, (counted ifidx conn).2.2) := by
  unfold Counters.remove
  by_cases same : conn.ifidx = ifidx
  · have enough : 1 ≤ counters.mConnsByIface ifidx := by simpa [counted, mark, same] using present
    cases listed : conn.isBlacklisted <;> simp [status, counted, mark, same, iface, listed] <;> omega
  · have other : ifidx ≠ conn.ifidx := fun equal => same equal.symm
    cases listed : conn.isBlacklisted <;> by_cases tracked : 0 < conn.ifidx <;>
      simp [status, counted, mark, same, other, tracked, listed]

theorem removeAll_status (counters : Counters) (conns : List Conn) (ifidx : Int)
    (iface : 0 < ifidx) (present : (census ifidx conns).2.2 ≤ counters.mConnsByIface ifidx) :
    status (conns.foldl Counters.remove counters) ifidx =
      status counters ifidx - ((census ifidx conns).1, 0, (census ifidx conns).2.2) := by
  induction conns generalizing counters with
  | nil => exact (sub_zero _).symm
  | cons conn rest ih =>
      rw [census_cons, Prod.snd_add, Prod.snd_add] at present
      have more := (census_nonneg ifidx rest).2
      have first := remove_status counters conn ifidx iface (by omega)
      have left : (counters.remove conn).mConnsByIface ifidx =
          counters.mConnsByIface ifidx - (counted ifidx conn).2.2 :=
        congrArg (fun shown : Int × Int × Int => shown.2.2) first
      rw [List.foldl_cons, ih _ (by omega), first, census_cons, sub_sub]
      simp

end Leaving

section Ring

variable {mSize : Nat} (register : Register mSize)

def evicted (register : Register mSize) : Call → List Conn
  | .newConnections acd => register.contents.take (outItems register.ring acd)
  | .connectionsUpdates _ => []

/-- The counters are those of the connections in the ring, with this many blocked ones more. -/
structure Counts (excess : Int) (register : Register mSize) : Prop where
  settled : ∀ conn ∈ register.contents, Settled conn
  counters : ∀ ifidx, 0 < ifidx →
    status register.counters ifidx = census ifidx register.contents + (0, excess, 0)

theorem addConn_status (conn : Conn) (ifidx : Int) (iface : 0 < ifidx)
    (fresh : conn.alerted = false ∧ conn.blockAccounted = false) :
    status (addConn register conn).counters ifidx =
      status register.counters ifidx + counted ifidx conn := by
  have joined : ∀ counters : Counters,
      status (if 0 < conn.ifidx then
        { counters with
          mConnsByIface := Function.update counters.mConnsByIface conn.ifidx
            (counters.mConnsByIface conn.ifidx + 1) }
        else counters) ifidx =
      status counters ifidx + (0, 0, mark (conn.ifidx = ifidx)) := by
    intro counters
    by_cases same : conn.ifidx = ifidx
    · simp [status, mark, same, iface]
    · have other : ifidx ≠ conn.ifidx := fun equal => same equal.symm
      by_cases tracked : 0 < conn.ifidx <;> simp [status, mark, same, other, tracked]
  have unchanged : status (addConn register conn).counters ifidx =
      status (processConnectionStatus (if 0 < conn.ifidx then
        { register.counters with
          mConnsByIface := Function.update register.counters.mConnsByIface conn.ifidx
            (register.counters.mConnsByIface conn.ifidx + 1) }
        else register.counters) conn).1 ifidx := rfl
  rw [unchanged, processConnectionStatus_status, joined, fresh.1, fresh.2, add_assoc]
  simp [counted, mark]

theorem addConns_status (conns : List Conn) (ifidx : Int) (iface : 0 < ifidx)
    (fresh : ∀ conn ∈ conns, conn.alerted = false ∧ conn.blockAccounted = false) :
    status (conns.foldl addConn register).counters ifidx =
      status register.counters ifidx + census ifidx conns := by
  induction conns generalizing register with
  | nil => exact (add_zero _).symm
  | cons conn rest ih =>
      rw [List.foldl_cons, ih _ fun other member => fresh other (List.mem_cons_of_mem _ member),
        addConn_status register conn ifidx iface (fresh conn List.mem_cons_self), census_cons,
        add_assoc]

theorem census_marked (ifidx : Int) (conns : List Conn) :
    census ifidx (conns.map Conn.marked) = census ifidx conns := by
  rw [census, List.map_map]
  rfl

theorem newConnections_contents (acd : List Conn) :
    (newConnections register acd).contents =
      register.contents.drop (outItems register.ring acd) ++ (mostRecent mSize acd).map Conn.marked := by
  obtain ⟨within, size⟩ := outItems_le register.ring acd
  rw [mCurItems] at size
  rw [Register.contents, AppTotals.newConnections_ring, ConnectionsRegister.newConnections_contents,
    ← RingBuffer.rtake_append_of_rtake, ← ConnectionsRegister.mostRecent_eq (acd.map Conn.marked),
    ← AppTotals.mostRecent_map, List.rtake, List.length_append, List.length_map,
    RingBuffer.contents_length, ← size,
    List.drop_append_of_le_length (by rw [RingBuffer.contents_length]; exact within)]
  rfl

/-- The counters are changed for the connections that leave, then for the new ones. -/
theorem newConnections_status (acd : List Conn) (ifidx : Int) (iface : 0 < ifidx)
    (present : (census ifidx (evicted register (.newConnections acd))).2.2 ≤
      register.counters.mConnsByIface ifidx)
    (fresh : ∀ conn ∈ acd, conn.alerted = false ∧ conn.blockAccounted = false) :
    status (newConnections register acd).counters ifidx = status register.counters ifidx -
        ((census ifidx (evicted register (.newConnections acd))).1, 0,
          (census ifidx (evicted register (.newConnections acd))).2.2) +
      census ifidx (mostRecent mSize acd) := by
  have recent : ∀ conn ∈ mostRecent mSize acd, conn ∈ acd := by
    rw [ConnectionsRegister.mostRecent_eq]
    exact fun conn member => List.mem_of_mem_drop member
  have items : (mostRecent mSize acd).length -
      min (mSize - mCurItems register.ring) (mostRecent mSize acd).length =
      outItems register.ring acd := rfl
  have removed := RingBuffer.filterMap_get register.ring.mItemsRing _
    (outItems_le register.ring acd).1
  have after : status (newConnections register acd).counters ifidx =
      status ((mostRecent mSize acd).foldl addConn { register with
        counters := (evicted register (.newConnections acd)).foldl Counters.remove
          register.counters }).counters ifidx := by
    simp only [newConnections, items, removed]
    rfl
  rw [after, addConns_status _ _ ifidx iface fun conn member => fresh conn (recent conn member),
    removeAll_status _ _ ifidx iface present]

def blockedOf (conns : List Conn) : Int := (conns.map fun conn => mark conn.isBlocked).sum

theorem census_blocked (ifidx : Int) (conns : List Conn) :
    (census ifidx conns).2.1 = blockedOf conns := by
  induction conns with
  | nil => rfl
  | cons conn rest ih =>
      rw [census_cons, Prod.snd_add, Prod.fst_add, ih, blockedOf, blockedOf, List.map_cons,
        List.sum_cons]
      rfl

theorem newConnections_counts (excess : Int) (acd : List Conn) (counts : Counts excess register)
    (fresh : ∀ conn ∈ acd, conn.alerted = false ∧ conn.blockAccounted = false) :
    Counts (excess + blockedOf (evicted register (.newConnections acd)))
      (newConnections register acd) := by
  have contents := newConnections_contents register acd
  refine { settled := ?_, counters := fun ifidx iface => ?_ }
  · rw [contents]
    intro conn member
    rcases List.mem_append.mp member with old | new
    · exact counts.settled conn (List.mem_of_mem_drop old)
    · obtain ⟨source, -, rfl⟩ := List.mem_map.mp new
      exact ⟨rfl, rfl⟩
  · have before := counts.counters ifidx iface
    have parts : census ifidx register.contents =
        census ifidx (evicted register (.newConnections acd)) +
          census ifidx (register.contents.drop (outItems register.ring acd)) := by
      rw [evicted, ← census_append, List.take_append_drop]
    have present : (census ifidx (evicted register (.newConnections acd))).2.2 ≤
        register.counters.mConnsByIface ifidx := by
      have shown : register.counters.mConnsByIface ifidx = (census ifidx register.contents).2.2 :=
        (congrArg (fun shown : Int × Int × Int => shown.2.2) before).trans (add_zero _)
      rw [shown, parts]
      exact le_add_of_nonneg_right (census_nonneg ifidx _).2
    rw [newConnections_status register acd ifidx iface present fresh, before, contents, census_append,
      census_marked, parts, ← census_blocked ifidx]
    -- The block of a connection that leaves is what the counters keep.
    ext
    · simp only [Prod.fst_add, Prod.fst_sub]
      abel
    · simp only [Prod.fst_add, Prod.fst_sub, Prod.snd_add, Prod.snd_sub]
      abel
    · simp only [Prod.snd_add, Prod.snd_sub]
      abel

end Ring

section Updates

variable {mSize : Nat} (register : Register mSize)

theorem updated_settled (conn : Conn) (update : Incoming) : Settled (conn.updated update) :=
  ⟨rfl, rfl⟩

theorem updateOne_counts (excess : Int) (first : Nat) (numbered : register.Numbered first)
    (filled : mCurItems register.ring ≠ 0) (update : Incoming) (counts : Counts excess register) :
    Counts excess (updateOne register first register update) := by
  rcases updateOne_cases register first numbered filled update with
    ⟨missing, same⟩ | ⟨index, conn, stored, found, contents, counters⟩
  · rw [same]
    exact counts
  · have settled := counts.settled conn (List.mem_of_getElem? stored)
    refine { settled := ?_, counters := fun ifidx iface => ?_ }
    · rw [contents]
      intro other member
      obtain ⟨place, within, rfl⟩ := List.mem_iff_getElem.mp member
      rw [List.getElem_modify]
      split
      · exact updated_settled _ update
      · exact counts.settled _ (List.getElem_mem _)
    · have sum := sum_modify register.contents index (fun conn => conn.updated update)
        (counted ifidx) conn stored
      have kept : (conn.updated update).ifidx = conn.ifidx := rfl
      rw [contents, counters, processConnectionStatus_status, census, sum, ← census]
      have before := counts.counters ifidx iface
      have same : status (register.counters.changeApp conn.uid fun stats =>
          { stats with
            sentBytes := stats.sentBytes + (update.update.sentBytes - conn.sentBytes)
            rcvdBytes := stats.rcvdBytes + (update.update.rcvdBytes - conn.rcvdBytes) }) ifidx =
          status register.counters ifidx := rfl
      have flags : (conn.processUpdate update).alerted = conn.isBlacklisted ∧
          (conn.processUpdate update).blockAccounted = conn.isBlocked := settled
      rw [same, before, flags.1, flags.2]
      have difference : counted ifidx (conn.updated update) - counted ifidx conn =
          (mark (conn.processUpdate update).isBlacklisted - mark conn.isBlacklisted,
            mark (conn.processUpdate update).isBlocked - mark conn.isBlocked, 0) := by
        simp only [counted, kept, Prod.mk_sub_mk, sub_self]
        rfl
      rw [difference]
      abel

theorem connectionsUpdates_counts (excess : Int) (first : Nat) (numbered : register.Numbered first)
    (acu : List Incoming) (counts : Counts excess register) :
    Counts excess (connectionsUpdates register acu) := by
  by_cases filled : mCurItems register.ring = 0
  · rw [connectionsUpdates, if_pos filled]
    exact counts
  · induction acu using List.reverseRecOn with
    | nil =>
        rw [connectionsUpdates_eq register first numbered filled]
        exact counts
    | append_singleton acu update ih =>
        obtain ⟨curItems, -, -, still⟩ := connectionsUpdates_kept register first numbered acu
        rw [connectionsUpdates_append register first numbered,
          connectionsUpdates_eq _ first still (curItems ▸ filled)]
        exact updateOne_counts _ excess first still (curItems ▸ filled) update ih

end Updates

section Runs

variable {mSize : Nat}

/-- The counters are the numbers of the tracked connections that they stand for. -/
structure Right (register : Register mSize) : Prop where
  malicious : register.counters.mNumMalicious = register.contents.countP Conn.isBlacklisted
  blocked : register.counters.mNumBlocked = register.contents.countP fun conn => conn.isBlocked
  ifaces : ∀ ifidx, 0 < ifidx → register.counters.mConnsByIface ifidx =
    register.contents.countP fun conn => conn.ifidx = ifidx

theorem mark_sum {Item : Type*} (items : List Item) (test : Item → Bool) :
    (items.map fun item => mark (test item)).sum = items.countP test := by
  induction items with
  | nil => rfl
  | cons item rest ih =>
      rw [List.map_cons, List.sum_cons, ih, List.countP_cons]
      cases test item <;> simp [mark, add_comm]

theorem census_eq (ifidx : Int) (conns : List Conn) :
    census ifidx conns = ((conns.countP Conn.isBlacklisted : Int),
      (conns.countP fun conn => conn.isBlocked : Int),
      (conns.countP fun conn => conn.ifidx = ifidx : Int)) := by
  rw [← mark_sum, ← mark_sum, ← mark_sum]
  induction conns with
  | nil => rfl
  | cons conn rest ih =>
      rw [census_cons, ih]
      simp only [List.map_cons, List.sum_cons]
      rfl

theorem counts_malicious (excess : Int) (register : Register mSize) (counts : Counts excess register) :
    register.counters.mNumMalicious = register.contents.countP Conn.isBlacklisted := by
  have shown := counts.counters 1 one_pos
  rw [census_eq] at shown
  exact (congrArg Prod.fst shown).trans (add_zero _)

theorem counts_ifaces (excess : Int) (register : Register mSize) (counts : Counts excess register)
    (ifidx : Int) (iface : 0 < ifidx) : register.counters.mConnsByIface ifidx =
      register.contents.countP fun conn => conn.ifidx = ifidx := by
  have shown := counts.counters ifidx iface
  rw [census_eq] at shown
  exact (congrArg (fun shown : Int × Int × Int => shown.2.2) shown).trans (add_zero _)

theorem counts_right (excess : Int) (register : Register mSize) (counts : Counts excess register) :
    Right register ↔ excess = 0 := by
  have shown := counts.counters 1 one_pos
  rw [census_eq] at shown
  have blocked : register.counters.mNumBlocked =
      (register.contents.countP fun conn => conn.isBlocked : Int) + excess :=
    congrArg (fun shown : Int × Int × Int => shown.2.1) shown
  constructor
  · intro right
    have same := right.blocked
    omega
  · rintro rfl
    exact {
      malicious := counts_malicious 0 register counts
      blocked := blocked.trans (add_zero _)
      ifaces := counts_ifaces 0 register counts }

def lost (register : Register mSize) (call : Call) : Int := blockedOf (evicted register call)

theorem lost_nonneg (register : Register mSize) (call : Call) : 0 ≤ lost register call := by
  rw [lost, ← census_blocked 1]
  exact (census_nonneg 1 _).1

theorem lost_zero (register : Register mSize) (call : Call) :
    lost register call = 0 ↔ ∀ conn ∈ evicted register call, conn.isBlocked = false := by
  rw [lost, blockedOf, mark_sum, Int.natCast_eq_zero, List.countP_eq_zero]
  exact forall₂_congr fun conn member => by rw [Bool.not_eq_true]

theorem step_counts (next : Nat) (register : Register mSize) (known : List Conn)
    (shows : AppTotals.Shows next register known) (excess : Int) (counts : Counts excess register)
    (call : Call) (fresh : ∀ conn ∈ call.received,
      conn.alerted = false ∧ conn.blockAccounted = false) :
    Counts (excess + lost register call) (step register call) := by
  cases call with
  | newConnections acd => exact newConnections_counts register excess acd counts fresh
  | connectionsUpdates acu =>
      obtain ⟨first, numbered, -⟩ := shows.numbered
      rw [lost, evicted, blockedOf, List.map_nil, List.sum_nil, add_zero]
      exact connectionsUpdates_counts register excess first numbered acu counts

/-- The excess grows by the blocked connections that leave the ring, and it never falls. -/
theorem run_counts (next : Nat) (register : Register mSize) (known : List Conn)
    (shows : AppTotals.Shows next register known) (excess : Int) (counts : Counts excess register)
    (calls : List Call) (numbered : NumberedFrom next (received calls))
    (fresh : ∀ conn ∈ received calls, conn.alerted = false ∧ conn.blockAccounted = false) :
    ∃ more, Counts (excess + more) (run step register calls) ∧ 0 ≤ more ∧
      (more = 0 ↔ Along step (fun register call =>
        ∀ conn ∈ evicted register call, conn.isBlocked = false) register calls) := by
  induction calls generalizing next register known excess with
  | nil => exact ⟨0, by rwa [add_zero], le_rfl, iff_of_true rfl trivial⟩
  | cons call rest ih =>
      rw [AppTotals.received_cons, AppTotals.numberedFrom_append] at numbered
      rw [AppTotals.received_cons] at fresh
      have stepped := step_counts next register known shows excess counts call fun conn member =>
        fresh conn (List.mem_append_left _ member)
      obtain ⟨more, later, grows, exact'⟩ := ih _ _ _
        (AppTotals.step_shows next register known shows call numbered.1) _ stepped numbered.2
        fun conn member => fresh conn (List.mem_append_right _ member)
      have here := lost_nonneg register call
      refine ⟨lost register call + more, ?_, by omega, ?_⟩
      · rw [← add_assoc]
        exact later
      · rw [Machine.along_cons, ← exact', ← lost_zero]
        omega

theorem start_counts (positive : 0 < mSize) : Counts 0 (start positive) := by
  have empty : (start positive).contents = [] := RingBuffer.contents_empty _ positive
  refine { settled := ?_, counters := fun ifidx _ => ?_ }
  · rw [empty]
    exact fun conn member => absurd member List.not_mem_nil
  · rw [empty]
    rfl

/-- The counters of malicious connections and of the interfaces are always right; all of them
    are if and only if no connection was put out of the ring while it was blocked. -/
theorem counters_iff (positive : 0 < mSize) (calls : List Call) (base : Nat)
    (numbered : NumberedFrom base (received calls))
    (fresh : ∀ conn ∈ received calls, conn.alerted = false ∧ conn.blockAccounted = false) :
    let register := run step (start positive) calls
    (Right register ↔ Along step (fun register call =>
      ∀ conn ∈ evicted register call, conn.isBlocked = false) (start positive) calls) ∧
    register.counters.mNumMalicious = register.contents.countP Conn.isBlacklisted ∧
    ∀ ifidx, 0 < ifidx → register.counters.mConnsByIface ifidx =
      register.contents.countP fun conn => conn.ifidx = ifidx := by
  obtain ⟨more, counts, -, along⟩ := run_counts base (start positive) []
    (AppTotals.start_shows positive base) 0 (start_counts positive) calls numbered fresh
  rw [zero_add] at counts
  exact ⟨(counts_right more _ counts).trans along, counts_malicious more _ counts,
    counts_ifaces more _ counts⟩

def blockedEvicted : List Call :=
  [.newConnections [{ incrId := 0, uid := 10100, ifidx := 3, isBlocked := true }],
    .newConnections [{ incrId := 1, uid := 10100, ifidx := 3 }]]

theorem blockedEvicted_iff :
    let register := run step (start Nat.one_pos) blockedEvicted
    (Right register ↔ Along step (fun register call =>
      ∀ conn ∈ evicted register call, conn.isBlocked = false) (start Nat.one_pos)
        blockedEvicted) ∧
    register.counters.mNumMalicious = register.contents.countP Conn.isBlacklisted ∧
    ∀ ifidx, 0 < ifidx → register.counters.mConnsByIface ifidx =
      register.contents.countP fun conn => conn.ifidx = ifidx :=
  counters_iff Nat.one_pos blockedEvicted 0 (by decide) (by decide)

/-- The connection that is left is not blocked, but the counter says there is one. -/
theorem blockedEvicted_counted : ¬ Right (run step (start Nat.one_pos) blockedEvicted) := by
  intro right
  have blocked := right.blocked
  revert blocked
  decide

end Runs

end Ptnet.RegisterCounters
