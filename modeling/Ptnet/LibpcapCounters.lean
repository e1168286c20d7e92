import Ptnet.LibpcapFrame
import Ptnet.TrafficFrame

/-!
The table of connections and its counters, `stats.num_tcp_conn` and the like, in
core/capture_libpcap.c. The counters change where an entry is added and where one is removed;
beside the capture they are a value of their own, which each function of the capture carries along.
-/

namespace Ptnet.LibpcapCapture

open Connection Pcapdroid
open Detection (Ndpi)

inductive Protocol where
  | tcp
  | udp
  | icmp
  deriving DecidableEq, Repr

def protocolOf (ipproto : Nat) : Option Protocol :=
  if ipproto = IPPROTO_TCP then some .tcp
  else if ipproto = IPPROTO_UDP then some .udp
  else if ipproto = IPPROTO_ICMP then some .icmp
  else none

/-- The fields of `zdtun_statistics_t` this module writes: `conns .tcp` is `num_tcp_conn`,
    `opened .tcp` is `num_tcp_opened`. -/
structure ConnStats where
  conns : Protocol → BitVec 16 := fun _ => 0
  opened : Protocol → BitVec 32 := fun _ => 0

namespace ConnStats

/-- The switch of `handle_packet`, for a new entry. -/
def add (stats : ConnStats) (ipproto : Nat) : ConnStats :=
  match protocolOf ipproto with
  | none => stats
  | some protocol =>
      { conns := Function.update stats.conns protocol (stats.conns protocol + 1)
        opened := Function.update stats.opened protocol (stats.opened protocol + 1) }

/-- The switch of `remove_connection`. -/
def remove (stats : ConnStats) (ipproto : Nat) : ConnStats :=
  match protocolOf ipproto with
  | none => stats
  | some protocol =>
      { stats with conns := Function.update stats.conns protocol (stats.conns protocol - 1) }

end ConnStats

section Counters

/-- Whether `update_connection_status` removes the connection of a packet. -/
def settles (arrival : Arrival) (pkt : Pkt) (isTx : Bool) (state : Libpcap) (conn : Slot) : Bool :=
  let pinfo : PktContext := ⟨pkt, arrival.hdr.ms, isTx, conn.tuple, conn.data⟩
  let stamped := state.pd.modify conn.data fun data =>
    { data with lastUpdateMs := state.pd.nowMs }
  let processed := pdProcessPacket arrival.ndpi arrival.payload stamped pinfo
  (recordStatus conn.tuple pkt isTx ((processed.access conn.data).heap conn.data)).2

/-- The counters after `handle_packet` with a known connection. -/
def connectionStats (arrival : Arrival) (pkt : Pkt) (isTx : Bool) (state : Libpcap) (conn : Slot)
    (stats : ConnStats) : ConnStats :=
  if settles arrival pkt isTx state conn then stats.remove conn.tuple.ipproto else stats

/-- The entry that a packet adds to the table, and the state once it is there. -/
def added (arrival : Arrival) (pkt : Pkt) (state : Libpcap) : Option (Slot × Libpcap) :=
  if (pkt.isFragment && !pkt.isFirstFragment) || !arrival.malloc then none
  else
    match pdNewConnection arrival.ndpi arrival.env state.pd pkt.tuple
        (packetUid state arrival.hdr) with
    | (_, none) => none
    | (pd, some ref) =>
        let conn : Slot := ⟨pkt.tuple, ref⟩
        some (conn,
          { state with
            pd := pd.modify ref (describeConn pd.tlsEnabled arrival.hdr.ifidx pkt.tuple)
            connections := state.connections ++ [conn] })

/-- The counters after the branch of `handle_packet` that starts a connection. -/
def openStats (arrival : Arrival) (pkt : Pkt) (state : Libpcap) (stats : ConnStats) : ConnStats :=
  match added arrival pkt state with
  | none => stats
  | some (conn, opened) =>
      connectionStats arrival pkt arrival.hdr.isTx opened conn (stats.add conn.tuple.ipproto)

/-- The counters after `handle_packet`. -/
def packetStats (arrival : Arrival) (state : Libpcap) (stats : ConnStats) : ConnStats :=
  match arrival.parsed with
  | none => stats
  | some parsed =>
      if isOrphan parsed then stats
      else
        match lookup state.connections arrival.hdr.isTx parsed.tuple with
        | some (conn, isTx) => connectionStats arrival (orient isTx parsed) isTx state conn stats
        | none => openStats arrival (orient arrival.hdr.isTx parsed) state stats

def addedEntry (arrival : Arrival) (state : Libpcap) : Option Slot :=
  match arrival.parsed with
  | none => none
  | some parsed =>
      if isOrphan parsed || (lookup state.connections arrival.hdr.isTx parsed.tuple).isSome then none
      else (added arrival (orient arrival.hdr.isTx parsed) state).map Prod.fst

end Counters

structure Counted where
  lib : Libpcap
  stats : ConnStats := {}

namespace Counted

def isExpired (purgeAll : Bool) (state : Libpcap) (conn : Slot) : Bool :=
  let pd := state.pd.access conn.data
  let data := pd.heap conn.data
  purgeAll || data.lastUpdateMs + purgeTimeout conn.tuple.ipproto data.status ≤ pd.nowMs

/-- One connection of `purge_expired_connections`. -/
def purgeConnection (ndpi : Ref → Ndpi) (purgeAll : Bool) (state : Counted) (conn : Slot) :
    Counted where
  lib := LibpcapCapture.purgeConnection ndpi purgeAll state.lib conn
  stats := if isExpired purgeAll state.lib conn then state.stats.remove conn.tuple.ipproto
    else state.stats

def purgeExpiredConnections (ndpi : Ref → Ndpi) (purgeAll : Bool) (state : Counted) : Counted :=
  state.lib.connections.foldl (purgeConnection ndpi purgeAll) state

theorem purgeExpiredConnections_lib (ndpi : Ref → Ndpi) (purgeAll : Bool) (state : Counted) :
    (purgeExpiredConnections ndpi purgeAll state).lib =
      LibpcapCapture.purgeExpiredConnections ndpi purgeAll state.lib := by
  have each : ∀ (conns : List Slot) (current : Counted),
      (conns.foldl (purgeConnection ndpi purgeAll) current).lib =
        conns.foldl (LibpcapCapture.purgeConnection ndpi purgeAll) current.lib := by
    intro conns
    induction conns with
    | nil => exact fun _ => rfl
    | cons conn rest ih => exact fun current => ih (purgeConnection ndpi purgeAll current conn)
  exact each state.lib.connections state

inductive Event where
  | capture (event : LibpcapCapture.Event)
  | purge (ndpi : Ref → Ndpi) (purgeAll : Bool)

def step (state : Counted) : Event → Counted
  | .capture (.packet arrival) =>
      { lib := (handlePacket arrival state.lib).1
        stats := packetStats arrival state.lib state.stats }
  | .capture (.purgeIfDue ndpi) =>
      { lib := LibpcapCapture.step state.lib (.purgeIfDue ndpi)
        stats := if state.lib.nextPurgeMs ≤ state.lib.pd.nowMs
          then (purgeExpiredConnections ndpi false state).stats else state.stats }
  | .capture event => { state with lib := LibpcapCapture.step state.lib event }
  | .purge ndpi purgeAll => purgeExpiredConnections ndpi purgeAll state

theorem step_lib (state : Counted) (event : LibpcapCapture.Event) :
    (state.step (.capture event)).lib = LibpcapCapture.step state.lib event := by
  cases event <;> rfl

def entries (state : Counted) : Event → List Slot
  | .capture (.packet arrival) => (addedEntry arrival state.lib).toList
  | _ => []

def start (config : Pd) (pcapFileCapture : Bool) : Counted where
  lib := LibpcapCapture.start config pcapFileCapture

end Counted

section Table

/-- No two connections have one tuple, or one the tuple of the other with its peers swapped. -/
def Distinct (connections : List Slot) : Prop :=
  connections.Pairwise fun first last =>
    first.tuple ≠ last.tuple ∧ first.tuple ≠ tupleSwapPeers last.tuple

theorem Distinct.added (connections : List Slot) (conn : Slot) (distinct : Distinct connections)
    (unknown : ∀ other ∈ connections,
      other.tuple ≠ conn.tuple ∧ other.tuple ≠ tupleSwapPeers conn.tuple) :
    Distinct (connections ++ [conn]) := by
  apply List.pairwise_append.mpr
  refine ⟨distinct, List.pairwise_singleton _ conn, ?_⟩
  intro other member last single
  obtain rfl := List.mem_singleton.mp single
  exact unknown other member

theorem updateConnectionStatus_connections (state : Libpcap) (conn : Slot) (pkt : Pkt) (isTx : Bool) :
    (updateConnectionStatus state conn pkt isTx).connections =
      if (recordStatus conn.tuple pkt isTx ((state.pd.access conn.data).heap conn.data)).2
      then removeConnection state.connections conn else state.connections := by
  rw [updateConnectionStatus]
  split <;> rfl

theorem handleConnection_connections (arrival : Arrival) (pkt : Pkt) (isTx : Bool) (state : Libpcap)
    (conn : Slot) :
    (handleConnection arrival pkt isTx state conn).connections =
      if settles arrival pkt isTx state conn then removeConnection state.connections conn
      else state.connections :=
  updateConnectionStatus_connections { state with pd := _ } conn pkt isTx

theorem handleConnection_created (arrival : Arrival) (pkt : Pkt) (isTx : Bool) (state : Libpcap)
    (conn : Slot) : (handleConnection arrival pkt isTx state conn).pd.created = state.pd.created := by
  obtain ⟨data, served⟩ := handleConnection_served always_frame.toRecordFrame arrival pkt isTx state conn
  exact served.created

theorem purgeConnection_connections (ndpi : Ref → Ndpi) (purgeAll : Bool) (state : Libpcap)
    (conn : Slot) :
    (purgeConnection ndpi purgeAll state conn).connections =
      if Counted.isExpired purgeAll state conn then removeConnection state.connections conn
      else state.connections := by
  rw [purgeConnection]
  dsimp only
  split
  · next holds => exact (if_pos holds).symm
  · next fails => exact (if_neg fails).symm

/-- A packet that adds no entry leaves the table as it is. -/
theorem openConnection_none (arrival : Arrival) (pkt : Pkt) (state : Libpcap)
    (unopened : added arrival pkt state = none) :
    (openConnection arrival pkt state).1.connections = state.connections ∧
      state.pd.created ≤ (openConnection arrival pkt state).1.pd.created := by
  rw [added] at unopened
  rw [openConnection]
  split
  · exact ⟨rfl, Nat.le_refl _⟩
  · next accepted =>
      rw [if_neg accepted] at unopened
      rcases outcome : pdNewConnection arrival.ndpi arrival.env state.pd pkt.tuple
        (packetUid state arrival.hdr) with ⟨pd, result⟩
      have records := always_frame.pdNewConnection _ _ _ _ _ pd result outcome
      rw [outcome] at unopened
      cases result with
      | some ref => cases unopened
      | none =>
          refine ⟨rfl, ?_⟩
          rcases records with ⟨rfl, -⟩ | ⟨created, -⟩
          · exact Nat.le_refl _
          · exact created.created ▸ Nat.le_succ _

theorem openConnection_some (arrival : Arrival) (pkt : Pkt) (state opened : Libpcap) (conn : Slot)
    (found : added arrival pkt state = some (conn, opened)) :
    (openConnection arrival pkt state).1 = handleConnection arrival pkt arrival.hdr.isTx opened conn ∧
      opened.connections = state.connections ++ [conn] ∧ conn = ⟨pkt.tuple, state.pd.created⟩ ∧
      opened.pd.created = state.pd.created + 1 := by
  rw [added] at found
  rw [openConnection]
  split at found
  · cases found
  · next accepted =>
      rcases outcome : pdNewConnection arrival.ndpi arrival.env state.pd pkt.tuple
        (packetUid state arrival.hdr) with ⟨pd, result⟩
      have records := always_frame.pdNewConnection _ _ _ _ _ pd result outcome
      rw [outcome] at found
      cases result with
      | none => cases found
      | some ref =>
          obtain ⟨rfl, rfl⟩ := Prod.mk.inj (Option.some.inj found)
          rcases records with ⟨-, no⟩ | ⟨created, no | named⟩
          · cases no
          · cases no
          · obtain rfl := Option.some.inj named
            rw [if_neg accepted]
            exact ⟨rfl, rfl, rfl, (modify_created _ _ _).trans created.created⟩

end Table

section Counts

def countOf (protocol : Protocol) (connections : List Slot) : Nat :=
  connections.countP fun conn => protocolOf conn.tuple.ipproto = some protocol

theorem countOf_append (protocol : Protocol) (first last : List Slot) :
    countOf protocol (first ++ last) = countOf protocol first + countOf protocol last :=
  List.countP_append

theorem removeConnection_erase (connections : List Slot) (conn : Slot)
    (apart : (connections.map Slot.data).Nodup) (listed : conn ∈ connections) :
    removeConnection connections conn = connections.erase conn := by
  rw [removeConnection, (List.Nodup.of_map Slot.data apart).erase_eq_filter]
  apply List.filter_congr
  intro other member
  by_cases same : other.data = conn.data
  · simp [List.inj_on_of_nodup_map apart member listed same]
  · have differs : other ≠ conn := fun equal => same (congrArg Slot.data equal)
    simp [same, differs]

/-- Each counter of current connections is the number of the entries of its protocol. -/
def Counts (connections : List Slot) (stats : ConnStats) : Prop :=
  ∀ protocol, stats.conns protocol = BitVec.ofNat 16 (countOf protocol connections)

theorem counts_add (connections : List Slot) (stats : ConnStats) (conn : Slot)
    (counts : Counts connections stats) :
    Counts (connections ++ [conn]) (stats.add conn.tuple.ipproto) := by
  intro protocol
  rw [countOf_append, ConnStats.add, BitVec.ofNat_add, ← counts protocol]
  cases own : protocolOf conn.tuple.ipproto with
  | none => simp [countOf, own]
  | some other =>
      by_cases same : other = protocol
      · subst same
        simp [countOf, own]
      · simp [countOf, own, same, Ne.symm same]

theorem counts_remove (connections : List Slot) (stats : ConnStats) (conn : Slot)
    (counts : Counts connections stats) (apart : (connections.map Slot.data).Nodup)
    (listed : conn ∈ connections) :
    Counts (removeConnection connections conn) (stats.remove conn.tuple.ipproto) := by
  intro protocol
  rw [removeConnection_erase connections conn apart listed, ConnStats.remove]
  have before := counts protocol
  rw [countOf, (List.perm_cons_erase listed).countP_eq, List.countP_cons] at before
  cases own : protocolOf conn.tuple.ipproto with
  | none => simpa [countOf, own] using before
  | some other =>
      by_cases same : other = protocol
      · subst same
        rw [own] at before
        simp only [decide_true, if_true, BitVec.ofNat_add] at before
        simp [countOf, before]
      · simpa [countOf, own, same, Ne.symm same] using before

@[simp] theorem remove_opened (stats : ConnStats) (ipproto : Nat) :
    (stats.remove ipproto).opened = stats.opened := by
  rw [ConnStats.remove]
  split <;> rfl

end Counts

/-- The table and its counters, after the entries of `history` were created. -/
structure Consistent (history : List Slot) (state : Counted) : Prop extends Numbered state.lib where
  tuples : Distinct state.lib.connections
  counts : Counts state.lib.connections state.stats
  openings : ∀ protocol, state.stats.opened protocol = BitVec.ofNat 32 (countOf protocol history)

namespace Consistent

variable {history : List Slot} {state : Counted} (consistent : Consistent history state)

include consistent

theorem nothing : Consistent (history ++ []) state := by
  rw [List.append_nil]
  exact consistent

theorem unchanged (after : Libpcap) (table : after.connections = state.lib.connections)
    (created : state.lib.pd.created ≤ after.pd.created) :
    Consistent history { state with lib := after } where
  born conn member := Nat.lt_of_lt_of_le (consistent.born conn (table ▸ member)) created
  distinct := table ▸ consistent.distinct
  tuples := table ▸ consistent.tuples
  counts := table ▸ consistent.counts
  openings := consistent.openings

theorem removed (after : Libpcap) (conn : Slot) (listed : conn ∈ state.lib.connections)
    (table : after.connections = removeConnection state.lib.connections conn)
    (created : after.pd.created = state.lib.pd.created) :
    Consistent history ⟨after, state.stats.remove conn.tuple.ipproto⟩ where
  toNumbered := consistent.fewer (table ▸ List.filter_sublist) created
  tuples := consistent.tuples.sublist (table ▸ List.filter_sublist)
  counts := table ▸ counts_remove _ _ conn consistent.counts consistent.distinct listed
  openings := by
    rw [remove_opened]
    exact consistent.openings

/-- `HASH_ADD` of an entry that neither lookup has found. -/
theorem joined (opened : Libpcap) (tuple : Tuple)
    (table : opened.connections = state.lib.connections ++ [⟨tuple, state.lib.pd.created⟩])
    (created : opened.pd.created = state.lib.pd.created + 1)
    (unknown : ∀ other ∈ state.lib.connections,
      other.tuple ≠ tuple ∧ other.tuple ≠ tupleSwapPeers tuple) :
    Consistent (history ++ [⟨tuple, state.lib.pd.created⟩])
      ⟨opened, state.stats.add tuple.ipproto⟩ where
  toNumbered := consistent.toNumbered.joined _ table created (.inr ⟨tuple, rfl⟩)
  tuples := table ▸ consistent.tuples.added _ _ unknown
  counts := table ▸ counts_add _ _ ⟨tuple, state.lib.pd.created⟩ consistent.counts
  openings := by
    intro protocol
    have before := consistent.openings protocol
    rw [countOf_append, ConnStats.add, BitVec.ofNat_add, ← before]
    cases own : protocolOf tuple.ipproto with
    | none => simp [countOf, own]
    | some other =>
        by_cases same : other = protocol
        · subst same
          simp [countOf, own]
        · simp [countOf, own, same, Ne.symm same]

theorem connection (arrival : Arrival) (pkt : Pkt) (isTx : Bool) (conn : Slot)
    (listed : conn ∈ state.lib.connections) :
    Consistent history
      ⟨handleConnection arrival pkt isTx state.lib conn,
        connectionStats arrival pkt isTx state.lib conn state.stats⟩ := by
  have table := handleConnection_connections arrival pkt isTx state.lib conn
  have created := handleConnection_created arrival pkt isTx state.lib conn
  rw [connectionStats]
  cases settled : settles arrival pkt isTx state.lib conn with
  | true =>
      rw [settled, if_pos rfl] at table
      exact consistent.removed _ conn listed table created
  | false =>
      rw [settled, if_neg Bool.false_ne_true] at table
      exact consistent.unchanged _ table created.ge

theorem packet (arrival : Arrival) :
    Consistent (history ++ (addedEntry arrival state.lib).toList)
      ⟨(handlePacket arrival state.lib).1, packetStats arrival state.lib state.stats⟩ := by
  cases present : arrival.parsed with
  | none =>
      simp only [handlePacket, packetStats, addedEntry, present, Option.toList_none, List.append_nil]
      exact consistent
  | some parsed =>
      cases ported : isOrphan parsed with
      | true =>
          have orphan := ported
          unfold isOrphan at orphan
          simp only [handlePacket, packetStats, addedEntry, present, orphan, ported, if_true,
            Bool.true_or, Option.toList_none, List.append_nil]
          exact consistent
      | false =>
          rw [handlePacket_parsed arrival state.lib parsed present ported]
          simp only [packetStats, addedEntry, present, ported, Bool.false_or, Bool.false_eq_true,
            if_false]
          cases found : lookup state.lib.connections arrival.hdr.isTx parsed.tuple with
          | some known =>
              simp only [Option.isSome_some, if_true, Option.toList_none, List.append_nil]
              exact consistent.connection arrival _ _ known.1 (lookup_mem _ _ _ _ found)
          | none =>
              obtain ⟨unseen, unmirrored⟩ := lookup_none _ _ _ found
              have opening := openConnection_none arrival (orient arrival.hdr.isTx parsed) state.lib
              simp only [Option.isSome_none, Bool.false_eq_true, if_false, openStats]
              cases entry : added arrival (orient arrival.hdr.isTx parsed) state.lib with
              | none =>
                  obtain ⟨table, created⟩ := opening entry
                  simp only [Option.map_none, Option.toList_none, List.append_nil]
                  exact consistent.unchanged _ table created
              | some result =>
                  obtain ⟨conn, opened⟩ := result
                  obtain ⟨handled, table, rfl, created⟩ :=
                    openConnection_some arrival _ state.lib opened conn entry
                  rw [handled]
                  refine (consistent.joined opened _ table created fun other member => ?_).connection
                    arrival _ _ _ (table ▸ List.mem_append_right _ (List.mem_singleton.mpr rfl))
                  constructor
                  · exact findConnection_none _ _ unseen other member
                  · rw [orient, oriented_swap]
                    exact findConnection_none _ _ unmirrored other member

theorem purgeOne (ndpi : Ref → Ndpi) (purgeAll : Bool) (conn : Slot)
    (listed : conn ∈ state.lib.connections) :
    Consistent history (state.purgeConnection ndpi purgeAll conn) := by
  have kept := purgeConnection_kept always_frame.toQuietFrame ndpi purgeAll state.lib conn
  have table := purgeConnection_connections ndpi purgeAll state.lib conn
  rw [Counted.purgeConnection]
  cases expired : Counted.isExpired purgeAll state.lib conn with
  | true =>
      rw [expired, if_pos rfl] at table
      exact consistent.removed _ conn listed table kept.created
  | false =>
      rw [expired, if_neg Bool.false_ne_true] at table
      exact consistent.unchanged _ table kept.created.ge

theorem purgeEach (ndpi : Ref → Ndpi) (purgeAll : Bool) (remaining : List Slot)
    (listed : ∀ conn ∈ remaining, conn ∈ state.lib.connections)
    (apart : (remaining.map Slot.data).Nodup) :
    Consistent history (remaining.foldl (Counted.purgeConnection ndpi purgeAll) state) := by
  induction remaining generalizing state with
  | nil => exact consistent
  | cons conn rest ih =>
      obtain ⟨fresh, later⟩ := List.nodup_cons.mp apart
      have purged := consistent.purgeOne ndpi purgeAll conn (listed conn List.mem_cons_self)
      refine ih purged (fun other member => ?_) later
      have stays := listed other (List.mem_cons_of_mem conn member)
      have differs : other.data ≠ conn.data := fun same =>
        fresh (same ▸ List.mem_map_of_mem member)
      change other ∈ (purgeConnection ndpi purgeAll state.lib conn).connections
      rw [purgeConnection_connections]
      split
      · exact List.mem_filter.mpr ⟨stays, by simpa using differs⟩
      · exact stays

theorem purge (ndpi : Ref → Ndpi) (purgeAll : Bool) :
    Consistent history (state.purgeExpiredConnections ndpi purgeAll) :=
  consistent.purgeEach ndpi purgeAll _ (fun _ member => member) consistent.distinct

theorem step (event : Counted.Event) :
    Consistent (history ++ state.entries event) (state.step event) := by
  cases event with
  | purge ndpi purgeAll => exact (consistent.purge ndpi purgeAll).nothing
  | capture event =>
      cases event with
      | packet arrival => exact consistent.packet arrival
      | purgeIfDue ndpi =>
          have purged := consistent.purge ndpi false
          have same := Counted.purgeExpiredConnections_lib ndpi false state
          apply nothing
          simp only [Counted.step, LibpcapCapture.step]
          by_cases due : state.lib.nextPurgeMs ≤ state.lib.pd.nowMs
          · rw [if_pos due, if_pos due, ← same]
            exact purged.unchanged _ rfl (Nat.le_refl _)
          · rw [if_neg due, if_neg due]
            exact consistent
      | refreshTime nowMs =>
          apply nothing
          exact consistent.unchanged _ rfl (Nat.le_refl _)
      | allocator reallocs =>
          apply nothing
          exact consistent.unchanged _ rfl (Nat.le_refl _)
      | request wanted =>
          apply nothing
          exact consistent.unchanged _ rfl (Nat.le_refl _)
      | housekeeping pass =>
          have framed := always_frame.pdHousekeeping state.lib.connections state.lib.pd pass
          apply nothing
          exact consistent.unchanged _ rfl framed.created.ge

theorem run (events : List Counted.Event) :
    Consistent (history ++ (Machine.trace Counted.step Counted.entries state events).flatten)
      (Machine.run Counted.step state events) := by
  induction events generalizing history state with
  | nil => simpa [Machine.trace] using consistent
  | cons event rest ih =>
      have later := ih (consistent.step event)
      rw [Machine.trace, List.flatten_cons, ← List.append_assoc]
      exact later

end Consistent

theorem Consistent.start (config : Pd) (pcapFileCapture : Bool) :
    Consistent [] (Counted.start config pcapFileCapture) where
  toNumbered := start_numbered config pcapFileCapture
  tuples := List.Pairwise.nil
  counts _ := rfl
  openings _ := rfl

/-- Whatever a capture does, and whenever it purges: the table has no connection twice, nor in both
    directions, and its counters are right up to their width. -/
theorem table_consistent (config : Pd) (pcapFileCapture : Bool) (events : List Counted.Event) :
    let reached := Machine.run Counted.step (Counted.start config pcapFileCapture) events
    let created := (Machine.trace Counted.step Counted.entries
      (Counted.start config pcapFileCapture) events).flatten
    Distinct reached.lib.connections ∧
      (∀ protocol, (reached.stats.conns protocol).toNat =
        countOf protocol reached.lib.connections % 2 ^ 16) ∧
      ∀ protocol, (reached.stats.opened protocol).toNat = countOf protocol created % 2 ^ 32 := by
  have reached := (Consistent.start config pcapFileCapture).run events
  refine ⟨reached.tuples, fun protocol => ?_, fun protocol => ?_⟩
  · rw [reached.counts protocol, BitVec.toNat_ofNat]
  · rw [reached.openings protocol, BitVec.toNat_ofNat, List.nil_append]

end Ptnet.LibpcapCapture
