import Ptnet.LibpcapDirection
import Ptnet.TrafficFrame

/-!
What the libpcap capture does to its table and to the records, up to a relation which the
functions of core/pcapdroid.c keep: the handling of a packet, by the way it is attributed, and the
purge.
-/

namespace Ptnet.LibpcapCapture

open Connection Pcapdroid

section Numbering

/-- The connections in the table have records of their own, which were created. -/
structure Numbered (state : Libpcap) : Prop where
  born : ∀ conn ∈ state.connections, conn.data < state.pd.created
  distinct : (state.connections.map Slot.data).Nodup

namespace Numbered

variable {state after : Libpcap} (numbered : Numbered state)

include numbered

theorem same_of_ref {conn other : Slot} (listed : conn ∈ state.connections)
    (member : other ∈ state.connections) (same : other.data = conn.data) : other = conn :=
  List.inj_on_of_nodup_map numbered.distinct member listed same

theorem fewer (table : after.connections.Sublist state.connections)
    (created : after.pd.created = state.pd.created) : Numbered after where
  born conn member := created ▸ numbered.born conn (table.subset member)
  distinct := (table.map Slot.data).nodup numbered.distinct

theorem older (conn : Slot) (member : conn ∈ state.connections) : conn.data ≠ state.pd.created :=
  Nat.ne_of_lt (numbered.born conn member)

/-- A record is created, and its connection joins the table if it has one. -/
theorem joined (fresh : List Slot) (table : after.connections = state.connections ++ fresh)
    (created : after.pd.created = state.pd.created + 1)
    (named : fresh = [] ∨ ∃ tuple, fresh = [⟨tuple, state.pd.created⟩]) : Numbered after := by
  have names : ∀ conn ∈ fresh, conn.data = state.pd.created := by
    rcases named with rfl | ⟨tuple, rfl⟩ <;> simp
  constructor
  · intro conn member
    rcases List.mem_append.mp (table ▸ member) with old | new
    · exact created ▸ Nat.lt_succ_of_lt (numbered.born conn old)
    · exact created ▸ names conn new ▸ Nat.lt_succ_self _
  · rw [table, List.map_append]
    apply List.Nodup.append numbered.distinct
    · rcases named with rfl | ⟨tuple, rfl⟩ <;> simp
    · intro ref old new
      obtain ⟨conn, member, rfl⟩ := List.mem_map.mp old
      obtain ⟨other, joined, same⟩ := List.mem_map.mp new
      exact numbered.older conn member (same ▸ names other joined)

end Numbered

theorem start_numbered (config : Pd) (pcapFileCapture : Bool) :
    Numbered (start config pcapFileCapture) where
  born _ member := absurd member List.not_mem_nil
  distinct := List.nodup_nil

end Numbering

variable {same : PdConn → PdConn → Prop}

section Handling

theorem describeConn_traffic (tlsEnabled : Bool) (ifidx : Option Nat) (tuple : Tuple)
    (data : PdConn) : SameTraffic data (describeConn tlsEnabled ifidx tuple data) := ⟨rfl, id⟩

/-- What `handle_packet` does once the connection is known; `data` is the record when
    `update_connection_status` meets it. -/
structure Served (same : PdConn → PdConn → Prop) (state : Libpcap) (pkt : Pkt) (isTx : Bool)
    (conn : Slot) (after : Libpcap) (data : PdConn) : Prop where
  stamped : same { state.pd.heap conn.data with lastUpdateMs := state.pd.nowMs } data
  table : after.connections =
    if (recordStatus conn.tuple pkt isTx data).2 then removeConnection state.connections conn
    else state.connections
  created : after.pd.created = state.pd.created
  own : same (recordStatus conn.tuple pkt isTx data).1 (after.pd.heap conn.data)
  others : ∀ ref, ref ≠ conn.data → same (state.pd.heap ref) (after.pd.heap ref)

namespace Served

variable {state after : Libpcap} {pkt : Pkt} {isTx : Bool} {conn : Slot} {data : PdConn}
variable (served : Served same state pkt isTx conn after data)

include served

theorem fewer : after.connections.Sublist state.connections := by
  rw [served.table]
  split
  · exact List.filter_sublist
  · exact List.Sublist.refl _

theorem removed (settled : (recordStatus conn.tuple pkt isTx data).2 = true) :
    conn ∉ after.connections := by
  rw [served.table, if_pos settled]
  simp [removeConnection]

theorem remains (other : Slot) (member : other ∈ state.connections)
    (kept : other.data ≠ conn.data ∨ (recordStatus conn.tuple pkt isTx data).2 = false) :
    other ∈ after.connections := by
  rw [served.table]
  split
  · next settled =>
    have apart := kept.resolve_right (by rw [settled]; exact Bool.noConfusion)
    exact List.mem_filter.mpr ⟨member, by simpa using apart⟩
  · exact member

end Served

theorem handleConnection_served (frame : RecordFrame same) (arrival : Arrival) (pkt : Pkt)
    (isTx : Bool) (state : Libpcap) (conn : Slot) :
    ∃ data, Served same state pkt isTx conn (handleConnection arrival pkt isTx state conn) data := by
  let pinfo : PktContext := ⟨pkt, arrival.hdr.ms, isTx, conn.tuple, conn.data⟩
  let stamped := state.pd.modify conn.data fun data =>
    { data with lastUpdateMs := state.pd.nowMs }
  let processed := pdProcessPacket arrival.ndpi arrival.payload stamped pinfo
  have processing := frame.pdProcessPacket stamped arrival.ndpi arrival.payload pinfo
  let data := (processed.access conn.data).heap conn.data
  let updated := recordStatus conn.tuple pkt isTx data
  let stored := (processed.access conn.data).modify conn.data fun _ => updated.1
  have accounting := frame.pdAccountStats stored arrival.ndpi pinfo
  have pd : (handleConnection arrival pkt isTx state conn).pd =
      pdAccountStats arrival.ndpi stored pinfo := by
    simp only [handleConnection, updateConnectionStatus]
    split <;> rfl
  have table : (handleConnection arrival pkt isTx state conn).connections =
      if updated.2 then removeConnection state.connections conn else state.connections := by
    simp only [handleConnection, updateConnectionStatus]
    split <;> rfl
  refine ⟨data, ?_, table, ?_, ?_, ?_⟩
  · have seen := processing.records conn.data
    simp only [data, access_heap, processed]
    simpa [stamped] using seen
  · rw [pd, accounting.created, modify_created, access_created, processing.created, modify_created]
  · have counted := accounting.records conn.data
    rw [pd]
    simpa [stored, updated] using counted
  · intro ref other
    have first := processing.records ref
    have last := accounting.records ref
    simp only [stamped, modify_heap, Function.update_of_ne other] at first
    simp only [stored, modify_heap, Function.update_of_ne other, access_heap] at last
    rw [pd]
    exact frame.trans first last

/-- A packet that is accounted to no connection: the table is as it was, and the creation of a
    connection may have been given up. -/
structure Ignored (same : PdConn → PdConn → Prop) (state after : Libpcap) : Prop where
  table : after.connections = state.connections
  records : after.pd = state.pd ∨ Created same state.pd after.pd

/-- How `handle_packet` treats a packet. -/
inductive Handled (same : PdConn → PdConn → Prop) (arrival : Arrival) (state : Libpcap) : Prop where
  | ignored (unattributed : attribution arrival state = none)
      (kept : Ignored same state (handlePacket arrival state).1)
  | known (conn : Slot) (isTx : Bool) (parsed : Pkt) (present : arrival.parsed = some parsed)
      (attributed : attribution arrival state = some (conn, isTx))
      (listed : conn ∈ state.connections)
      (handled : (handlePacket arrival state).1 =
        handleConnection arrival (orient isTx parsed) isTx state conn)
  | created (conn : Slot) (isTx : Bool) (parsed : Pkt) (opened : Libpcap)
      (present : arrival.parsed = some parsed)
      (attributed : attribution arrival state = some (conn, isTx))
      (ref : conn.data = state.pd.created) (records : Created same state.pd opened.pd)
      (table : opened.connections = state.connections ++ [conn])
      (handled : (handlePacket arrival state).1 =
        handleConnection arrival (orient isTx parsed) isTx opened conn)

variable (frame : QuietCreation same)
variable (described : ∀ tlsEnabled ifidx tuple data,
  same data (describeConn tlsEnabled ifidx tuple data))

include frame described

theorem openConnection_handled (arrival : Arrival) (state : Libpcap) (parsed : Pkt)
    (present : arrival.parsed = some parsed)
    (handled : handlePacket arrival state =
      openConnection arrival (orient arrival.hdr.isTx parsed) state)
    (attributed : attribution arrival state =
      (opened arrival state (orient arrival.hdr.isTx parsed)).map fun conn =>
        (conn, arrival.hdr.isTx)) : Handled same arrival state := by
  let pkt := orient arrival.hdr.isTx parsed
  by_cases refused : ((pkt.isFragment && !pkt.isFirstFragment) || !arrival.malloc) = true
  · have unopened : opened arrival state pkt = none := if_pos refused
    refine .ignored (by rw [attributed, unopened]; rfl) ?_
    rw [handled, openConnection, if_pos refused]
    exact ⟨rfl, Or.inl rfl⟩
  · rcases outcome : pdNewConnection arrival.ndpi arrival.env state.pd pkt.tuple
      (packetUid state arrival.hdr) with ⟨pd, result⟩
    have records := frame.pdNewConnection _ _ _ _ _ pd result outcome
    cases result with
    | none =>
      have unopened : opened arrival state pkt = none := by
        rw [opened, if_neg refused, outcome]
        rfl
      refine .ignored (by rw [attributed, unopened]; rfl) ?_
      rw [handled, openConnection, if_neg refused]
      simp only [pkt] at outcome
      rw [outcome]
      exact ⟨rfl, records.imp (fun kept => kept.1) fun created => created.1⟩
    | some ref =>
      rcases records with ⟨-, no⟩ | ⟨created, no | named⟩
      · cases no
      · cases no
      · obtain rfl := Option.some.inj named
        let described' := pd.modify state.pd.created
          (describeConn pd.tlsEnabled arrival.hdr.ifidx pkt.tuple)
        have found : opened arrival state pkt = some ⟨pkt.tuple, state.pd.created⟩ := by
          rw [opened, if_neg refused, outcome]
          rfl
        refine .created ⟨pkt.tuple, state.pd.created⟩ arrival.hdr.isTx parsed
          { state with
            pd := described'
            connections := state.connections ++ [⟨pkt.tuple, state.pd.created⟩] }
          present (by rw [attributed, found]; rfl) rfl ?_ rfl ?_
        · exact frame.createdLater created (frame.modify pd _ _ (described _ _ _ _))
        · rw [handled, openConnection, if_neg refused]
          simp only [pkt] at outcome
          rw [outcome]

theorem handlePacket_handled (arrival : Arrival) (state : Libpcap) : Handled same arrival state := by
  cases present : arrival.parsed with
  | none =>
    refine .ignored (by simp [attribution, present]) ?_
    simp only [handlePacket, present]
    exact ⟨rfl, Or.inl rfl⟩
  | some parsed =>
    cases ported : isOrphan parsed with
    | true =>
      refine .ignored (by simp [attribution, present, ported]) ?_
      have orphan := ported
      unfold isOrphan at orphan
      simp only [handlePacket, present, orphan, if_true]
      exact ⟨rfl, Or.inl rfl⟩
    | false =>
      have handled := handlePacket_parsed arrival state parsed present ported
      cases found : lookup state.connections arrival.hdr.isTx parsed.tuple with
      | some known =>
        rw [found] at handled
        exact .known known.1 known.2 parsed present (by simp [attribution, present, ported, found])
          (lookup_mem _ _ _ _ found) (by rw [handled])
      | none =>
        rw [found] at handled
        exact openConnection_handled frame described arrival state parsed present handled
          (by simp [attribution, present, ported, found])

end Handling

section Purge

/-- The relation holds of the connections that stay in the table, and no record is created. -/
structure Kept (same : PdConn → PdConn → Prop) (before after : Libpcap) : Prop where
  table : after.connections.Sublist before.connections
  created : after.pd.created = before.pd.created
  records : ∀ conn ∈ after.connections,
    same (before.pd.heap conn.data) (after.pd.heap conn.data)

theorem Kept.of_framed {before after : Libpcap} (table : after.connections = before.connections)
    (framed : Framed same before.pd after.pd) : Kept same before after :=
  ⟨table ▸ List.Sublist.refl _, framed.created, fun conn _ => framed.records conn.data⟩

variable (frame : QuietFrame same)

include frame

theorem Kept.refl (state : Libpcap) : Kept same state state :=
  Kept.of_framed rfl (frame.unchanged state.pd)

theorem Kept.trans {before between after : Libpcap} (first : Kept same before between)
    (last : Kept same between after) : Kept same before after :=
  ⟨last.table.trans first.table, last.created.trans first.created, fun conn member =>
    frame.trans (first.records conn (last.table.subset member)) (last.records conn member)⟩

/-- A connection that stays is as it was; the record of one that goes is marked to be purged. -/
theorem purgeConnection_framed (ndpi : Ref → Detection.Ndpi) (purgeAll : Bool) (state : Libpcap)
    (conn : Slot) :
    (purgeConnection ndpi purgeAll state conn).connections = state.connections ∧
        Framed same state.pd (purgeConnection ndpi purgeAll state conn).pd ∨
      (purgeConnection ndpi purgeAll state conn).connections =
          removeConnection state.connections conn ∧
        Framed same ((state.pd.access conn.data).modify conn.data expireConn)
          (purgeConnection ndpi purgeAll state conn).pd := by
  unfold purgeConnection
  dsimp only
  split
  · let expired := (state.pd.access conn.data).modify conn.data expireConn
    have notified : ∀ after queued, (if (expired.heap conn.data).updateType = 0 then (expired, false)
        else pdNotifyConnectionUpdate (ndpi conn.data) expired conn.tuple conn.data) =
          (after, queued) → Framed same expired after := by
      intro after queued outcome
      split at outcome
      · obtain ⟨rfl, -⟩ := Prod.mk.inj outcome
        exact frame.unchanged expired
      · have kept := frame.notifConnection expired conn.data (ndpi conn.data) .connsUpdates conn.tuple
        unfold pdNotifyConnectionUpdate at outcome
        rw [outcome] at kept
        exact kept
    rcases outcome : (if (expired.heap conn.data).updateType = 0 then (expired, false)
        else pdNotifyConnectionUpdate (ndpi conn.data) expired conn.tuple conn.data) with
      ⟨after, queued⟩
    refine Or.inr ⟨rfl, ?_⟩
    change Framed same expired (if queued then after else pdPurgeConnection after conn.data)
    split
    · exact notified after queued outcome
    · exact frame.later (notified after queued outcome) (frame.pdPurgeConnection after conn.data)
  · exact Or.inl ⟨rfl, frame.access state.pd conn.data⟩

theorem purgeConnection_kept (ndpi : Ref → Detection.Ndpi) (purgeAll : Bool) (state : Libpcap)
    (conn : Slot) : Kept same state (purgeConnection ndpi purgeAll state conn) := by
  rcases purgeConnection_framed frame ndpi purgeAll state conn with ⟨table, framed⟩ | ⟨table, framed⟩
  · exact Kept.of_framed table framed
  · refine ⟨table ▸ List.filter_sublist, ?_, fun other member => ?_⟩
    · rw [framed.created, modify_created, access_created]
    · rw [table] at member
      have apart : other.data ≠ conn.data := by simpa using (List.mem_filter.mp member).2
      have kept := framed.records other.data
      rwa [modify_heap, Function.update_of_ne apart, access_heap] at kept

/-- A relation that the mark keeps as well holds of every record after a purge. -/
theorem purgeExpiredConnections_records (expires : ∀ data, same data (expireConn data))
    (ndpi : Ref → Detection.Ndpi) (purgeAll : Bool) (state : Libpcap) (ref : Ref) :
    same (state.pd.heap ref) ((purgeExpiredConnections ndpi purgeAll state).pd.heap ref) := by
  have each : ∀ (conns : List Slot) (current : Libpcap), same (current.pd.heap ref)
      ((conns.foldl (purgeConnection ndpi purgeAll) current).pd.heap ref) := by
    intro conns
    induction conns with
    | nil => exact fun current => frame.refl _
    | cons conn rest ih =>
      intro current
      refine frame.trans ?_ (ih _)
      rcases purgeConnection_framed frame ndpi purgeAll current conn with ⟨-, framed⟩ | ⟨-, framed⟩
      · exact framed.records ref
      · refine frame.trans ?_ (framed.records ref)
        rw [modify_heap, access_heap]
        by_cases own : ref = conn.data
        · subst own
          rw [Function.update_self]
          exact expires _
        · rw [Function.update_of_ne own]
          exact frame.refl _
  exact each state.connections state

theorem purgeExpiredConnections_kept (ndpi : Ref → Detection.Ndpi) (purgeAll : Bool)
    (state : Libpcap) : Kept same state (purgeExpiredConnections ndpi purgeAll state) := by
  have purged : ∀ (conns : List Slot) (current : Libpcap),
      Kept same current (conns.foldl (purgeConnection ndpi purgeAll) current) := by
    intro conns
    induction conns with
    | nil => exact Kept.refl frame
    | cons conn rest ih =>
      exact fun current =>
        Kept.trans frame (purgeConnection_kept frame ndpi purgeAll current conn) (ih _)
  exact purged state.connections state

theorem step_kept (state : Libpcap) (event : Event) (quiet : ∀ arrival, event ≠ .packet arrival) :
    Kept same state (step state event) := by
  cases event with
  | packet arrival => exact absurd rfl (quiet arrival)
  | refreshTime nowMs => exact Kept.of_framed rfl (frame.of_heap rfl rfl)
  | allocator reallocs => exact Kept.of_framed rfl (frame.of_heap rfl rfl)
  | request wanted => exact Kept.of_framed rfl (frame.of_heap rfl rfl)
  | housekeeping pass => exact Kept.of_framed rfl (frame.pdHousekeeping _ _ pass)
  | purgeIfDue ndpi =>
    unfold step
    dsimp only
    split
    · have kept := purgeExpiredConnections_kept frame ndpi false state
      exact ⟨kept.table, kept.created, kept.records⟩
    · exact Kept.refl frame state

end Purge

end Ptnet.LibpcapCapture
