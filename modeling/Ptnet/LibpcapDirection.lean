import Ptnet.HousekeepingFrame
import Ptnet.LibpcapLifecycle

/-!
The direction hint of a packet. A packet is looked up in the hinted direction and then in the
other one. The table never has a connection and its mirror image, so the hint decides nothing
but the direction of a connection it starts.
-/

namespace Ptnet.LibpcapCapture

open Connection Pcapdroid

section Lookup

def oriented (isTx : Bool) (tuple : Tuple) : Tuple := if isTx then tuple else tupleSwapPeers tuple

theorem tupleSwapPeers_twice (tuple : Tuple) : tupleSwapPeers (tupleSwapPeers tuple) = tuple := rfl

theorem oriented_swap (isTx : Bool) (tuple : Tuple) :
    tupleSwapPeers (oriented isTx tuple) = oriented (!isTx) tuple := by
  cases isTx with
  | false => exact tupleSwapPeers_twice tuple
  | true => rfl

/-- The connection that the two lookups find, and the direction of the packet in it. -/
def lookup (connections : List Slot) (isTx : Bool) (tuple : Tuple) : Option (Slot × Bool) :=
  match findConnection connections (oriented isTx tuple) with
  | some conn => some (conn, isTx)
  | none => (findConnection connections (oriented (!isTx) tuple)).map fun conn => (conn, !isTx)

/-- No connection is the mirror image of another one. -/
def Unmirrored (connections : List Slot) : Prop :=
  connections.Pairwise fun first last => first.tuple ≠ tupleSwapPeers last.tuple

theorem findConnection_tuple (connections : List Slot) (tuple : Tuple) (conn : Slot)
    (found : findConnection connections tuple = some conn) : conn.tuple = tuple := by
  have holds := List.find?_some found
  simpa using holds

theorem findConnection_none (connections : List Slot) (tuple : Tuple)
    (missing : findConnection connections tuple = none) (conn : Slot) (member : conn ∈ connections) :
    conn.tuple ≠ tuple := by
  have fails := List.find?_eq_none.mp missing conn member
  simpa using fails

theorem unmirrored_once (connections : List Slot) (tuple : Tuple) (first last : Slot)
    (unmirrored : Unmirrored connections) (directed : tupleSwapPeers tuple ≠ tuple)
    (found : findConnection connections tuple = some first) :
    findConnection connections (tupleSwapPeers tuple) ≠ some last := by
  intro mirrored
  have tuples := findConnection_tuple connections tuple first found
  have swapped := findConnection_tuple connections _ last mirrored
  have differ : first ≠ last := by
    rintro rfl
    exact directed (swapped.symm.trans tuples)
  have symmetric : Std.Symm fun a b : Slot => a.tuple ≠ tupleSwapPeers b.tuple :=
    ⟨fun a b apart same => apart (by rw [same, tupleSwapPeers_twice])⟩
  apply unmirrored.forall (findConnection_mem connections _ first found)
    (findConnection_mem connections _ last mirrored) differ
  rw [tuples, swapped, tupleSwapPeers_twice]

/-- Both hints find the same connection and the same direction. -/
theorem lookup_hint (connections : List Slot) (isTx : Bool) (tuple : Tuple)
    (unmirrored : Unmirrored connections) (directed : tupleSwapPeers tuple ≠ tuple) :
    lookup connections isTx tuple = lookup connections (!isTx) tuple := by
  unfold lookup
  rw [Bool.not_not]
  have apart : tupleSwapPeers (oriented isTx tuple) ≠ oriented isTx tuple := by
    cases isTx with
    | false => exact fun same => directed same.symm
    | true => exact directed
  cases hinted : findConnection connections (oriented isTx tuple) with
  | none => cases findConnection connections (oriented (!isTx) tuple) <;> rfl
  | some first =>
      cases mirrored : findConnection connections (oriented (!isTx) tuple) with
      | none => rfl
      | some last =>
          rw [← oriented_swap] at mirrored
          exact absurd mirrored (unmirrored_once connections _ first last unmirrored apart hinted)

theorem lookup_mem (connections : List Slot) (isTx : Bool) (tuple : Tuple) (found : Slot × Bool)
    (known : lookup connections isTx tuple = some found) : found.1 ∈ connections := by
  unfold lookup at known
  cases hinted : findConnection connections (oriented isTx tuple) with
  | some conn =>
      rw [hinted] at known
      cases known
      exact findConnection_mem connections _ conn hinted
  | none =>
      rw [hinted] at known
      obtain ⟨conn, mirrored, rfl⟩ := Option.map_eq_some_iff.mp known
      exact findConnection_mem connections _ conn mirrored

theorem lookup_none (connections : List Slot) (isTx : Bool) (tuple : Tuple)
    (unknown : lookup connections isTx tuple = none) :
    findConnection connections (oriented isTx tuple) = none ∧
      findConnection connections (oriented (!isTx) tuple) = none := by
  unfold lookup at unknown
  cases hinted : findConnection connections (oriented isTx tuple) with
  | some conn => simp [hinted] at unknown
  | none => exact ⟨rfl, by simpa [hinted] using unknown⟩

end Lookup

section Packets

variable (arrival : Arrival) (state : Libpcap)

def isOrphan (parsed : Pkt) : Bool :=
  parsed.isFragment && parsed.tuple.srcPort = 0 && parsed.tuple.dstPort = 0

def orient (isTx : Bool) (parsed : Pkt) : Pkt := { parsed with tuple := oriented isTx parsed.tuple }

theorem handlePacket_parsed (parsed : Pkt) (present : arrival.parsed = some parsed)
    (ported : isOrphan parsed = false) :
    handlePacket arrival state =
      match lookup state.connections arrival.hdr.isTx parsed.tuple with
      | some (conn, isTx) => (handleConnection arrival (orient isTx parsed) isTx state conn, true)
      | none => openConnection arrival (orient arrival.hdr.isTx parsed) state := by
  have pkt : (if arrival.hdr.isTx then parsed
      else { parsed with tuple := tupleSwapPeers parsed.tuple }) = orient arrival.hdr.isTx parsed := by
    cases arrival.hdr.isTx <;> rfl
  unfold isOrphan at ported
  unfold handlePacket lookup
  rw [present]
  dsimp only
  rw [ported, pkt]
  simp only [Bool.false_eq_true, ↓reduceIte, orient, oriented_swap]
  cases findConnection state.connections (oriented arrival.hdr.isTx parsed.tuple) with
  | some conn => rfl
  | none => cases findConnection state.connections (oriented (!arrival.hdr.isTx) parsed.tuple) <;> rfl

def opened (pkt : Pkt) : Option Slot :=
  if (pkt.isFragment && !pkt.isFirstFragment) || !arrival.malloc then none
  else
    (pdNewConnection arrival.ndpi arrival.env state.pd pkt.tuple
      (packetUid state arrival.hdr)).2.map fun ref => ⟨pkt.tuple, ref⟩

/-- The connection to which a packet is attributed, and `is_tx`. -/
def attribution : Option (Slot × Bool) :=
  match arrival.parsed with
  | none => none
  | some parsed =>
      if isOrphan parsed then none
      else
        match lookup state.connections arrival.hdr.isTx parsed.tuple with
        | some found => some found
        | none =>
            (opened arrival state (orient arrival.hdr.isTx parsed)).map fun conn =>
              (conn, arrival.hdr.isTx)

def creates : Bool :=
  match arrival.parsed with
  | none => false
  | some parsed =>
      !isOrphan parsed && (lookup state.connections arrival.hdr.isTx parsed.tuple).isNone &&
        (opened arrival state (orient arrival.hdr.isTx parsed)).isSome

/-- `handle_packet` accounts a packet to the connection and in the direction it is attributed to. -/
theorem handlePacket_attributed (conn : Slot) (isTx : Bool)
    (attributed : attribution arrival state = some (conn, isTx)) :
    ∃ parsed known, arrival.parsed = some parsed ∧ conn ∈ known.connections ∧
      handlePacket arrival state =
        (handleConnection arrival (orient isTx parsed) isTx known conn, true) := by
  unfold attribution at attributed
  cases present : arrival.parsed with
  | none => simp [present] at attributed
  | some parsed =>
      rw [present] at attributed
      dsimp only at attributed
      by_cases ported : isOrphan parsed = true
      · rw [if_pos ported] at attributed
        cases attributed
      · rw [if_neg ported] at attributed
        have handled := handlePacket_parsed arrival state parsed present (by simpa using ported)
        cases found : lookup state.connections arrival.hdr.isTx parsed.tuple with
        | some known =>
            rw [found] at attributed handled
            obtain rfl := Option.some.inj attributed
            exact ⟨parsed, state, rfl, lookup_mem _ _ _ _ found, handled⟩
        | none =>
            rw [found] at attributed handled
            dsimp only at attributed handled
            obtain ⟨started, starts, same⟩ := Option.map_eq_some_iff.mp attributed
            obtain ⟨rfl, rfl⟩ := Prod.mk.inj same
            unfold opened at starts
            unfold openConnection at handled
            by_cases refused : ((orient arrival.hdr.isTx parsed).isFragment &&
                !(orient arrival.hdr.isTx parsed).isFirstFragment || !arrival.malloc) = true
            · rw [if_pos refused] at starts
              cases starts
            · rw [if_neg refused] at starts handled
              obtain ⟨ref, created, rfl⟩ := Option.map_eq_some_iff.mp starts
              rcases outcome : pdNewConnection arrival.ndpi arrival.env state.pd
                (orient arrival.hdr.isTx parsed).tuple (packetUid state arrival.hdr) with ⟨pd, result⟩
              rw [outcome] at created handled
              cases created
              refine ⟨parsed, _, rfl, ?_, handled⟩
              exact List.mem_append_right _ (List.mem_singleton.mpr rfl)

theorem handlePacket_ignored (ignored : attribution arrival state = none) :
    (handlePacket arrival state).2 = false := by
  unfold attribution at ignored
  cases present : arrival.parsed with
  | none =>
      unfold handlePacket
      rw [present]
  | some parsed =>
      rw [present] at ignored
      dsimp only at ignored
      cases ported : isOrphan parsed with
      | true =>
          unfold isOrphan at ported
          unfold handlePacket
          rw [present]
          dsimp only
          rw [ported, if_pos rfl]
      | false =>
          rw [handlePacket_parsed arrival state parsed present ported]
          rw [ported, if_neg Bool.false_ne_true] at ignored
          cases found : lookup state.connections arrival.hdr.isTx parsed.tuple with
          | some known =>
              rw [found] at ignored
              cases ignored
          | none =>
              rw [found] at ignored
              have unopened := Option.map_eq_none_iff.mp ignored
              unfold opened at unopened
              unfold openConnection
              dsimp only
              split
              · rfl
              · next accepted =>
                  rw [if_neg accepted] at unopened
                  have failed := Option.map_eq_none_iff.mp unopened
                  rcases outcome : pdNewConnection arrival.ndpi arrival.env state.pd
                    (orient arrival.hdr.isTx parsed).tuple (packetUid state arrival.hdr) with
                    ⟨pd, result⟩
                  rw [outcome] at failed
                  cases failed
                  rfl

end Packets

section Table

/-- The table loses connections, or gets one that no lookup has found. -/
def TableStep (before after : List Slot) : Prop :=
  after.Sublist before ∨
    ∃ conn : Slot, after.Sublist (before ++ [conn]) ∧
      ∀ other ∈ before, other.tuple ≠ tupleSwapPeers conn.tuple

theorem tableStep_unmirrored (before after : List Slot) (step : TableStep before after)
    (unmirrored : Unmirrored before) : Unmirrored after := by
  rcases step with fewer | ⟨conn, fewer, unknown⟩
  · exact unmirrored.sublist fewer
  · apply List.Pairwise.sublist fewer
    apply List.pairwise_append.mpr
    refine ⟨unmirrored, List.pairwise_singleton _ conn, ?_⟩
    intro other member last single
    obtain rfl := List.mem_singleton.mp single
    exact unknown other member

theorem updateConnectionStatus_table (state : Libpcap) (conn : Slot) (pkt : Pkt) (isTx : Bool) :
    (updateConnectionStatus state conn pkt isTx).connections.Sublist state.connections := by
  unfold updateConnectionStatus
  dsimp only
  split
  · exact List.filter_sublist
  · exact List.Sublist.refl _

theorem handleConnection_table (arrival : Arrival) (pkt : Pkt) (isTx : Bool) (state : Libpcap)
    (conn : Slot) :
    (handleConnection arrival pkt isTx state conn).connections.Sublist state.connections :=
  updateConnectionStatus_table { state with pd := _ } conn pkt isTx

theorem openConnection_table (arrival : Arrival) (pkt : Pkt) (state : Libpcap) :
    (openConnection arrival pkt state).1.connections.Sublist state.connections ∨
      ∃ ref, (openConnection arrival pkt state).1.connections.Sublist
        (state.connections ++ [⟨pkt.tuple, ref⟩]) := by
  unfold openConnection
  split
  · exact Or.inl (List.Sublist.refl _)
  · split
    · exact Or.inl (List.Sublist.refl _)
    · next pd ref _ => exact Or.inr ⟨ref, handleConnection_table arrival pkt _ _ _⟩

theorem handlePacket_table (arrival : Arrival) (state : Libpcap) :
    TableStep state.connections (handlePacket arrival state).1.connections := by
  cases present : arrival.parsed with
  | none =>
      unfold handlePacket
      rw [present]
      exact Or.inl (List.Sublist.refl _)
  | some parsed =>
      cases ported : isOrphan parsed with
      | true =>
          unfold isOrphan at ported
          unfold handlePacket
          rw [present]
          dsimp only
          rw [ported]
          exact Or.inl (List.Sublist.refl _)
      | false =>
          rw [handlePacket_parsed arrival state parsed present ported]
          cases found : lookup state.connections arrival.hdr.isTx parsed.tuple with
          | some known => exact Or.inl (handleConnection_table arrival _ _ state known.1)
          | none =>
              rcases openConnection_table arrival (orient arrival.hdr.isTx parsed) state with
                fewer | ⟨ref, fewer⟩
              · exact Or.inl fewer
              · refine Or.inr ⟨_, fewer, fun other member => ?_⟩
                dsimp only [orient]
                rw [oriented_swap]
                exact findConnection_none state.connections _ (lookup_none _ _ _ found).2 other member

theorem purgeExpiredConnections_table (ndpi : Ref → Detection.Ndpi) (purgeAll : Bool)
    (state : Libpcap) :
    (purgeExpiredConnections ndpi purgeAll state).connections.Sublist state.connections := by
  unfold purgeExpiredConnections
  have purged (conns : List Slot) (current : Libpcap) :
      (conns.foldl (purgeConnection ndpi purgeAll) current).connections.Sublist
        current.connections := by
    induction conns generalizing current with
    | nil => exact List.Sublist.refl _
    | cons conn rest ih =>
        apply (ih (purgeConnection ndpi purgeAll current conn)).trans
        unfold purgeConnection
        dsimp only
        split
        · exact List.filter_sublist
        · exact List.Sublist.refl _
  exact purged state.connections state

theorem step_table (state : Libpcap) (event : Event) :
    TableStep state.connections (step state event).connections := by
  cases event with
  | packet arrival => exact handlePacket_table arrival state
  | purgeIfDue ndpi =>
      unfold step
      dsimp only
      split
      · exact Or.inl (purgeExpiredConnections_table ndpi false state)
      · exact Or.inl (List.Sublist.refl _)
  | refreshTime nowMs => exact Or.inl (List.Sublist.refl _)
  | allocator reallocs => exact Or.inl (List.Sublist.refl _)
  | request wanted => exact Or.inl (List.Sublist.refl _)
  | housekeeping pass => exact Or.inl (List.Sublist.refl _)

end Table

section Hints

theorem enqueue_refused (pd : Pd) (which : Which) (slot other : Slot)
    (refused : (enqueue pd which slot).2 = false) :
    enqueue pd which other = enqueue pd which slot := by
  unfold enqueue at refused ⊢
  dsimp only at refused ⊢
  by_cases full : (pd.array which).size ≤ (pd.array which).curItems
  · rw [if_pos full, if_pos full]
    rw [if_pos full] at refused
    cases grown : pd.reallocs.headD true with
    | false => rfl
    | true =>
        rw [grown, if_pos rfl] at refused
        cases refused
  · simp [full] at refused

/-- A new record is queued, if there is room, under any tuple. -/
theorem notifConnection_refused (ndpi : Detection.Ndpi) (pd : Pd) (tuple other : Tuple) (ref : Ref)
    (fresh : pd.heap ref = freshConn)
    (refused : (notifConnection ndpi pd .newConns tuple ref).2 = false) :
    notifConnection ndpi pd .newConns other ref = notifConnection ndpi pd .newConns tuple ref := by
  have queueing (peers : Tuple) : notifConnection ndpi pd .newConns peers ref =
      enqueue (pd.access ref) .newConns ⟨peers, ref⟩ := by
    have unclosed : freshConn.status.isClosed = false := rfl
    have unmarked : freshConn.pendingNotification = false := rfl
    unfold notifConnection
    dsimp only
    rw [access_heap, fresh, unclosed, if_neg Bool.false_ne_true, access_heap, fresh, unmarked,
      if_neg Bool.false_ne_true]
  rw [queueing] at refused
  rw [queueing, queueing]
  exact enqueue_refused (pd.access ref) .newConns ⟨tuple, ref⟩ ⟨other, ref⟩ refused

/-- A connection that cannot be created leaves the same state whatever its tuple. -/
theorem pdNewConnection_refused (ndpi : Detection.Ndpi) (env : NewConnEnv) (pd : Pd)
    (tuple other : Tuple) (uid : Int) (refused : (pdNewConnection ndpi env pd tuple uid).2 = none) :
    pdNewConnection ndpi env pd other uid = pdNewConnection ndpi env pd tuple uid := by
  let allocated : Pd := { pd with
    created := pd.created + 1
    heap := Function.update pd.heap pd.created freshConn }
  have fresh : allocated.heap pd.created = freshConn := Function.update_self ..
  unfold pdNewConnection at refused ⊢
  by_cases unallocated : (!env.calloc) = true
  · rw [if_pos unallocated, if_pos unallocated]
  · rw [if_neg unallocated, if_neg unallocated]
    rw [if_neg unallocated] at refused
    dsimp only at refused ⊢
    by_cases unflowed : (!env.ndpiCalloc) = true
    · rw [if_pos unflowed, if_pos unflowed]
    · rw [if_neg unflowed, if_neg unflowed]
      rw [if_neg unflowed] at refused
      cases queued : (notifConnection ndpi allocated .newConns tuple pd.created).2 with
      | true =>
          rw [queued] at refused
          cases refused
      | false =>
          rw [notifConnection_refused ndpi allocated tuple other pd.created fresh queued, queued,
            Bool.not_false, if_pos rfl, if_pos rfl]

def Arrival.hint (arrival : Arrival) (isTx : Bool) : Arrival :=
  { arrival with hdr := { arrival.hdr with isTx := isTx } }

theorem openConnection_refused (arrival : Arrival) (state : Libpcap) (parsed : Pkt)
    (hinted isTx : Bool) (refused : opened arrival state (orient hinted parsed) = none) :
    opened (arrival.hint isTx) state (orient isTx parsed) = none ∧
      openConnection (arrival.hint isTx) (orient isTx parsed) state =
        openConnection arrival (orient hinted parsed) state := by
  unfold opened at refused
  unfold opened openConnection
  change (if (parsed.isFragment && !parsed.isFirstFragment || !arrival.malloc) = true then none
    else _) = none at refused
  change (if (parsed.isFragment && !parsed.isFirstFragment || !arrival.malloc) = true then none
      else _) = none ∧
    (if (parsed.isFragment && !parsed.isFirstFragment || !arrival.malloc) = true then _ else _) =
      if (parsed.isFragment && !parsed.isFirstFragment || !arrival.malloc) = true then _ else _
  by_cases ignored : (parsed.isFragment && !parsed.isFirstFragment || !arrival.malloc) = true
  · rw [if_pos ignored, if_pos ignored, if_pos ignored]
    exact ⟨rfl, rfl⟩
  · rw [if_neg ignored] at refused
    rw [if_neg ignored, if_neg ignored, if_neg ignored]
    have failed := Option.map_eq_none_iff.mp refused
    have same : pdNewConnection (arrival.hint isTx).ndpi (arrival.hint isTx).env state.pd
        (orient isTx parsed).tuple (packetUid state (arrival.hint isTx).hdr) =
          pdNewConnection arrival.ndpi arrival.env state.pd (orient hinted parsed).tuple
            (packetUid state arrival.hdr) :=
      pdNewConnection_refused arrival.ndpi arrival.env state.pd (orient hinted parsed).tuple
        (orient isTx parsed).tuple (packetUid state arrival.hdr) failed
    rw [same]
    rcases outcome : pdNewConnection arrival.ndpi arrival.env state.pd
      (orient hinted parsed).tuple (packetUid state arrival.hdr) with ⟨pd, result⟩
    rw [outcome] at failed
    cases failed
    exact ⟨rfl, rfl⟩

theorem lookup_hints (connections : List Slot) (hinted isTx : Bool) (tuple : Tuple)
    (unmirrored : Unmirrored connections) (directed : tupleSwapPeers tuple ≠ tuple) :
    lookup connections isTx tuple = lookup connections hinted tuple := by
  rcases Bool.eq_or_eq_not isTx hinted with rfl | rfl
  · rfl
  · exact (lookup_hint connections hinted tuple unmirrored directed).symm

/-- The hint of a packet that starts no connection changes nothing. -/
theorem handlePacket_hint (arrival : Arrival) (state : Libpcap) (isTx : Bool)
    (unmirrored : Unmirrored state.connections) (uncreated : creates arrival state = false)
    (directed : ∀ parsed ∈ arrival.parsed, tupleSwapPeers parsed.tuple ≠ parsed.tuple) :
    handlePacket arrival state = handlePacket (arrival.hint isTx) state ∧
      attribution arrival state = attribution (arrival.hint isTx) state := by
  cases present : arrival.parsed with
  | none =>
      have hinted : (arrival.hint isTx).parsed = none := present
      unfold handlePacket attribution
      rw [present, hinted]
      exact ⟨rfl, rfl⟩
  | some parsed =>
      have hinted : (arrival.hint isTx).parsed = some parsed := present
      have found := lookup_hints state.connections arrival.hdr.isTx isTx parsed.tuple unmirrored
        (directed parsed present)
      cases ported : isOrphan parsed with
      | true =>
          have orphan : (parsed.isFragment && parsed.tuple.srcPort = 0 && parsed.tuple.dstPort = 0)
            = true := ported
          unfold handlePacket attribution
          rw [present, hinted]
          dsimp only
          rw [if_pos orphan, if_pos orphan, if_pos ported, if_pos ported]
          exact ⟨rfl, rfl⟩
      | false =>
          rw [handlePacket_parsed arrival state parsed present ported,
            handlePacket_parsed (arrival.hint isTx) state parsed hinted ported]
          unfold attribution
          unfold creates at uncreated
          rw [present] at uncreated
          rw [present, hinted]
          dsimp only [Arrival.hint] at uncreated ⊢
          rw [ported, found]
          rw [ported] at uncreated
          cases known : lookup state.connections arrival.hdr.isTx parsed.tuple with
          | some conn => exact ⟨rfl, rfl⟩
          | none =>
              rw [known] at uncreated
              have refused : opened arrival state (orient arrival.hdr.isTx parsed) = none := by
                simpa using uncreated
              obtain ⟨unopened, same⟩ := openConnection_refused arrival state parsed
                arrival.hdr.isTx isTx refused
              constructor
              · exact same.symm
              · exact (congrArg (Option.map fun conn => (conn, arrival.hdr.isTx)) refused).trans
                  (congrArg (Option.map fun conn => (conn, isTx)) unopened).symm

/-- Two events that differ at most in the hint of a packet which starts no connection. -/
inductive SameButHint (state : Libpcap) : Event → Event → Prop where
  | same (event : Event) : SameButHint state event event
  | hint (arrival : Arrival) (isTx : Bool) (uncreated : creates arrival state = false)
      (directed : ∀ parsed ∈ arrival.parsed, tupleSwapPeers parsed.tuple ≠ parsed.tuple) :
      SameButHint state (.packet arrival) (.packet (arrival.hint isTx))

def attributed (state : Libpcap) : Event → Option (Slot × Bool)
  | .packet arrival => attribution arrival state
  | _ => none

theorem step_hint (state : Libpcap) (event other : Event) (unmirrored : Unmirrored state.connections)
    (related : SameButHint state event other) :
    step state event = step state other ∧ attributed state event = attributed state other := by
  cases related with
  | same => exact ⟨rfl, rfl⟩
  | hint arrival isTx uncreated directed =>
      obtain ⟨handled, told⟩ := handlePacket_hint arrival state isTx unmirrored uncreated directed
      exact ⟨congrArg Prod.fst handled, told⟩

/-- Two captures of the same packets which differ in such hints are one capture. -/
theorem capture_ignoresHints (config : Pd) (pcapFileCapture : Bool) (events others : List Event)
    (related : Machine.Lockstep step SameButHint (start config pcapFileCapture) events others) :
    Machine.run step (start config pcapFileCapture) events =
        Machine.run step (start config pcapFileCapture) others ∧
      Machine.trace step attributed (start config pcapFileCapture) events =
        Machine.trace step attributed (start config pcapFileCapture) others := by
  apply Machine.lockstep_agrees step SameButHint (fun state => Unmirrored state.connections)
    attributed
  · intro state event unmirrored
    exact tableStep_unmirrored _ _ (step_table state event) unmirrored
  · intro state event other unmirrored
    exact step_hint state event other unmirrored
  · exact List.Pairwise.nil
  · exact related

end Hints

section Example

open CaptureClient (idleConfig plainNdpi)

/-- A packet of the server in the connection of `firstPacket 40000`. -/
def answer : Arrival where
  hdr := ⟨10100, false, 1, none, none⟩
  parsed := some { tuple := ⟨CaptureClient.serverIp, CaptureClient.clientIp, 443, 40000, 4, IPPROTO_TCP⟩ }
  ndpi := plainNdpi

theorem answer_ignoresHint :
    Machine.run step (start idleConfig false) [firstPacket 40000, .packet answer] =
        Machine.run step (start idleConfig false) [firstPacket 40000, .packet (answer.hint true)] ∧
      Machine.trace step attributed (start idleConfig false) [firstPacket 40000, .packet answer] =
        Machine.trace step attributed (start idleConfig false)
          [firstPacket 40000, .packet (answer.hint true)] :=
  capture_ignoresHints idleConfig false _ _
    ⟨.same _, .hint answer true (by decide +kernel) (by decide +kernel), trivial⟩

end Example

end Ptnet.LibpcapCapture
