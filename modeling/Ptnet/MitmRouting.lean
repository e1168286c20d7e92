import Ptnet.MitmDelivery

/-!
Messages reach their connection exactly once in every run that is not disturbed: the
receiver keeps its caches consistent with the history and owes, besides the one message in
its hands, exactly what `Mailbox` says. A registration between lookup and parking strands
the message.
-/

namespace Ptnet.MitmDelivery

open MitmStream (MsgType)
open Mailbox (Happening)

variable {mSize : Nat}

theorem numbered_incrId (incrId : Nat) (localPorts : List Int) :
    (numbered incrId localPorts).map ConnectionDescriptor.incrId
      = List.range' incrId (numbered incrId localPorts).length := by
  induction localPorts generalizing incrId with
  | nil => rfl
  | cons localPort rest ih =>
      simp only [numbered, List.map_cons, List.length_cons, List.range'_succ, ih]

theorem numbered_length (incrId : Nat) (localPorts : List Int) :
    (numbered incrId localPorts).length = localPorts.length := by
  induction localPorts generalizing incrId with
  | nil => rfl
  | cons localPort rest ih => simp only [numbered, List.length_cons, ih]

theorem numbered_ordered (incrId : Nat) (localPorts : List Int) :
    (numbered incrId localPorts).Pairwise fun first last => first.incrId < last.incrId := by
  rw [← List.pairwise_map, numbered_incrId]
  exact List.pairwise_lt_range'

theorem numbered_bounds (incrId : Nat) (localPorts : List Int) (conn : ConnectionDescriptor)
    (member : conn ∈ numbered incrId localPorts) :
    incrId ≤ conn.incrId ∧ conn.incrId < incrId + localPorts.length := by
  have named := List.mem_map_of_mem (f := ConnectionDescriptor.incrId) member
  rw [numbered_incrId, List.mem_range'_1, numbered_length] at named
  exact named

def known (state : Receiver mSize) : List ConnectionDescriptor :=
  Mailbox.owners (fun _ => ()) () state.trace ++ state.announced.getD []

structure Tracks (state : Receiver mSize) : Prop where
  window : state.mReg.mItemsRing.contents = (known state).rtake mSize
  consecutive : ∃ first, first + state.mReg.mCurItems = state.newConnId ∧
    ConnectionsRegister.Consecutive ConnectionDescriptor.incrId state.mReg first
  ordered : (known state).Pairwise fun first last => first.incrId < last.incrId
  below : ∀ conn ∈ known state, conn.incrId < state.newConnId

theorem newConnections_tracks (state : Receiver mSize) (localPorts : List Int)
    (tracks : Tracks state) : Tracks (newConnections state localPorts) := by
  unfold newConnections
  cases idle : state.announced with
  | some conns => exact tracks
  | none =>
      obtain ⟨first, ending, consecutive⟩ := tracks.consecutive
      have same : known state = Mailbox.owners (fun _ => ()) () state.trace := by
        rw [known, idle, Option.getD_none, List.append_nil]
      have window := tracks.window
      have ordered := tracks.ordered
      have below := tracks.below
      rw [same] at window ordered below
      have kept : ∀ conn ∈ ConnectionsRegister.mostRecent mSize
          (numbered state.newConnId localPorts), conn ∈ numbered state.newConnId localPorts := by
        intro conn member
        rw [ConnectionsRegister.mostRecent_eq] at member
        exact List.mem_of_mem_drop member
      have larger := numbered_bounds state.newConnId localPorts
      constructor
      · change (state.mReg.newConnections _).1.mItemsRing.contents
          = (Mailbox.owners _ () state.trace ++ ConnectionsRegister.mostRecent mSize _).rtake mSize
        rw [ConnectionsRegister.newConnections_contents, window, RingBuffer.rtake_append_rtake,
          ConnectionsRegister.mostRecent_eq, RingBuffer.rtake_append_of_rtake]
      · have moved := ConnectionsRegister.newConnections_consecutive
          ConnectionDescriptor.incrId state.mReg (numbered state.newConnId localPorts) first
          consecutive (by rw [ending, numbered_incrId])
        refine ⟨_, ?_, moved⟩
        have counted := (state.mReg.newConnections
          (numbered state.newConnId localPorts)).1.mItemsRing.contents_length
        rw [ConnectionsRegister.newConnections_contents, List.rtake, List.length_drop,
          List.length_append, RingBuffer.contents_length, numbered_length] at counted
        have bounded := state.mReg.mItemsRing.count_le
        simp only [ConnectionsRegister.mCurItems, numbered_length] at *
        omega
      · refine List.pairwise_append.mpr ⟨ordered, ?_, ?_⟩
        · rw [Option.getD_some]
          change (ConnectionsRegister.mostRecent mSize _).Pairwise _
          rw [ConnectionsRegister.mostRecent_eq]
          exact (numbered_ordered state.newConnId localPorts).sublist (List.drop_sublist _ _)
        · intro old oldMember new newMember
          exact Nat.lt_of_lt_of_le (below old oldMember) (larger new (kept new newMember)).1
      · intro conn member
        rcases List.mem_append.mp member with old | new
        · exact Nat.lt_of_lt_of_le (below conn old) (Nat.le_add_right _ _)
        · exact (larger conn (kept conn new)).2

/-- What the receiver thread still has to hand over, and what it still has to park. -/
def InHand (trace : List (Happening ConnectionDescriptor Message)) :
    Receiving → List (ConnectionDescriptor × Message) → List Message → Prop
  | .idle, hit, missed => hit = [] ∧ missed = []
  | .lookedUp message connId, hit, missed => ∃ conn ∈ owners message.port trace,
      conn.incrId = connId ∧ hit = [(conn, message)] ∧ missed = []
  | .resolved message (some conn), hit, missed =>
      conn ∈ owners message.port trace ∧ hit = [(conn, message)] ∧ missed = []
  | .resolved message none, hit, missed => hit = [] ∧ missed = [message]

def hitsOn (port : Int) (hit : List (ConnectionDescriptor × Message)) :
    List (ConnectionDescriptor × Message) := hit.filter fun delivery => delivery.2.port = port

def missedOn (port : Int) (missed : List Message) : List Message :=
  missed.filter fun message => message.port = port

structure Routes (started : Nat) (state : Receiver mSize) : Prop where
  mapped : ∀ port id, state.mPortToConnId.peek port = some id →
    ∃ conn, (owners port state.trace).getLast? = some conn ∧ conn.incrId = id
  balanced : ∃ hit missed, InHand state.trace state.thread hit missed ∧ ∀ port,
    handledOn state port ++ hitsOn port hit = deliveries port state.trace ∧
      pendingOn state port ++ missedOn port missed = waiting port state.trace
  recent : ∀ port pp, state.mPendingMessages.lookup port = some pp →
    ∀ pending ∈ pp, started ≤ pending.pendingSince

/-- No message that missed its lookup waits to be parked for the port. -/
def NotMissed (thread : Receiving) (port : Int) : Prop :=
  ∀ message, thread = .resolved message none → port ≠ message.port

theorem owners_registered (port : Int) (trace : List (Happening ConnectionDescriptor Message))
    (conn : ConnectionDescriptor) : owners port (trace ++ [.registered conn])
      = owners port trace ++ if conn.localPort = port then [conn] else [] := by
  simp [owners, Mailbox.owners]

section Histories

variable (port : Int) (trace : List (Happening ConnectionDescriptor Message))

theorem deliveries_registered (conn : ConnectionDescriptor) :
    deliveries port (trace ++ [.registered conn]) = deliveries port trace
      ++ if conn.localPort = port then (waiting port trace).map fun message => (conn, message)
        else [] := Mailbox.deliveries_registered _ _ _ _ _

theorem waiting_registered (conn : ConnectionDescriptor) :
    waiting port (trace ++ [.registered conn])
      = if conn.localPort = port then [] else waiting port trace :=
  Mailbox.waiting_registered _ _ _ _ _

theorem deliveries_arrived (message : Message) :
    deliveries port (trace ++ [.arrived message]) = deliveries port trace
      ++ if message.port = port then
          (owners port trace).getLast?.toList.map fun conn => (conn, message)
        else [] := Mailbox.deliveries_arrived _ _ _ _ _

theorem waiting_arrived (message : Message) :
    waiting port (trace ++ [.arrived message]) = waiting port trace
      ++ if message.port = port ∧ owners port trace = [] then [message] else [] :=
  Mailbox.waiting_arrived _ _ _ _ _

end Histories

theorem inHand_mono (trace : List (Happening ConnectionDescriptor Message)) (thread : Receiving)
    (hit : List (ConnectionDescriptor × Message)) (missed : List Message)
    (happening : Happening ConnectionDescriptor Message)
    (carried : InHand trace thread hit missed) :
    InHand (trace ++ [happening]) thread hit missed := by
  have grows : ∀ port, ∀ conn ∈ owners port trace, conn ∈ owners port (trace ++ [happening]) := by
    intro port conn member
    rw [owners, Mailbox.owners_append]
    exact List.mem_append_left _ member
  cases thread with
  | idle => exact carried
  | lookedUp message connId =>
      obtain ⟨conn, member, rest⟩ := carried
      exact ⟨conn, grows message.port conn member, rest⟩
  | resolved message conn =>
      cases conn with
      | none => exact carried
      | some conn => exact ⟨grows message.port conn carried.1, carried.2⟩

/-- A message on its way to a connection has a port that is registered. -/
theorem hitsOn_unregistered (trace : List (Happening ConnectionDescriptor Message))
    (thread : Receiving) (hit : List (ConnectionDescriptor × Message)) (missed : List Message)
    (carried : InHand trace thread hit missed) (port : Int) (nobody : owners port trace = []) :
    hitsOn port hit = [] := by
  have differs : ∀ conn, ∀ message : Message, conn ∈ owners message.port trace →
      message.port ≠ port := by
    intro conn message member same
    rw [same, nobody] at member
    cases member
  cases thread with
  | idle =>
      rw [carried.1]
      rfl
  | lookedUp message connId =>
      obtain ⟨conn, member, -, rfl, -⟩ := carried
      simp [hitsOn, differs conn message member]
  | resolved message conn =>
      cases conn with
      | none =>
          rw [carried.1]
          rfl
      | some conn =>
          obtain ⟨member, rfl, -⟩ := carried
          simp [hitsOn, differs conn message member]

theorem missedOn_notMissed (trace : List (Happening ConnectionDescriptor Message))
    (thread : Receiving) (hit : List (ConnectionDescriptor × Message)) (missed : List Message)
    (carried : InHand trace thread hit missed) (port : Int) (free : NotMissed thread port) :
    missedOn port missed = [] := by
  cases thread with
  | idle =>
      rw [carried.2]
      rfl
  | lookedUp message connId =>
      obtain ⟨conn, -, -, -, rfl⟩ := carried
      rfl
  | resolved message conn =>
      cases conn with
      | some conn =>
          obtain ⟨-, -, rfl⟩ := carried
          rfl
      | none =>
          obtain ⟨-, rfl⟩ := carried
          have differs : message.port ≠ port := fun same => free message rfl same.symm
          simp [missedOn, differs]

section ConnectionAdded

variable (state : Receiver mSize) (conn : ConnectionDescriptor)

@[simp] theorem connectionAdded_thread : (connectionAdded state conn).thread = state.thread := by
  unfold connectionAdded
  split <;> rfl

@[simp] theorem connectionAdded_mReg : (connectionAdded state conn).mReg = state.mReg := by
  unfold connectionAdded
  split <;> rfl

@[simp] theorem connectionAdded_newConnId :
    (connectionAdded state conn).newConnId = state.newConnId := by
  unfold connectionAdded
  split <;> rfl

@[simp] theorem connectionAdded_trace :
    (connectionAdded state conn).trace = state.trace ++ [.registered conn] := by
  unfold connectionAdded
  split <;> rfl

@[simp] theorem connectionAdded_mPortToConnId : (connectionAdded state conn).mPortToConnId
    = state.mPortToConnId.put conn.localPort conn.incrId := by
  unfold connectionAdded
  split <;> rfl

theorem connectionAdded_pendingOn (port : Int) : pendingOn (connectionAdded state conn) port
    = if conn.localPort = port then [] else pendingOn state port := by
  unfold connectionAdded pendingOn
  cases found : state.mPendingMessages.lookup conn.localPort with
  | none =>
      by_cases same : conn.localPort = port
      · subst same
        simp [found]
      · simp [same]
  | some pp =>
      by_cases same : conn.localPort = port
      · subst same
        simp [AList.lookup_erase]
      · simp [same, AList.lookup_erase_ne (Ne.symm same)]

def Filed (state : Receiver mSize) : Prop :=
  ∀ port, ∀ message ∈ pendingOn state port, message.port = port

theorem connectionAdded_handledOn (filed : Filed state) (port : Int) :
    handledOn (connectionAdded state conn) port = handledOn state port
      ++ if conn.localPort = port then (pendingOn state port).map fun message => (conn, message)
        else [] := by
  have labelled := filed conn.localPort
  unfold connectionAdded handledOn
  unfold pendingOn at labelled ⊢
  cases found : state.mPendingMessages.lookup conn.localPort with
  | none =>
      by_cases same : conn.localPort = port
      · subst same
        simp [found]
      · simp [same]
  | some pp =>
      rw [found, Option.getD_some] at labelled
      rw [List.filter_append]
      congr 1
      by_cases same : conn.localPort = port
      · subst same
        rw [if_pos rfl, found, Option.getD_some, List.map_map, List.filter_eq_self.mpr]
        · rfl
        · intro delivery member
          obtain ⟨pending, waitingHere, rfl⟩ := List.mem_map.mp member
          exact decide_eq_true (labelled pending.message (List.mem_map_of_mem waitingHere))
      · rw [if_neg same, List.filter_eq_nil_iff]
        intro delivery member
        obtain ⟨pending, waitingHere, rfl⟩ := List.mem_map.mp member
        have here := labelled pending.message (List.mem_map_of_mem waitingHere)
        simpa [here] using same

end ConnectionAdded

theorem routes_filed (started : Nat) (state : Receiver mSize) (routes : Routes started state) :
    Filed state := by
  intro port message member
  obtain ⟨hit, missed, -, balanced⟩ := routes.balanced
  have waits : message ∈ waiting port state.trace := by
    rw [← (balanced port).2]
    exact List.mem_append_left _ member
  exact Mailbox.waiting_key ConnectionDescriptor.localPort Message.port port message _ waits

/-- A registration drains what waited for its port, behind everything handled before. -/
theorem connectionAdded_routes (started : Nat) (state : Receiver mSize)
    (conn : ConnectionDescriptor) (routes : Routes started state)
    (free : NotMissed state.thread conn.localPort) :
    Routes started (connectionAdded state conn) := by
  have filed := routes_filed started state routes
  constructor
  · intro port id found
    rw [connectionAdded_mPortToConnId] at found
    rw [connectionAdded_trace, owners_registered]
    by_cases same : conn.localPort = port
    · subst same
      rw [LruCache.peek_put_self _ _ _ (by omega)] at found
      exact ⟨conn, by simp, Option.some.inj found⟩
    · have before := LruCache.peek_put_other _ _ _ _ (Ne.symm same) _ found
      simpa [same] using routes.mapped port id before
  · obtain ⟨hit, missed, carried, balanced⟩ := routes.balanced
    refine ⟨hit, missed, ?_, ?_⟩
    · rw [connectionAdded_trace, connectionAdded_thread]
      exact inHand_mono _ _ _ _ _ carried
    · intro port
      obtain ⟨settled, parked⟩ := balanced port
      have nothingMissed : conn.localPort = port → missedOn port missed = [] := by
        rintro rfl
        exact missedOn_notMissed _ _ _ _ carried _ free
      rw [connectionAdded_trace, connectionAdded_handledOn state conn filed,
        connectionAdded_pendingOn, deliveries_registered, waiting_registered]
      by_cases same : conn.localPort = port
      · have empty := nothingMissed same
        rw [empty, List.append_nil] at parked
        simp only [if_pos same, empty, List.append_nil, and_true]
        rw [parked]
        by_cases nobody : owners port state.trace = []
        · -- the first connection on the port takes over what was parked
          rw [hitsOn_unregistered _ _ _ _ carried port nobody, List.append_nil] at settled ⊢
          rw [settled]
        · have none : waiting port state.trace = [] := if_neg nobody
          rw [none, List.map_nil, List.append_nil, settled, List.append_nil]
      · simp only [if_neg same, List.append_nil]
        exact ⟨settled, parked⟩
  · intro port pp found
    have kept : state.mPendingMessages.lookup port = some pp := by
      unfold connectionAdded at found
      split at found
      · exact found
      · by_cases same : port = conn.localPort
        · subst same
          simp [AList.lookup_erase] at found
        · simpa [AList.lookup_erase_ne same] using found
    exact routes.recent port pp kept

theorem connectionAdded_all (started : Nat) (conns : List ConnectionDescriptor)
    (state : Receiver mSize) (routes : Routes started state)
    (free : ∀ conn ∈ conns, NotMissed state.thread conn.localPort) :
    Routes started (conns.foldl connectionAdded state) := by
  induction conns generalizing state with
  | nil => exact routes
  | cons conn rest ih =>
      refine ih (connectionAdded state conn)
        (connectionAdded_routes started state conn routes (free conn List.mem_cons_self)) ?_
      intro other member
      rw [connectionAdded_thread]
      exact free other (List.mem_cons_of_mem conn member)

theorem connectionAdded_frame (conns : List ConnectionDescriptor) (state : Receiver mSize) :
    (conns.foldl connectionAdded state).mReg = state.mReg ∧
      (conns.foldl connectionAdded state).newConnId = state.newConnId ∧
      (conns.foldl connectionAdded state).trace = state.trace ++ conns.map .registered := by
  induction conns generalizing state with
  | nil => simp
  | cons conn rest ih => simpa using ih (connectionAdded state conn)

theorem owners_all (conns : List ConnectionDescriptor) :
    Mailbox.owners (fun _ => ()) ()
      (conns.map (.registered : _ → Happening ConnectionDescriptor Message)) = conns := by
  induction conns with
  | nil => rfl
  | cons conn rest ih => simp [Mailbox.owners, ih]

theorem connectionsAdded_tracks (state : Receiver mSize) (tracks : Tracks state) :
    Tracks (connectionsAdded state) := by
  unfold connectionsAdded
  cases idle : state.announced with
  | none => exact tracks
  | some conns =>
      obtain ⟨mReg, newConnId, trace⟩ := connectionAdded_frame conns state
      have same : known { conns.foldl connectionAdded state with announced := none }
          = known state := by
        simp only [known, trace, idle, Option.getD_some, Option.getD_none, List.append_nil]
        rw [Mailbox.owners_append, owners_all]
      constructor
      · rw [same]
        simpa [mReg] using tracks.window
      · simpa [mReg, newConnId] using tracks.consecutive
      · rw [same]
        exact tracks.ordered
      · rw [same]
        simpa [newConnId] using tracks.below

theorem connectionsAdded_routes (started : Nat) (state : Receiver mSize)
    (routes : Routes started state) (free : Undisturbed state .connectionsAdded) :
    Routes started (connectionsAdded state) := by
  unfold connectionsAdded
  cases announced : state.announced with
  | none => exact routes
  | some conns =>
      have unparked : ∀ conn ∈ conns, NotMissed state.thread conn.localPort := by
        intro conn member message missed
        have apart : conns.all fun conn => conn.localPort != message.port := by
          simpa [Undisturbed, undisturbed, announced, missed] using free
        simpa using List.all_eq_true.mp apart conn member
      obtain ⟨mapped, balanced, recent⟩ := connectionAdded_all started conns state routes unparked
      exact ⟨mapped, balanced, recent⟩

theorem receive_tracks (state : Receiver mSize) (message : Message) (tracks : Tracks state) :
    Tracks (receive state message) := by
  unfold receive
  split
  · have same : Mailbox.owners (fun _ : ConnectionDescriptor => ()) ()
        (state.trace ++ [.arrived message]) = Mailbox.owners (fun _ => ()) () state.trace := by
      rw [Mailbox.owners_append, Mailbox.owners, Mailbox.owners, List.append_nil]
    obtain ⟨window, consecutive, ordered, below⟩ := tracks
    rw [known, ← same] at window ordered below
    exact ⟨window, consecutive, ordered, below⟩
  · exact tracks

theorem receive_routes (started : Nat) (state : Receiver mSize) (message : Message)
    (routes : Routes started state) (admitted : Undisturbed state (.receive message)) :
    Routes started (receive state message) := by
  unfold receive
  split
  · rename_i ready
    have sameOwners : ∀ port, owners port (state.trace ++ [.arrived message])
        = owners port state.trace := by
      intro port
      simp [owners, Mailbox.owners]
    -- The thread has nothing in hand when it takes the next message.
    obtain ⟨hit, missed, carried, balanced⟩ := routes.balanced
    rw [ready.1] at carried
    obtain ⟨rfl, rfl⟩ := carried
    have lookup := LruCache.get_fst state.mPortToConnId message.port
    constructor
    · intro port id found
      rw [LruCache.peek_get] at found
      rw [sameOwners]
      exact routes.mapped port id found
    · dsimp only
      rw [lookup]
      cases found : state.mPortToConnId.peek message.port with
      | some id =>
          obtain ⟨conn, last, named⟩ := routes.mapped message.port id found
          have member : conn ∈ owners message.port state.trace := List.mem_of_getLast? last
          refine ⟨[(conn, message)], [], ⟨conn, ?_, named, rfl, rfl⟩, ?_⟩
          · rw [sameOwners]
            exact member
          · intro port
            obtain ⟨settled, parked⟩ := balanced port
            change handledOn state port ++ _ = _ ∧ pendingOn state port ++ _ = _
            rw [deliveries_arrived, waiting_arrived, ← settled, ← parked]
            by_cases same : message.port = port
            · subst same
              have some : owners message.port state.trace ≠ [] := List.ne_nil_of_mem member
              simp [hitsOn, missedOn, last, some]
            · simp [hitsOn, missedOn, same]
      | none =>
          have nobody : owners message.port state.trace = [] := by
            simpa [Undisturbed, undisturbed, found] using admitted
          refine ⟨[], [message], ⟨rfl, rfl⟩, ?_⟩
          intro port
          obtain ⟨settled, parked⟩ := balanced port
          change handledOn state port ++ _ = _ ∧ pendingOn state port ++ _ = _
          rw [deliveries_arrived, waiting_arrived, ← settled, ← parked]
          by_cases same : message.port = port
          · subst same
            simp [hitsOn, missedOn, nobody]
          · simp [hitsOn, missedOn, same]
    · exact routes.recent
  · exact routes

/-- A tracked identifier in the map leads back to the connection it was stored for. -/
theorem getConnById_finds (state : Receiver mSize) (tracks : Tracks state)
    (conn : ConnectionDescriptor) (member : conn ∈ known state)
    (tracked : (state.mReg.getConnPositionById ConnectionDescriptor.incrId conn.incrId).isSome) :
    state.mReg.getConnById ConnectionDescriptor.incrId conn.incrId = some conn := by
  obtain ⟨first, -, consecutive⟩ := tracks.consecutive
  obtain ⟨other, stored, found, same⟩ := ConnectionsRegister.getConnById_tracked
    ConnectionDescriptor.incrId state.mReg first consecutive conn.incrId tracked
  have otherKnown : other ∈ known state := by
    rw [tracks.window] at stored
    exact List.mem_of_mem_drop stored
  have distinct : ((known state).map ConnectionDescriptor.incrId).Nodup :=
    List.pairwise_map.mpr (tracks.ordered.imp Nat.ne_of_lt)
  rw [found, List.inj_on_of_nodup_map distinct otherKnown member same]

theorem getConnById_routes (started : Nat) (state : Receiver mSize) (tracks : Tracks state)
    (routes : Routes started state) (admitted : Undisturbed state .getConnById) :
    Routes started (getConnById state) := by
  unfold getConnById
  split
  · rename_i message connId lookedUp idle
    obtain ⟨hit, missed, carried, balanced⟩ := routes.balanced
    rw [lookedUp] at carried
    obtain ⟨conn, member, rfl, rfl, rfl⟩ := carried
    have registered := (Mailbox.mem_owners _ _ _ _).mp member
    have inKnown : conn ∈ known state :=
      List.mem_append_left _ ((Mailbox.mem_owners _ _ _ _).mpr ⟨registered.1, rfl⟩)
    have tracked : (state.mReg.getConnPositionById ConnectionDescriptor.incrId
        conn.incrId).isSome := by
      simpa [Undisturbed, undisturbed, lookedUp, idle] using admitted
    have found := getConnById_finds state tracks conn inKnown tracked
    rw [found, Option.filter_some, if_pos (decide_eq_true registered.2)]
    exact ⟨routes.mapped, ⟨_, _, ⟨member, rfl, rfl⟩, balanced⟩, routes.recent⟩
  · exact routes

/-- In the first five seconds nothing is old enough to be purged. -/
theorem purgePending_recent (started now : Nat)
    (pending : AList fun _ : Int => List PendingMessage) (early : now < started + 5000)
    (recent : ∀ port pp, pending.lookup port = some pp →
      ∀ message ∈ pp, started ≤ message.pendingSince) : purgePending now pending = pending := by
  have young : ∀ port pp, pending.lookup port = some pp → isOld now pp = false := by
    intro port pp found
    cases pp with
    | nil => rfl
    | cons first rest =>
        have since := recent port (first :: rest) found first List.mem_cons_self
        exact decide_eq_false (by omega)
  have unmoved : ∀ port, purgeOld now pending port = pending := by
    intro port
    unfold purgeOld
    cases found : pending.lookup port with
    | none => rfl
    | some pp => simp [young port pp found]
  have kept : ∀ ports : List Int, ports.foldl (purgeOld now) pending = pending := by
    intro ports
    induction ports with
    | nil => rfl
    | cons port rest ih => rw [List.foldl_cons, unmoved, ih]
  unfold purgePending
  split
  · exact kept _
  · rfl

theorem conclude_routes (started : Nat) (state : Receiver mSize) (pendingSince now : Nat)
    (routes : Routes started state) (later : started ≤ pendingSince)
    (early : now < started + 5000) : Routes started (conclude state pendingSince now) := by
  obtain ⟨hit, missed, carried, balanced⟩ := routes.balanced
  unfold conclude
  split
  · rename_i message conn resolved
    rw [resolved] at carried
    obtain ⟨member, rfl, rfl⟩ := carried
    refine ⟨routes.mapped, ⟨[], [], ⟨rfl, rfl⟩, ?_⟩, routes.recent⟩
    intro port
    obtain ⟨settled, parked⟩ := balanced port
    refine ⟨?_, parked⟩
    rw [← settled]
    simp only [handledOn, hitsOn, List.filter_append, List.filter_nil, List.append_nil]
  · rename_i message resolved
    rw [resolved] at carried
    obtain ⟨rfl, rfl⟩ := carried
    have unpurged := purgePending_recent started now state.mPendingMessages early routes.recent
    refine ⟨routes.mapped, ⟨[], [], ⟨rfl, rfl⟩, ?_⟩, ?_⟩
    · intro port
      obtain ⟨settled, parked⟩ := balanced port
      refine ⟨settled, ?_⟩
      change pendingOn (addPendingMessage state ⟨message, pendingSince⟩ now) port ++ _
        = waiting port state.trace
      rw [← parked]
      simp only [pendingOn, addPendingMessage, unpurged]
      by_cases same : message.port = port
      · subst same
        simp [missedOn]
      · simp [missedOn, same, AList.lookup_insert_ne (Ne.symm same)]
    · intro port pp found pending member
      simp only [addPendingMessage, unpurged] at found
      by_cases same : port = message.port
      · subst same
        rw [AList.lookup_insert, Option.some.injEq] at found
        subst found
        rcases List.mem_append.mp member with old | new
        · cases before : state.mPendingMessages.lookup message.port with
          | none => simp [before] at old
          | some pp => exact routes.recent message.port pp before pending (by simpa [before] using old)
        · rw [List.mem_singleton.mp new]
          exact later
      · rw [AList.lookup_insert_ne same] at found
        exact routes.recent port pp found pending member
  · exact ⟨routes.mapped, ⟨hit, missed, carried, balanced⟩, routes.recent⟩

theorem getConnById_tracks (state : Receiver mSize) (tracks : Tracks state) :
    Tracks (getConnById state) := by
  unfold getConnById
  split
  · exact ⟨tracks.window, tracks.consecutive, tracks.ordered, tracks.below⟩
  · exact tracks

theorem conclude_tracks (state : Receiver mSize) (pendingSince now : Nat)
    (tracks : Tracks state) : Tracks (conclude state pendingSince now) := by
  unfold conclude
  split
  · exact ⟨tracks.window, tracks.consecutive, tracks.ordered, tracks.below⟩
  · exact ⟨tracks.window, tracks.consecutive, tracks.ordered, tracks.below⟩
  · exact tracks

theorem newConnections_routes (started : Nat) (state : Receiver mSize) (localPorts : List Int)
    (routes : Routes started state) : Routes started (newConnections state localPorts) := by
  unfold newConnections
  split
  · exact routes
  · exact ⟨routes.mapped, routes.balanced, routes.recent⟩

theorem step_keeps (started : Nat) (state : Receiver mSize) (event : Event)
    (invariant : Tracks state ∧ Routes started state)
    (admitted : InTime started state event ∧ Undisturbed state event) :
    Tracks (step state event) ∧ Routes started (step state event) := by
  obtain ⟨tracks, routes⟩ := invariant
  obtain ⟨inTime, undisturbed⟩ := admitted
  cases event with
  | newConnections localPorts =>
      exact ⟨newConnections_tracks state localPorts tracks,
        newConnections_routes started state localPorts routes⟩
  | connectionsAdded =>
      exact ⟨connectionsAdded_tracks state tracks,
        connectionsAdded_routes started state routes undisturbed⟩
  | receive message =>
      exact ⟨receive_tracks state message tracks,
        receive_routes started state message routes undisturbed⟩
  | getConnById =>
      exact ⟨getConnById_tracks state tracks,
        getConnById_routes started state tracks routes undisturbed⟩
  | conclude pendingSince now =>
      obtain ⟨later, early⟩ := inTime
      exact ⟨conclude_tracks state pendingSince now tracks,
        conclude_routes started state pendingSince now routes later early⟩

theorem initial_tracks (positive : 0 < mSize) : Tracks (initial positive) := by
  have empty : (initial positive).mReg.mItemsRing.contents = [] :=
    RingBuffer.contents_empty _ positive
  constructor
  · rw [empty]
    exact (List.rtake_nil mSize).symm
  · refine ⟨0, rfl, ?_⟩
    rw [ConnectionsRegister.Consecutive, empty]
    rfl
  · exact List.Pairwise.nil
  · intro conn member
    cases member

theorem initial_routes (started : Nat) (positive : 0 < mSize) :
    Routes started (initial positive) := by
  constructor
  · intro port id found
    cases found
  · exact ⟨[], [], ⟨rfl, rfl⟩, fun port => ⟨rfl, rfl⟩⟩
  · intro port pp found
    simp [initial] at found

theorem routes_deliversOnce (started : Nat) (state : Receiver mSize)
    (routes : Routes started state) : DeliversOnce state := by
  obtain ⟨hit, missed, carried, balanced⟩ := routes.balanced
  have settled : state.thread = .idle → ∀ port,
      handledOn state port = deliveries port state.trace ∧
        pendingOn state port = waiting port state.trace := by
    intro idle port
    rw [idle] at carried
    obtain ⟨rfl, rfl⟩ := carried
    simpa [hitsOn, missedOn] using balanced port
  constructor
  · intro port
    exact ⟨hitsOn port hit, (balanced port).1⟩
  · exact settled
  · intro idle port
    rw [(settled idle port).1, (settled idle port).2]
    exact Mailbox.deliveries_arrivals _ _ _ _

/-- Exactly once and in order, as long as no registration of the port falls between a missed
    lookup and the parking and no entry is evicted while its port is still in use. -/
theorem undisturbed_deliversOnce (positive : 0 < mSize) (started : Nat) (events : List Event)
    (inTime : Machine.Along step (InTime started) (initial positive) events)
    (undisturbed : Machine.Along step Undisturbed (initial positive) events) :
    DeliversOnce (Machine.run step (initial positive) events) := by
  have admitted := Machine.along_and step (InTime started) Undisturbed _ events inTime undisturbed
  have invariant := Machine.run_invariant step _
    (fun state => Tracks state ∧ Routes started state) (step_keeps started) _ events admitted
    ⟨initial_tracks positive, initial_routes started positive⟩
  exact routes_deliversOnce started _ invariant.2

def smallRegister : Receiver 4 := initial (by decide)

/-- A request that arrives before its connection and a reply that arrives after it. -/
theorem earlyRequest_deliversOnce :
    DeliversOnce (Machine.run step smallRegister
      [.receive ⟨.HTTP_REQUEST, [71], 40000, 1⟩, .conclude 10 10, .newConnections [53, 40000],
        .connectionsAdded, .receive ⟨.HTTP_REPLY, [72], 40000, 2⟩, .getConnById,
        .conclude 20 20]) :=
  undisturbed_deliversOnce (show 0 < 4 by decide) 10 _ (by decide) (by decide)

/-- The connection is registered between the lookup and the parking of its message, which
    therefore stays pending. -/
theorem registeredBetween_strands :
    ¬ ∀ (started : Nat) (events : List Event),
      Machine.Along step (InTime started) smallRegister events →
      DeliversOnce (Machine.run step smallRegister events) := by
  intro claimed
  have settled := (claimed 0 [.receive ⟨.HTTP_REQUEST, [71], 40000, 1⟩, .newConnections [40000],
    .connectionsAdded, .conclude 0 0] (by decide)).settled (by decide) 40000
  exact absurd settled.1 (by decide)

end Ptnet.MitmDelivery
