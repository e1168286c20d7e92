import Ptnet.LibpcapCapture

/-!
The life of a record in a libpcap capture. Every step of the capture is a sequence of calls
of a capture module, so its ledger holds; between two steps a pending record has something
to send, which is why a purge never frees a queued record.
-/

namespace Ptnet.LibpcapCapture

open Connection Pcapdroid
open CaptureClient (Client Call Harmless Valid Reaches ownFields markToPurge without)
open Detection (Ndpi)

/-- Between two packets, and but for the records of `excepted`: a pending record has a bit set
    in `update_type`, and a connection that was given up is pending. -/
structure Calm (excepted : Set Ref) (client : Client) : Prop where
  dirty : ∀ ref, ref ∉ excepted → client.pd.alive ref →
    (client.pd.heap ref).pendingNotification = true → (client.pd.heap ref).updateType ≠ 0
  settled : ∀ slot ∈ client.closing, slot.data ∉ excepted →
    (client.pd.heap slot.data).pendingNotification = true

theorem progress_calm (excepted : Set Ref) (client : Client) (after : Pd)
    (progress : Progress client.pd after) (calm : Calm excepted client) :
    Calm excepted { client with pd := after } where
  dirty := by
    intro ref counted alive pending
    rcases progress.marked ref pending with old | loaded
    · exact progress.dirty ref (calm.dirty ref counted ((progress.alive ref).mp alive) old)
    · exact loaded
  settled slot closing counted := progress.pending _ (calm.settled slot closing counted)

theorem modify_calm (excepted : Set Ref) (client : Client) (ref : Ref)
    (change : PdConn → PdConn) (held : client.pd.alive ref) (calm : Calm excepted client)
    (pending : (change (client.pd.heap ref)).pendingNotification
      = (client.pd.heap ref).pendingNotification)
    (bits : (client.pd.heap ref).updateType ≠ 0 → (change (client.pd.heap ref)).updateType ≠ 0) :
    Calm excepted { client with pd := client.pd.modify ref change } := by
  constructor
  · intro other counted alive marked
    have before := ((modify_same client.pd ref change held).alive other).mp alive
    dsimp only at marked ⊢
    by_cases same : other = ref
    · subst same
      rw [Pd.modify_heap_self] at marked ⊢
      exact bits (calm.dirty other counted before (pending ▸ marked))
    · rw [Pd.modify_heap_other client.pd ref change other same] at marked ⊢
      exact calm.dirty other counted before marked
  · intro slot closing counted
    dsimp only
    by_cases same : slot.data = ref
    · subst same
      rw [Pd.modify_heap_self, pending]
      exact calm.settled slot closing counted
    · rw [Pd.modify_heap_other client.pd ref change _ same]
      exact calm.settled slot closing counted

theorem calm_fewer (fewer more : Set Ref) (client : Client) (calm : Calm fewer client)
    (subset : fewer ⊆ more) : Calm more client where
  dirty ref counted := calm.dirty ref fun member => counted (subset member)
  settled slot closing counted := calm.settled slot closing fun member => counted (subset member)

theorem pdAccountStats_notifies (ndpi : Ndpi) (pd : Pd) (pctx : PktContext) (ready : Ready pd)
    (held : pd.alive pctx.data) :
    ((pdAccountStats ndpi pd pctx).heap pctx.data).updateType ≠ 0 ∧
      ((pdAccountStats ndpi pd pctx).heap pctx.data).pendingNotification = true := by
  let counted : Pd := { pd.modify pctx.data
    (Detection.accountStats pctx.isTx pctx.pkt.len pctx.pkt.l7.length) with newStats := true }
  have first : Progress pd (pd.modify pctx.data
      (Detection.accountStats pctx.isTx pctx.pkt.len pctx.pkt.l7.length)) :=
    Progress.of_revised (modify_revised pd pctx.data _ held (accountStats_revised _ _ _ _))
  have second : Progress pd counted := first.trans
    (relist_progress _ _ ⟨⟨rfl, rfl, rfl, rfl, rfl, rfl, rfl, rfl, id⟩, rfl, rfl⟩ rfl)
  have loaded : (counted.heap pctx.data).updateType ≠ 0 := by
    change ((pd.modify pctx.data _).heap pctx.data).updateType ≠ 0
    rw [Pd.modify_heap_self]
    exact accountStats_dirty _ _ _ _
  have ready := second.ready ready
  have held := (second.alive pctx.data).mpr held
  obtain ⟨after, result, notified⟩ := notifConnection_spec ndpi counted .connsUpdates pctx.tuple
    pctx.data ready.packed held ready.growth
  have equal : pdAccountStats ndpi pd pctx = after := congrArg Prod.fst result
  rw [equal]
  exact ⟨notified.dirty pctx.data loaded, by rw [notified.pending]; simp⟩

/-- What `update_connection_status` leaves alone, and the mark it sets on a removal. -/
theorem recordStatus_marks (tuple : Tuple) (pkt : Pkt) (isTx : Bool) (data : PdConn) :
    (recordStatus tuple pkt isTx data).1.pendingNotification = data.pendingNotification ∧
      (recordStatus tuple pkt isTx data).1.incrId = data.incrId ∧
      (recordStatus tuple pkt isTx data).1.updateType = data.updateType ∧
      (recordStatus tuple pkt isTx data).1.toPurge
        = (data.toPurge || (recordStatus tuple pkt isTx data).2) := by
  unfold recordStatus
  split
  · simp
  · split
    · unfold updateTcpStatus
      dsimp only
      split
      · simp
      · split
        · split
          · simp
          · split <;> simp
        · split <;> simp
    · unfold updateUdpStatus
      dsimp only
      split
      · split
        · split <;> simp
        · split
          · split
            · split <;> simp
            · split <;> simp
          · split <;> simp
      · split <;> simp

structure Represents (state : Libpcap) (client : Client) : Prop where
  pd : client.pd = state.pd
  active : client.active = state.connections

theorem ownFields_eq (change : PdConn → PdConn) (data : PdConn)
    (pending : (change data).pendingNotification = data.pendingNotification)
    (toPurge : (change data).toPurge = data.toPurge) (incrId : (change data).incrId = data.incrId) :
    ownFields change data = change data := by
  unfold ownFields
  rw [← pending, ← toPurge, ← incrId]

theorem markToPurge_ownFields (change : PdConn → PdConn) (data : PdConn)
    (pending : (change data).pendingNotification = data.pendingNotification)
    (toPurge : (change data).toPurge = true) (incrId : (change data).incrId = data.incrId) :
    markToPurge (ownFields change data) = change data := by
  unfold markToPurge ownFields
  rw [← pending, ← toPurge, ← incrId]

theorem modify_modify (pd : Pd) (ref : Ref) (first last : PdConn → PdConn) (held : pd.alive ref) :
    (pd.modify ref first).modify ref last = pd.modify ref fun data => last (first data) := by
  have still : (pd.modify ref first).alive ref := ((modify_same pd ref first held).alive ref).mpr held
  rw [Pd.modify_alive _ ref last still, Pd.modify_alive pd ref first held,
    Pd.modify_alive pd ref _ held]
  dsimp only
  rw [Function.update_self, Function.update_idem]

theorem modify_congr (pd : Pd) (ref : Ref) (first last : PdConn → PdConn)
    (same : first (pd.heap ref) = last (pd.heap ref)) : pd.modify ref first = pd.modify ref last := by
  unfold Pd.modify
  rw [same]

section Calls

variable (client : Client) (slot : Slot) (member : slot ∈ client.held)

include member

theorem reaches_write (change : PdConn → PdConn)
    (pending : (change (client.pd.heap slot.data)).pendingNotification
      = (client.pd.heap slot.data).pendingNotification)
    (toPurge : (change (client.pd.heap slot.data)).toPurge = (client.pd.heap slot.data).toPurge)
    (incrId : (change (client.pd.heap slot.data)).incrId = (client.pd.heap slot.data).incrId) :
    Reaches client { client with pd := client.pd.modify slot.data change } := by
  refine Reaches.call client _ (.write slot change) trivial ?_
  refine (if_pos member).trans ?_
  rw [modify_congr client.pd slot.data (ownFields change) change
    (ownFields_eq change _ pending toPurge incrId)]

theorem reaches_processPacket (ndpi : Ndpi) (result : ChunkResult) (pctx : PktContext)
    (about : ⟨pctx.tuple, pctx.data⟩ = slot) :
    Reaches client { client with pd := pdProcessPacket ndpi result client.pd pctx } :=
  Reaches.call client _ (.processPacket ndpi result pctx) trivial (if_pos (about ▸ member))

theorem reaches_accountStats (ndpi : Ndpi) (pctx : PktContext)
    (about : ⟨pctx.tuple, pctx.data⟩ = slot) :
    Reaches client { client with pd := pdAccountStats ndpi client.pd pctx } :=
  Reaches.call client _ (.accountStats ndpi pctx) trivial (if_pos (about ▸ member))

theorem reaches_notify (ndpi : Ndpi) (dirty : (client.pd.heap slot.data).updateType ≠ 0) :
    Reaches client
      { client with pd := (pdNotifyConnectionUpdate ndpi client.pd slot.tuple slot.data).1 } :=
  Reaches.call client _ (.notify ndpi slot) trivial (if_pos ⟨member, dirty⟩)

theorem reaches_purge (idle : (client.pd.heap slot.data).pendingNotification = false) :
    Reaches client
      { pd := pdPurgeConnection client.pd slot.data
        active := without client.active slot.data
        closing := without client.closing slot.data } :=
  Reaches.call client _ (.purge slot) trivial (if_pos ⟨member, idle⟩)

end Calls

theorem reaches_retire (client : Client) (slot : Slot) (member : slot ∈ client.active)
    (held : client.pd.alive slot.data) (change : PdConn → PdConn)
    (pending : (change (client.pd.heap slot.data)).pendingNotification
      = (client.pd.heap slot.data).pendingNotification)
    (toPurge : (change (client.pd.heap slot.data)).toPurge = true)
    (incrId : (change (client.pd.heap slot.data)).incrId = (client.pd.heap slot.data).incrId) :
    Reaches client
      { pd := client.pd.modify slot.data change
        active := without client.active slot.data
        closing := client.closing ++ [slot] } := by
  have written : Reaches client
      { client with pd := client.pd.modify slot.data (ownFields change) } :=
    Reaches.call client _ (.write slot change) trivial (if_pos (List.mem_append_left _ member))
  refine written.trans (Reaches.call _ _ (.retire slot) trivial ?_)
  refine (if_pos member).trans ?_
  dsimp only
  rw [modify_modify client.pd slot.data _ _ held, modify_congr client.pd slot.data _ change
    (markToPurge_ownFields change _ pending toPurge incrId)]

theorem updateConnectionStatus_follows (state : Libpcap) (conn : Slot) (pkt : Pkt) (isTx : Bool)
    (client : Client) (valid : Valid client) (represents : Represents state client)
    (member : conn ∈ client.active) (calm : Calm {conn.data} client) :
    ∃ next, Reaches client next ∧
      Represents (updateConnectionStatus state conn pkt isTx) next ∧ conn ∈ next.held ∧
      Calm {conn.data} next := by
  have inHeld := List.mem_append_left client.closing member
  have alive := CaptureClient.held_alive client valid conn inHeld
  obtain ⟨pending, incrId, updateType, toPurge⟩ :=
    recordStatus_marks conn.tuple pkt isTx (client.pd.heap conn.data)
  let change : PdConn → PdConn := fun _ =>
    (recordStatus conn.tuple pkt isTx (client.pd.heap conn.data)).1
  have written := modify_calm {conn.data} client conn.data change alive calm pending
    (fun loaded => updateType ▸ loaded)
  have idle := valid.idle conn member
  unfold updateConnectionStatus
  rw [← represents.pd, ← represents.active, Pd.access_alive _ _ alive]
  dsimp only
  split
  · rename_i removed
    refine ⟨_, reaches_retire client conn member alive change pending ?_ incrId, ⟨rfl, rfl⟩, ?_,
      written.dirty, ?_⟩
    · exact toPurge.trans (by rw [removed, Bool.or_true])
    · exact List.mem_append_right _ (List.mem_append_right _ (List.mem_singleton.mpr rfl))
    · intro slot closing counted
      rcases List.mem_append.mp closing with before | this
      · exact written.settled slot before counted
      · rw [List.mem_singleton.mp this] at counted
        exact absurd rfl counted
  · rename_i stays
    refine ⟨_, reaches_write client conn inHeld change pending ?_ incrId, ⟨rfl, rfl⟩, inHeld,
      written⟩
    exact toPurge.trans (by rw [Bool.not_eq_true] at stays; rw [stays, Bool.or_false])

/-- The accounting of the packet makes up for the connection it belongs to. -/
theorem handleConnection_follows (arrival : Arrival) (pkt : Pkt) (isTx : Bool) (state : Libpcap)
    (conn : Slot) (client : Client) (valid : Valid client) (represents : Represents state client)
    (member : conn ∈ client.active) (calm : Calm {conn.data} client) :
    ∃ next, Reaches client next ∧
      Represents (handleConnection arrival pkt isTx state conn) next ∧ Calm ∅ next := by
  have inHeld := List.mem_append_left client.closing member
  have alive := CaptureClient.held_alive client valid conn inHeld
  let pinfo : PktContext := ⟨pkt, arrival.hdr.ms, isTx, conn.tuple, conn.data⟩
  let stamp : PdConn → PdConn := fun data => { data with lastUpdateMs := state.pd.nowMs }
  let stamped : Client := { client with pd := client.pd.modify conn.data stamp }
  have first : Reaches client stamped := reaches_write client conn inHeld stamp rfl rfl rfl
  have stampedCalm : Calm {conn.data} stamped :=
    modify_calm _ client conn.data stamp alive calm rfl id
  have stampedAlive := CaptureClient.held_alive stamped (first.valid valid) conn inHeld
  let processed : Client :=
    { stamped with pd := pdProcessPacket arrival.ndpi arrival.payload stamped.pd pinfo }
  -- Only this record may be queued with no change to report, until it is accounted.
  have second : Reaches client processed := first.trans
    (reaches_processPacket stamped conn inHeld arrival.ndpi arrival.payload pinfo rfl)
  have inspected := pdProcessPacket_progress arrival.ndpi arrival.payload stamped.pd pinfo
    (CaptureClient.valid_ready stamped (first.valid valid)) stampedAlive
  obtain ⟨updated, third, same, stillHeld, updatedCalm⟩ := updateConnectionStatus_follows
    { state with pd := processed.pd } conn pkt isTx processed (second.valid valid)
    ⟨rfl, represents.active⟩ member (progress_calm _ stamped _ inspected stampedCalm)
  have updatedValid := (second.trans third).valid valid
  have ready := CaptureClient.valid_ready updated updatedValid
  have updatedAlive := CaptureClient.held_alive updated updatedValid conn stillHeld
  have accounted := pdAccountStats_progress arrival.ndpi updated.pd pinfo ready updatedAlive
  have loaded := pdAccountStats_notifies arrival.ndpi updated.pd pinfo ready updatedAlive
  have lastCalm := progress_calm _ updated _ accounted updatedCalm
  have shape : handleConnection arrival pkt isTx state conn
      = { updateConnectionStatus { state with pd := processed.pd } conn pkt isTx with
          pd := pdAccountStats arrival.ndpi updated.pd pinfo } := by
    unfold handleConnection
    dsimp only
    rw [same.pd]
    simp only [processed, stamped, stamp, pinfo, represents.pd]
  rw [shape]
  refine ⟨{ updated with pd := pdAccountStats arrival.ndpi updated.pd pinfo },
    (second.trans third).trans (reaches_accountStats updated conn stillHeld arrival.ndpi pinfo rfl),
    ⟨rfl, same.active⟩, ?_, ?_⟩
  · intro ref _ alive pending
    by_cases this : ref = conn.data
    · subst this
      exact loaded.1
    · exact lastCalm.dirty ref this alive pending
  · intro slot closing _
    by_cases this : slot.data = conn.data
    · dsimp only
      rw [this]
      exact loaded.2
    · exact lastCalm.settled slot closing this

theorem findConnection_mem (connections : List Slot) (tuple : Tuple) (conn : Slot)
    (found : findConnection connections tuple = some conn) : conn ∈ connections :=
  List.mem_of_find?_eq_some found

/-- What the client must provide for a step of the capture to be a run of it. -/
structure Serves (config : Pd) (state : Libpcap) (client : Client) : Prop where
  reached : Reaches (CaptureClient.start config) client
  represents : Represents state client
  calm : Calm ∅ client

theorem Serves.valid {config : Pd} {state : Libpcap} {client : Client}
    (serves : Serves config state client) : Valid client :=
  serves.reached.valid (CaptureClient.start_valid config)

theorem handleKnown_serves (config : Pd) (state : Libpcap) (client : Client)
    (serves : Serves config state client) (arrival : Arrival) (pkt : Pkt) (isTx : Bool)
    (conn : Slot) (member : conn ∈ state.connections) :
    ∃ next, Serves config (handleConnection arrival pkt isTx state conn) next := by
  rw [← serves.represents.active] at member
  obtain ⟨next, reaches, represents, calm⟩ := handleConnection_follows arrival pkt isTx state conn
    client serves.valid serves.represents member
    (calm_fewer ∅ _ client serves.calm (Set.empty_subset _))
  exact ⟨next, serves.reached.trans reaches, represents, calm⟩

theorem opened_calm (client : Client) (calm : Calm ∅ client) (after : Pd)
    (tuple : Tuple) (ref : Ref) (opened : Opened client.pd after tuple ref) :
    Calm {ref} { client with pd := after, active := client.active ++ [⟨tuple, ref⟩] } := by
  constructor
  · rintro other differs ⟨born, unpurged⟩ pending
    have revised := opened.others other differs
    rw [opened.created] at born
    rw [opened.purged] at unpurged
    have earlier : other < client.pd.created := by
      refine lt_of_le_of_ne (Nat.lt_succ_iff.mp born) ?_
      rw [← opened.named]
      exact differs
    have marked : (client.pd.heap other).pendingNotification = true :=
      revised.pending.symm.trans pending
    exact revised.dirty (calm.dirty other (Set.notMem_empty _) ⟨earlier, unpurged⟩ marked)
  · intro slot closing differs
    exact (opened.others slot.data differs).pending.trans
      (calm.settled slot closing (Set.notMem_empty _))

theorem refused_calm (client : Client) (valid : Valid client) (calm : Calm ∅ client) (after : Pd)
    (refused : Refused client.pd after) : Calm ∅ { client with pd := after } := by
  rcases refused with rfl | rfl
  · exact calm
  · have born := (allocateConn_alive client.pd _ valid.ledger client.pd.created).mpr (Or.inr rfl)
    rw [pdPurgeConnection_alive _ _ born]
    have heap : ∀ ref, ref ≠ client.pd.created →
        (allocateConn client.pd).heap ref = client.pd.heap ref :=
      fun ref differs => Function.update_of_ne differs ..
    constructor
    · rintro ref counted ⟨earlier, unpurged⟩ pending
      have differs : ref ≠ client.pd.created := by
        rintro rfl
        simp at unpurged
      have same : Function.update (allocateConn client.pd).purged client.pd.created 1 ref
          = client.pd.purged ref := Function.update_of_ne differs ..
      dsimp only at pending ⊢
      rw [heap ref differs] at pending ⊢
      refine calm.dirty ref counted ⟨?_, same.symm.trans unpurged⟩ pending
      exact lt_of_le_of_ne (Nat.lt_succ_iff.mp earlier) differs
    · intro slot closing counted
      have alive := CaptureClient.held_alive client valid slot (List.mem_append_right _ closing)
      dsimp only
      rw [heap slot.data (Nat.ne_of_lt alive.1)]
      exact calm.settled slot closing counted

theorem openConnection_serves (config : Pd) (state : Libpcap) (client : Client)
    (serves : Serves config state client) (arrival : Arrival) (pkt : Pkt) :
    ∃ next, Serves config (openConnection arrival pkt state).1 next := by
  have valid := serves.valid
  have same := serves.represents
  let uid := packetUid state arrival.hdr
  unfold openConnection
  split
  · exact ⟨client, serves⟩
  · rw [← same.pd]
    rcases pdNewConnection_spec arrival.ndpi arrival.env client.pd pkt.tuple uid _ valid.ledger
      valid.growth with ⟨after, ref, result, opened⟩ | ⟨after, result, refused⟩
    · let conn : Slot := ⟨pkt.tuple, ref⟩
      let grown : Client := { client with pd := after, active := client.active ++ [conn] }
      have first : Reaches client grown := Reaches.call client grown
        (.newConnection arrival.ndpi arrival.env pkt.tuple uid) trivial
        (CaptureClient.step_opened client _ _ _ _ after ref result)
      have grownValid := first.valid valid
      have member : conn ∈ grown.active := List.mem_append_right _ List.mem_cons_self
      have inHeld := List.mem_append_left grown.closing member
      let describe := describeConn after.tlsEnabled arrival.hdr.ifidx pkt.tuple
      have second := first.trans (reaches_write grown conn inHeld describe rfl rfl rfl)
      have grownCalm : Calm {ref} grown := opened_calm client serves.calm after pkt.tuple ref opened
      have described := modify_calm {ref} grown ref describe
        (CaptureClient.held_alive grown grownValid conn inHeld) grownCalm rfl id
      obtain ⟨next, third, represents, calm⟩ := handleConnection_follows arrival pkt
        arrival.hdr.isTx
        { state with
          pd := after.modify ref describe
          connections := state.connections ++ [conn] } conn _ (second.valid valid)
        ⟨rfl, congrArg (fun slots => slots ++ [conn]) same.active⟩ member described
      rw [result]
      exact ⟨next, (serves.reached.trans second).trans third, represents, calm⟩
    · have first : Reaches client { client with pd := after } := Reaches.call client _
        (.newConnection arrival.ndpi arrival.env pkt.tuple uid) trivial
        (CaptureClient.step_refused client _ _ _ _ after result)
      rw [result]
      exact ⟨_, serves.reached.trans first, ⟨rfl, same.active⟩,
        refused_calm client valid serves.calm after refused⟩

theorem handlePacket_serves (config : Pd) (state : Libpcap) (client : Client)
    (serves : Serves config state client) (arrival : Arrival) :
    ∃ next, Serves config (handlePacket arrival state).1 next := by
  unfold handlePacket
  split
  · exact ⟨client, serves⟩
  · split
    · exact ⟨client, serves⟩
    · dsimp only
      split
      · exact handleKnown_serves config state client serves arrival _ _ _
          (findConnection_mem _ _ _ ‹_›)
      · split
        · exact handleKnown_serves config state client serves arrival _ _ _
            (findConnection_mem _ _ _ ‹_›)
        · exact openConnection_serves config state client serves arrival _

theorem expireConn_marks (data : PdConn) :
    (expireConn data).pendingNotification = data.pendingNotification ∧
      (expireConn data).toPurge = true ∧ (expireConn data).incrId = data.incrId ∧
      (data.updateType ≠ 0 → (expireConn data).updateType ≠ 0) := by
  unfold expireConn
  split
  · exact ⟨rfl, rfl, rfl, id⟩
  · exact ⟨rfl, rfl, rfl, fun _ => touch_dirty _ _ (by decide)⟩

theorem without_twice (slots : List Slot) (ref : Ref) :
    without (without slots ref) ref = without slots ref := by
  simp [without, List.filter_filter]

theorem mem_without_other (slots : List Slot) (conn other : Slot) (listed : other ∈ slots)
    (differs : other.data ≠ conn.data) : other ∈ without slots conn.data :=
  (CaptureClient.mem_without slots conn.data other).mpr ⟨listed, differs⟩

/-- A purge frees the record at once only if it is not queued. -/
theorem purgeConnection_serves (config : Pd) (ndpi : Ref → Ndpi) (purgeAll : Bool)
    (state : Libpcap) (client : Client) (serves : Serves config state client) (conn : Slot)
    (member : conn ∈ client.active) :
    ∃ next, Serves config (purgeConnection ndpi purgeAll state conn) next ∧
      (∀ other ∈ client.active, other.data ≠ conn.data → other ∈ next.active) ∧
      ∀ other ∈ next.active, other ∈ client.active ∧ (purgeAll → other.data ≠ conn.data) := by
  have valid := serves.valid
  have same := serves.represents
  have alive := CaptureClient.held_alive client valid conn (List.mem_append_left _ member)
  obtain ⟨pending, toPurge, incrId, bits⟩ := expireConn_marks (client.pd.heap conn.data)
  unfold purgeConnection
  rw [← same.pd, ← same.active, Pd.access_alive _ _ alive]
  dsimp only
  split
  · let expired := client.pd.modify conn.data expireConn
    let retired : Client :=
      { pd := expired
        active := without client.active conn.data
        closing := client.closing ++ [conn] }
    have first : Reaches client retired :=
      reaches_retire client conn member alive expireConn pending toPurge incrId
    have retiredValid := first.valid valid
    have inHeld : conn ∈ retired.held :=
      List.mem_append_right _ (List.mem_append_right _ (List.mem_singleton.mpr rfl))
    have stillAlive := CaptureClient.held_alive retired retiredValid conn inHeld
    have written : Calm {conn.data} { client with pd := expired } :=
      modify_calm _ client conn.data expireConn alive
        (calm_fewer ∅ _ client serves.calm (Set.empty_subset _)) pending bits
    have retiredDirty : ∀ ref, expired.alive ref →
        (expired.heap ref).pendingNotification = true → (expired.heap ref).updateType ≠ 0 :=
      fun ref => (modify_calm ∅ client conn.data expireConn alive serves.calm pending bits).dirty
        ref (Set.notMem_empty _)
    have survivors : ∀ other ∈ without client.active conn.data,
        other ∈ client.active ∧ (purgeAll → other.data ≠ conn.data) := by
      intro other listed
      obtain ⟨before, differs⟩ := (CaptureClient.mem_without _ _ _).mp listed
      exact ⟨before, fun _ => differs⟩
    -- A record with no change left to report is freed here, any other waits for its dump.
    by_cases clean : (expired.heap conn.data).updateType = 0
    -- A queued record carries a change: this one is in neither array.
    · have idle : (expired.heap conn.data).pendingNotification = false := by
        by_contra marked
        exact retiredDirty conn.data stillAlive (by simpa using marked) clean
      have freed := first.trans (reaches_purge retired conn inHeld idle)
      rw [if_pos clean]
      refine ⟨_, ⟨serves.reached.trans freed, ⟨rfl, without_twice _ _⟩, ?_, ?_⟩, ?_, ?_⟩
      · rw [pdPurgeConnection_alive _ _ stillAlive]
        rintro ref - ⟨born, unpurged⟩ marked
        refine retiredDirty ref ⟨born, ?_⟩ marked
        by_cases this : ref = conn.data
        · subst this
          simp at unpurged
        · exact (Function.update_of_ne this ..).symm.trans unpurged
      · intro slot closing _
        obtain ⟨listed, differs⟩ := (CaptureClient.mem_without _ _ _).mp closing
        rw [pdPurgeConnection_alive _ _ stillAlive]
        rcases List.mem_append.mp listed with before | this
        · exact written.settled slot before differs
        · exact absurd (congrArg Slot.data (List.mem_singleton.mp this)) differs
      · intro other listed differs
        exact mem_without_other _ conn other (mem_without_other _ conn other listed differs) differs
      · intro other listed
        rw [without_twice] at listed
        exact survivors other listed
    · have ready := CaptureClient.valid_ready retired retiredValid
      obtain ⟨after, result, notified⟩ := notifConnection_spec (ndpi conn.data) expired
        .connsUpdates conn.tuple conn.data ready.packed stillAlive ready.growth
      have queued := first.trans (reaches_notify retired conn inHeld (ndpi conn.data) clean)
      have progress := notify_progress (ndpi conn.data) expired conn.tuple conn.data ready
        stillAlive clean
      rw [pdNotifyConnectionUpdate, result] at queued progress
      rw [if_neg clean, pdNotifyConnectionUpdate, result]
      refine ⟨_, ⟨serves.reached.trans queued, ⟨rfl, rfl⟩, ?_, ?_⟩, ?_, survivors⟩
      · intro ref _ held marked
        rcases progress.marked ref marked with old | loaded
        · exact progress.dirty ref (retiredDirty ref ((progress.alive ref).mp held) old)
        · exact loaded
      · intro slot closing _
        rcases List.mem_append.mp closing with before | this
        · by_cases same : slot.data = conn.data
          · dsimp only
            rw [same, notified.pending]
            simp
          · exact progress.pending _ (written.settled slot before same)
        · dsimp only
          rw [List.mem_singleton.mp this, notified.pending]
          simp
      · intro other listed differs
        exact mem_without_other _ conn other listed differs
  · rename_i fresh
    -- Not due: nothing is touched, which cannot be the purge of the stop.
    refine ⟨client, ⟨serves.reached, ⟨rfl, rfl⟩, serves.calm⟩, fun other listed _ => listed, ?_⟩
    intro other listed
    refine ⟨listed, fun all => ?_⟩
    rw [all, Bool.true_or] at fresh
    exact absurd rfl fresh

theorem purge_serves (config : Pd) (ndpi : Ref → Ndpi) (purgeAll : Bool) (remaining : List Slot)
    (state : Libpcap) (client : Client) (serves : Serves config state client)
    (listed : ∀ conn ∈ remaining, conn ∈ client.active)
    (apart : (remaining.map Slot.data).Nodup) :
    ∃ next, Serves config (remaining.foldl (purgeConnection ndpi purgeAll) state) next ∧
      ∀ other ∈ next.active, other ∈ client.active ∧ (purgeAll → other ∉ remaining) := by
  induction remaining generalizing state client with
  | nil => exact ⟨client, serves, fun other active => ⟨active, fun _ => List.not_mem_nil⟩⟩
  | cons conn rest ih =>
      obtain ⟨fresh, later⟩ := List.nodup_cons.mp apart
      obtain ⟨between, first, stays, left⟩ := purgeConnection_serves config ndpi purgeAll state
        client serves conn (listed conn List.mem_cons_self)
      have still : ∀ other ∈ rest, other ∈ between.active := by
        intro other member
        refine stays other (listed other (List.mem_cons_of_mem conn member)) ?_
        intro same
        exact fresh (same ▸ List.mem_map_of_mem member)
      obtain ⟨next, last, gone⟩ := ih _ between first still later
      refine ⟨next, last, ?_⟩
      intro other active
      obtain ⟨before, unlisted⟩ := gone other active
      refine ⟨(left other before).1, fun all member => ?_⟩
      rcases List.mem_cons.mp member with rfl | member
      · exact (left other before).2 all rfl
      · exact unlisted all member

/-- The callback of the connections dump delivers every record. -/
def Delivers (state : Libpcap) : Event → Prop
  | .housekeeping pass => dumpsConnections state.pd = true → succeeds pass.jni state.pd = true
  | _ => True

/-- No growth of a notification array fails. -/
def Grants (_ : Libpcap) : Event → Prop
  | .allocator reallocs => ∀ answer ∈ reallocs, answer = true
  | _ => True

instance (state : Libpcap) (event : Event) : Decidable (Delivers state event) :=
  match event with
  | .housekeeping pass =>
      inferInstanceAs (Decidable (dumpsConnections state.pd = true →
        succeeds pass.jni state.pd = true))
  | .refreshTime _ | .allocator _ | .request _ | .packet _ | .purgeIfDue _ => isTrue trivial

instance (state : Libpcap) (event : Event) : Decidable (Grants state event) :=
  match event with
  | .allocator reallocs => inferInstanceAs (Decidable (∀ answer ∈ reallocs, answer = true))
  | .refreshTime _ | .request _ | .packet _ | .housekeeping _ | .purgeIfDue _ => isTrue trivial

theorem housekeeping_calm (client : Client) (valid : Valid client) (calm : Calm ∅ client)
    (pass : Pass) (delivers : dumpsConnections client.pd = true →
      succeeds pass.jni client.pd = true) :
    Calm ∅ (client.step (.housekeeping pass)) := by
  obtain ⟨middle, revised, task⟩ := CaptureClient.housekeeping_effect client valid pass
  have between : ∀ ref, middle.alive ref → (middle.heap ref).pendingNotification = true →
      (middle.heap ref).updateType ≠ 0 := by
    intro ref alive pending
    rcases task with ⟨dumps, after⟩ | ⟨-, progress⟩
    · rw [after.pending, clearedBy_succeeds _ _ (delivers dumps)] at pending
      split at pending
      · cases pending
      · rename_i unqueued
        have before : client.pd.alive ref := by
          obtain ⟨born, unpurged⟩ := alive
          rw [after.purged, freed, if_neg (fun freed => unqueued freed.1)] at unpurged
          exact ⟨after.created ▸ born, unpurged⟩
        exact absurd ((valid.ledger.pending ref before).mp pending) unqueued
    · exact (progress_calm ∅ client middle progress calm).dirty ref (Set.notMem_empty _) alive
        pending
  constructor
  · intro ref _ alive pending
    rcases revised.marked ref pending with old | loaded
    · exact revised.dirty ref (between ref ((revised.alive ref).mp alive) old)
    · exact loaded
  · intro slot closing _
    obtain ⟨before, idle⟩ := List.mem_filter.mp closing
    rw [calm.settled slot before (Set.notMem_empty _)] at idle
    cases idle

theorem step_serves (config : Pd) (state : Libpcap) (event : Event)
    (invariant : ∃ client, Serves config state client)
    (admitted : Delivers state event ∧ Grants state event) :
    ∃ client, Serves config (step state event) client := by
  obtain ⟨client, serves⟩ := invariant
  obtain ⟨reached, same, calm⟩ := serves
  have pd := same.pd
  cases event with
  | refreshTime nowMs =>
      refine ⟨client.step (.refreshTime nowMs),
        reached.trans (.call _ _ (.refreshTime nowMs) trivial rfl), ⟨?_, ?_⟩, calm.dirty,
        calm.settled⟩
      · exact congrArg (fun pd : Pd => { pd with nowMs := nowMs }) pd
      · exact same.active
  | allocator reallocs =>
      refine ⟨client.step (.allocator reallocs),
        reached.trans (.call _ _ (.allocator reallocs) admitted.2 rfl), ⟨?_, ?_⟩, calm.dirty,
        calm.settled⟩
      · exact congrArg (fun pd : Pd => { pd with reallocs := reallocs }) pd
      · exact same.active
  | request wanted =>
      refine ⟨client.step (.request wanted),
        reached.trans (.call _ _ (.request wanted) trivial rfl), ⟨?_, ?_⟩, calm.dirty,
        calm.settled⟩
      · exact congrArg wanted.apply pd
      · exact same.active
  | packet arrival => exact handlePacket_serves config state client ⟨reached, same, calm⟩ arrival
  | housekeeping pass =>
      have valid := reached.valid (CaptureClient.start_valid config)
      have delivers := admitted.1
      unfold Delivers at delivers
      dsimp only at delivers
      rw [← pd] at delivers
      refine ⟨client.step (.housekeeping pass), reached.trans (.call _ _ (.housekeeping pass)
        (fun dumps => Or.inl (delivers dumps)) rfl), ⟨?_, ?_⟩,
        housekeeping_calm client valid calm pass delivers⟩
      · change pdHousekeeping pass client.active client.pd
          = pdHousekeeping pass state.connections state.pd
        rw [pd, same.active]
      · exact same.active
  -- A purge makes a retreat and a notification, or a release, of every connection that is due.
  | purgeIfDue ndpi =>
      unfold step
      dsimp only
      split
      · have apart := ((reached.valid (CaptureClient.start_valid config)).apart).sublist
          (List.Sublist.map _ (List.sublist_append_left client.active client.closing))
        rw [same.active] at apart
        obtain ⟨next, purged, -⟩ := purge_serves config ndpi false state.connections state client
          ⟨reached, same, calm⟩ (fun conn member => by rw [same.active]; exact member) apart
        exact ⟨next, purged.reached, ⟨purged.represents.pd, purged.represents.active⟩, purged.calm⟩
      · exact ⟨client, reached, same, calm⟩

theorem run_serves (config : Pd) (pcapFileCapture : Bool) (events : List Event)
    (delivered : Machine.Along step Delivers (start config pcapFileCapture) events)
    (granted : Machine.Along step Grants (start config pcapFileCapture) events) :
    ∃ client, Serves config (Machine.run step (start config pcapFileCapture) events) client := by
  refine Machine.run_invariant step _ (fun state => ∃ client, Serves config state client)
    (fun state event => step_serves config state event) _ events
    (Machine.along_and step Delivers Grants _ events delivered granted) ?_
  exact ⟨CaptureClient.start config, Reaches.refl _, ⟨rfl, rfl⟩,
    fun ref _ alive => absurd alive.1 (Nat.not_lt_zero _),
    fun slot closing => absurd closing List.not_mem_nil⟩

/-- The records between two steps: none is freed twice, the reachable ones are alive, the
    arrays hold exactly the pending ones, each of them once. -/
structure Sound (state : Libpcap) : Prop where
  once : ∀ ref, state.pd.purged ref ≤ 1
  alive : ∀ slot ∈ state.pd.newConns.slots ++ state.pd.connsUpdates.slots ++ state.connections,
    state.pd.alive slot.data
  distinct : (state.pd.newConns.refs ++ state.pd.connsUpdates.refs).Nodup
  pending : ∀ ref, state.pd.alive ref → ((state.pd.heap ref).pendingNotification = true ↔
    ref ∈ state.pd.newConns.refs ++ state.pd.connsUpdates.refs)

theorem serves_sound (config : Pd) (state : Libpcap) (client : Client)
    (serves : Serves config state client) : Sound state := by
  have ledger := serves.valid.ledger
  rw [serves.represents.pd] at ledger
  refine ⟨ledger.once, ?_, ledger.distinct, ledger.pending⟩
  intro slot member
  rcases List.mem_append.mp member with queued | kept
  · refine ledger.queuedAlive slot.data ?_
    have both := List.mem_map_of_mem queued (f := Slot.data)
    rwa [List.map_append] at both
  · refine ledger.keptAlive slot.data ⟨slot, List.mem_append_left _ ?_, rfl⟩
    rw [serves.represents.active]
    exact kept

/-- After the last dump every record that was created has been freed, once. -/
theorem finish_purged (config : Pd) (state : Libpcap) (client : Client)
    (serves : Serves config state client) (ndpi : Ref → Ndpi) (jni : Jni) (ref : Ref) :
    (finish ndpi jni state).purged ref
      = if ref < (finish ndpi jni state).created then 1 else 0 := by
  have valid := serves.valid
  have apart := valid.apart.sublist
    (List.Sublist.map _ (List.sublist_append_left client.active client.closing))
  rw [serves.represents.active] at apart
  obtain ⟨next, purged, gone⟩ := purge_serves config ndpi true state.connections state client
    serves (fun conn member => by rw [serves.represents.active]; exact member) apart
  have nothing : ∀ other, other ∉ next.active := by
    intro other member
    obtain ⟨listed, unlisted⟩ := gone other member
    rw [serves.represents.active] at listed
    exact unlisted rfl listed
  have ledger := purged.valid.ledger
  have queued : ∀ other, next.pd.alive other → other ∈ next.pd.queued := by
    intro other alive
    rcases ledger.covered other alive with ⟨slot, held, rfl⟩ | ⟨-, member⟩
    · rcases List.mem_append.mp held with active | closing
      · exact absurd active (nothing slot)
      · exact (ledger.pending _ alive).mp
          (purged.calm.settled slot closing (Set.notMem_empty _))
    · exact member
  rw [purged.represents.pd] at ledger queued
  obtain ⟨between, dumped, java, -, equal⟩ :=
    sendConnectionsDump_clear jni (purgeExpiredConnections ndpi true state).pd _ ledger true
  unfold finish
  dsimp only
  rw [equal]
  dsimp only
  rw [dumped.created, freed]
  by_cases born : ref < (purgeExpiredConnections ndpi true state).pd.created
  · rw [if_pos born]
    split
    · rfl
    · rename_i unqueued
      rw [Bool.or_true, and_iff_left rfl] at unqueued
      have spent : ¬ (purgeExpiredConnections ndpi true state).pd.purged ref = 0 :=
        fun zero => unqueued (queued ref ⟨born, zero⟩)
      have atMost := ledger.once ref
      change (purgeExpiredConnections ndpi true state).pd.purged ref ≤ 1 at atMost
      omega
  · rw [if_neg born, if_neg]
    · exact ledger.unborn ref (Nat.le_of_not_lt born)
    · rintro ⟨member, -⟩
      exact born (ledger.queuedAlive ref member).1

/-- The life of the records in a capture in which every dump delivers and no growth of a
    notification array fails. -/
theorem capture_ownsRecords (config : Pd) (pcapFileCapture : Bool) (events : List Event)
    (delivered : Machine.Along step Delivers (start config pcapFileCapture) events)
    (granted : Machine.Along step Grants (start config pcapFileCapture) events) :
    Sound (Machine.run step (start config pcapFileCapture) events) ∧
      ∀ ndpi jni ref,
        (finish ndpi jni (Machine.run step (start config pcapFileCapture) events)).purged ref
          = if ref < (finish ndpi jni
              (Machine.run step (start config pcapFileCapture) events)).created then 1 else 0 := by
  obtain ⟨client, serves⟩ := run_serves config pcapFileCapture events delivered granted
  exact ⟨serves_sound config _ client serves, finish_purged config _ client serves⟩

section Example

open CaptureClient (idleConfig plainNdpi)

def firstPacket (srcPort : Nat) : Event :=
  .packet
    { hdr := ⟨10100, true, 0, none, none⟩
      parsed := some { tuple := ⟨CaptureClient.clientIp, CaptureClient.serverIp, srcPort, 443, 4, IPPROTO_TCP⟩ }
      ndpi := plainNdpi }

def pass : Pass := { ndpi := fun _ => plainNdpi }

/-- Nine connections, for which an array grows, and the passes that announce them; a tenth one,
    and after a day the purge of all of them and the passes that announce it. -/
def busyRun : List Event :=
  (.allocator [true, true] :: (List.range 9).map fun index => firstPacket (40000 + index)) ++
    [.refreshTime 1000, .housekeeping pass, .housekeeping pass, firstPacket 40009,
      .refreshTime 86400000, .purgeIfDue fun _ => plainNdpi, .housekeeping pass, .housekeeping pass]

theorem busyRun_ownsRecords :
    let reached := Machine.run step (start idleConfig false) busyRun
    (Sound reached ∧
      ∀ ndpi jni ref, (finish ndpi jni reached).purged ref
        = if ref < (finish ndpi jni reached).created then 1 else 0) ∧
      reached.pd.created = 10 ∧ ∀ ref < 10, reached.pd.purged ref = 1 :=
  ⟨capture_ownsRecords idleConfig false busyRun (by decide +kernel) (by decide +kernel),
    by decide +kernel, by decide +kernel⟩

/-- Nine connections before the first dump, and no memory for the ninth slot. -/
def crowdedRun : List Event :=
  .allocator [true, false] :: (List.range 9).map fun index => firstPacket (40000 + index)

/-- The array that could not grow is gone, with the eight records queued in it. -/
theorem failedGrowth_losesQueue :
    Machine.Along step Delivers (start idleConfig false) crowdedRun ∧
      ¬ Sound (Machine.run step (start idleConfig false) crowdedRun) := by
  constructor
  · apply Machine.along_of_forall
    intro event member state
    rcases List.mem_cons.mp member with rfl | packet
    · trivial
    · obtain ⟨index, -, rfl⟩ := List.mem_map.mp packet
      trivial
  · intro sound
    have queued := (sound.pending 0 (by decide +kernel)).mp (by decide +kernel)
    revert queued
    decide +kernel

end Example

end Ptnet.LibpcapCapture
