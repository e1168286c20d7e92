import Ptnet.HousekeepingFrame

/-!
Relations between the states of a record which the functions of core/pcapdroid.c keep, and what
follows for the whole heap: a relation that bears with inspection, accounting, notification, the
dump and the decisions holds of every record before and after each of these calls.
-/

namespace Ptnet.Pcapdroid

open Connection
open Detection (Policy Ndpi)
open NativeBlacklist (Blacklist)

/-- The changes of a record between its creation and its end, the status and the accounting of its
    packets apart. -/
structure QuietFrame (same : PdConn → PdConn → Prop) : Prop where
  refl : ∀ data, same data data
  trans : ∀ {before between after}, same before between → same between after → same before after
  outgoing : ∀ {before after}, Outgoing before after → same before after
  giveup : ∀ policy ndpi tuple data, same data (Detection.pdGiveupDpi policy ndpi tuple data)
  inspected : ∀ policy ndpi tuple pktTuple data,
    same data (Detection.performDpi policy ndpi tuple pktTuple data).1
  captured : ∀ pd result pctx data, same data (recordPayload pd result pctx data).1
  seen : ∀ ms data, same data (setSeen ms data)
  rechecked : ∀ policy tuple data, same data (Detection.checkBlockedConnCb policy tuple data).1
  cleared : ∀ whitelist tuple data, same data (Detection.clearWhitelisted whitelist tuple data)

/-- The changes of a record between its creation and its end, the status apart. -/
structure RecordFrame (same : PdConn → PdConn → Prop) : Prop extends QuietFrame same where
  accounted : ∀ isTx len l7Len data, same data (Detection.accountStats isTx len l7Len data)

/-- A relation between states which the functions of the core keep: it bears with the changes of a
    record that a frame allows, and with what these functions do to their own variables. -/
structure StateFrame (records : PdConn → PdConn → Prop) (same : Pd → Pd → Prop) : Prop where
  quiet : QuietFrame records
  refl : ∀ pd, same pd pd
  trans : ∀ {before between after}, same before between → same between after → same before after
  modify : ∀ pd ref change, records (pd.heap ref) (change (pd.heap ref)) →
    same pd (pd.modify ref change)
  misused : ∀ pd : Pd, same pd { pd with misused := true }
  crashed : ∀ pd : Pd, same pd { pd with crashed := true }
  sent : ∀ (pd : Pd) java, same pd { pd with java := java }
  listed : ∀ (pd : Pd) newConns connsUpdates reallocs,
    same pd { pd with newConns := newConns, connsUpdates := connsUpdates, reallocs := reallocs }
  counted : ∀ pd : Pd, same pd { pd with newStats := true }
  delayed : ∀ pd data, same pd (delayForNetd pd data)
  resolved : ∀ pd : Pd, 0 < pd.netdResolveWaiting → same pd { pd with
    netdResolveWaiting := pd.netdResolveWaiting - 1
    nextConnectionsDump :=
      if pd.netdResolveWaiting = 1 then subU64 pd.nextConnectionsDump NETD_RESOLVE_DELAY_MS
      else pd.nextConnectionsDump }

namespace StateFrame

variable {records : PdConn → PdConn → Prop} {same : Pd → Pd → Prop}
variable (frame : StateFrame records same) (pd : Pd)

include frame

theorem steps : DumpSteps same where
  refl := frame.refl
  trans _ _ _ := frame.trans
  modify pd ref change dumped := frame.modify pd ref change (frame.quiet.outgoing dumped)
  misused := frame.misused
  crashed := frame.crashed
  sent := frame.sent

theorem access (ref : Ref) : same pd (pd.access ref) := frame.steps.access pd ref

theorem foldl (callback : Pd → Slot → Pd) (slots : List Slot)
    (keeps : ∀ current slot, same current (callback current slot)) :
    same pd (slots.foldl callback pd) := frame.steps.foldl callback slots pd keeps

theorem setArray (which : Which) (arr : ConnArray) : same pd (pd.setArray which arr) := by
  cases which with
  | newConns => exact frame.listed pd arr pd.connsUpdates pd.reallocs
  | connsUpdates => exact frame.listed pd pd.newConns arr pd.reallocs

theorem storeSlot (which : Which) (slot : Slot) :
    same pd (Pcapdroid.storeSlot pd which slot) := by
  rw [Pcapdroid.storeSlot]
  split
  · exact frame.crashed pd
  · exact frame.trans (frame.setArray pd which _)
      (frame.modify _ _ _ (frame.quiet.outgoing ⟨true, _, _, rfl⟩))

theorem enqueue (which : Which) (slot : Slot) :
    same pd (Pcapdroid.enqueue pd which slot).1 := by
  have grown : ∀ arr reallocs, same pd { pd.setArray which arr with reallocs } := by
    intro arr reallocs
    cases which with
    | newConns => exact frame.listed pd arr pd.connsUpdates reallocs
    | connsUpdates => exact frame.listed pd pd.newConns arr reallocs
  simp only [Pcapdroid.enqueue]
  split
  · split
    · exact frame.trans (grown _ _) (frame.storeSlot _ which slot)
    · exact grown _ _
  · exact frame.storeSlot pd which slot

section Calls

variable (ndpi : Ndpi)

theorem notifConnection (which : Which) (tuple : Tuple) (ref : Ref) :
    same pd (Pcapdroid.notifConnection ndpi pd which tuple ref).1 := by
  have ended : same pd (endDetection ndpi pd tuple ref) := by
    unfold endDetection
    split
    · exact frame.trans (frame.access pd ref)
        (frame.modify _ ref _ (frame.quiet.giveup _ ndpi tuple _))
    · exact frame.access pd ref
  rw [notifConnection_eq]
  split
  · exact ended
  · exact frame.trans ended (frame.enqueue _ which _)

theorem notifyIf (wanted : Bool) (tuple : Tuple) (ref : Ref) :
    same pd (if wanted then (pdNotifyConnectionUpdate ndpi pd tuple ref).1 else pd) := by
  cases wanted with
  | true => exact frame.notifConnection pd ndpi .connsUpdates tuple ref
  | false => exact frame.refl pd

theorem performDpi (pctx : PktContext) : same pd (Pcapdroid.performDpi ndpi pd pctx) := by
  have stored : same pd ((pd.access pctx.data).modify pctx.data fun _ =>
      (Detection.performDpi (pd.access pctx.data).policy ndpi pctx.tuple pctx.pkt.tuple
        ((pd.access pctx.data).heap pctx.data)).1) :=
    frame.trans (frame.access pd pctx.data)
      (frame.modify _ pctx.data _ (frame.quiet.inspected _ ndpi _ _ _))
  exact frame.trans (frame.trans stored (frame.delayed _ _))
    (frame.notifyIf _ ndpi _ pctx.tuple pctx.data)

theorem processPayload (result : ChunkResult) (pctx : PktContext) :
    same pd (Pcapdroid.processPayload ndpi result pd pctx) := by
  have stored : same pd ((pd.access pctx.data).modify pctx.data fun _ =>
      (recordPayload (pd.access pctx.data) result pctx ((pd.access pctx.data).heap pctx.data)).1) :=
    frame.trans (frame.access pd pctx.data)
      (frame.modify _ pctx.data _ (frame.quiet.captured _ _ _ _))
  exact frame.trans stored (frame.notifyIf _ ndpi _ pctx.tuple pctx.data)

theorem pdProcessPacket (result : ChunkResult) (pctx : PktContext) :
    same pd (Pcapdroid.pdProcessPacket ndpi result pd pctx) := by
  have seen : same pd (pd.modify pctx.data (setSeen pctx.ms)) :=
    frame.modify _ _ _ (frame.quiet.seen _ _)
  simp only [Pcapdroid.pdProcessPacket]
  split
  · exact frame.trans (frame.trans seen (frame.performDpi _ ndpi pctx))
      (frame.processPayload _ ndpi result pctx)
  · exact frame.trans seen (frame.processPayload _ ndpi result pctx)

theorem pdAccountStats (pctx : PktContext)
    (accounted : ∀ isTx len l7Len data, records data (Detection.accountStats isTx len l7Len data)) :
    same pd (Pcapdroid.pdAccountStats ndpi pd pctx) := by
  have counted := frame.modify pd pctx.data
    (Detection.accountStats pctx.isTx pctx.pkt.len pctx.pkt.l7.length) (accounted _ _ _ _)
  exact frame.trans (frame.trans counted (frame.counted _))
    (frame.notifConnection _ ndpi .connsUpdates pctx.tuple pctx.data)

end Calls

section Housekeeping

variable (ndpi : Ref → Ndpi)

theorem checkBlockedConnCb (slot : Slot) :
    same pd (Pcapdroid.checkBlockedConnCb ndpi pd slot) := by
  have stored : same pd ((pd.access slot.data).modify slot.data fun _ =>
      (Detection.checkBlockedConnCb (pd.access slot.data).policy slot.tuple
        ((pd.access slot.data).heap slot.data)).1) :=
    frame.trans (frame.access pd slot.data)
      (frame.modify _ slot.data _ (frame.quiet.rechecked _ slot.tuple _))
  exact frame.trans stored (frame.notifyIf _ (ndpi slot.data) _ slot.tuple slot.data)

theorem checkBlacklistedConnCb (whitelist : Blacklist) (slot : Slot) :
    same pd (Pcapdroid.checkBlacklistedConnCb ndpi whitelist pd slot) := by
  have stored : same pd ((pd.access slot.data).modify slot.data fun _ =>
      Detection.clearWhitelisted whitelist slot.tuple ((pd.access slot.data).heap slot.data)) :=
    frame.trans (frame.access pd slot.data)
      (frame.modify _ slot.data _ (frame.quiet.cleared whitelist slot.tuple _))
  have checked : ∀ current : Pd, same current
      (if current.policy.firewall.bl.isSome then Pcapdroid.checkBlockedConnCb ndpi current slot
        else current) := by
    intro current
    split
    · exact frame.checkBlockedConnCb current ndpi slot
    · exact frame.refl current
  have touched : ∀ current : Pd, same current
      (current.modify slot.data fun conn => conn.touch CONN_UPDATE_STATS) :=
    fun current => frame.modify current slot.data _ (frame.quiet.outgoing (touch_outgoing _ _))
  simp only [Pcapdroid.checkBlacklistedConnCb]
  split
  · exact frame.trans (frame.trans (frame.trans stored (checked _)) (touched _))
      (frame.notifConnection _ (ndpi slot.data) .connsUpdates slot.tuple slot.data)
  · exact stored

theorem pdPurgeConnection (freed : ∀ (pd : Pd) purged, same pd { pd with purged := purged })
    (ref : Ref) : same pd (Pcapdroid.pdPurgeConnection pd ref) :=
  frame.trans (frame.access pd ref) (freed _ _)

theorem connsClear (freed : ∀ (pd : Pd) purged, same pd { pd with purged := purged })
    (which : Which) (freeAll : Bool) : same pd (Pcapdroid.connsClear pd which freeAll) := by
  have cleared : ∀ current slot, same current (clearSlot freeAll current slot) := by
    intro current slot
    simp only [clearSlot]
    split
    · exact frame.trans (frame.access current slot.data)
        (frame.pdPurgeConnection _ freed slot.data)
    · exact frame.access current slot.data
  exact frame.trans (frame.foldl pd _ _ cleared) (frame.setArray _ which {})

end Housekeeping

end StateFrame

structure Framed (same : PdConn → PdConn → Prop) (before after : Pd) : Prop where
  created : after.created = before.created
  records : ∀ ref, same (before.heap ref) (after.heap ref)

namespace QuietFrame

variable {same : PdConn → PdConn → Prop} (frame : QuietFrame same)

include frame

theorem weaken {weak : PdConn → PdConn → Prop} (follows : ∀ before after, same before after →
    weak before after)
    (trans : ∀ before between after, weak before between → weak between after → weak before after) :
    QuietFrame weak where
  refl data := follows _ _ (frame.refl data)
  trans := trans _ _ _
  outgoing change := follows _ _ (frame.outgoing change)
  giveup policy ndpi tuple data := follows _ _ (frame.giveup policy ndpi tuple data)
  inspected policy ndpi tuple pktTuple data :=
    follows _ _ (frame.inspected policy ndpi tuple pktTuple data)
  captured pd result pctx data := follows _ _ (frame.captured pd result pctx data)
  seen ms data := follows _ _ (frame.seen ms data)
  rechecked policy tuple data := follows _ _ (frame.rechecked policy tuple data)
  cleared whitelist tuple data := follows _ _ (frame.cleared whitelist tuple data)

theorem of_heap {before after : Pd} (created : after.created = before.created)
    (heap : after.heap = before.heap) : Framed same before after :=
  ⟨created, fun ref => by rw [heap]; exact frame.refl _⟩

theorem unchanged (pd : Pd) : Framed same pd pd := frame.of_heap rfl rfl

theorem later {before between after : Pd} (first : Framed same before between)
    (last : Framed same between after) : Framed same before after :=
  ⟨last.created.trans first.created, fun ref =>
    frame.trans (first.records ref) (last.records ref)⟩

theorem relisted {before between after : Pd} (last : Framed same between after)
    (created : between.created = before.created) (heap : between.heap = before.heap) :
    Framed same before after :=
  frame.later (frame.of_heap created heap) last

section Heap

variable (pd : Pd) (ref : Ref) (ndpi : Ndpi)

theorem modify (change : PdConn → PdConn) (kept : same (pd.heap ref) (change (pd.heap ref))) :
    Framed same pd (pd.modify ref change) := by
  refine ⟨access_created pd ref, fun other => ?_⟩
  by_cases own : other = ref
  · subst own
    simpa [Pd.modify] using kept
  · simpa [Pd.modify, own] using frame.refl _

theorem states : StateFrame same (Framed same) where
  quiet := frame
  refl := frame.unchanged
  trans := frame.later
  modify pd ref change kept := frame.modify pd ref change kept
  misused _ := frame.of_heap rfl rfl
  crashed _ := frame.of_heap rfl rfl
  sent _ _ := frame.of_heap rfl rfl
  listed _ _ _ _ := frame.of_heap rfl rfl
  counted _ := frame.of_heap rfl rfl
  delayed pd data := by
    rw [delayForNetd]
    split <;> exact frame.of_heap rfl rfl
  resolved _ _ := frame.of_heap rfl rfl

theorem access : Framed same pd (pd.access ref) := frame.states.access pd ref

theorem foldl (callback : Pd → Slot → Pd) (slots : List Slot)
    (keeps : ∀ current slot, Framed same current (callback current slot)) :
    Framed same pd (slots.foldl callback pd) := frame.states.foldl pd callback slots keeps

theorem setArray (which : Which) (arr : ConnArray) : Framed same pd (pd.setArray which arr) :=
  frame.states.setArray pd which arr

theorem notifConnection (which : Which) (tuple : Tuple) :
    Framed same pd (Pcapdroid.notifConnection ndpi pd which tuple ref).1 :=
  frame.states.notifConnection pd ndpi which tuple ref

theorem processPayload (result : ChunkResult) (pctx : PktContext) :
    Framed same pd (Pcapdroid.processPayload ndpi result pd pctx) :=
  frame.states.processPayload pd ndpi result pctx

theorem pdProcessPacket (result : ChunkResult) (pctx : PktContext) :
    Framed same pd (Pcapdroid.pdProcessPacket ndpi result pd pctx) :=
  frame.states.pdProcessPacket pd ndpi result pctx

theorem pdPurgeConnection : Framed same pd (Pcapdroid.pdPurgeConnection pd ref) :=
  frame.later (frame.access pd ref) (frame.of_heap rfl rfl)

end Heap

section Housekeeping

theorem dumpFrame : DumpFrame (Framed same) where
  quiet _ _ heap _ created := frame.of_heap created heap
  trans _ _ _ := frame.later
  modify pd ref change dumped := frame.modify pd ref change (frame.outgoing dumped)

variable (ndpi : Ref → Ndpi) (active : List Slot) (pd : Pd)

theorem checkBlockedConnCb (slot : Slot) :
    Framed same pd (Pcapdroid.checkBlockedConnCb ndpi pd slot) :=
  frame.states.checkBlockedConnCb pd ndpi slot

theorem checkBlacklistedConnCb (whitelist : Blacklist) (slot : Slot) :
    Framed same pd (Pcapdroid.checkBlacklistedConnCb ndpi whitelist pd slot) :=
  frame.states.checkBlacklistedConnCb pd ndpi whitelist slot

theorem pdHousekeeping (pass : Pass) : Framed same pd (Pcapdroid.pdHousekeeping pass active pd) := by
  have whitelisted : ∀ current : Pd, Framed same current
      (loadMalwareWhitelist pass.ndpi active current) := by
    intro current
    unfold loadMalwareWhitelist
    split
    · next list _ =>
        exact frame.relisted (frame.foldl _ _ active fun pd slot =>
          frame.checkBlacklistedConnCb pass.ndpi pd list slot) rfl rfl
    · exact frame.unchanged current
  have visited : ∀ current : Pd, Framed same current
      (active.foldl (Pcapdroid.checkBlockedConnCb pass.ndpi) current) := fun current =>
    frame.foldl current _ active fun pd slot => frame.checkBlockedConnCb pass.ndpi pd slot
  have listed : ∀ current : Pd, Framed same current
      (loadFirewallLists pass.ndpi active current) := by
    intro current
    unfold loadFirewallLists
    split
    · exact frame.relisted (visited _) rfl rfl
    · exact frame.relisted (visited _) rfl rfl
    · exact frame.unchanged current
  have decrypting : ∀ current : Pd, Framed same current (loadDecryptionList current) := by
    intro current
    unfold loadDecryptionList
    split <;> exact frame.of_heap rfl rfl
  exact frame.later (frame.later (frame.later (frame.dumpFrame.periodicTask pass pd)
    (whitelisted _)) (listed _)) (decrypting _)

end Housekeeping

end QuietFrame

theorem RecordFrame.pdAccountStats {same : PdConn → PdConn → Prop} (frame : RecordFrame same)
    (pd : Pd) (ndpi : Ndpi) (pctx : PktContext) :
    Framed same pd (Pcapdroid.pdAccountStats ndpi pd pctx) :=
  frame.toQuietFrame.states.pdAccountStats pd ndpi pctx frame.accounted

structure QuietCreation (same : PdConn → PdConn → Prop) : Prop extends QuietFrame same where
  numbered : ∀ policy uid id data,
    same data (Detection.checkWhitelistedApp policy { data with uid := uid, incrId := id })
  unhosted : ∀ data, same data { data with info := none }
  hosted : ∀ host data, same data { data with info := some host, infoFromLru := true }
  resolved : ∀ uid missed data,
    same data { data with uid := uid, netdBlockMissed := data.netdBlockMissed || missed }
  domain : ∀ policy data, same data (Detection.checkBlacklistedDomain policy data)
  screened : ∀ policy tuple data, same data
    (Detection.checkWhitelistModeBlock policy tuple
      (Detection.checkFirewall policy tuple (Detection.checkMalwareIp policy tuple data)))

structure CreationFrame (same : PdConn → PdConn → Prop) : Prop
  extends RecordFrame same, QuietCreation same

theorem always_frame : CreationFrame fun _ _ => True := by
  refine ⟨⟨?_, ?_⟩, ?_, ?_, ?_, ?_, ?_, ?_⟩
  · constructor <;> intros <;> trivial
  all_goals intros; trivial

/-- What the creation of a connection does: the record is the next one and starts fresh, the others
    are as they were. -/
structure Created (same : PdConn → PdConn → Prop) (before after : Pd) : Prop where
  created : after.created = before.created + 1
  fresh : same freshConn (after.heap before.created)
  others : ∀ ref, ref ≠ before.created → same (before.heap ref) (after.heap ref)

section Netd

variable (pd : Pd) (ref : Ref) (change : PdConn → PdConn)

theorem modify_netdResolveWaiting :
    (pd.modify ref change).netdResolveWaiting = pd.netdResolveWaiting := by
  show (pd.access ref).netdResolveWaiting = _
  unfold Pd.access
  split <;> rfl

theorem modify_nextConnectionsDump :
    (pd.modify ref change).nextConnectionsDump = pd.nextConnectionsDump := by
  show (pd.access ref).nextConnectionsDump = _
  unfold Pd.access
  split <;> rfl

end Netd

namespace StateFrame

variable {records : PdConn → PdConn → Prop} {same : Pd → Pd → Prop}
variable (frame : StateFrame records same) (creation : QuietCreation records) (pd : Pd)

include frame creation

theorem resolveNetd (uid : Int) (info : Option String) (slot : Slot) :
    same pd (Pcapdroid.resolveNetd uid info pd slot) := by
  have accessed := frame.access pd slot.data
  have changed : ∀ missed, same pd ((pd.access slot.data).modify slot.data fun conn =>
      { conn with uid := uid, netdBlockMissed := conn.netdBlockMissed || missed }) := fun missed =>
    frame.trans accessed (frame.modify _ slot.data _ (creation.resolved uid missed _))
  simp only [Pcapdroid.resolveNetd]
  split
  · split
    · next waiting =>
        have kept := modify_netdResolveWaiting (pd.access slot.data) slot.data
        have next := modify_nextConnectionsDump (pd.access slot.data) slot.data
        rw [← kept] at waiting
        rw [← kept, ← next]
        exact frame.trans (changed _) (frame.resolved _ waiting)
    · exact changed _
  · exact accessed

theorem attributeHost (ref : Ref) (lruHost : Option String) :
    same pd (Pcapdroid.attributeHost pd ref lruHost) := by
  unfold Pcapdroid.attributeHost
  split
  · exact frame.modify pd ref _ (creation.unhosted _)
  · next host =>
      have loop : ∀ (slots : List Slot) (current : Pd) (uid : Int),
          same current (slots.foldl (Pcapdroid.resolveNetd uid (some host)) current) :=
        fun slots current uid => frame.foldl current _ slots fun pd slot =>
          frame.resolveNetd creation pd uid (some host) slot
      have checked : ∀ current : Pd, same current
          (current.modify ref (Detection.checkBlacklistedDomain pd.policy)) := fun current =>
        frame.modify current ref _ (creation.domain pd.policy _)
      have guessed := frame.modify pd ref
        (fun data => { data with info := some host, infoFromLru := true }) (creation.hosted host _)
      simp only
      refine frame.trans ?_ (checked _)
      split
      · exact frame.trans guessed (loop _ _ _)
      · exact guessed

end StateFrame

namespace QuietCreation

variable {same : PdConn → PdConn → Prop} (frame : QuietCreation same)

include frame

theorem attributeHost (pd : Pd) (ref : Ref) (lruHost : Option String) :
    Framed same pd (Pcapdroid.attributeHost pd ref lruHost) :=
  frame.states.attributeHost frame pd ref lruHost

theorem createdLater {before between after : Pd} (first : Created same before between)
    (last : Framed same between after) : Created same before after :=
  ⟨last.created.trans first.created, frame.trans first.fresh (last.records _),
    fun ref other => frame.trans (first.others ref other) (last.records ref)⟩

theorem pdNewConnection (ndpi : Ndpi) (env : NewConnEnv) (pd : Pd) (tuple : Tuple) (uid : Int)
    (after : Pd) (result : Option Ref)
    (outcome : Pcapdroid.pdNewConnection ndpi env pd tuple uid = (after, result)) :
    (after = pd ∧ result = none) ∨
      (Created same pd after ∧ (result = none ∨ result = some pd.created)) := by
  let allocated : Pd := { pd with
    created := pd.created + 1
    heap := Function.update pd.heap pd.created freshConn }
  have born : Created same pd allocated :=
    ⟨rfl, by simpa [allocated] using frame.refl _,
      fun ref other => by simpa [allocated, other] using frame.refl _⟩
  rw [Pcapdroid.pdNewConnection] at outcome
  split at outcome
  · obtain ⟨rfl, rfl⟩ := Prod.mk.inj outcome
    exact Or.inl ⟨rfl, rfl⟩
  · simp only at outcome
    have notified := frame.notifConnection allocated pd.created ndpi .newConns tuple
    split at outcome
    · obtain ⟨rfl, rfl⟩ := Prod.mk.inj outcome
      exact Or.inr ⟨frame.createdLater born (frame.pdPurgeConnection _ _), Or.inl rfl⟩
    · split at outcome
      · obtain ⟨rfl, rfl⟩ := Prod.mk.inj outcome
        exact Or.inr ⟨frame.createdLater born
          (frame.later notified (frame.pdPurgeConnection _ _)), Or.inl rfl⟩
      · obtain ⟨rfl, rfl⟩ := Prod.mk.inj outcome
        refine Or.inr ⟨frame.createdLater born (frame.later notified ?_), Or.inr rfl⟩
        have numbered : ∀ current : Pd, Framed same current
            { current.modify pd.created fun data => Detection.checkWhitelistedApp pd.policy
                { data with uid := uid, incrId := pd.newConnId }
              with newConnId := pd.newConnId + 1 } := by
          intro current
          have kept := frame.modify current pd.created (fun data =>
            Detection.checkWhitelistedApp pd.policy { data with uid := uid, incrId := pd.newConnId })
            (frame.numbered pd.policy uid pd.newConnId _)
          exact ⟨kept.created, kept.records⟩
        have screened : ∀ current : Pd, Framed same current (current.modify pd.created fun data =>
            Detection.checkWhitelistModeBlock pd.policy tuple
              (Detection.checkFirewall pd.policy tuple
                (Detection.checkMalwareIp pd.policy tuple data))) := fun current =>
          frame.modify current pd.created _ (frame.screened pd.policy tuple _)
        exact frame.later (frame.later (numbered _) (frame.attributeHost _ _ _)) (screened _)

end QuietCreation

end Ptnet.Pcapdroid
