import Ptnet.NotificationArray
import Ptnet.TrafficFrame

/-!
Which calls free a record. Inspection, accounting, notification and the decisions free none; the
dump frees what is marked `to_purge`, and only a capture module sets that mark. Nothing is assumed
here about the allocator, the callbacks of the dump or the records that are passed.
-/

namespace Ptnet.Pcapdroid

open Connection
open Detection (Policy Ndpi)
open NativeBlacklist (Blacklist)
open NotificationArray

theorem mark_frame : CreationFrame fun before after => after.toPurge = before.toPurge where
  refl _ := rfl
  trans first last := last.trans first
  outgoing same := by
    obtain ⟨pending, bits, chunks, rfl⟩ := same
    rfl
  giveup policy ndpi tuple data := (pdGiveupDpi_revised policy ndpi tuple data).toPurge
  inspected policy ndpi tuple pktTuple data :=
    (performDpi_revised policy ndpi tuple data pktTuple).toPurge
  captured pd result pctx data := (recordPayload_revised data pd result pctx).toPurge
  seen _ _ := rfl
  rechecked policy tuple data := (checkBlockedConnCb_revised policy tuple data).toPurge
  cleared _ _ _ := rfl
  accounted isTx len l7Len data := (accountStats_revised data isTx len l7Len).toPurge
  numbered policy uid id data :=
    (checkWhitelistedApp_revised policy { data with uid := uid, incrId := id }).toPurge
  unhosted _ := rfl
  hosted _ _ := rfl
  resolved _ _ _ := rfl
  domain policy data := (checkBlacklistedDomain_revised policy data).toPurge
  screened policy tuple data := (screenConn_revised policy tuple data).toPurge

section Quiet

/-- The dump apart, no function of the core frees a record. -/
theorem purged_frame :
    StateFrame (fun _ _ => True) fun before after => after.purged = before.purged where
  quiet := always_frame.toQuietFrame
  refl _ := rfl
  trans first last := last.trans first
  modify pd ref change _ := modify_purged pd ref change
  misused _ := rfl
  crashed _ := rfl
  sent _ _ := rfl
  listed _ _ _ _ := rfl
  counted _ := rfl
  delayed pd data := by
    unfold delayForNetd
    split <;> rfl
  resolved _ _ := rfl

theorem notifConnection_purged (ndpi : Ndpi) (pd : Pd) (which : Which) (tuple : Tuple)
    (ref : Ref) : (notifConnection ndpi pd which tuple ref).1.purged = pd.purged :=
  purged_frame.notifConnection pd ndpi which tuple ref

end Quiet

structure Retains (before after : Pd) : Prop where
  created : after.created = before.created
  unmarked : ∀ ref, (before.heap ref).toPurge = false → (after.heap ref).toPurge = false
  purged : ∀ ref, (before.heap ref).toPurge = false → after.purged ref = before.purged ref

namespace Retains

variable {before between after : Pd}

theorem refl (pd : Pd) : Retains pd pd := ⟨rfl, fun _ => id, fun _ _ => rfl⟩

theorem trans (first : Retains before between) (last : Retains between after) :
    Retains before after where
  created := last.created.trans first.created
  unmarked ref idle := last.unmarked ref (first.unmarked ref idle)
  purged ref idle := (last.purged ref (first.unmarked ref idle)).trans (first.purged ref idle)

theorem of_framed
    (framed : Framed (fun before after => after.toPurge = before.toPurge) before after)
    (purged : after.purged = before.purged) : Retains before after where
  created := framed.created
  unmarked ref idle := (framed.records ref).trans idle
  purged ref _ := congrFun purged ref

theorem alive (retains : Retains before after) (ref : Ref) (held : before.alive ref)
    (idle : (before.heap ref).toPurge = false) : after.alive ref :=
  ⟨retains.created ▸ held.1, (retains.purged ref idle).trans held.2⟩

theorem foldl (visit : Pd → Slot → Pd) (slots : List Slot) (pd : Pd)
    (keeps : ∀ current slot, Retains current (visit current slot)) :
    Retains pd (slots.foldl visit pd) := by
  induction slots generalizing pd with
  | nil => exact refl pd
  | cons slot rest ih => exact (keeps pd slot).trans (ih (visit pd slot))

section Calls

variable (pd : Pd) (ndpi : Ndpi)

theorem access (ref : Ref) : Retains pd (pd.access ref) :=
  of_framed (mark_frame.access pd ref) (access_purged pd ref)

theorem modify (ref : Ref) (change : PdConn → PdConn)
    (kept : (change (pd.heap ref)).toPurge = (pd.heap ref).toPurge) :
    Retains pd (pd.modify ref change) :=
  of_framed (mark_frame.modify pd ref change kept) (modify_purged pd ref change)

theorem notify (tuple : Tuple) (ref : Ref) :
    Retains pd (pdNotifyConnectionUpdate ndpi pd tuple ref).1 :=
  of_framed (mark_frame.notifConnection pd ref ndpi .connsUpdates tuple)
    (notifConnection_purged ndpi pd .connsUpdates tuple ref)

theorem giveup (ref : Ref) (tuple : Tuple) : Retains pd (pdGiveupDpi ndpi pd ref tuple) :=
  modify pd ref _ (mark_frame.giveup _ ndpi tuple _)

theorem process (result : ChunkResult) (pctx : PktContext) :
    Retains pd (pdProcessPacket ndpi result pd pctx) :=
  of_framed (mark_frame.pdProcessPacket pd ndpi result pctx)
    (purged_frame.pdProcessPacket pd ndpi result pctx)

theorem account (pctx : PktContext) : Retains pd (pdAccountStats ndpi pd pctx) :=
  of_framed (mark_frame.toRecordFrame.pdAccountStats pd ndpi pctx)
    (purged_frame.pdAccountStats pd ndpi pctx fun _ _ _ _ => trivial)

theorem connsClear (which : Which) : Retains pd (Pcapdroid.connsClear pd which false) := by
  have cleared : ∀ current slot, Retains current (clearSlot false current slot) := by
    intro current slot
    have used := access current slot.data
    simp only [clearSlot, Bool.or_false]
    split
    · next marked =>
      have framed := mark_frame.pdPurgeConnection (current.access slot.data) slot.data
      refine used.trans ⟨framed.created, fun ref idle => (framed.records ref).trans idle, ?_⟩
      intro ref idle
      have differs : ref ≠ slot.data := by
        rintro rfl
        rw [idle] at marked
        cases marked
      rw [pdPurgeConnection]
      exact (Function.update_of_ne differs _ _).trans (congrFun (access_purged _ _) ref)
    · exact used
  have swept := foldl (clearSlot false) (pd.array which).slots pd cleared
  have framed := mark_frame.setArray ((pd.array which).slots.foldl (clearSlot false) pd) which {}
  exact swept.trans (of_framed framed (purged_frame.setArray _ which {}))

theorem dumpConnections (jni : Jni) : Retains pd (Pcapdroid.dumpConnections jni pd) := by
  have sent := of_framed (mark_frame.dumpFrame.sendConnectionsDump jni pd)
    (purged_frame.steps.sendConnectionsDump jni pd)
  have dumped := (sent.trans (connsClear _ .newConns)).trans (connsClear _ .connsUpdates)
  simp only [Pcapdroid.dumpConnections]
  split
  · exact ⟨dumped.created, dumped.unmarked, dumped.purged⟩
  · exact ⟨rfl, fun _ => id, fun _ _ => rfl⟩

theorem periodicTask (pass : Pass) : Retains pd (Pcapdroid.periodicTask pass pd) := by
  unfold Pcapdroid.periodicTask
  split
  · exact ⟨rfl, fun _ => id, fun _ _ => rfl⟩
  · split
    · exact dumpConnections pd pass.jni
    · split
      · exact refl pd
      · split
        · split
          · exact ⟨rfl, fun _ => id, fun _ _ => rfl⟩
          · exact refl pd
        · exact refl pd

theorem pdHousekeeping (pass : Pass) (active : List Slot) :
    Retains pd (Pcapdroid.pdHousekeeping pass active pd) := by
  have relisted : ∀ {before between after : Pd}, Retains between after →
      between.heap = before.heap → between.purged = before.purged →
      between.created = before.created → Retains before after := by
    intro before between after last heap purged created
    refine ⟨last.created.trans created, fun ref idle => last.unmarked ref (heap ▸ idle), ?_⟩
    exact fun ref idle => (last.purged ref (heap ▸ idle)).trans (congrFun purged ref)
  have checked := fun current slot => of_framed
    (mark_frame.checkBlockedConnCb pass.ndpi current slot)
    (purged_frame.checkBlockedConnCb current pass.ndpi slot)
  have whitelisted : ∀ current, Retains current (loadMalwareWhitelist pass.ndpi active current) := by
    intro current
    unfold loadMalwareWhitelist
    split
    · exact relisted (foldl _ active _ fun pd slot => of_framed
        (mark_frame.checkBlacklistedConnCb pass.ndpi pd _ slot)
        (purged_frame.checkBlacklistedConnCb pd pass.ndpi _ slot)) rfl rfl rfl
    · exact refl current
  have listed : ∀ current, Retains current (loadFirewallLists pass.ndpi active current) := by
    intro current
    unfold loadFirewallLists
    split
    · exact relisted (foldl _ active _ checked) rfl rfl rfl
    · exact relisted (foldl _ active _ checked) rfl rfl rfl
    · exact refl current
  have decrypting : ∀ current, Retains current (loadDecryptionList current) := by
    intro current
    unfold loadDecryptionList
    split <;> exact ⟨rfl, fun _ => id, fun _ _ => rfl⟩
  exact (((periodicTask pd pass).trans (whitelisted _)).trans (listed _)).trans (decrypting _)

end Calls

end Retains

structure RetainsOthers (own : Ref) (before after : Pd) : Prop where
  created : after.created = before.created
  unmarked : ∀ ref, ref ≠ own → (before.heap ref).toPurge = false → (after.heap ref).toPurge = false
  purged : ∀ ref, ref ≠ own → (before.heap ref).toPurge = false →
    after.purged ref = before.purged ref

theorem Retains.others {before after : Pd} (retains : Retains before after) (own : Ref) :
    RetainsOthers own before after where
  created := retains.created
  unmarked ref _ := retains.unmarked ref
  purged ref _ := retains.purged ref

namespace RetainsOthers

variable {own : Ref}

theorem trans {before between after : Pd} (first : RetainsOthers own before between)
    (last : RetainsOthers own between after) : RetainsOthers own before after where
  created := last.created.trans first.created
  unmarked ref other idle := last.unmarked ref other (first.unmarked ref other idle)
  purged ref other idle :=
    (last.purged ref other (first.unmarked ref other idle)).trans (first.purged ref other idle)

theorem modify (pd : Pd) (change : PdConn → PdConn) :
    RetainsOthers own pd (pd.modify own change) where
  created := access_created pd own
  unmarked ref other idle := by rwa [Pd.modify_heap_other pd own change ref other]
  purged ref _ _ := congrFun (modify_purged pd own change) ref

theorem purge (pd : Pd) : RetainsOthers own pd (pdPurgeConnection pd own) where
  created := access_created pd own
  unmarked ref _ idle := by rwa [pdPurgeConnection, access_heap]
  purged ref other _ := by
    rw [pdPurgeConnection]
    exact (Function.update_of_ne other _ _).trans (congrFun (access_purged pd own) ref)

end RetainsOthers

section Creation

/-- A record that cannot be queued is freed, and nothing else is. -/
theorem pdNewConnection_purged (ndpi : Ndpi) (env : NewConnEnv) (pd : Pd) (tuple : Tuple)
    (uid : Int) :
    (pdNewConnection ndpi env pd tuple uid).1.purged = pd.purged ∨
      (pdNewConnection ndpi env pd tuple uid).2 = none ∧
        (pdNewConnection ndpi env pd tuple uid).1.purged =
          Function.update pd.purged pd.created (pd.purged pd.created + 1) := by
  rw [pdNewConnection]
  split
  · exact Or.inl rfl
  · simp only
    split
    · refine Or.inr ⟨rfl, ?_⟩
      rw [pdPurgeConnection, access_purged]
    · split
      · refine Or.inr ⟨rfl, ?_⟩
        rw [pdPurgeConnection, access_purged, notifConnection_purged]
      · refine Or.inl ?_
        have hosted := fun current =>
          purged_frame.attributeHost always_frame.toQuietCreation current pd.created env.lruHost
        simp only [modify_purged, hosted, notifConnection_purged]

end Creation

end Ptnet.Pcapdroid
