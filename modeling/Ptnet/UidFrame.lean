import Ptnet.TrafficFrame

/-!
The uid of a record. It is written when the connection is created, and by the loop that resolves
netd requests.
-/

namespace Ptnet.Pcapdroid

open Connection
open Detection (Policy Ndpi)

def SameUids (before after : Pd) : Prop := ∀ ref, (after.heap ref).uid = (before.heap ref).uid

section Heap

variable {before between after : Pd}

theorem SameUids.trans (first : SameUids before between) (last : SameUids between after) :
    SameUids before after :=
  fun ref => (last ref).trans (first ref)

theorem Framed.sameUids (framed : Framed SameCapture before after) : SameUids before after :=
  fun ref => (framed.records ref).uid

theorem modify_uids (pd : Pd) (ref : Ref) (change : PdConn → PdConn)
    (kept : (change (pd.heap ref)).uid = (pd.heap ref).uid) : SameUids pd (pd.modify ref change) := by
  intro other
  by_cases same : other = ref
  · subst same
    simp [Pd.modify, kept]
  · simp [Pd.modify, same]

end Heap

section Creation

variable (pd : Pd) (ndpi : Ndpi)

/-- The loop gives the uid to netd requests, and leaves a record that has it as it is. -/
theorem resolveNetd_kept (uid : Int) (info : Option String) (slot : Slot) (ref : Ref)
    (known : (pd.heap ref).uid = uid) : ((resolveNetd uid info pd slot).heap ref).uid = uid := by
  have resolved : ∀ missed, (((pd.access slot.data).modify slot.data fun conn =>
      { conn with uid := uid, netdBlockMissed := conn.netdBlockMissed || missed }).heap ref).uid =
        uid := by
    intro missed
    by_cases same : ref = slot.data
    · simp [Pd.modify, same]
    · simp [Pd.modify, same, access_heap, known]
  simp only [resolveNetd]
  split
  · split <;> exact resolved _
  · rw [access_heap, known]

theorem attributeHost_kept (ref : Ref) (lruHost : Option String) :
    ((attributeHost pd ref lruHost).heap ref).uid = (pd.heap ref).uid := by
  unfold attributeHost
  split
  · exact modify_uids pd ref _ rfl ref
  · next host =>
      simp only
      let guessed := pd.modify ref fun data => { data with info := some host, infoFromLru := true }
      have first : (guessed.heap ref).uid = (pd.heap ref).uid := modify_uids pd ref _ rfl ref
      have loop : ∀ (slots : List Slot) (current : Pd) (uid : Int),
          (current.heap ref).uid = uid →
            ((slots.foldl (resolveNetd uid (some host)) current).heap ref).uid = uid := by
        intro slots
        induction slots with
        | nil => exact fun _ _ known => known
        | cons slot rest ih =>
            intro current uid known
            exact ih _ uid (resolveNetd_kept current uid _ slot ref known)
      rw [modify_uids _ ref _ (SameInspection.of_unjudged
          (Detection.checkBlacklistedDomain_unjudged pd.policy _)).uid ref, ← first]
      split
      · exact loop _ _ _ rfl
      · rfl

theorem pdNewConnection_uid (env : NewConnEnv) (tuple : Tuple) (uid : Int) (created : Pd)
    (ref : Ref) (made : pdNewConnection ndpi env pd tuple uid = (created, some ref)) :
    (created.heap ref).uid = uid := by
  rw [pdNewConnection] at made
  split at made
  · cases made
  · simp only at made
    split at made
    · cases made
    · split at made
      · cases made
      · obtain ⟨rfl, same⟩ := Prod.mk.inj made
        obtain rfl := Option.some.inj same
        rw [modify_uids _ pd.created _ ?_ pd.created, attributeHost_kept]
        · simp [Pd.modify, (SameInspection.of_unjudged
            (Detection.checkWhitelistedApp_unjudged pd.policy _)).uid]
        · exact (SameInspection.of_unjudged
            (Detection.screen_unjudged pd.policy tuple _)).uid

end Creation

end Ptnet.Pcapdroid
