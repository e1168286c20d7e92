import Ptnet.InstalledPackages

/-!
The indexes of a `MatchList` over sequences of its operations, while packages are installed,
removed or given another UID: the keys against the rules, and the UIDs against the packages of
the rules.
-/

namespace Ptnet.MatchIndex

open Connection (UID_NO_FILTER)
open InstalledPackages (Cache Device Package)
open MatchLists (MatchList Rule RuleType matchKey)
open Machine (run Along)

structure State where
  device : Device
  list : MatchList := {}

/-- An operation on the list. `packageChanged` and `mappingChanged` are the two forms of
    `uidMappingChanged`, called after the package's UID has become this one. -/
inductive Event where
  | addRule (cache : Cache) (rule : Rule)
  | removeRule (cache : Cache) (rule : Rule)
  | packageChanged (cache : Cache) (pkg : Package) (uid : Option Nat)
  | mappingChanged (pkg : Package) (uid : Nat)
  | clear

def step (state : State) : Event → State
  | .addRule cache rule =>
      { state with list := (state.list.addRule (state.device.resolver cache) rule).2 }
  | .removeRule cache rule =>
      { state with list := (state.list.removeRule (state.device.resolver cache) rule).2 }
  | .packageChanged cache pkg uid =>
      let device := state.device.change pkg uid
      { device, list := (state.list.uidMappingChanged (device.resolver cache) pkg).2 }
  | .mappingChanged pkg uid =>
      { device := state.device.change pkg (some uid), list := state.list.setUidMapping pkg uid }
  | .clear => { state with list := state.list.clear }

section Keys

theorem matchKey_inj (first second : Rule) :
    matchKey first.tp first.value = matchKey second.tp second.value ↔ first = second := by
  constructor
  · obtain ⟨tp, value⟩ := first
    obtain ⟨other, text⟩ := second
    intro same
    have chars := congrArg String.toList same
    simp only [matchKey, String.toList_append] at chars
    -- The names of the types have different first letters.
    cases tp <;> cases other <;> first
      | (cases congrArg List.head? chars; done)
      | (simp only [List.append_cancel_left_eq] at chars; rw [String.toList_inj.mp chars])
  · rintro rfl
    rfl

def Covered (state : State) (uid : Int) : Prop :=
  ∃ rule ∈ state.list.mRules, rule.tp = .app ∧ state.device.uidOf rule.value = some uid

def Shared (state : State) (pkg : String) (uid : Int) : Prop :=
  ∃ rule ∈ state.list.mRules, rule.tp = .app ∧ rule.value ≠ pkg ∧
    state.device.uidOf rule.value = some uid

/-- `matchesApp` holds of the UIDs of the rules' packages, and of no others. -/
def Indexed (state : State) : Prop :=
  ∀ uid, state.list.matchesApp uid = true ↔ Covered state uid

structure Sound (state : State) : Prop where
  keys : ∀ rule, matchKey rule.tp rule.value ∈ state.list.mMatches ↔ rule ∈ state.list.mRules
  stored : ∀ key ∈ state.list.mMatches, ∃ rule ∈ state.list.mRules, matchKey rule.tp rule.value = key
  distinct : state.list.mRules.Nodup
  mapping : ∀ rule ∈ state.list.mRules, rule.tp = .app →
    state.list.mPackageToUid.lookup rule.value = state.device.uidOf rule.value

theorem keys_perm (state : State) (sound : Sound state) :
    state.list.mMatches.keys.Perm (state.list.mRules.map fun rule => matchKey rule.tp rule.value) := by
  refine (List.perm_ext_iff_of_nodup state.list.mMatches.keys_nodup ?_).mpr fun key => ?_
  · exact sound.distinct.map fun first second same => (matchKey_inj first second).mp same
  · rw [← AList.mem_keys, List.mem_map]
    constructor
    · exact sound.stored key
    · rintro ⟨rule, member, rfl⟩
      exact (sound.keys rule).mpr member

theorem covered_iff (state : State) (pkg : String) (member : ⟨.app, pkg⟩ ∈ state.list.mRules)
    (uid : Int) :
    Covered state uid ↔ Shared state pkg uid ∨ state.device.uidOf pkg = some uid := by
  constructor
  · rintro ⟨rule, listed, app, known⟩
    by_cases same : rule.value = pkg
    · exact Or.inr (same ▸ known)
    · exact Or.inl ⟨rule, listed, app, same, known⟩
  · rintro (⟨rule, listed, app, -, known⟩ | known)
    · exact ⟨rule, listed, app, known⟩
    · exact ⟨_, member, rfl, known⟩

end Keys

section AddRule

variable (state : State) (cache : Cache) (rule : Rule)

theorem addRule_present (present : rule ∈ state.list.mRules) (sound : Sound state) :
    step state (.addRule cache rule) = state := by
  rw [step, MatchList.addRule, if_pos ((sound.keys rule).mpr present)]

/-- A rule that is added comes with its key, and an APP rule with its UID. -/
theorem addRule_cases (sound : Sound state) :
    step state (.addRule cache rule) = state ∨
      rule ∉ state.list.mRules ∧
      (step state (.addRule cache rule)).device = state.device ∧
      (step state (.addRule cache rule)).list.mRules = state.list.mRules ++ [rule] ∧
      (step state (.addRule cache rule)).list.mMatches =
        state.list.mMatches.insert (matchKey rule.tp rule.value) rule ∧
      ((rule.tp ≠ .app ∧ (step state (.addRule cache rule)).list.mUids = state.list.mUids ∧
          (step state (.addRule cache rule)).list.mPackageToUid = state.list.mPackageToUid) ∨
        ∃ uid, rule.tp = .app ∧ state.device.uidOf rule.value = some uid ∧
          (step state (.addRule cache rule)).list.mUids = insert uid state.list.mUids ∧
          (step state (.addRule cache rule)).list.mPackageToUid =
            state.list.mPackageToUid.insert rule.value uid) := by
  by_cases present : rule ∈ state.list.mRules
  · exact Or.inl (addRule_present state cache rule present sound)
  · have absent : matchKey rule.tp rule.value ∉ state.list.mMatches :=
      fun member => present ((sound.keys rule).mp member)
    by_cases app : rule.tp = .app
    · by_cases unknown : (state.device.resolver cache).getUid rule.value = UID_NO_FILTER
      · refine Or.inl ?_
        rw [step, MatchList.addRule, if_neg absent, if_pos app]
        simp only [unknown, if_true]
      · have added : step state (.addRule cache rule) = { state with
            list := {
              mRules := state.list.mRules ++ [rule]
              mMatches := state.list.mMatches.insert (matchKey rule.tp rule.value) rule
              mUids := insert ((state.device.resolver cache).getUid rule.value) state.list.mUids
              mPackageToUid := state.list.mPackageToUid.insert rule.value
                ((state.device.resolver cache).getUid rule.value) } } := by
          rw [step, MatchList.addRule, if_neg absent, if_pos app]
          simp only [unknown, if_false]
        rw [added]
        exact Or.inr ⟨present, rfl, rfl, rfl, Or.inr ⟨_, app,
          (state.device.getUid_known cache rule.value).mp unknown, rfl, rfl⟩⟩
    · have added : step state (.addRule cache rule) = { state with
          list := { state.list with
            mRules := state.list.mRules ++ [rule]
            mMatches := state.list.mMatches.insert (matchKey rule.tp rule.value) rule } } := by
        rw [step, MatchList.addRule, if_neg absent, if_neg app]
      rw [added]
      exact Or.inr ⟨present, rfl, rfl, rfl, Or.inl ⟨app, rfl, rfl⟩⟩

theorem addRule_sound (sound : Sound state) : Sound (step state (.addRule cache rule)) := by
  rcases addRule_cases state cache rule sound with same | ⟨absent, device, rules, keys, indexes⟩
  · rw [same]
    exact sound
  · refine { keys := ?_, stored := ?_, distinct := ?_, mapping := ?_ }
    · intro other
      rw [keys, rules, AList.mem_insert, matchKey_inj, List.mem_append, List.mem_singleton,
        sound.keys, or_comm]
    · intro key member
      rw [keys, AList.mem_insert] at member
      rw [rules]
      rcases member with rfl | old
      · exact ⟨rule, List.mem_append_right _ (List.mem_singleton_self rule), rfl⟩
      · obtain ⟨other, listed, same⟩ := sound.stored key old
        exact ⟨other, List.mem_append_left _ listed, same⟩
    · rw [rules]
      refine List.nodup_append.mpr ⟨sound.distinct, List.nodup_singleton rule, ?_⟩
      rintro other old last added rfl
      exact absent (List.mem_singleton.mp added ▸ old)
    · intro other member app
      rw [rules, List.mem_append, List.mem_singleton] at member
      rw [device]
      rcases indexes with ⟨notApp, -, uids⟩ | ⟨uid, -, known, -, uids⟩
      · rw [uids]
        rcases member with old | rfl
        · exact sound.mapping other old app
        · exact absurd app notApp
      · rw [uids]
        by_cases same : other.value = rule.value
        · rw [same, AList.lookup_insert, known]
        · rw [AList.lookup_insert_ne same]
          rcases member with old | rfl
          · exact sound.mapping other old app
          · exact absurd rfl same

theorem addRule_indexed (sound : Sound state) (indexed : Indexed state) :
    Indexed (step state (.addRule cache rule)) := by
  rcases addRule_cases state cache rule sound with same | ⟨absent, device, rules, -, indexes⟩
  · rw [same]
    exact indexed
  · intro uid
    have before := indexed uid
    have after : Covered (step state (.addRule cache rule)) uid ↔
        Covered state uid ∨ rule.tp = .app ∧ state.device.uidOf rule.value = some uid := by
      simp only [Covered, rules, device, List.mem_append, List.mem_singleton, or_and_right,
        exists_or, exists_eq_left]
    rw [after, ← before]
    simp only [MatchList.matchesApp, decide_eq_true_eq]
    rcases indexes with ⟨notApp, uids, -⟩ | ⟨own, app, known, uids, -⟩
    · rw [uids]
      exact (or_iff_left fun added => notApp added.1).symm
    · rw [uids, Finset.mem_insert, known, Option.some.injEq, or_comm]
      exact or_congr_right ⟨fun same => ⟨app, same.symm⟩, fun added => added.2.symm⟩

end AddRule

section RemoveRule

variable (state : State) (cache : Cache) (rule : Rule)

theorem removeRule_absent (absent : rule ∉ state.list.mRules) (sound : Sound state) :
    step state (.removeRule cache rule) = state := by
  rw [step, MatchList.removeRule, if_neg fun member => absent ((sound.keys rule).mp member)]

theorem removeRule_present (present : rule ∈ state.list.mRules) (sound : Sound state) :
    step state (.removeRule cache rule) = { state with
      list := {
        mRules := state.list.mRules.erase rule
        mMatches := state.list.mMatches.erase (matchKey rule.tp rule.value)
        mUids := if rule.tp = .app then
          state.list.mUids.erase ((state.device.resolver cache).getUid rule.value)
          else state.list.mUids
        mPackageToUid := if rule.tp = .app then state.list.mPackageToUid.erase rule.value
          else state.list.mPackageToUid } } := by
  rw [step, MatchList.removeRule, if_pos ((sound.keys rule).mpr present)]
  by_cases app : rule.tp = .app
  · simp only [if_pos app]
  · simp only [if_neg app]

theorem removeRule_sound (sound : Sound state) : Sound (step state (.removeRule cache rule)) := by
  by_cases present : rule ∈ state.list.mRules
  · rw [removeRule_present state cache rule present sound]
    refine { keys := ?_, stored := ?_, distinct := sound.distinct.erase rule, mapping := ?_ }
    · intro other
      rw [AList.mem_erase, sound.keys, sound.distinct.mem_erase_iff, ne_eq, matchKey_inj]
    · intro key member
      obtain ⟨different, old⟩ := AList.mem_erase.mp member
      obtain ⟨other, listed, same⟩ := sound.stored key old
      refine ⟨other, sound.distinct.mem_erase_iff.mpr ⟨?_, listed⟩, same⟩
      rintro rfl
      exact different same.symm
    · intro other member app
      obtain ⟨different, old⟩ := sound.distinct.mem_erase_iff.mp member
      dsimp only
      split
      case isTrue isApp =>
        have value : other.value ≠ rule.value := by
          intro same
          obtain ⟨tp, value⟩ := other
          obtain ⟨type, text⟩ := rule
          exact different (by rw [show tp = type from app.trans isApp.symm, show value = text from same])
        rw [AList.lookup_erase_ne value]
        exact sound.mapping other old app
      case isFalse => exact sound.mapping other old app
  · rw [removeRule_absent state cache rule present sound]
    exact sound

/-- The UID of the package that goes stays with the list if another rule needs it. -/
theorem removeRule_indexed (sound : Sound state) (indexed : Indexed state) :
    Indexed (step state (.removeRule cache rule)) ↔
      (rule ∈ state.list.mRules → rule.tp = .app → ∀ uid,
        state.device.uidOf rule.value = some uid → ¬ Shared state rule.value uid) := by
  by_cases present : rule ∈ state.list.mRules
  · have kept : ∀ uid, Covered (step state (.removeRule cache rule)) uid ↔
        ∃ other ∈ state.list.mRules, other ≠ rule ∧ other.tp = .app ∧
          state.device.uidOf other.value = some uid := by
      intro uid
      rw [removeRule_present state cache rule present sound, Covered]
      simp only [sound.distinct.mem_erase_iff, and_assoc, and_left_comm]
    by_cases app : rule.tp = .app
    · obtain ⟨tp, pkg⟩ := rule
      obtain rfl : tp = .app := app
      have others : ∀ uid, Covered (step state (.removeRule cache ⟨.app, pkg⟩)) uid ↔
          Shared state pkg uid := by
        intro uid
        rw [kept, Shared]
        refine exists_congr fun other => and_congr_right fun _ => ?_
        obtain ⟨tp, value⟩ := other
        constructor
        · rintro ⟨different, rfl, known⟩
          exact ⟨rfl, fun same => different (congrArg _ same), known⟩
        · rintro ⟨rfl, different, known⟩
          exact ⟨fun same => different (congrArg Rule.value same), rfl, known⟩
      have uids : (step state (.removeRule cache ⟨.app, pkg⟩)).list.mUids =
          state.list.mUids.erase ((state.device.resolver cache).getUid pkg) := by
        rw [removeRule_present state cache _ present sound]
        rfl
      -- Indexed before: the set holds the UID of the package and those of the other rules.
      have before : ∀ uid, uid ∈ state.list.mUids ↔
          Shared state pkg uid ∨ state.device.uidOf pkg = some uid := by
        intro uid
        rw [← covered_iff state pkg present, ← indexed uid, MatchList.matchesApp, decide_eq_true_eq]
      -- A package that is not installed has UID_NO_FILTER, which no rule shares.
      have unfiltered : ¬ Shared state pkg UID_NO_FILTER := by
        rintro ⟨other, -, -, -, known⟩
        exact state.device.uidOf_filter _ known
      simp only [Indexed, others, MatchList.matchesApp, decide_eq_true_eq, uids, Finset.mem_erase,
        before, present, true_implies, state.device.getUid_eq cache]
      cases known : state.device.uidOf pkg with
      | none =>
          refine iff_of_true (fun uid => ?_) (by simp)
          simp only [Option.getD_none, reduceCtorEq, or_false, and_iff_right_iff_imp]
          rintro shared rfl
          exact unfiltered shared
      | some own =>
          simp only [Option.getD_some, Option.some.injEq]
          constructor
          · rintro exact' uid rfl shared
            exact ((exact' own).mpr shared).1 rfl
          · intro unshared uid
            constructor
            · rintro ⟨different, shared | same⟩
              · exact shared
              · exact absurd same.symm different
            · intro shared
              refine ⟨?_, Or.inl shared⟩
              rintro rfl
              exact unshared uid rfl shared
    · refine iff_of_true (fun uid => ?_) fun _ isApp => absurd isApp app
      rw [kept, MatchList.matchesApp, decide_eq_true_eq]
      have before := indexed uid
      rw [MatchList.matchesApp, decide_eq_true_eq] at before
      have uids : (step state (.removeRule cache rule)).list.mUids = state.list.mUids := by
        rw [removeRule_present state cache rule present sound]
        exact if_neg app
      rw [uids, before]
      refine exists_congr fun other => and_congr_right fun _ => ⟨?_, fun found => found.2⟩
      rintro ⟨isApp, known⟩
      exact ⟨fun same => app (same ▸ isApp), isApp, known⟩
  · rw [removeRule_absent state cache rule present sound]
    exact iff_of_true indexed fun member => absurd member present

end RemoveRule

section Mapping

/-- What `uidMappingChanged` makes of the UIDs, from the package's old UID and its new one. -/
def remapped (mUids : Finset Int) (old new : Option Int) : Finset Int :=
  if old = new then mUids else new.elim (old.elim mUids mUids.erase) fun uid =>
    insert uid (old.elim mUids mUids.erase)

structure Remaps (list after : MatchList) (pkg : String) (old new : Option Int) : Prop where
  rules : after.mRules = list.mRules
  keys : after.mMatches = list.mMatches
  uids : after.mUids = remapped list.mUids old new
  own : after.mPackageToUid.lookup pkg = new
  others : ∀ other, other ≠ pkg →
    after.mPackageToUid.lookup other = list.mPackageToUid.lookup other

theorem uidMappingChanged_remaps (list : MatchList) (resolver : MatchLists.AppsResolver)
    (pkg : String) (old new : Option Int) (present : matchKey .app pkg ∈ list.mMatches)
    (mapped : list.mPackageToUid.lookup pkg = old)
    (resolved : (resolver.getAppByPackage pkg).map (fun app => app.uid) = new) :
    Remaps list (list.uidMappingChanged resolver pkg).2 pkg old new := by
  subst resolved
  unfold MatchList.uidMappingChanged
  rw [if_neg (not_not.mpr present)]
  cases found : resolver.getAppByPackage pkg with
  | none =>
      cases old with
      | none =>
          simp only [mapped, Option.filter_none, MatchList.dropMapping]
          exact ⟨rfl, rfl, rfl, mapped, fun _ _ => rfl⟩
      | some uid =>
          have gone : ((none : Option Int) != some uid) = true := rfl
          simp only [mapped, Option.filter_some, Option.map_none, gone, if_true,
            MatchList.dropMapping, AList.lookup_erase]
          exact ⟨rfl, rfl, rfl, AList.lookup_erase _ _, fun _ other => AList.lookup_erase_ne other⟩
  | some app =>
      cases old with
      | none =>
          simp only [mapped, Option.filter_none, MatchList.dropMapping]
          exact ⟨rfl, rfl, rfl, AList.lookup_insert _, fun _ other => AList.lookup_insert_ne other⟩
      | some uid =>
          by_cases same : app.uid = uid
          · have still : (Option.map (fun app => app.uid) (some app) != some uid) = false := by
              simp [same]
            simp only [mapped, Option.filter_some, still, Bool.false_eq_true, if_false,
              MatchList.dropMapping]
            refine ⟨rfl, rfl, ?_, mapped.trans (congrArg some same.symm), fun _ _ => rfl⟩
            exact (if_pos (congrArg some same.symm)).symm
          · have moved : (Option.map (fun app => app.uid) (some app) != some uid) = true := by
              simp [same]
            simp only [mapped, Option.filter_some, moved, MatchList.dropMapping, if_true,
              AList.lookup_erase]
            refine ⟨rfl, rfl, ?_, AList.lookup_insert _, fun other different => ?_⟩
            · exact (if_neg fun equal => same (Option.some.inj equal).symm).symm
            · rw [AList.lookup_insert_ne different, AList.lookup_erase_ne different]

theorem moved_sound (state : State) (pkg : Package) (uid : Option Nat) (list : MatchList)
    (sound : Sound state) (rules : list.mRules = state.list.mRules)
    (keys : list.mMatches = state.list.mMatches)
    (own : ⟨.app, pkg⟩ ∈ state.list.mRules →
      list.mPackageToUid.lookup pkg.val = (state.device.change pkg uid).uidOf pkg)
    (others : ∀ other, other ≠ pkg.val →
      list.mPackageToUid.lookup other = state.list.mPackageToUid.lookup other) :
    Sound { device := state.device.change pkg uid, list } where
  keys := fun rule => by rw [keys, rules]; exact sound.keys rule
  stored := fun key member => by rw [rules]; exact sound.stored key (keys ▸ member)
  distinct := by rw [rules]; exact sound.distinct
  mapping := by
    intro rule member app
    rw [rules] at member
    by_cases same : rule.value = pkg
    · obtain ⟨tp, value⟩ := rule
      obtain rfl : tp = .app := app
      obtain rfl : value = pkg.val := same
      exact own member
    · rw [others rule.value same, InstalledPackages.Device.change_other _ _ _ _ same]
      exact sound.mapping rule member app

theorem moved_shared (state : State) (pkg : Package) (uid : Option Nat) (list : MatchList)
    (rules : list.mRules = state.list.mRules) (other : Int) :
    Shared { device := state.device.change pkg uid, list } pkg other ↔ Shared state pkg other := by
  unfold Shared
  dsimp only
  rw [rules]
  refine exists_congr fun rule => and_congr_right fun _ => and_congr_right fun _ =>
    and_congr_right fun different => ?_
  rw [InstalledPackages.Device.change_other _ _ _ _ different]

theorem moved_absent (state : State) (pkg : Package) (uid : Option Nat) (list : MatchList)
    (rules : list.mRules = state.list.mRules) (uids : list.mUids = state.list.mUids)
    (absent : ⟨.app, pkg⟩ ∉ state.list.mRules) (indexed : Indexed state) :
    Indexed { device := state.device.change pkg uid, list } := by
  intro other
  have before := indexed other
  rw [MatchList.matchesApp, decide_eq_true_eq] at before ⊢
  rw [uids, before]
  unfold Covered
  dsimp only
  rw [rules]
  refine exists_congr fun rule => and_congr_right fun listed => and_congr_right fun app => ?_
  have different : rule.value ≠ pkg := by
    intro same
    obtain ⟨tp, value⟩ := rule
    obtain rfl : tp = .app := app
    exact absent (show (⟨.app, pkg⟩ : Rule) ∈ _ from same ▸ listed)
  rw [InstalledPackages.Device.change_other _ _ _ _ different]

theorem moved_indexed (state : State) (pkg : Package) (uid : Option Nat) (list : MatchList)
    (rules : list.mRules = state.list.mRules) (present : ⟨.app, pkg⟩ ∈ state.list.mRules) :
    Indexed { device := state.device.change pkg uid, list } ↔
      ∀ other, other ∈ list.mUids ↔
        Shared state pkg other ∨ (uid.map fun uid : Nat => (uid : Int)) = some other := by
  refine forall_congr' fun other => ?_
  rw [covered_iff _ pkg.val (by rw [rules]; exact present), moved_shared state pkg uid list rules,
    MatchList.matchesApp, decide_eq_true_eq, InstalledPackages.Device.change_own]

theorem packageChanged_sound (state : State) (cache : Cache) (pkg : Package) (uid : Option Nat)
    (sound : Sound state) : Sound (step state (.packageChanged cache pkg uid)) := by
  by_cases present : matchKey .app pkg ∈ state.list.mMatches
  · have remaps := uidMappingChanged_remaps state.list _ pkg _ _ present rfl
      ((state.device.change pkg uid).getAppByPackage_uid cache pkg)
    exact moved_sound state pkg uid _ sound remaps.rules remaps.keys (fun _ => remaps.own)
      remaps.others
  · have same : (state.list.uidMappingChanged ((state.device.change pkg uid).resolver cache) pkg).2 =
        state.list := by
      rw [MatchList.uidMappingChanged, if_pos present]
    rw [step, same]
    exact moved_sound state pkg uid _ sound rfl rfl
      (fun listed => absurd ((sound.keys ⟨.app, pkg⟩).mpr listed) present) fun _ _ => rfl

/-- The old UID of the package stays with the list if another rule needs it. -/
theorem packageChanged_indexed (state : State) (cache : Cache) (pkg : Package) (uid : Option Nat)
    (sound : Sound state) (indexed : Indexed state) :
    Indexed (step state (.packageChanged cache pkg uid)) ↔
      (⟨.app, pkg⟩ ∈ state.list.mRules → ∀ old, state.device.uidOf pkg = some old →
        (uid.map fun uid : Nat => (uid : Int)) ≠ some old → ¬ Shared state pkg old) := by
  by_cases present : ⟨.app, pkg⟩ ∈ state.list.mRules
  · have remaps := uidMappingChanged_remaps state.list _ pkg _ _ ((sound.keys ⟨.app, pkg⟩).mpr present)
      (sound.mapping ⟨.app, pkg⟩ present rfl)
      ((state.device.change pkg uid).getAppByPackage_uid cache pkg)
    rw [InstalledPackages.Device.change_own] at remaps
    have before : ∀ other, other ∈ state.list.mUids ↔
        Shared state pkg other ∨ state.device.uidOf pkg = some other := by
      intro other
      rw [← covered_iff state pkg present, ← indexed other, MatchList.matchesApp, decide_eq_true_eq]
    have after := moved_indexed state pkg uid
      (state.list.uidMappingChanged ((state.device.change pkg uid).resolver cache) pkg).2
      remaps.rules present
    rw [step, after, remaps.uids, remapped]
    generalize (uid.map fun uid : Nat => (uid : Int)) = new
    simp only [present, true_implies]
    cases known : state.device.uidOf pkg with
    | none =>
        refine iff_of_true (fun other => ?_) (by simp)
        cases new with
        | none => simp [before, known]
        | some uid => simp [before, known, or_comm, eq_comm]
    | some old =>
        -- Only a UID that goes or is replaced is taken out of the set.
        by_cases same : new = some old
        · subst same
          refine iff_of_true (fun other => ?_) (by simp)
          simp [before, known]
        · rw [if_neg fun equal => same equal.symm]
          have members : ∀ other, other ∈ new.elim (state.list.mUids.erase old)
              (fun uid => insert uid (state.list.mUids.erase old)) ↔
              new = some other ∨ other ≠ old ∧ Shared state pkg other := by
            intro other
            have erased : other ∈ state.list.mUids.erase old ↔ other ≠ old ∧ Shared state pkg other := by
              rw [Finset.mem_erase, before, known, Option.some.injEq]
              refine and_congr_right fun different => or_iff_left fun equal => different equal.symm
            cases new with
            | none => simp [erased]
            | some uid => simp [erased, eq_comm]
          simp only [Option.elim_some, members, Option.some.injEq]
          constructor
          · rintro exact' other rfl - shared
            rcases (exact' old).mpr (Or.inl shared) with moved | ⟨different, -⟩
            · exact same moved
            · exact different rfl
          · intro unshared other
            constructor
            · rintro (moved | ⟨-, shared⟩)
              · exact Or.inr moved
              · exact Or.inl shared
            · rintro (shared | moved)
              · refine Or.inr ⟨?_, shared⟩
                rintro rfl
                exact unshared other rfl same shared
              · exact Or.inl moved
  · have absent : matchKey .app pkg ∉ state.list.mMatches :=
      fun member => present ((sound.keys ⟨.app, pkg⟩).mp member)
    have same : (state.list.uidMappingChanged ((state.device.change pkg uid).resolver cache) pkg).2 =
        state.list := by
      rw [MatchList.uidMappingChanged, if_pos absent]
    rw [step, same]
    exact iff_of_true (moved_absent state pkg uid _ rfl rfl present indexed)
      fun member => absurd member present

theorem setUidMapping_spec (list : MatchList) (pkg : String) (uid : Int) :
    (list.setUidMapping pkg uid).mRules = list.mRules ∧
      (list.setUidMapping pkg uid).mMatches = list.mMatches ∧
      (list.setUidMapping pkg uid).mUids = list.mUids ∧
      (list.setUidMapping pkg uid).mPackageToUid.lookup pkg = some uid ∧
      ∀ other, other ≠ pkg →
        (list.setUidMapping pkg uid).mPackageToUid.lookup other = list.mPackageToUid.lookup other := by
  unfold MatchList.setUidMapping
  split
  · exact ⟨rfl, rfl, rfl, AList.lookup_insert _, fun other different =>
      AList.lookup_insert_ne different⟩
  case isFalse same => exact ⟨rfl, rfl, rfl, not_not.mp same, fun _ _ => rfl⟩

theorem mappingChanged_sound (state : State) (pkg : Package) (uid : Nat) (sound : Sound state) :
    Sound (step state (.mappingChanged pkg uid)) := by
  obtain ⟨rules, keys, -, own, others⟩ := setUidMapping_spec state.list pkg uid
  refine moved_sound state pkg (some uid) _ sound rules keys (fun _ => ?_) others
  rw [own, InstalledPackages.Device.change_own]
  rfl

/-- This form leaves the UIDs alone, so the new UID must be there, and the old one be needed. -/
theorem mappingChanged_indexed (state : State) (pkg : Package) (uid : Nat) (indexed : Indexed state) :
    Indexed (step state (.mappingChanged pkg uid)) ↔
      (⟨.app, pkg⟩ ∈ state.list.mRules → state.device.uidOf pkg ≠ some (uid : Int) →
        Shared state pkg uid ∧ ∀ old, state.device.uidOf pkg = some old → Shared state pkg old) := by
  obtain ⟨rules, -, uids, -⟩ := setUidMapping_spec state.list pkg uid
  by_cases present : ⟨.app, pkg⟩ ∈ state.list.mRules
  · have before : ∀ other, other ∈ state.list.mUids ↔
        Shared state pkg other ∨ state.device.uidOf pkg = some other := by
      intro other
      rw [← covered_iff state pkg present, ← indexed other, MatchList.matchesApp, decide_eq_true_eq]
    rw [step, moved_indexed state pkg (some uid) _ rules present, uids]
    simp only [before, present, true_implies, Option.map_some, Option.some.injEq]
    constructor
    · intro exact' different
      refine ⟨?_, fun old known => ?_⟩
      · exact ((exact' uid).mpr (Or.inr rfl)).resolve_right different
      · refine ((exact' old).mp (Or.inr known)).resolve_right ?_
        rintro rfl
        exact different known
    · intro shared other
      by_cases same : state.device.uidOf pkg = some (uid : Int)
      · rw [same, Option.some.injEq]
      · obtain ⟨new, old⟩ := shared same
        constructor
        · rintro (needed | known)
          · exact Or.inl needed
          · exact Or.inl (old other known)
        · rintro (needed | rfl)
          · exact Or.inl needed
          · exact Or.inl new
  · exact iff_of_true (moved_absent state pkg (some uid) _ rules uids present indexed)
      fun member => absurd member present

end Mapping

section Runs

/-- No operation drops a UID which another rule needs, and `uidMappingChanged` with a UID is
    called only where the UIDs stay the same. -/
def Unshared (state : State) : Event → Prop
  | .removeRule _ rule => rule ∈ state.list.mRules → rule.tp = .app → ∀ uid,
      state.device.uidOf rule.value = some uid → ¬ Shared state rule.value uid
  | .packageChanged _ pkg uid => ⟨.app, pkg⟩ ∈ state.list.mRules → ∀ old,
      state.device.uidOf pkg = some old → (uid.map fun uid : Nat => (uid : Int)) ≠ some old →
        ¬ Shared state pkg old
  | .mappingChanged pkg uid => ⟨.app, pkg⟩ ∈ state.list.mRules →
      state.device.uidOf pkg ≠ some (uid : Int) →
        Shared state pkg uid ∧ ∀ old, state.device.uidOf pkg = some old → Shared state pkg old
  | _ => True

theorem step_sound (state : State) (event : Event) (sound : Sound state) :
    Sound (step state event) := by
  cases event with
  | addRule cache rule => exact addRule_sound state cache rule sound
  | removeRule cache rule => exact removeRule_sound state cache rule sound
  | packageChanged cache pkg uid => exact packageChanged_sound state cache pkg uid sound
  | mappingChanged pkg uid => exact mappingChanged_sound state pkg uid sound
  | clear =>
      exact {
        keys := fun rule => by simp [step, MatchList.clear]
        stored := fun key member => absurd member (AList.notMem_empty key)
        distinct := List.nodup_nil
        mapping := fun rule member => absurd member List.not_mem_nil }

theorem step_indexed (state : State) (event : Event) (sound : Sound state) (indexed : Indexed state) :
    Indexed (step state event) ↔ Unshared state event := by
  cases event with
  | addRule cache rule => exact iff_of_true (addRule_indexed state cache rule sound indexed) trivial
  | removeRule cache rule => exact removeRule_indexed state cache rule sound indexed
  | packageChanged cache pkg uid => exact packageChanged_indexed state cache pkg uid sound indexed
  | mappingChanged pkg uid => exact mappingChanged_indexed state pkg uid indexed
  | clear =>
      refine iff_of_true (fun uid => ?_) trivial
      simp [step, MatchList.clear, MatchList.matchesApp, Covered]

theorem empty_sound (device : Device) : Sound { device } where
  keys := fun rule => by simp
  stored := fun key member => absurd member (AList.notMem_empty key)
  distinct := List.nodup_nil
  mapping := fun rule member => absurd member List.not_mem_nil

theorem empty_indexed (device : Device) : Indexed { device } := by
  intro uid
  simp [MatchList.matchesApp, Covered]

theorem run_sound (state : State) (events : List Event) (sound : Sound state) :
    Sound (run step state events) :=
  Machine.run_invariant_always step Sound step_sound state events sound

/-- `matchesApp` is right in all states reached if and only if the UIDs that are dropped are not
    needed by another rule; the keys are those of the rules in any case. -/
theorem index_iff (device : Device) (events : List Event) :
    ((∀ reached, reached <+: events → Indexed (run step { device } reached)) ↔
      Along step Unshared { device } events) ∧
    ((run step { device } events).list.mMatches.keys.Perm
      ((run step { device } events).list.mRules.map fun rule => matchKey rule.tp rule.value)) := by
  refine ⟨?_, keys_perm _ (run_sound { device } events (empty_sound device))⟩
  have both := Machine.reached_iff step Unshared (fun state => Sound state ∧ Indexed state)
    (fun state event holds => by
      rw [and_iff_right (step_sound state event holds.1), step_indexed state event holds.1 holds.2])
    { device } events ⟨empty_sound device, empty_indexed device⟩
  rw [← both]
  refine forall₂_congr fun reached _ => ?_
  rw [and_iff_right (run_sound { device } reached (empty_sound device))]

def twoPackages : Device where
  installed := (AList.singleton "com.example.a" 10100).insert "com.example.b" 10100
  named := by
    intro name member
    rcases (AList.mem_insert _).mp member with rfl | rest
    · exact ⟨_, _, rfl, by decide⟩
    · obtain rfl : name = "com.example.a" := by
        rw [AList.mem_keys, AList.keys_singleton] at rest
        exact List.mem_singleton.mp rest
      exact ⟨_, _, rfl, by decide⟩

def removeOne : List Event :=
  [.addRule {} ⟨.app, "com.example.a"⟩, .addRule {} ⟨.app, "com.example.b"⟩,
    .removeRule {} ⟨.app, "com.example.a"⟩]

/-- The rule for the second package is left, and its UID does not match any more. -/
theorem removeOne_unmatched : ¬ Indexed (run step { device := twoPackages } removeOne) := by
  intro indexed
  have covered : Covered (run step { device := twoPackages } removeOne) 10100 :=
    ⟨⟨.app, "com.example.b"⟩, by decide +kernel, rfl, by decide +kernel⟩
  have unmatched : (run step { device := twoPackages } removeOne).list.matchesApp 10100 = false := by
    decide +kernel
  rw [(indexed 10100).mpr covered] at unmatched
  cases unmatched

end Runs

end Ptnet.MatchIndex
