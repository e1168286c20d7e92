import Ptnet.MatchLists

/-!
The blocked apps on the two sides of the JNI boundary: a `Blocklist` after any sequence of
operations, and the native blacklist loaded from its `toListDescriptor`. The descriptor
carries package names, the loader reads numbers.
-/

namespace Ptnet.BlockedApps

open Connection MatchLists NativeBlacklist

/-- One call on a `Blocklist`, with the resolver or the clock it meets. -/
inductive Operation where
  | addRule (resolver : AppsResolver) (rule : Rule)
  | removeRule (resolver : AppsResolver) (rule : Rule)
  | addApp (resolver : AppsResolver) (uid : Int)
  | removeApp (resolver : AppsResolver) (uid : Int)
  | clear
  | setUidMapping (pkg : String) (uid : Int)
  | uidMappingChanged (resolver : AppsResolver) (pkg : String)
  | unblockAppForMinutes (elapsedRealtime uid minutes : Int)
  | checkGracePeriods (elapsedRealtime : Int)

def step (bl : Blocklist) : Operation → Blocklist
  | .addRule resolver rule => { bl with list := (bl.list.addRule resolver rule).2 }
  | .removeRule resolver rule => { bl with list := (bl.list.removeRule resolver rule).2 }
  | .addApp resolver uid => (bl.addApp resolver uid).2
  | .removeApp resolver uid => bl.removeApp resolver uid
  | .clear => { bl with list := bl.list.clear }
  | .setUidMapping pkg uid => { bl with list := bl.list.setUidMapping pkg uid }
  | .uidMappingChanged resolver pkg => { bl with list := (bl.list.uidMappingChanged resolver pkg).2 }
  | .unblockAppForMinutes now uid minutes => (bl.unblockAppForMinutes now uid minutes).2
  | .checkGracePeriods now => (bl.checkGracePeriods now).2

def AppsNamed (list : MatchList) : Prop :=
  ∀ rule ∈ list.mRules, rule.tp = .app → PackageName rule.value

theorem addRule_named (list : MatchList) (resolver : AppsResolver) (rule : Rule)
    (named : AppsNamed list) : AppsNamed (list.addRule resolver rule).2 := by
  have extend (rules : List Rule) (same : rules = list.mRules ++ [rule])
      (valid : rule.tp = .app → PackageName rule.value) :
      ∀ other ∈ rules, other.tp = .app → PackageName other.value := by
    subst same
    intro other member
    rcases List.mem_append.mp member with old | new
    · exact named other old
    · rw [List.mem_singleton.mp new]
      exact valid
  simp only [MatchList.addRule]
  split
  · exact named
  · split
    · split
      · exact named
      · next known => exact extend _ rfl fun _ => resolver.getUid_named rule.value known
    · next other => exact extend _ rfl fun app => absurd app other

theorem removeRule_named (list : MatchList) (resolver : AppsResolver) (rule : Rule)
    (named : AppsNamed list) : AppsNamed (list.removeRule resolver rule).2 := by
  have shrink : ∀ other ∈ list.mRules.erase rule, other.tp = .app → PackageName other.value :=
    fun other member => named other (List.mem_of_mem_erase member)
  simp only [MatchList.removeRule]
  split
  · split
    · exact shrink
    · exact shrink
  · exact named

theorem uidMappingChanged_rules (list : MatchList) (resolver : AppsResolver) (pkg : String) :
    (list.uidMappingChanged resolver pkg).2.mRules = list.mRules := by
  have dropped (stale : Option Int) : (list.dropMapping pkg stale).mRules = list.mRules := by
    cases stale <;> rfl
  simp only [MatchList.uidMappingChanged]
  split
  · rfl
  · split
    · exact dropped _
    · exact dropped _

theorem step_named (bl : Blocklist) (operation : Operation) (named : AppsNamed bl.list) :
    AppsNamed (step bl operation).list := by
  cases operation with
  | addRule resolver rule => exact addRule_named _ _ _ named
  | removeRule resolver rule => exact removeRule_named _ _ _ named
  | addApp resolver uid =>
      simp only [step, Blocklist.addApp, MatchList.addApp]
      split
      · exact addRule_named _ _ _ named
      · exact named
  | removeApp resolver uid =>
      simp only [step, Blocklist.removeApp, MatchList.removeApp]
      split
      · exact removeRule_named _ _ _ named
      · exact named
  | clear =>
      intro rule member
      cases member
  | setUidMapping pkg uid =>
      simp only [step, MatchList.setUidMapping]
      split <;> exact named
  | uidMappingChanged resolver pkg =>
      intro rule member
      rw [step, uidMappingChanged_rules] at member
      exact named rule member
  | unblockAppForMinutes now uid minutes => exact named
  | checkGracePeriods now => exact named

theorem run_named (operations : List Operation) :
    AppsNamed (Machine.run step {} operations).list := by
  apply Machine.run_invariant_always step (fun bl => AppsNamed bl.list) step_named
  intro rule member
  cases member

/-- The UIDs a named list puts into the native blacklist: at most 0. -/
theorem descriptor_uids (list : MatchList) (named : AppsNamed list) (uid : Int) :
    (∃ item ∈ list.toListDescriptor.apps, atoi item = uid) ↔
      uid = 0 ∧ ∃ rule ∈ list.mRules, rule.tp = .app := by
  have zero : ∀ rule ∈ list.mRules, rule.tp = .app → atoi rule.value = 0 := by
    intro rule member app
    obtain ⟨first, rest, name, letter⟩ := named rule member app
    exact atoi_letter rule.value first rest name letter
  simp only [MatchList.toListDescriptor, MatchList.descriptorItems, List.mem_map,
    List.mem_filter, decide_eq_true_eq]
  constructor
  · rintro ⟨item, ⟨rule, ⟨member, app⟩, rfl⟩, rfl⟩
    exact ⟨zero rule member app, rule, member, app⟩
  · rintro ⟨rfl, rule, member, app⟩
    exact ⟨rule.value, ⟨rule, ⟨member, app⟩, rfl⟩, zero rule member app⟩

/-- When the two sides agree about a UID: root is blocked exactly if there is some APP
    rule, every other UID is unblocked or in its grace period. -/
def Agreeing (bl : Blocklist) (uid : Int) : Prop :=
  if uid = 0 then
    (∃ rule ∈ bl.list.mRules, rule.tp = .app) ↔ 0 ∈ bl.list.mUids ∧ 0 ∉ bl.mUidToGrace
  else uid ∉ bl.list.mUids ∨ uid ∈ bl.mUidToGrace

theorem blocklist_agrees_iff (operations : List Operation) (uid : Int)
    (apps hosts ips : Environment)
    (complete : (blLoadListOfType apps {}
      (Machine.run step {} operations).list.toListDescriptor.apps .uid).1 ≠ -1) :
    ((blacklistLoadListDescriptor apps hosts ips {}
        (Machine.run step {} operations).list.toListDescriptor).2.matchUid uid =
      (Machine.run step {} operations).matchesApp uid) ↔
      Agreeing (Machine.run step {} operations) uid := by
  have named := run_named operations
  generalize Machine.run step {} operations = bl at named complete ⊢
  rw [Bool.eq_iff_iff, loadListDescriptor_matchUid apps hosts ips _ uid complete,
    descriptor_uids bl.list named uid]
  simp only [Blocklist.matchesApp, Blocklist.isExemptedApp, MatchList.matchesApp, Agreeing,
    Bool.and_eq_true, Bool.not_eq_true', decide_eq_true_eq, decide_eq_false_iff_not]
  by_cases root : uid = 0
  · subst root
    simp
  · simp [root, imp_iff_not_or]

/-- A package manager with the single package `com.example.app`, UID 10123. -/
def oneApp : AppsResolver where
  apps := []
  getPackageUid name := if name = "com.example.app" then some 10123 else none
  getPackagesForUid uid := if uid = 10123 then ["com.example.app"] else []
  resolveInstalledApp _ name := if name = "com.example.app" then some 10123 else none
  appsNamed := by simp
  packagesNamed := by
    intro name uid known
    by_cases same : name = "com.example.app"
    · exact ⟨'c', "om.example.app".toList, by rw [same]; rfl, by decide⟩
    · simp [same] at known

def graceStarted : List Operation := [.addApp oneApp 10123, .unblockAppForMinutes 0 10123 10]

def graceOver : List Operation := graceStarted ++ [.checkGracePeriods 600001]

/-- While the grace period lasts the two sides agree, once it is over they do not. -/
theorem blocklist_agrees_grace :
    (blacklistLoadListDescriptor .plenty .plenty .plenty {}
        (Machine.run step {} graceStarted).list.toListDescriptor).2.matchUid 10123 =
      (Machine.run step {} graceStarted).matchesApp 10123 ∧
    (blacklistLoadListDescriptor .plenty .plenty .plenty {}
        (Machine.run step {} graceOver).list.toListDescriptor).2.matchUid 10123 ≠
      (Machine.run step {} graceOver).matchesApp 10123 := by
  constructor
  · refine (blocklist_agrees_iff graceStarted 10123 .plenty .plenty .plenty
      (by decide +kernel)).mpr ?_
    rw [Agreeing, if_neg (by decide)]
    exact Or.inr (by decide +kernel)
  · rw [Ne, blocklist_agrees_iff graceOver 10123 .plenty .plenty .plenty
      (by decide +kernel), Agreeing, if_neg (by decide)]
    decide +kernel

/-- The only rule blocks UID 10123 in Kotlin and UID 0 in the native blacklist. -/
theorem blockedApp_not_loaded :
    ¬ ∀ (operations : List Operation) (uid : Int) (apps hosts ips : Environment),
      (blLoadListOfType apps {}
        (Machine.run step {} operations).list.toListDescriptor.apps .uid).1 ≠ -1 →
      ((blacklistLoadListDescriptor apps hosts ips {}
          (Machine.run step {} operations).list.toListDescriptor).2.matchUid uid = true ↔
        (Machine.run step {} operations).matchesApp uid = true) := by
  intro agree
  have same := agree [.addRule oneApp ⟨.app, "com.example.app"⟩] 10123 .plenty .plenty
    .plenty (by decide)
  revert same
  decide

end Ptnet.BlockedApps
