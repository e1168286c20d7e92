import Ptnet.MatchLists

/-!
The packages on a device, and what an `AppsResolver` answers about them: the UID of a package, and
the app that stands for a UID. Several packages can share a UID.
-/

namespace Ptnet.InstalledPackages

open Connection (UID_NO_FILTER UID_UNKNOWN)
open MatchLists (AppDescriptor AppsResolver PackageName)

def virtualApps : List AppDescriptor :=
  [⟨"unknown", UID_UNKNOWN⟩, ⟨"root", 0⟩, ⟨"android", 1000⟩, ⟨"phone", 1001⟩, ⟨"mediaserver", 1013⟩,
    ⟨"multicastdnsresponder", 1020⟩, ⟨"gps", 1021⟩, ⟨"netd", 1051⟩, ⟨"nobody", 9999⟩]

theorem nothing_found (app : AppDescriptor) (member : app ∈ ([] : List AppDescriptor)) :
    PackageName app.packageName ∧ '.' ∈ app.packageName.toList :=
  absurd member List.not_mem_nil

/-- The apps that a resolver has found before, which it does not look up again. -/
structure Cache where
  apps : List AppDescriptor := []
  found : ∀ app ∈ apps, PackageName app.packageName ∧ '.' ∈ app.packageName.toList := by
    exact Ptnet.InstalledPackages.nothing_found

structure Device where
  installed : AList (fun _ : String => Nat)
  named : ∀ name ∈ installed, PackageName name

/-- Android installs no package whose name has no dot. -/
abbrev Package := {name : String // PackageName name ∧ '.' ∈ name.toList}

namespace Device

theorem virtual_named : ∀ app ∈ virtualApps, PackageName app.packageName := by
  intro app member
  simp only [virtualApps, List.mem_cons, List.not_mem_nil, or_false] at member
  rcases member with rfl | rfl | rfl | rfl | rfl | rfl | rfl | rfl | rfl <;>
    exact ⟨_, _, rfl, by decide⟩

def resolver (device : Device) (cache : Cache) : AppsResolver where
  apps := virtualApps ++ cache.apps
  getPackageUid name := (device.installed.lookup name).map fun uid : Nat => (uid : Int)
  getPackagesForUid uid :=
    (device.installed.entries.filter fun entry => (entry.2 : Int) = uid).map fun entry => entry.1
  resolveInstalledApp _ name := (device.installed.lookup name).map fun uid : Nat => (uid : Int)
  appsNamed := by
    intro app member
    rcases List.mem_append.mp member with fixed | found
    · exact virtual_named app fixed
    · exact (cache.found app found).1
  packagesNamed := by
    intro name uid known
    obtain ⟨number, found, -⟩ := Option.map_eq_some_iff.mp known
    exact device.named name (AList.lookup_isSome.mp (by rw [found]; rfl))

def uidOf (device : Device) (name : String) : Option Int :=
  if '.' ∈ name.toList then (device.installed.lookup name).map fun uid : Nat => (uid : Int)
  else (virtualApps.find? fun app => app.packageName = name).map fun app => app.uid

/-- A package is installed, removed, or installed again with another UID. -/
def change (device : Device) (pkg : Package) : Option Nat → Device
  | some uid =>
      { installed := device.installed.insert pkg uid
        named := by
          intro name member
          rcases (AList.mem_insert _).mp member with rfl | old
          · exact pkg.property.1
          · exact device.named name old }
  | none =>
      { installed := device.installed.erase pkg
        named := fun name member => device.named name (AList.mem_erase.mp member).2 }

theorem change_own (device : Device) (pkg : Package) (uid : Option Nat) :
    (device.change pkg uid).uidOf pkg = uid.map fun uid : Nat => (uid : Int) := by
  rw [uidOf, if_pos pkg.property.2]
  cases uid with
  | some uid => rw [change, AList.lookup_insert]
  | none => rw [change, AList.lookup_erase]

theorem change_other (device : Device) (pkg : Package) (uid : Option Nat) (name : String)
    (other : name ≠ pkg) :
    (device.change pkg uid).uidOf name = device.uidOf name := by
  cases uid with
  | some uid => simp only [uidOf, change, AList.lookup_insert_ne other]
  | none => simp only [uidOf, change, AList.lookup_erase_ne other]

theorem virtual_filter : ∀ app ∈ virtualApps, app.uid ≠ UID_NO_FILTER := by decide

theorem uidOf_filter (device : Device) (name : String) : device.uidOf name ≠ some UID_NO_FILTER := by
  intro same
  rw [uidOf] at same
  split at same
  · obtain ⟨number, -, equal⟩ := Option.map_eq_some_iff.mp same
    rw [UID_NO_FILTER] at equal
    omega
  · obtain ⟨app, found, equal⟩ := Option.map_eq_some_iff.mp same
    exact virtual_filter app (List.mem_of_find?_eq_some found) equal

theorem getUid_eq (device : Device) (cache : Cache) (name : String) :
    (device.resolver cache).getUid name = (device.uidOf name).getD UID_NO_FILTER := by
  rw [AppsResolver.getUid, uidOf]
  by_cases dotted : '.' ∈ name.toList
  · rw [if_neg (not_not.mpr dotted), if_pos dotted]
    rfl
  · have absent : cache.apps.find? (fun app => app.packageName = name) = none := by
      refine List.find?_eq_none.mpr fun app member same => dotted ?_
      rw [← of_decide_eq_true same]
      exact (cache.found app member).2
    have apps : (device.resolver cache).apps = virtualApps ++ cache.apps := rfl
    rw [if_pos dotted, if_neg dotted, apps, List.find?_append, absent, Option.or_none]
    cases virtualApps.find? (fun app => app.packageName = name) <;> rfl

theorem getUid_known (device : Device) (cache : Cache) (name : String) :
    (device.resolver cache).getUid name ≠ UID_NO_FILTER ↔
      device.uidOf name = some ((device.resolver cache).getUid name) := by
  have never := device.uidOf_filter name
  rw [getUid_eq]
  cases known : device.uidOf name with
  | none => simp
  | some uid =>
      rw [known] at never
      exact iff_of_true (fun same => never (congrArg some same)) rfl

theorem leastPackage_mem (names : List String) (least : String)
    (found : AppsResolver.leastPackage names = some least) : least ∈ names := by
  cases names with
  | nil => cases found
  | cons first rest =>
      cases found
      suffices general : ∀ start ∈ first :: rest,
          rest.foldl (fun least name => if name < least then name else least) start ∈
            first :: rest from general first List.mem_cons_self
      have within : ∀ name ∈ rest, name ∈ first :: rest := fun _ => List.mem_cons_of_mem _
      generalize first :: rest = all at within ⊢
      induction rest with
      | nil => exact fun start member => member
      | cons name rest ih =>
          intro start member
          refine ih (fun other inner => within other (List.mem_cons_of_mem _ inner)) _ ?_
          dsimp only
          split
          · exact within name List.mem_cons_self
          · exact member

/-- The app that stands for the UID of a package has that UID. -/
theorem getAppByUid_uid (device : Device) (cache : Cache) (name : String) (uid : Int)
    (known : device.uidOf name = some uid) :
    ∃ app, (device.resolver cache).getAppByUid uid = some app ∧ app.uid = uid := by
  rw [AppsResolver.getAppByUid]
  cases cached : (device.resolver cache).apps.find? (fun app => app.uid = uid) with
  | some app => exact ⟨app, rfl, by simpa using List.find?_some cached⟩
  | none =>
      -- No virtual app has the UID, so the package is an installed one.
      have installed : ∃ number, device.installed.lookup name = some number ∧ (number : Int) = uid := by
        rw [uidOf] at known
        split at known
        · exact Option.map_eq_some_iff.mp known
        · obtain ⟨app, found, same⟩ := Option.map_eq_some_iff.mp known
          have listed : app ∈ (device.resolver cache).apps :=
            List.mem_append_left _ (List.mem_of_find?_eq_some found)
          exact absurd (decide_eq_true same) (List.find?_eq_none.mp cached app listed)
      obtain ⟨number, found, same⟩ := installed
      have member : name ∈ (device.resolver cache).getPackagesForUid uid := by
        refine List.mem_map.mpr ⟨⟨name, number⟩, List.mem_filter.mpr ⟨?_, decide_eq_true same⟩, rfl⟩
        exact AList.mem_lookup_iff.mp found
      cases least : AppsResolver.leastPackage ((device.resolver cache).getPackagesForUid uid) with
      | none =>
          cases names : (device.resolver cache).getPackagesForUid uid with
          | nil => rw [names] at member; cases member
          | cons first rest => rw [names] at least; cases least
      | some chosen =>
          have chosenMember := leastPackage_mem _ chosen least
          obtain ⟨entry, inside, rfl⟩ := List.mem_map.mp chosenMember
          obtain ⟨stored, equal⟩ := List.mem_filter.mp inside
          have lookup : device.installed.lookup entry.1 = some entry.2 :=
            AList.mem_lookup_iff.mpr stored
          have resolved : (device.resolver cache).resolveInstalledApp uid entry.1 = some uid := by
            rw [← of_decide_eq_true equal]
            exact congrArg (Option.map fun uid : Nat => (uid : Int)) lookup
          refine ⟨⟨entry.1, uid⟩, ?_, rfl⟩
          dsimp only
          rw [resolved]
          rfl

theorem getAppByPackage_uid (device : Device) (cache : Cache) (name : String) :
    ((device.resolver cache).getAppByPackage name).map AppDescriptor.uid = device.uidOf name := by
  rw [AppsResolver.getAppByPackage]
  cases known : device.uidOf name with
  | none =>
      rw [getUid_eq, known]
      rfl
  | some uid =>
      have same : (device.resolver cache).getUid name = uid := by
        rw [getUid_eq, known]
        rfl
      have valid : uid ≠ UID_NO_FILTER := fun same => device.uidOf_filter name (same ▸ known)
      obtain ⟨app, found, equal⟩ := device.getAppByUid_uid cache name uid known
      rw [same, if_neg valid, found]
      exact congrArg some equal

end Device

end Ptnet.InstalledPackages
