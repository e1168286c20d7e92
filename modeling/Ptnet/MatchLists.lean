import Mathlib.Data.List.AList
import Mathlib.Data.Finset.Basic
import Ptnet.Connection
import Ptnet.Machine
import Ptnet.NativeBlacklist

/-!
`MatchList` and its subclass `Blocklist`, with the `AppsResolver` they consult. The
resolver is an argument of every operation, since installed packages and the resolver's
cache change between calls. Listeners and labels are left out; JSON import reaches the
list through `addRule`.
-/

namespace Ptnet.MatchLists

open Connection (UID_NO_FILTER)
open NativeBlacklist

structure AppDescriptor where
  packageName : String
  uid : Int
  deriving DecidableEq, Repr

/-- Package names, real or virtual, begin with a letter. -/
def PackageName (name : String) : Prop :=
  ∃ first rest, name.toList = first :: rest ∧ first.isAlpha = true

/-- `AppsResolver`: its cache `mApps` and what the package manager answers. Android
    refuses to install a package whose name does not begin with a letter, and the virtual
    apps of `initVirtualApps` have such names too. -/
structure AppsResolver where
  apps : List AppDescriptor
  getPackageUid : String → Option Int
  getPackagesForUid : Int → List String
  resolveInstalledApp : Int → String → Option Int
  appsNamed : ∀ app ∈ apps, PackageName app.packageName
  packagesNamed : ∀ name uid, getPackageUid name = some uid → PackageName name

namespace AppsResolver

def getUid (resolver : AppsResolver) (packageName : String) : Int :=
  if ¬ '.' ∈ packageName.toList then
    match resolver.apps.find? fun app => app.packageName = packageName with
    | some app => app.uid
    | none => UID_NO_FILTER
  else (resolver.getPackageUid packageName).getD UID_NO_FILTER

/-- The least of the package names of a UID. -/
def leastPackage : List String → Option String
  | [] => none
  | first :: rest => some (rest.foldl (fun least name => if name < least then name else least) first)

def getAppByUid (resolver : AppsResolver) (uid : Int) : Option AppDescriptor :=
  match resolver.apps.find? fun app => app.uid = uid with
  | some app => some app
  | none =>
      match leastPackage (resolver.getPackagesForUid uid) with
      | none => none
      | some name => (resolver.resolveInstalledApp uid name).map fun found => ⟨name, found⟩

def getAppByPackage (resolver : AppsResolver) (packageName : String) : Option AppDescriptor :=
  if resolver.getUid packageName = UID_NO_FILTER then none
  else resolver.getAppByUid (resolver.getUid packageName)

theorem getUid_named (resolver : AppsResolver) (name : String)
    (known : resolver.getUid name ≠ UID_NO_FILTER) : PackageName name := by
  unfold getUid at known
  split at known
  · cases found : resolver.apps.find? fun app => app.packageName = name with
    | none => simp [found] at known
    | some app =>
        have same : app.packageName = name := by
          simpa using List.find?_some found
        rw [← same]
        exact resolver.appsNamed app (List.mem_of_find?_eq_some found)
  · cases found : resolver.getPackageUid name with
    | none => simp [found] at known
    | some uid => exact resolver.packagesNamed name uid found

end AppsResolver

namespace Utils

def cleanDomain (input : String) : String :=
  if "www.".toList.isPrefixOf input.toList then String.ofList (input.toList.drop 4) else input

def lastIndexOfDot (chars : List Char) : Option Nat := memrchrDot chars chars.length

def getSecondLevelDomain (domain : String) : String :=
  match lastIndexOfDot domain.toList with
  | none => domain
  | some tldPos =>
      if tldPos = 0 then domain
      else match lastIndexOfDot (domain.toList.take tldPos) with
        | none => domain
        | some rootPos =>
            if rootPos = 0 then domain else String.ofList (domain.toList.drop (rootPos + 1))

end Utils

inductive RuleType where
  | app
  | ip
  | host
  | protocol
  | country
  deriving DecidableEq, Repr

def RuleType.name : RuleType → String
  | app => "APP"
  | ip => "IP"
  | host => "HOST"
  | protocol => "PROTOCOL"
  | country => "COUNTRY"

structure Rule where
  tp : RuleType
  value : String
  deriving DecidableEq, Repr

def matchKey (tp : RuleType) (value : String) : String := tp.name ++ "@" ++ value

/-- The indexes of a `MatchList`: `mRules`, `mMatches`, `mUids` and `mPackageToUid`. -/
structure MatchList where
  mRules : List Rule := []
  mMatches : AList (fun _ : String => Rule) := ∅
  mUids : Finset Int := ∅
  mPackageToUid : AList (fun _ : String => Int) := ∅

namespace MatchList

/-- `addRule`; the result tells whether the rule is new. -/
def addRule (list : MatchList) (resolver : AppsResolver) (rule : Rule) : Bool × MatchList :=
  let key := matchKey rule.tp rule.value
  if key ∈ list.mMatches then (false, list)
  else if rule.tp = .app then
    let uid := resolver.getUid rule.value
    if uid = UID_NO_FILTER then (false, list)
    else
      (true,
        { mRules := list.mRules ++ [rule]
          mMatches := list.mMatches.insert key rule
          mUids := insert uid list.mUids
          mPackageToUid := list.mPackageToUid.insert rule.value uid })
  else
    (true,
      { list with
        mRules := list.mRules ++ [rule]
        mMatches := list.mMatches.insert key rule })

def removeRule (list : MatchList) (resolver : AppsResolver) (rule : Rule) : Bool × MatchList :=
  let key := matchKey rule.tp rule.value
  if key ∈ list.mMatches then
    let kept :=
      { list with
        mRules := list.mRules.erase rule
        mMatches := list.mMatches.erase key }
    if rule.tp = .app then
      (true,
        { kept with
          mPackageToUid := list.mPackageToUid.erase rule.value
          mUids := list.mUids.erase (resolver.getUid rule.value) })
    else (true, kept)
  else (false, list)

def addApp (list : MatchList) (resolver : AppsResolver) (uid : Int) : Bool × MatchList :=
  match resolver.getAppByUid uid with
  | some app => list.addRule resolver ⟨.app, app.packageName⟩
  | none => (false, list)

def addHost (list : MatchList) (resolver : AppsResolver) (info : String) : Bool × MatchList :=
  list.addRule resolver ⟨.host, Utils.cleanDomain info⟩

def removeApp (list : MatchList) (resolver : AppsResolver) (uid : Int) : MatchList :=
  match resolver.getAppByUid uid with
  | some app => (list.removeRule resolver ⟨.app, app.packageName⟩).2
  | none => list

def clear (_ : MatchList) : MatchList := {}

/-- `uidMappingChanged(pkg, uid)` -/
def setUidMapping (list : MatchList) (pkg : String) (uid : Int) : MatchList :=
  if list.mPackageToUid.lookup pkg ≠ some uid then
    { list with mPackageToUid := list.mPackageToUid.insert pkg uid }
  else list

def dropMapping (list : MatchList) (pkg : String) : Option Int → MatchList
  | some uid =>
      { list with
        mPackageToUid := list.mPackageToUid.erase pkg
        mUids := list.mUids.erase uid }
  | none => list

def uidMappingChanged (list : MatchList) (resolver : AppsResolver) (pkg : String) :
    Bool × MatchList :=
  if matchKey .app pkg ∉ list.mMatches then (false, list)
  else
    let app := resolver.getAppByPackage pkg
    let stale := (list.mPackageToUid.lookup pkg).filter fun uid => app.map (·.uid) != some uid
    let cleaned := list.dropMapping pkg stale
    match cleaned.mPackageToUid.lookup pkg, app with
    | none, some found =>
        (true,
          { cleaned with
            mPackageToUid := cleaned.mPackageToUid.insert pkg found.uid
            mUids := insert found.uid cleaned.mUids })
    | _, _ => (stale.isSome, cleaned)

def matchesApp (list : MatchList) (uid : Int) : Bool := uid ∈ list.mUids

/-- `matchesExactHost`, which cleans the host once more. -/
def matchesExactHost (list : MatchList) (host : String) : Bool :=
  matchKey .host (Utils.cleanDomain host) ∈ list.mMatches

def matchesHost (list : MatchList) (host : String) : Bool :=
  let cleanedHost := Utils.cleanDomain host
  if list.matchesExactHost cleanedHost then true
  else
    let domain := Utils.getSecondLevelDomain cleanedHost
    decide (domain ≠ host) && decide (matchKey .host domain ∈ list.mMatches)

def descriptorItems (list : MatchList) (tp : RuleType) : List String :=
  (list.mRules.filter fun rule => rule.tp = tp).map (·.value)

/-- `toListDescriptor`: the values of the rules, by type and in order. -/
def toListDescriptor (list : MatchList) : ListDescriptor where
  apps := list.descriptorItems .app
  hosts := list.descriptorItems .host
  ips := list.descriptorItems .ip

end MatchList

/-- `Blocklist`: a `MatchList` with the end of the grace period of each exempted UID. -/
structure Blocklist where
  list : MatchList := {}
  mUidToGrace : AList (fun _ : Int => Int) := ∅

namespace Blocklist

def unblockAppForMinutes (bl : Blocklist) (elapsedRealtime uid minutes : Int) :
    Bool × Blocklist :=
  (decide (uid ∉ bl.mUidToGrace),
    { bl with mUidToGrace := bl.mUidToGrace.insert uid (elapsedRealtime + minutes * 60000) })

/-- `checkGracePeriods` removes each entry whose deadline has passed. -/
def checkGracePeriods (bl : Blocklist) (elapsedRealtime : Int) : Bool × Blocklist :=
  let expired := bl.mUidToGrace.entries.filter fun entry => entry.2 ≤ elapsedRealtime
  (!expired.isEmpty,
    { bl with mUidToGrace := expired.foldl (fun grace entry => grace.erase entry.1) bl.mUidToGrace })

def isExemptedApp (bl : Blocklist) (uid : Int) : Bool := uid ∈ bl.mUidToGrace

def matchesApp (bl : Blocklist) (uid : Int) : Bool :=
  bl.list.matchesApp uid && !bl.isExemptedApp uid

def addApp (bl : Blocklist) (resolver : AppsResolver) (uid : Int) : Bool × Blocklist :=
  let (added, list) := bl.list.addApp resolver uid
  (added, { list := list, mUidToGrace := bl.mUidToGrace.erase uid })

def removeApp (bl : Blocklist) (resolver : AppsResolver) (uid : Int) : Blocklist :=
  { list := bl.list.removeApp resolver uid, mUidToGrace := bl.mUidToGrace.erase uid }

end Blocklist

end Ptnet.MatchLists
