import Ptnet.ListImport
import Ptnet.MatchIndex

/-!
A `MatchList` and the preference under which it is saved: the text it writes, and the constructor,
which reads it back. The initialisation of an object runs its init blocks before the body of
the constructor.
-/

namespace Ptnet.ListPersistence

open InstalledPackages (Cache Device)
open ListImport (JsonElement Platform Target fromJson importRules importedRule currentPackage
  readRule ruleOf addRules)
open MatchLists (AppsResolver MatchList PackageName Rule RuleType matchKey)

structure Gson extends Platform where
  toJson : JsonElement → String

abbrev Preferences := String → Option String

inductive Exception where
  | nullPointer
  deriving DecidableEq, Repr

/-- The fields that the body of the constructor sets: `mPrefs` with `mPrefName`, and `mResolver`. -/
structure Context where
  mPrefName : String
  mResolver : AppsResolver

/-- The object; its fields are null before the body of the constructor. -/
structure Object where
  context : Option Context := none
  target : Target := { list := {} }

section Code

variable (gson : Gson)

def ruleObject (rule : Rule) : JsonElement :=
  .object [("type", .primitive rule.tp.name), ("value", .primitive rule.value)]

def serialize (src : MatchList) : JsonElement :=
  .object [("rules", .array (src.mRules.map ruleObject))]

def save (prefs : Preferences) (object : Object) : Except Exception Preferences :=
  match object.context with
  | none => .error .nullPointer
  | some context =>
      .ok (Function.update prefs context.mPrefName (some (gson.toJson (serialize object.target.list))))

def reload (prefs : Preferences) (object : Object) : Except Exception (Object × Preferences) :=
  match object.context with
  | none => .error .nullPointer
  | some context =>
      let serialized := (prefs context.mPrefName).getD ""
      if serialized = "" then
        .ok ({ object with target := { object.target with list := object.target.list.clear } }, prefs)
      else
        let target := (fromJson gson.toPlatform context.mResolver (-1) object.target serialized).2
        if target.mMigration then do
          let prefs ← save gson prefs { object with target }
          return ({ object with target := { target with mMigration := false } }, prefs)
        else .ok ({ object with target }, prefs)

/-- `MatchList(ctx, prefName)` -/
def newMatchList (prefs : Preferences) (prefName : String) (resolver : AppsResolver) :
    Except Exception (Object × Preferences) := do
  -- The init block comes first, when the fields are still null.
  let (object, prefs) ← reload gson prefs {}
  reload gson prefs { object with context := some { mPrefName := prefName, mResolver := resolver } }

/-- `matches`, on what it reads of the connection. -/
def matchesConn (list : MatchList) (uid : Int) (dstIp l7proto country : String)
    (info : Option String) : Bool :=
  if list.mMatches.keys = [] then false
  else
    let hasInfo := info.any fun text => text ≠ ""
    list.matchesApp uid || matchKey .ip dstIp ∈ list.mMatches ||
      matchKey .protocol l7proto ∈ list.mMatches || matchKey .country country ∈ list.mMatches ||
      hasInfo && info.any fun text => list.matchesHost text

end Code

/-- An edit of a list, with the apps that the resolver has found before. -/
inductive Edit where
  | addRule (cache : Cache) (rule : Rule)
  | removeRule (cache : Cache) (rule : Rule)

def edit (device : Device) (list : MatchList) : Edit → MatchList
  | .addRule cache rule => (list.addRule (device.resolver cache) rule).2
  | .removeRule cache rule => (list.removeRule (device.resolver cache) rule).2

/-- The same rules in the same order, and the same results of `matches`. -/
structure Restored (after before : MatchList) : Prop where
  rules : after.mRules = before.mRules
  results : ∀ uid dstIp l7proto country info, matchesConn after uid dstIp l7proto country info =
    matchesConn before uid dstIp l7proto country info

/-- After `save`, a new object for the same preference has the list again. -/
def RoundTrips (gson : Gson) (prefs : Preferences) (prefName : String) (resolver : AppsResolver)
    (list : MatchList) : Prop :=
  ∃ saved object prefs',
    save gson prefs { context := some ⟨prefName, resolver⟩, target := { list } } = .ok saved ∧
      newMatchList gson saved prefName resolver = .ok (object, prefs') ∧
      Restored object.target.list list

section Construction

/-- No object is ever constructed: the init block reads a preference through a null field. -/
theorem newMatchList_fails (gson : Gson) (prefs : Preferences) (prefName : String)
    (resolver : AppsResolver) : newMatchList gson prefs prefName resolver = .error .nullPointer := rfl

/-- Whatever the list is, it is not read back. -/
theorem never_round_trips (gson : Gson) (prefs : Preferences) (prefName : String) (device : Device)
    (cache : Cache) (edits : List Edit) :
    ¬ RoundTrips gson prefs prefName (device.resolver cache) (edits.foldl (edit device) {}) := by
  rintro ⟨saved, object, prefs', -, constructed, -⟩
  rw [newMatchList_fails] at constructed
  cases constructed

def oneIpText : String :=
  "\x7b\"rules\":[\x7b\"type\":\"IP\",\"value\":\"1.1.1.1\"\x7d]\x7d"

/-- The writer and the parser on the text of a list with one rule for an address. -/
def oneIpGson : Gson where
  parseString text :=
    if text = oneIpText then some (serialize ListImport.oneIp.list) else none
  toInt _ := none
  toJson _ := oneIpText

/-- The list is saved, and no object can be made for it. -/
theorem oneIp_not_read :
    ¬ RoundTrips oneIpGson (fun _ => none) "Blocklist" (ListImport.noPackages.resolver {})
      ([Edit.addRule {} ⟨.ip, "1.1.1.1"⟩].foldl (edit ListImport.noPackages) {}) := by
  rintro ⟨saved, object, prefs', -, constructed, -⟩
  cases constructed

end Construction

section Reload

variable (gson : Gson)

/-- The writer and the parser give back the text's rules, and no text is empty. -/
structure Faithful (list : MatchList) : Prop where
  parsed : gson.parseString (gson.toJson (serialize list)) = some (serialize list)
  written : gson.toJson (serialize list) ≠ ""

def Standing (resolver : AppsResolver) (list : MatchList) : Prop :=
  ∀ rule ∈ list.mRules, rule.tp = .app →
    (resolver.getAppByPackage rule.value).map (fun app => app.packageName) = some rule.value

theorem readRule_object (rule : Rule) :
    readRule (ruleObject rule) = some (rule.tp.name, rule.value) := by
  simp [readRule, ruleObject, List.lookup, JsonElement.asString]

theorem ruleType_name (tp : RuleType) : ListImport.ruleType tp.name = some tp := by
  cases tp <;> rfl

theorem importedRule_same (resolver : AppsResolver) (list : MatchList)
    (standing : Standing resolver list)
    (words : ∀ name, PackageName name → gson.toInt name = none)
    (named : ∀ rule ∈ list.mRules, rule.tp = .app → PackageName rule.value) (rule : Rule)
    (member : rule ∈ list.mRules) :
    importedRule gson.toPlatform resolver rule.tp.name rule.value = (some rule, false) := by
  have stands := standing rule member
  have word := named rule member
  obtain ⟨tp, value⟩ := rule
  rw [importedRule, ruleType_name]
  cases tp with
  | app =>
      obtain ⟨app, found, same⟩ := Option.map_eq_some_iff.mp (stands rfl)
      have current : currentPackage resolver value = (value, false) := by
        rw [currentPackage, found]
        exact if_neg (not_not.mpr same)
      dsimp only
      rw [words value (word rfl), current]
  | _ => rfl

theorem addRules_indexed (cache : Cache) (rules : List Rule) (state : MatchIndex.State)
    (sound : MatchIndex.Sound state) (indexed : MatchIndex.Indexed state) :
    MatchIndex.Sound { state with
        list := addRules (state.device.resolver cache) state.list rules } ∧
      MatchIndex.Indexed { state with
        list := addRules (state.device.resolver cache) state.list rules } := by
  induction rules generalizing state with
  | nil => exact ⟨sound, indexed⟩
  | cons rule rest ih =>
      exact ih (MatchIndex.step state (.addRule cache rule))
        (MatchIndex.addRule_sound state cache rule sound)
        (MatchIndex.addRule_indexed state cache rule sound indexed)

theorem addRule_new (cache : Cache) (rule : Rule) (state : MatchIndex.State)
    (sound : MatchIndex.Sound state) (new : rule ∉ state.list.mRules)
    (known : rule.tp = .app → state.device.uidOf rule.value ≠ none) :
    (state.list.addRule (state.device.resolver cache) rule).2.mRules = state.list.mRules ++ [rule] := by
  have absent : matchKey rule.tp rule.value ∉ state.list.mMatches :=
    fun member => new ((sound.keys rule).mp member)
  rw [MatchList.addRule, if_neg absent]
  by_cases app : rule.tp = .app
  · have installed : (state.device.resolver cache).getUid rule.value ≠ Connection.UID_NO_FILTER := by
      obtain ⟨uid, found⟩ := Option.ne_none_iff_exists'.mp (known app)
      rw [state.device.getUid_eq cache, found]
      exact fun same => state.device.uidOf_filter rule.value (found.trans (congrArg some same))
    rw [if_pos app]
    simp only [if_neg installed]
  · rw [if_neg app]

theorem addRules_rules (cache : Cache) (rules : List Rule) (state : MatchIndex.State)
    (sound : MatchIndex.Sound state) (distinct : (state.list.mRules ++ rules).Nodup)
    (known : ∀ rule ∈ rules, rule.tp = .app → state.device.uidOf rule.value ≠ none) :
    (addRules (state.device.resolver cache) state.list rules).mRules =
      state.list.mRules ++ rules := by
  induction rules generalizing state with
  | nil => exact (List.append_nil _).symm
  | cons rule rest ih =>
      have new : rule ∉ state.list.mRules := fun member =>
        (List.nodup_append.mp distinct).2.2 rule member rule List.mem_cons_self rfl
      have first := addRule_new cache rule state sound new (known rule List.mem_cons_self)
      have later := ih (MatchIndex.step state (.addRule cache rule))
        (MatchIndex.step_sound state (.addRule cache rule) sound)
        (by rw [MatchIndex.step, first, List.append_assoc]; exact distinct)
        fun other member => known other (List.mem_cons_of_mem rule member)
      rw [MatchIndex.step, first, List.append_assoc] at later
      exact later

/-- Lists with the same rules on one device match alike, if their indexes are right. -/
theorem restored_of_rules (after before : MatchIndex.State) (device : after.device = before.device)
    (rules : after.list.mRules = before.list.mRules) (sound : MatchIndex.Sound after)
    (indexed : MatchIndex.Indexed after) (soundBefore : MatchIndex.Sound before)
    (indexedBefore : MatchIndex.Indexed before) : Restored after.list before.list := by
  have keys : ∀ tp value, decide (matchKey tp value ∈ after.list.mMatches) =
      decide (matchKey tp value ∈ before.list.mMatches) := by
    intro tp value
    rw [decide_eq_decide, sound.keys ⟨tp, value⟩, soundBefore.keys ⟨tp, value⟩, rules]
  have empty : after.list.mMatches.keys = [] ↔ before.list.mMatches.keys = [] := by
    have same := (MatchIndex.keys_perm after sound).trans
      (rules ▸ (MatchIndex.keys_perm before soundBefore).symm)
    exact ⟨fun nil => List.nil_perm.mp (nil ▸ same), fun nil => List.perm_nil.mp (nil ▸ same)⟩
  have apps : ∀ uid, after.list.matchesApp uid = before.list.matchesApp uid := by
    intro uid
    rw [Bool.eq_iff_iff, indexed uid, indexedBefore uid, MatchIndex.Covered, MatchIndex.Covered, rules,
      device]
  refine ⟨rules, fun uid dstIp l7proto country info => ?_⟩
  have hosts : ∀ host, after.list.matchesHost host = before.list.matchesHost host := by
    intro host
    have exactly : ∀ text, after.list.matchesExactHost text = before.list.matchesExactHost text :=
      fun text => keys .host _
    rw [MatchList.matchesHost, MatchList.matchesHost]
    dsimp only
    rw [exactly, keys]
  simp only [matchesConn, empty, apps, keys, hosts]

/-- With the fields in place, `reload` gives the list again, if the package of each APP rule
    stands for its UID and the UIDs were right. -/
theorem reload_restores (cache : Cache) (prefs : Preferences) (prefName : String)
    (state : MatchIndex.State) (sound : MatchIndex.Sound state) (indexed : MatchIndex.Indexed state)
    (faithful : Faithful gson state.list)
    (words : ∀ name, PackageName name → gson.toInt name = none)
    (standing : Standing (state.device.resolver cache) state.list)
    (saved : prefs prefName = some (gson.toJson (serialize state.list))) :
    ∃ object prefs', reload gson prefs { context := some ⟨prefName, state.device.resolver cache⟩ } =
      .ok (object, prefs') ∧ Restored object.target.list state.list := by
  have known : ∀ rule ∈ state.list.mRules, rule.tp = .app →
      state.device.uidOf rule.value ≠ none := by
    intro rule member app
    rw [← state.device.getAppByPackage_uid cache rule.value]
    obtain ⟨found, resolved, -⟩ := Option.map_eq_some_iff.mp (standing rule member app)
    rw [resolved]
    exact Option.some_ne_none _
  have named : ∀ rule ∈ state.list.mRules, rule.tp = .app → PackageName rule.value := by
    intro rule member app
    refine (state.device.resolver cache).getUid_named rule.value fun unknown => ?_
    have found := known rule member app
    rw [← state.device.getAppByPackage_uid cache rule.value, AppsResolver.getAppByPackage,
      if_pos unknown] at found
    exact found rfl
  have imported := fun rule member =>
    importedRule_same gson (state.device.resolver cache) state.list standing words named rule member
  have readable : ∀ element ∈ state.list.mRules.map ruleObject, (readRule element).isSome = true := by
    intro element member
    obtain ⟨rule, -, rfl⟩ := List.mem_map.mp member
    rw [readRule_object]
    rfl
  have rules : (state.list.mRules.map ruleObject).filterMap
      (ruleOf gson.toPlatform (state.device.resolver cache)) = state.list.mRules := by
    rw [List.filterMap_map]
    refine (List.filterMap_congr fun rule member => ?_).trans List.filterMap_some
    rw [Function.comp_apply, ruleOf, readRule_object]
    exact congrArg Prod.fst (imported rule member)
  obtain ⟨after, list, -, imports⟩ := (ListImport.importRules_readable gson.toPlatform
    (state.device.resolver cache) (-1) (state.list.mRules.map ruleObject) []
    { list := {} } readable ⟨rfl, by rw [ListImport.Full]; omega⟩).2 (by rw [ListImport.Full]; omega)
  rw [List.append_nil, importRules] at imports
  have read : (fromJson gson.toPlatform (state.device.resolver cache) (-1) { list := {} }
      (gson.toJson (serialize state.list))).2 = after.toTarget := by
    rw [fromJson, faithful.parsed]
    exact congrArg Prod.snd imports
  -- The imported rules are those of the list, on the same device.
  obtain ⟨sound', indexed'⟩ := addRules_indexed cache state.list.mRules { device := state.device }
    (MatchIndex.empty_sound state.device) (MatchIndex.empty_indexed state.device)
  have same := addRules_rules cache state.list.mRules { device := state.device }
    (MatchIndex.empty_sound state.device) sound.distinct known
  have restored : Restored after.list state.list := by
    rw [rules] at list
    rw [list]
    exact restored_of_rules
      { device := state.device, list := addRules (state.device.resolver cache) {} state.list.mRules }
      state rfl same sound' indexed' sound indexed
  rw [reload]
  dsimp only
  rw [saved, Option.getD_some, if_neg faithful.written, read]
  split
  · exact ⟨_, _, rfl, restored⟩
  · exact ⟨_, _, rfl, restored⟩

end Reload

end Ptnet.ListPersistence
