import Ptnet.InstalledPackages

/-!
The import of rules into a `MatchList` from a JSON text. The parser of the text and the digits of
`toInt` are the platform's. An exception on the way makes the import return -1.
-/

namespace Ptnet.ListImport

open MatchLists (AppsResolver MatchList Rule RuleType)

/-- A parsed text. A primitive is given by its string form, and an object by its members. -/
inductive JsonElement where
  | null
  | primitive (text : String)
  | array (elements : List JsonElement)
  | object (members : List (String × JsonElement))

namespace JsonElement

mutual

/-- `none` is an exception: only a primitive has a string form, or an array of just one. -/
def asString : JsonElement → Option String
  | primitive text => some text
  | array elements => onlyString elements
  | _ => none

def onlyString : List JsonElement → Option String
  | [element] => element.asString
  | _ => none

end

end JsonElement

/-- `none` is a `JsonSyntaxException` and a `NumberFormatException`. -/
structure Platform where
  parseString : String → Option JsonElement
  toInt : String → Option Int

/-- The parts of a `MatchList` that an import changes. -/
structure Target where
  list : MatchList
  mMigration : Bool := false

/-- The loop over the rules: `numRules` is the number of the rules added. -/
structure Progress extends Target where
  numRules : Nat := 0

def RuleType.valueOf (name : String) : Option RuleType :=
  [RuleType.app, .ip, .host, .protocol, .country].find? fun tp => tp.name = name

def readRule : JsonElement → Option (String × String)
  | .object members => do
      let typeStr ← (members.lookup "type").bind JsonElement.asString
      let value ← (members.lookup "value").bind JsonElement.asString
      return (typeStr, value)
  | _ => none

def ruleType (typeStr : String) : Option RuleType :=
  match RuleType.valueOf typeStr with
  | some type => some type
  | none => if typeStr = "ROOT_DOMAIN" then some .host else none

section Code

variable (platform : Platform) (resolver : AppsResolver) (maxRules : Int)

/-- The package that stands for the app, and whether it is another one. -/
def currentPackage (value : String) : String × Bool :=
  match resolver.getAppByPackage value with
  | some app => if app.packageName ≠ value then (app.packageName, true) else (value, false)
  | none => (value, false)

/-- The rule which an element stands for, and whether it has been migrated. -/
def importedRule (typeStr value : String) : Option Rule × Bool :=
  match ruleType typeStr with
  | none => (none, false)
  | some .app =>
      match platform.toInt value with
      | some uid =>
          match resolver.getAppByUid uid with
          | some app => (some ⟨.app, (currentPackage resolver app.packageName).1⟩, true)
          | none => (none, false)
      | none =>
          let (name, moved) := currentPackage resolver value
          (some ⟨.app, name⟩, moved)
  | some type => (some ⟨type, value⟩, false)

def importRules : List JsonElement → Progress → Int × Target
  | [], progress => (progress.numRules, progress.toTarget)
  | element :: rest, progress =>
      match readRule element with
      | none => (-1, progress.toTarget)
      | some (typeStr, value) =>
          let (rule, migrated) := importedRule platform resolver typeStr value
          let progress := { progress with mMigration := progress.mMigration || migrated }
          match rule with
          | none => importRules rest progress
          | some rule =>
              let (added, list) := progress.list.addRule resolver rule
              if added then
                let progress := { progress with list, numRules := progress.numRules + 1 }
                if 1 ≤ maxRules ∧ maxRules ≤ progress.numRules then
                  (progress.numRules, progress.toTarget)
                else importRules rest progress
              else importRules rest progress

/-- `getAsJsonArray("rules")`; `none` also if the member is not an array. -/
def ruleArray (obj : List (String × JsonElement)) : Option (List JsonElement) :=
  match obj.lookup "rules" with
  | some (.array elements) => some elements
  | _ => none

def deserialize (target : Target) (obj : List (String × JsonElement)) : Int × Target :=
  match ruleArray obj with
  | none => (-1, target)
  | some elements =>
      importRules platform resolver maxRules elements { target with list := target.list.clear }

def fromJson (target : Target) (jsonStr : String) : Int × Target :=
  match platform.parseString jsonStr with
  | some (.object obj) => deserialize platform resolver maxRules target obj
  | _ => (-1, target)

end Code

section Rules

variable (platform : Platform) (resolver : AppsResolver) (maxRules : Int)

def ruleOf (element : JsonElement) : Option Rule :=
  (readRule element).bind fun (typeStr, value) =>
    (importedRule platform resolver typeStr value).1

def addRules (list : MatchList) (rules : List Rule) : MatchList :=
  rules.foldl (fun list rule => (list.addRule resolver rule).2) list

def build (elements : List JsonElement) : MatchList :=
  addRules resolver {} (elements.filterMap (ruleOf platform resolver))

def Full (list : MatchList) : Prop := 1 ≤ maxRules ∧ maxRules ≤ list.mRules.length

structure Same (after before : MatchList) : Prop where
  rules : after.mRules = before.mRules
  matched : ∀ key, after.mMatches.lookup key = before.mMatches.lookup key
  packages : ∀ pkg, after.mPackageToUid.lookup pkg = before.mPackageToUid.lookup pkg
  uids : after.mUids = before.mUids

theorem addRule_length (list : MatchList) (rule : Rule) :
    (list.addRule resolver rule).2.mRules.length =
      list.mRules.length + if (list.addRule resolver rule).1 then 1 else 0 := by
  unfold MatchList.addRule
  dsimp only
  split
  · rfl
  · split
    · split
      · rfl
      · exact List.length_append
    · exact List.length_append

theorem addRule_kept (list : MatchList) (rule : Rule)
    (known : (list.addRule resolver rule).1 = false) : (list.addRule resolver rule).2 = list := by
  revert known
  unfold MatchList.addRule
  dsimp only
  split
  · exact fun _ => rfl
  · split
    · split
      · exact fun _ => rfl
      · exact fun known => by cases known
    · exact fun known => by cases known

theorem addRules_length (rules : List Rule) (list : MatchList) :
    list.mRules.length ≤ (addRules resolver list rules).mRules.length := by
  induction rules generalizing list with
  | nil => exact le_rfl
  | cons rule rest ih =>
      have first := addRule_length resolver list rule
      exact le_trans (by omega) (ih (list.addRule resolver rule).2)

/-- The number that the loop counts is the number of the rules. -/
structure Counted (progress : Progress) : Prop where
  number : progress.numRules = progress.list.mRules.length
  room : ¬ Full maxRules progress.list

/-- Elements which can be read are imported, unless they fill the list; then the import ends
    without an error. -/
theorem importRules_readable (before rest : List JsonElement) (progress : Progress)
    (readable : ∀ element ∈ before, (readRule element).isSome = true)
    (counted : Counted maxRules progress) :
    let built := addRules resolver progress.list (before.filterMap (ruleOf platform resolver))
    (Full maxRules built →
      (importRules platform resolver maxRules (before ++ rest) progress).1 ≠ -1) ∧
    (¬ Full maxRules built → ∃ after, after.list = built ∧ Counted maxRules after ∧
      importRules platform resolver maxRules (before ++ rest) progress =
        importRules platform resolver maxRules rest after) := by
  induction before generalizing progress with
  | nil =>
      exact ⟨fun full => absurd full counted.room, fun _ => ⟨progress, rfl, counted, rfl⟩⟩
  | cons element before ih =>
      obtain ⟨⟨typeStr, value⟩, read⟩ := Option.isSome_iff_exists.mp
        (readable element List.mem_cons_self)
      have later := fun other member => readable other (List.mem_cons_of_mem element member)
      have own : ruleOf platform resolver element =
          (importedRule platform resolver typeStr value).1 := by rw [ruleOf, read]; rfl
      rw [List.filterMap_cons, own, List.cons_append, importRules, read]
      dsimp only
      generalize importedRule platform resolver typeStr value = imported
      obtain ⟨rule, migrated⟩ := imported
      cases rule with
      | none =>
          exact ih { progress with mMigration := progress.mMigration || migrated } later
            ⟨counted.number, counted.room⟩
      | some rule =>
          have grown := addRule_length resolver progress.list rule
          have same := addRule_kept resolver progress.list rule
          dsimp only [addRules, List.foldl_cons] at ih ⊢
          revert grown same
          generalize progress.list.addRule resolver rule = result
          obtain ⟨added, list⟩ := result
          intro grown same
          cases added with
          | false =>
              obtain rfl : list = progress.list := same rfl
              simp only [Bool.false_eq_true, if_false]
              exact ih { progress with mMigration := progress.mMigration || migrated } later
                ⟨counted.number, counted.room⟩
          | true =>
              have number : progress.numRules + 1 = list.mRules.length := by
                rw [counted.number]
                simpa using grown.symm
              simp only [if_true]
              by_cases full : 1 ≤ maxRules ∧ maxRules ≤ (progress.numRules + 1 : Nat)
              · -- The import returns here, and more rules would not make the list shorter.
                have more := addRules_length resolver
                  (before.filterMap (ruleOf platform resolver)) list
                rw [if_pos full]
                refine ⟨fun _ => by dsimp only; omega, fun notFull => absurd ⟨full.1, ?_⟩ notFull⟩
                rw [addRules] at more
                omega
              · rw [if_neg full]
                refine ih { progress with
                  list, mMigration := progress.mMigration || migrated,
                  numRules := progress.numRules + 1 } later ⟨number, ?_⟩
                rw [Full, ← number]
                exact full

/-- Either all elements can be read, or there is a first one that cannot. -/
theorem readable_or_malformed (elements : List JsonElement) :
    (∀ element ∈ elements, (readRule element).isSome = true) ∨
      ∃ before bad rest, elements = before ++ bad :: rest ∧
        (∀ element ∈ before, (readRule element).isSome = true) ∧ readRule bad = none := by
  induction elements with
  | nil => exact Or.inl fun element member => absurd member List.not_mem_nil
  | cons element rest ih =>
      cases read : readRule element with
      | none => exact Or.inr ⟨[], element, rest, rfl, fun _ member => absurd member List.not_mem_nil, read⟩
      | some rule =>
          have first : (readRule element).isSome = true := by rw [read]; rfl
          rcases ih with all | ⟨before, bad, after, rfl, readable, malformed⟩
          · exact Or.inl (List.forall_mem_cons.mpr ⟨first, all⟩)
          · exact Or.inr ⟨element :: before, bad, after, rfl,
              List.forall_mem_cons.mpr ⟨first, readable⟩, malformed⟩

end Rules

section Atomic

variable (platform : Platform) (resolver : AppsResolver) (maxRules : Int)

/-- The element is reached that cannot be read: those before it do not fill the list. -/
structure Malformed (elements before : List JsonElement) : Prop where
  first : ∃ bad rest, elements = before ++ bad :: rest ∧ readRule bad = none
  readable : ∀ element ∈ before, (readRule element).isSome = true
  room : ¬ Full maxRules (build platform resolver before)

theorem empty_counted (migration : Bool) (room : ¬ (1 ≤ maxRules ∧ maxRules ≤ 0)) :
    Counted maxRules { list := {}, mMigration := migration } := ⟨rfl, room⟩

theorem importRules_malformed (elements before : List JsonElement) (migration : Bool)
    (malformed : Malformed platform resolver maxRules elements before) :
    (importRules platform resolver maxRules elements { list := {}, mMigration := migration }).1 = -1 ∧
      (importRules platform resolver maxRules elements
        { list := {}, mMigration := migration }).2.list = build platform resolver before := by
  obtain ⟨bad, rest, rfl, unreadable⟩ := malformed.first
  obtain ⟨after, list, -, equal⟩ := (importRules_readable platform resolver maxRules before
    (bad :: rest) { list := {}, mMigration := migration } malformed.readable
    (empty_counted maxRules migration (by omega))).2 malformed.room
  rw [equal, importRules, unreadable]
  exact ⟨rfl, list⟩

theorem importRules_sound (elements : List JsonElement) (migration : Bool)
    (sound : ∀ before, ¬ Malformed platform resolver maxRules elements before) :
    (importRules platform resolver maxRules elements
      { list := {}, mMigration := migration }).1 ≠ -1 := by
  have start := empty_counted maxRules migration (by omega)
  rcases readable_or_malformed elements with readable | ⟨before, bad, rest, rfl, readable, malformed⟩
  · obtain ⟨full, room⟩ := importRules_readable platform resolver maxRules elements []
      { list := {}, mMigration := migration } readable start
    rw [List.append_nil] at full room
    by_cases filled : Full maxRules (addRules resolver {}
        (elements.filterMap (ruleOf platform resolver)))
    · exact full filled
    · obtain ⟨after, -, -, equal⟩ := room filled
      rw [equal, importRules]
      dsimp only
      omega
  · have full : Full maxRules (build platform resolver before) := by
      by_contra room
      exact sound before ⟨⟨bad, rest, rfl, malformed⟩, readable, room⟩
    exact (importRules_readable platform resolver maxRules before (bad :: rest)
      { list := {}, mMigration := migration } readable start).1 full

/-- An import that returns -1 leaves the indexes as they were. -/
def Atomic (target : Target) (result : Int × Target) : Prop :=
  result.1 = -1 → Same result.2.list target.list

/-- No element is reached that cannot be read, or those before it make the list that is there. -/
def Harmless (target : Target) (obj : List (String × JsonElement)) : Prop :=
  ∀ elements before, ruleArray obj = some elements →
    Malformed platform resolver maxRules elements before →
      Same (build platform resolver before) target.list

theorem same_refl (list : MatchList) : Same list list := ⟨rfl, fun _ => rfl, fun _ => rfl, rfl⟩

theorem deserialize_atomic (target : Target) (obj : List (String × JsonElement)) :
    Atomic target (deserialize platform resolver maxRules target obj) ↔
      Harmless platform resolver maxRules target obj := by
  unfold Atomic Harmless deserialize
  cases rules : ruleArray obj with
  | none =>
      exact iff_of_true (fun _ => same_refl _) fun elements before found => by cases found
  | some elements =>
      constructor
      · rintro atomic all before ⟨⟩ malformed
        obtain ⟨failed, list⟩ := importRules_malformed platform resolver maxRules elements before
          target.mMigration malformed
        rw [← list]
        exact atomic failed
      · intro harmless failed
        have reached : ∃ before, Malformed platform resolver maxRules elements before := by
          by_contra sound
          exact importRules_sound platform resolver maxRules elements target.mMigration
            (fun before malformed => sound ⟨before, malformed⟩) failed
        obtain ⟨before, malformed⟩ := reached
        have list := (importRules_malformed platform resolver maxRules elements before
          target.mMigration malformed).2
        have same := harmless elements before rfl malformed
        rw [← list] at same
        exact same

/-- A failed import is atomic exactly if it fails before the list is cleared, or the rules it has
    added up to the failure are those of the list. -/
theorem import_atomic_iff (target : Target) :
    (∀ obj, Atomic target (deserialize platform resolver maxRules target obj) ↔
      Harmless platform resolver maxRules target obj) ∧
    ∀ jsonStr, Atomic target (fromJson platform resolver maxRules target jsonStr) ↔
      ∀ obj, platform.parseString jsonStr = some (.object obj) →
        Harmless platform resolver maxRules target obj := by
  refine ⟨deserialize_atomic platform resolver maxRules target, fun jsonStr => ?_⟩
  unfold fromJson
  split
  case h_1 obj parsed =>
    rw [deserialize_atomic]
    constructor
    · rintro harmless other same
      rw [parsed] at same
      cases same
      exact harmless
    · exact fun harmless => harmless obj parsed
  case h_2 other =>
    exact iff_of_true (fun _ => same_refl _) fun obj parsed => absurd parsed (other obj)

def noPackages : InstalledPackages.Device where
  installed := ∅
  named := fun name member => absurd member (AList.notMem_empty name)

def nullText : String := "\x7b\"rules\":[null]\x7d"

/-- The parser on a text whose only rule is null. -/
def nullParser : Platform where
  parseString text :=
    if text = nullText then some (.object [("rules", .array [.null])]) else none
  toInt _ := none

def oneIp : Target where
  list := ((({} : MatchList).addRule (noPackages.resolver {}) ⟨.ip, "1.1.1.1"⟩)).2

/-- The import fails, and the rule is gone. -/
theorem nullRule_clears :
    ¬ Atomic oneIp (fromJson nullParser (noPackages.resolver {}) (-1) oneIp nullText) := by
  intro atomic
  have parsed : nullParser.parseString nullText =
      some (.object [("rules", .array [.null])]) := by
    simp only [nullParser, if_true]
  have failed : fromJson nullParser (noPackages.resolver {}) (-1) oneIp nullText =
      (-1, { list := {}, mMigration := false }) := by
    rw [fromJson, parsed]
    rfl
  rw [failed] at atomic
  have rules := (atomic rfl).rules
  revert rules
  decide +kernel

end Atomic

end Ptnet.ListImport
