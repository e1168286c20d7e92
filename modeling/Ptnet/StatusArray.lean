import Mathlib
import Ptnet.BlacklistFile
import Ptnet.Machine

/-!
The status array that `load_new_blacklists` fills for the files it has loaded. The comparison
that asks for more room is the wrong way round, so every load after the first one doubles the
array, and a `realloc` that fails then leaves `cur_items` behind. Two files are enough.
-/

namespace Ptnet.StatusArray

open NativeBlacklist BlacklistFile

def INT_MAX : Nat := 2 ^ 31 - 1

/-- A file of the loop, and what is met for it. -/
abbrev File := BlInfo × FileAnswer

/-- The loop of `load_new_blacklists`. -/
def loadFile (state : Blacklist × BlStatusArr) (file : File) : Blacklist × BlStatusArr :=
  loadBlacklist file.1 file.2 state.1 state.2

/-- The entries that `cur_items` counts are the ones recorded. -/
def Holds (arr : BlStatusArr) (entries : List BlStatus) : Prop :=
  entries.length = arr.curItems ∧ arr.items.take arr.curItems = entries.map some

structure Sound (arr : BlStatusArr) : Prop where
  fits : arr.size ≤ INT_MAX
  ample : arr.size ≤ max 8 (2 * arr.curItems)
  allocated : arr.items.length = arr.size
  recorded : ∃ entries, Holds arr entries
  tame : arr.wild = false

/-- What one iteration may do to an array. -/
structure Grows (before after : BlStatusArr) : Prop where
  whenFull : before.size < after.size → before.curItems = before.size
  kept : ∀ index < before.curItems, index < after.curItems →
    after.items[index]? = before.items[index]?

/-- An iteration that leaves a sound array, grown only where it was full. -/
def Proper (state : Blacklist × BlStatusArr) (file : File) : Prop :=
  Sound (loadFile state file).2 ∧ Grows state.2 (loadFile state file).2

/-- The file cannot be read, or nothing is allocated, or nothing is recorded and nothing will be. -/
def Harmless (state : Blacklist × BlStatusArr) (file : File) : Prop :=
  file.2.text = none ∨ state.2.size = 0 ∨ state.2.curItems = 0 ∧ file.2.realloc = false

instance (state : Blacklist × BlStatusArr) (file : File) : Decidable (Harmless state file) :=
  inferInstanceAs (Decidable (_ ∨ _))

structure Early (arr : BlStatusArr) : Prop where
  size : arr.size = 0 ∧ arr.curItems = 0 ∨ arr.size = 8 ∧ arr.curItems ≤ 1
  allocated : arr.items.length = arr.size
  recorded : ∃ entries, Holds arr entries
  tame : arr.wild = false

theorem holds_none (arr : BlStatusArr) (bare : arr.curItems = 0) : Holds arr [] := by
  constructor
  · exact bare.symm
  · rw [bare]
    rfl

theorem Early.sound (arr : BlStatusArr) (early : Early arr) : Sound arr := by
  refine ⟨?_, ?_, early.allocated, early.recorded, early.tame⟩
  · rw [INT_MAX]
    rcases early.size with ⟨size, -⟩ | ⟨size, -⟩ <;> omega
  · rcases early.size with ⟨size, -⟩ | ⟨size, -⟩ <;> omega

theorem loadFile_unread (state : Blacklist × BlStatusArr) (file : File)
    (unread : file.2.text = none) : (loadFile state file).2 = state.2 := by
  unfold loadFile loadBlacklist blacklistLoadFile
  rw [unread]

theorem loadFile_read (state : Blacklist × BlStatusArr) (file : File)
    (read : file.2.text ≠ none) :
    ∃ stats, (loadFile state file).2 = state.2.addStatus file.2 file.1.fname stats := by
  obtain ⟨text, found⟩ := Option.ne_none_iff_exists'.mp read
  unfold loadFile loadBlacklist blacklistLoadFile
  rw [found]
  exact ⟨_, rfl⟩

section Step

variable (arr : BlStatusArr) (answer : FileAnswer) (fname : String) (stats : BlacklistStats)

theorem addStatus_lost (due : arr.curItems ≤ arr.size) (failed : answer.realloc = false) :
    arr.addStatus answer fname stats = { arr with items := [], size := 0 } := by
  unfold BlStatusArr.addStatus BlStatusArr.extend
  rw [if_pos due, failed]
  rfl

def nextSize : Nat := if arr.size = 0 then 8 else arr.size * 2

def enlarged : BlStatusArr :=
  { arr with
    items := arr.items.take (nextSize arr) ++
      List.replicate (nextSize arr - arr.items.length) none
    size := nextSize arr }

theorem addStatus_enlarged (due : arr.curItems ≤ arr.size) (made : answer.realloc = true) :
    arr.addStatus answer fname stats =
      if answer.strdup then (enlarged arr).push { fname := fname, numRules := stats.numRules }
      else enlarged arr := by
  unfold BlStatusArr.addStatus BlStatusArr.extend
  rw [if_pos due, made]
  rfl

theorem addStatus_size (due : arr.curItems ≤ arr.size) (made : answer.realloc = true) :
    (arr.addStatus answer fname stats).size = nextSize arr := by
  rw [addStatus_enlarged arr answer fname stats due made]
  split <;> rfl

theorem addStatus_count (due : arr.curItems ≤ arr.size) (made : answer.realloc = true) :
    (arr.addStatus answer fname stats).curItems ≤ arr.curItems + 1 := by
  rw [addStatus_enlarged arr answer fname stats due made]
  split
  · exact Nat.le_refl _
  · exact Nat.le_succ _

theorem enlarged_length : (enlarged arr).items.length = nextSize arr := by
  simp only [enlarged, List.length_append, List.length_take, List.length_replicate]
  omega

theorem enlarged_holds (entries : List BlStatus) (holds : Holds arr entries)
    (within : arr.curItems ≤ arr.items.length) (larger : arr.curItems ≤ nextSize arr) :
    Holds (enlarged arr) entries := by
  constructor
  · exact holds.1
  · show (arr.items.take (nextSize arr) ++ _).take arr.curItems = _
    rw [List.take_append_of_le_length, List.take_take, Nat.min_eq_left larger, holds.2]
    rw [List.length_take]
    exact Nat.le_min.mpr ⟨larger, within⟩

theorem push_holds (entries : List BlStatus) (status : BlStatus) (holds : Holds arr entries)
    (room : arr.curItems < arr.items.length) : Holds (arr.push status) (entries ++ [status]) := by
  constructor
  · rw [List.length_append, holds.1]
    rfl
  · show (arr.items.set arr.curItems (Option.some status)).take (arr.curItems + 1) = _
    rw [List.take_add_one, List.getElem?_set_self room, List.take_set_of_le (Nat.le_refl _),
      holds.2, List.map_append]
    rfl

theorem push_tame (status : BlStatus) (tame : arr.wild = false)
    (room : arr.curItems < arr.items.length) : (arr.push status).wild = false := by
  show (arr.wild || decide (arr.items.length ≤ arr.curItems)) = false
  rw [tame, Bool.false_or]
  exact decide_eq_false (Nat.not_le.mpr room)

end Step

theorem grows_refl (arr : BlStatusArr) : Grows arr arr :=
  ⟨fun more => absurd more (Nat.lt_irrefl _), fun _ _ _ => rfl⟩

theorem grows_bare (before after : BlStatusArr) (bare : before.curItems = 0)
    (whenFull : before.size < after.size → before.size = 0) : Grows before after := by
  constructor
  · intro more
    rw [bare, whenFull more]
  · intro index counted
    rw [bare] at counted
    exact absurd counted (Nat.not_lt_zero index)

theorem lost_early (arr : BlStatusArr) (early : Early arr) (bare : arr.curItems = 0) :
    Early { arr with items := [], size := 0 } :=
  ⟨.inl ⟨rfl, bare⟩, rfl, ⟨[], holds_none _ bare⟩, early.tame⟩

theorem enlarged_early (arr : BlStatusArr) (early : Early arr) (blank : arr.size = 0)
    (bare : arr.curItems = 0) : Early (enlarged arr) := by
  have eight : nextSize arr = 8 := if_pos blank
  refine ⟨.inr ⟨eight, ?_⟩, enlarged_length arr, ⟨[], holds_none _ bare⟩, early.tame⟩
  show arr.curItems ≤ 1
  rw [bare]
  exact Nat.zero_le 1

theorem push_early (arr : BlStatusArr) (early : Early arr) (status : BlStatus)
    (eight : arr.size = 8) (bare : arr.curItems = 0) : Early (arr.push status) := by
  have room : arr.curItems < arr.items.length := by
    rw [early.allocated, eight, bare]
    decide
  refine ⟨.inr ⟨eight, ?_⟩, ?_, ?_, push_tame arr status early.tame room⟩
  · show arr.curItems + 1 ≤ 1
    rw [bare]
  · exact (List.length_set).trans early.allocated
  · exact ⟨_, push_holds arr [] status (holds_none arr bare) room⟩

theorem addStatus_early (arr : BlStatusArr) (early : Early arr) (answer : FileAnswer)
    (fname : String) (stats : BlacklistStats)
    (harmless : arr.size = 0 ∨ arr.curItems = 0 ∧ answer.realloc = false) :
    Early (arr.addStatus answer fname stats) ∧ Grows arr (arr.addStatus answer fname stats) := by
  have bare : arr.curItems = 0 := by
    rcases harmless with blank | ⟨bare, -⟩
    · rcases early.size with ⟨-, bare⟩ | ⟨eight, -⟩
      · exact bare
      · omega
    · exact bare
  have due : arr.curItems ≤ arr.size := bare ▸ Nat.zero_le arr.size
  cases made : answer.realloc with
  | false =>
      rw [addStatus_lost arr answer fname stats due made]
      exact ⟨lost_early arr early bare,
        grows_bare arr _ bare fun more => absurd more (Nat.not_lt_zero arr.size)⟩
  | true =>
      have blank : arr.size = 0 := by
        rcases harmless with blank | ⟨-, failed⟩
        · exact blank
        · rw [made] at failed
          cases failed
      have grown := enlarged_early arr early blank bare
      refine ⟨?_, grows_bare arr _ bare fun _ => blank⟩
      rw [addStatus_enlarged arr answer fname stats due made]
      split
      · exact push_early (enlarged arr) grown _ (if_pos blank) bare
      · exact grown

theorem loadFile_early (state : Blacklist × BlStatusArr) (file : File) (early : Early state.2)
    (harmless : Harmless state file) :
    Early (loadFile state file).2 ∧ Grows state.2 (loadFile state file).2 := by
  by_cases read : file.2.text = none
  · rw [loadFile_unread state file read]
    exact ⟨early, grows_refl state.2⟩
  · obtain ⟨stats, added⟩ := loadFile_read state file read
    rw [added]
    exact addStatus_early state.2 early file.2 file.1.fname stats
      (harmless.resolve_left read)

/-- A second load doubles the array, or leaves the count without the entry. -/
theorem loadFile_harmless (state : Blacklist × BlStatusArr) (file : File) (early : Early state.2)
    (sound : Sound (loadFile state file).2) : Harmless state file := by
  by_cases read : file.2.text = none
  · exact .inl read
  · refine .inr ?_
    obtain ⟨stats, added⟩ := loadFile_read state file read
    rw [added] at sound
    rcases early.size with ⟨blank, -⟩ | ⟨eight, few⟩
    · exact .inl blank
    · have due : state.2.curItems ≤ state.2.size := by omega
      cases made : file.2.realloc with
      | true =>
          -- Sixteen cells for at most two entries.
          have size := addStatus_size state.2 file.2 file.1.fname stats due made
          have count := addStatus_count state.2 file.2 file.1.fname stats due made
          have ample := sound.ample
          rw [size, nextSize, if_neg (by omega)] at ample
          omega
      | false =>
          -- No cell is left, so the entry that is counted is gone.
          rw [addStatus_lost state.2 file.2 file.1.fname stats due made] at sound
          obtain ⟨entries, counted, kept⟩ := sound.recorded
          have none_left := congrArg List.length kept
          rw [List.take_nil, List.length_map] at none_left
          exact .inr ⟨counted.symm.trans none_left.symm, rfl⟩

theorem initial_early : Early {} :=
  ⟨.inl ⟨rfl, rfl⟩, rfl, ⟨[], holds_none {} rfl⟩, rfl⟩

/-- The loop keeps the array in order if and only if it adds nothing to an array it has. -/
theorem statusArr_proper_iff (bl : Blacklist) (files : List File) :
    Machine.Along loadFile Proper (bl, {}) files ↔
      Machine.Along loadFile Harmless (bl, {}) files := by
  constructor
  · intro proper
    exact Machine.along_of_invariant loadFile Proper Harmless (fun state => Early state.2)
      (fun state file early step =>
        (loadFile_early state file early (loadFile_harmless state file early step.1)).1)
      (fun state file early step => loadFile_harmless state file early step.1)
      (bl, {}) files proper initial_early
  · intro harmless
    exact Machine.along_of_invariant loadFile Harmless Proper (fun state => Early state.2)
      (fun state file early step => (loadFile_early state file early step).1)
      (fun state file early step =>
        have kept := loadFile_early state file early step
        ⟨kept.1.sound, kept.2⟩)
      (bl, {}) files harmless initial_early

/-- The files `malware_bl/a` and `malware_bl/b`, both empty, on a device with memory. -/
def emptyFiles : List File :=
  let answer : FileAnswer :=
    { text := some [], env := { parse := fun _ => none, malloc := fun _ => true } }
  [({ fname := "a", type := .domain }, answer), ({ fname := "b", type := .domain }, answer)]

theorem second_load_doubles : ¬ Machine.Along loadFile Proper ({}, {}) emptyFiles := by
  rintro ⟨-, ⟨sound, -⟩, -⟩
  have ample := sound.ample
  exact absurd ample (by decide)

section Doubling

def Read (file : File) : Prop :=
  file.2.text ≠ none ∧ file.2.realloc = true ∧ file.2.strdup = true

structure Doubled (loads : Nat) (arr : BlStatusArr) : Prop where
  size : arr.size = 8 * 2 ^ loads
  allocated : arr.items.length = arr.size
  count : arr.curItems = loads + 1
  recorded : ∃ entries, Holds arr entries

/-- A load for which nothing fails fills the next cell of a larger array. -/
theorem addStatus_fills (arr : BlStatusArr) (answer : FileAnswer) (fname : String)
    (stats : BlacklistStats) (made : answer.realloc = true) (copied : answer.strdup = true)
    (allocated : arr.items.length = arr.size) (due : arr.curItems ≤ arr.size)
    (recorded : ∃ entries, Holds arr entries) (loads : Nat) (count : arr.curItems = loads)
    (size : nextSize arr = 8 * 2 ^ loads) :
    Doubled loads (arr.addStatus answer fname stats) := by
  rw [addStatus_enlarged arr answer fname stats due made, if_pos copied]
  have within : arr.curItems < nextSize arr := by
    have larger : loads < 2 ^ loads := Nat.lt_two_pow_self
    omega
  have room : (enlarged arr).curItems < (enlarged arr).items.length := by
    rw [enlarged_length]
    exact within
  obtain ⟨entries, holds⟩ := recorded
  have held := enlarged_holds arr entries holds (allocated ▸ due) within.le
  constructor
  · exact size
  · exact (List.length_set).trans (enlarged_length arr)
  · exact congrArg (· + 1) count
  · exact ⟨_, push_holds (enlarged arr) entries _ held room⟩

theorem loadFile_doubled (state : Blacklist × BlStatusArr) (file : File) (loads : Nat)
    (doubled : Doubled loads state.2) (read : Read file) :
    Doubled (loads + 1) (loadFile state file).2 := by
  obtain ⟨stats, added⟩ := loadFile_read state file read.1
  rw [added]
  have larger : loads < 2 ^ loads := Nat.lt_two_pow_self
  have due : state.2.curItems ≤ state.2.size := by
    rw [doubled.count, doubled.size]
    omega
  refine addStatus_fills state.2 file.2 file.1.fname stats read.2.1 read.2.2 doubled.allocated
    due doubled.recorded (loads + 1) doubled.count ?_
  rw [nextSize, if_neg (by rw [doubled.size]; omega), doubled.size, pow_succ, Nat.mul_assoc]

/-- Eight cells for the first file, and twice as many for each one after it: the size that is
    asked for at the twenty-ninth is no `int` any more. -/
theorem loads_double (bl : Blacklist) (first : File) (rest : List File)
    (read : ∀ file ∈ first :: rest, Read file) :
    Doubled rest.length (Machine.run loadFile (bl, {}) (first :: rest)).2 := by
  induction rest using List.reverseRecOn with
  | nil =>
      have usable := read first List.mem_cons_self
      obtain ⟨stats, added⟩ := loadFile_read (bl, {}) first usable.1
      show Doubled 0 (loadFile (bl, {}) first).2
      rw [added]
      exact addStatus_fills {} first.2 first.1.fname stats usable.2.1 usable.2.2 rfl
        (Nat.le_refl 0) ⟨[], holds_none {} rfl⟩ 0 rfl rfl
  | append_singleton before last ih =>
      rw [← List.cons_append, Machine.run_append, List.length_append]
      have earlier : ∀ file ∈ first :: before, Read file := fun file member =>
        read file (List.mem_append_left [last] member)
      refine loadFile_doubled _ last before.length (ih earlier) (read last ?_)
      exact List.mem_append_right (first :: before) List.mem_cons_self

theorem size_overflows (bl : Blacklist) (first : File) (rest : List File)
    (read : ∀ file ∈ first :: rest, Read file) (many : 28 ≤ rest.length) :
    INT_MAX < (Machine.run loadFile (bl, {}) (first :: rest)).2.size := by
  rw [(loads_double bl first rest read).size]
  have large : 2 ^ 28 ≤ 2 ^ rest.length := Nat.pow_le_pow_right (by decide) many
  rw [INT_MAX]
  omega

end Doubling

/-- Where the count is ahead of the cells, the next entry is written outside of them. -/
theorem addStatus_stray (arr : BlStatusArr) (answer : FileAnswer) (fname : String)
    (stats : BlacklistStats) (lost : arr.items = []) (stale : arr.size < arr.curItems)
    (copied : answer.strdup = true) : (arr.addStatus answer fname stats).wild = true := by
  unfold BlStatusArr.addStatus BlStatusArr.extend
  rw [if_neg (Nat.not_le.mpr stale), copied]
  show (arr.wild || decide (arr.items.length ≤ arr.curItems)) = true
  rw [lost, Bool.or_eq_true]
  exact .inr (decide_eq_true (Nat.zero_le arr.curItems))

end Ptnet.StatusArray
