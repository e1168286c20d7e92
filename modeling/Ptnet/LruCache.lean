import Mathlib.Data.List.Nodup
import Mathlib.Data.Prod.Basic

/-!
A bounded map that forgets the least recently used key. `entries` lists the keys from the
least to the most recently used one; a hit and a `put` move their key to the end.
-/

namespace Ptnet

structure LruCache (Key Value : Type*) (maxSize : Nat) where
  entries : List (Key × Value)
  distinct : (entries.map Prod.fst).Nodup
  bounded : entries.length ≤ maxSize

namespace LruCache

variable {Key Value : Type*} [DecidableEq Key] {maxSize : Nat}

def empty : LruCache Key Value maxSize := ⟨[], List.nodup_nil, Nat.zero_le maxSize⟩

def peek (cache : LruCache Key Value maxSize) (key : Key) : Option Value :=
  (cache.entries.find? fun entry => entry.1 = key).map Prod.snd

def moveLast (entries : List (Key × Value)) (key : Key) (value : Value) : List (Key × Value) :=
  entries.filter (fun entry => entry.1 ≠ key) ++ [(key, value)]

theorem moveLast_distinct (entries : List (Key × Value)) (key : Key) (value : Value)
    (distinct : (entries.map Prod.fst).Nodup) :
    ((moveLast entries key value).map Prod.fst).Nodup := by
  rw [moveLast, List.map_append]
  refine List.nodup_append.mpr ⟨?_, List.nodup_singleton _, ?_⟩
  · exact distinct.sublist (List.filter_sublist.map Prod.fst)
  · intro other member last equal
    obtain ⟨entry, kept, rfl⟩ := List.mem_map.mp member
    rw [List.map_singleton, List.mem_singleton] at equal
    simp only [List.mem_filter, decide_eq_true_eq] at kept
    exact fun same => kept.2 (same.trans equal)

theorem moveLast_hit (entries : List (Key × Value)) (key : Key) (value : Value) {old : Value}
    (member : (key, old) ∈ entries) : (moveLast entries key value).length ≤ entries.length := by
  have dropped : (entries.filter fun entry => entry.1 ≠ key).length < entries.length :=
    List.length_filter_lt_length_iff_exists.mpr ⟨(key, old), member, by simp⟩
  rw [moveLast, List.length_append, List.length_singleton]
  exact dropped

theorem moveLast_listed [DecidableEq Value] (entries : List (Key × Value)) (entry : Key × Value)
    (value : Value) (distinct : (entries.map Prod.fst).Nodup) (listed : entry ∈ entries) :
    moveLast entries entry.1 value = entries.erase entry ++ [(entry.1, value)] := by
  rw [moveLast, (List.Nodup.of_map Prod.fst distinct).erase_eq_filter]
  congr 1
  apply List.filter_congr
  intro other member
  by_cases same : other.1 = entry.1
  · simp [List.inj_on_of_nodup_map distinct member listed same]
  · have differs : other ≠ entry := fun equal => same (congrArg Prod.fst equal)
    simp [same, differs]

theorem moveLast_absent (entries : List (Key × Value)) (key : Key) (value : Value)
    (absent : ∀ entry ∈ entries, entry.1 ≠ key) :
    moveLast entries key value = entries ++ [(key, value)] := by
  rw [moveLast, List.filter_eq_self.mpr fun entry member => by simpa using absent entry member]

theorem find_listed (entries : List (Key × Value)) (key : Key) (value : Value)
    (distinct : (entries.map Prod.fst).Nodup) (listed : (key, value) ∈ entries) :
    (entries.find? fun entry => entry.1 = key) = some (key, value) := by
  cases found : entries.find? fun entry => entry.1 = key with
  | none => exact absurd (decide_eq_true rfl) (List.find?_eq_none.mp found (key, value) listed)
  | some entry =>
      have same : entry.1 = key := by simpa using List.find?_some found
      rw [List.inj_on_of_nodup_map distinct (List.mem_of_find?_eq_some found) listed same]

theorem peek_mem (cache : LruCache Key Value maxSize) (key : Key) (value : Value)
    (found : cache.peek key = some value) : (key, value) ∈ cache.entries := by
  unfold peek at found
  obtain ⟨⟨first, second⟩, hit, rfl⟩ := Option.map_eq_some_iff.mp found
  have same : first = key := by simpa using List.find?_some hit
  subst same
  exact List.mem_of_find?_eq_some hit

theorem peek_eq_some_iff (cache : LruCache Key Value maxSize) (key : Key) (value : Value) :
    cache.peek key = some value ↔ (key, value) ∈ cache.entries := by
  constructor
  · exact cache.peek_mem key value
  · intro member
    rw [peek, find_listed cache.entries key value cache.distinct member]
    rfl

theorem peek_absent (cache : LruCache Key Value maxSize) (key : Key)
    (missed : cache.peek key = none) : ∀ entry ∈ cache.entries, entry.1 ≠ key := by
  rintro ⟨other, value⟩ listed rfl
  rw [(cache.peek_eq_some_iff other value).mpr listed] at missed
  cases missed

/-- `get`: a hit becomes the most recently used entry. -/
def get (cache : LruCache Key Value maxSize) (key : Key) :
    Option Value × LruCache Key Value maxSize :=
  match found : cache.peek key with
  | none => (none, cache)
  | some value =>
      (some value,
        { entries := moveLast cache.entries key value
          distinct := moveLast_distinct cache.entries key value cache.distinct
          bounded := Nat.le_trans
            (moveLast_hit cache.entries key value (cache.peek_mem key value found))
            cache.bounded })

/-- `put`: the eldest entries go until the size fits again. -/
def put (cache : LruCache Key Value maxSize) (key : Key) (value : Value) :
    LruCache Key Value maxSize where
  entries := let entries := moveLast cache.entries key value
    entries.drop (entries.length - maxSize)
  distinct := (moveLast_distinct cache.entries key value cache.distinct).sublist
    ((List.drop_sublist _ _).map Prod.fst)
  bounded := by
    rw [List.length_drop]
    omega

theorem get_fst (cache : LruCache Key Value maxSize) (key : Key) :
    (cache.get key).1 = cache.peek key := by
  unfold get
  split
  · exact Eq.symm ‹_›
  · exact Eq.symm ‹_›

theorem get_miss (cache : LruCache Key Value maxSize) (key : Key)
    (missed : cache.peek key = none) : (cache.get key).2 = cache := by
  unfold get
  split
  · rfl
  · next hit => cases missed.symm.trans hit

theorem get_hit (cache : LruCache Key Value maxSize) (key : Key) (value : Value)
    (found : cache.peek key = some value) :
    (cache.get key).2.entries = moveLast cache.entries key value := by
  unfold get
  split
  · next missed => cases missed.symm.trans found
  · next other hit =>
      have same := Option.some.inj (hit.symm.trans found)
      exact congrArg (moveLast cache.entries key) same

theorem put_listed (cache : LruCache Key Value maxSize) (key : Key) (value old : Value)
    (listed : (key, old) ∈ cache.entries) :
    (cache.put key value).entries = moveLast cache.entries key value := by
  have fits := Nat.le_trans (moveLast_hit cache.entries key value listed) cache.bounded
  change (moveLast cache.entries key value).drop _ = _
  rw [Nat.sub_eq_zero_of_le fits, List.drop_zero]

theorem put_absent (cache : LruCache Key Value maxSize) (key : Key) (value : Value)
    (absent : ∀ entry ∈ cache.entries, entry.1 ≠ key) :
    (cache.put key value).entries =
      if maxSize < (cache.entries ++ [(key, value)]).length
      then (cache.entries ++ [(key, value)]).tail else cache.entries ++ [(key, value)] := by
  have size := cache.bounded
  change (moveLast cache.entries key value).drop _ = _
  rw [moveLast_absent cache.entries key value absent, List.length_append, List.length_singleton]
  split
  · rw [show cache.entries.length + 1 - maxSize = 1 by omega, List.drop_one]
  · rw [show cache.entries.length + 1 - maxSize = 0 by omega, List.drop_zero]

theorem peek_get (cache : LruCache Key Value maxSize) (key other : Key) :
    (cache.get key).2.peek other = cache.peek other := by
  cases found : cache.peek key with
  | none => rw [cache.get_miss key found]
  | some value =>
    have member := cache.peek_mem key value found
    apply Option.ext
    intro content
    rw [peek_eq_some_iff, peek_eq_some_iff, cache.get_hit key value found]
    simp only [moveLast, List.mem_append, List.mem_filter, List.mem_singleton, decide_eq_true_eq]
    constructor
    · rintro (⟨kept, _⟩ | same)
      · exact kept
      · rw [same]
        exact member
    · intro kept
      by_cases same : other = key
      · subst same
        have unique := List.inj_on_of_nodup_map cache.distinct kept member rfl
        exact Or.inr unique
      · exact Or.inl ⟨kept, same⟩

theorem peek_put_self (cache : LruCache Key Value maxSize) (key : Key) (value : Value)
    (positive : 0 < maxSize) : (cache.put key value).peek key = some value := by
  rw [peek_eq_some_iff]
  simp only [put, moveLast]
  rw [List.drop_append_of_le_length (by simp; omega)]
  exact List.mem_append_right _ (List.mem_singleton.mpr rfl)

theorem peek_put_other (cache : LruCache Key Value maxSize) (key other : Key) (value : Value)
    (differs : other ≠ key) (content : Value)
    (found : (cache.put key value).peek other = some content) :
    cache.peek other = some content := by
  rw [peek_eq_some_iff] at found ⊢
  have member := List.mem_of_mem_drop found
  simp only [moveLast, List.mem_append, List.mem_filter, List.mem_singleton,
    Prod.mk.injEq] at member
  rcases member with ⟨kept, _⟩ | ⟨same, _⟩
  · exact kept
  · exact absurd same differs

end LruCache

end Ptnet
