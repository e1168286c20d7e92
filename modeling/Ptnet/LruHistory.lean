import Mathlib.Data.List.Nodup
import Mathlib.Logic.Function.Basic
import Ptnet.LruCache
import Ptnet.Machine

/-!
What a history of uses says about a map that keeps the most recently used keys: the distinct keys
in the order of their last use, and the value each key was given last. A bounded map with the
entries from the least to the most recently used key answers as this history does.
-/

namespace Ptnet.LruHistory

inductive Use (Key Value : Type*) where
  | add (key : Key) (value : Value)
  | find (key : Key)
  deriving DecidableEq, Repr

variable {Key Value : Type*} [DecidableEq Key]

def moveFront (keys : List Key) (key : Key) : List Key :=
  key :: keys.filter fun other => other ≠ key

/-- The keys after a use, the one used last first. A lookup uses a key that is still kept. -/
def touch (maxSize : Nat) (keys : List Key) : Use Key Value → List Key
  | .add key _ => moveFront keys key
  | .find key => if key ∈ keys.take maxSize then moveFront keys key else keys

def assign (values : Key → Option Value) : Use Key Value → Key → Option Value
  | .add key value => Function.update values key (some value)
  | .find _ => values

/-- The distinct keys of a history, the one used last first. -/
def recent (maxSize : Nat) (uses : List (Use Key Value)) : List Key :=
  uses.foldl (touch maxSize) []

/-- The last value added for a key. -/
def lastAdded (uses : List (Use Key Value)) : Key → Option Value :=
  uses.foldl assign fun _ => none

/-- What a lookup returns after a history. -/
def answer (maxSize : Nat) (uses : List (Use Key Value)) (key : Key) : Option Value :=
  if key ∈ (recent maxSize uses).take maxSize then lastAdded uses key else none

def serve {maxSize : Nat} (cache : LruCache Key Value maxSize) :
    Use Key Value → LruCache Key Value maxSize
  | .add key value => cache.put key value
  | .find key => (cache.get key).2

section Keys

theorem moveFront_nodup (keys : List Key) (key : Key) (distinct : keys.Nodup) :
    (moveFront keys key).Nodup := by
  rw [moveFront, List.nodup_cons]
  constructor
  · simp
  · exact distinct.filter _

theorem filter_take (keys : List Key) (key : Key) (distinct : keys.Nodup) (count : Nat) :
    ((keys.take (count + 1)).filter fun other => other ≠ key).take count =
      (keys.filter fun other => other ≠ key).take count := by
  induction keys generalizing count with
  | nil => simp
  | cons head rest ih =>
      obtain ⟨fresh, later⟩ := List.nodup_cons.mp distinct
      rw [List.take_succ_cons]
      by_cases same : head = key
      · -- No other key goes, so the two lists are cut at the same place.
        have kept : ∀ other ∈ rest, decide (other ≠ key) = true := by
          intro other member
          rw [decide_eq_true_eq]
          rintro rfl
          exact fresh (same ▸ member)
        rw [List.filter_cons_of_neg (by simp [same]), List.filter_cons_of_neg (by simp [same]),
          List.filter_eq_self.mpr kept,
          List.filter_eq_self.mpr fun other member => kept other (List.mem_of_mem_take member),
          List.take_take, Nat.min_self]
      · rw [List.filter_cons_of_pos (by simp [same]), List.filter_cons_of_pos (by simp [same])]
        cases count with
        | zero => simp
        | succ count => rw [List.take_succ_cons, List.take_succ_cons, ih later count]

theorem moveFront_take (keys : List Key) (key : Key) (distinct : keys.Nodup) (maxSize : Nat) :
    (moveFront (keys.take maxSize) key).take maxSize = (moveFront keys key).take maxSize := by
  cases maxSize with
  | zero => rfl
  | succ count =>
      rw [moveFront, moveFront, List.take_succ_cons, List.take_succ_cons,
        filter_take keys key distinct count]

end Keys

/-- The entries are those of the keys used last, each with the value added last. -/
structure Follows {maxSize : Nat} (keys : List Key) (values : Key → Option Value)
    (cache : LruCache Key Value maxSize) : Prop where
  distinct : keys.Nodup
  order : cache.entries.map Prod.fst = (keys.take maxSize).reverse
  content : ∀ entry ∈ cache.entries, values entry.1 = some entry.2

section Simulation

variable {maxSize : Nat} {keys : List Key} {values : Key → Option Value}
  {cache : LruCache Key Value maxSize}

omit [DecidableEq Key] in
theorem follows_mem (follows : Follows keys values cache) (key : Key) :
    key ∈ keys.take maxSize ↔ ∃ value, (key, value) ∈ cache.entries := by
  rw [← List.mem_reverse, ← follows.order, List.mem_map]
  constructor
  · rintro ⟨⟨_, value⟩, member, rfl⟩
    exact ⟨value, member⟩
  · rintro ⟨value, member⟩
    exact ⟨(key, value), member, rfl⟩

theorem follows_peek (follows : Follows keys values cache) (key : Key) :
    cache.peek key = if key ∈ keys.take maxSize then values key else none := by
  split
  · next member =>
      obtain ⟨value, entry⟩ := (follows_mem follows key).mp member
      rw [follows.content (key, value) entry]
      exact (cache.peek_eq_some_iff key value).mpr entry
  · next absent =>
      cases found : cache.peek key with
      | none => rfl
      | some value =>
          exact absurd ((follows_mem follows key).mpr ⟨value, cache.peek_mem key value found⟩) absent

theorem moveLast_keys (entries : List (Key × Value)) (key : Key) (value : Value) :
    ((LruCache.moveLast entries key value).map Prod.fst).reverse =
      moveFront (entries.map Prod.fst).reverse key := by
  rw [LruCache.moveLast, List.map_append, List.reverse_append, moveFront, List.filter_reverse,
    List.filter_map]
  rfl

theorem moveLast_content (follows : Follows keys values cache) (key : Key) (value : Value)
    (entry : Key × Value) (member : entry ∈ LruCache.moveLast cache.entries key value) :
    Function.update values key (some value) entry.1 = some entry.2 := by
  rcases List.mem_append.mp member with kept | last
  · obtain ⟨listed, differs⟩ := List.mem_filter.mp kept
    rw [Function.update_of_ne (of_decide_eq_true differs)]
    exact follows.content entry listed
  · obtain rfl := List.mem_singleton.mp last
    exact Function.update_self key (some value) values

theorem put_follows (follows : Follows keys values cache) (key : Key) (value : Value) :
    Follows (moveFront keys key) (Function.update values key (some value)) (cache.put key value) where
  distinct := moveFront_nodup keys key follows.distinct
  order := by
    have moved := moveLast_keys cache.entries key value
    rw [follows.order, List.reverse_reverse] at moved
    rw [← moveFront_take keys key follows.distinct maxSize, ← moved, LruCache.put, List.map_drop,
      List.take_reverse, List.reverse_reverse, List.length_map]
  content := fun entry member =>
    moveLast_content follows key value entry (List.mem_of_mem_drop member)

theorem get_follows (follows : Follows keys values cache) (key : Key) :
    Follows (touch maxSize keys (.find key : Use Key Value)) values (cache.get key).2 := by
  have found := follows_peek follows key
  rw [touch]
  cases hit : cache.peek key with
  | none =>
      rw [cache.get_miss key hit]
      split
      · next member =>
          obtain ⟨value, entry⟩ := (follows_mem follows key).mp member
          rw [(cache.peek_eq_some_iff key value).mpr entry] at hit
          cases hit
      · exact follows
  | some value =>
      have entry := cache.peek_mem key value hit
      have member := (follows_mem follows key).mpr ⟨value, entry⟩
      have same : Function.update values key (some value) = values :=
        Function.update_eq_self_iff.mpr (follows.content (key, value) entry).symm
      have moved := moveLast_keys cache.entries key value
      rw [follows.order, List.reverse_reverse] at moved
      rw [if_pos member]
      constructor
      · exact moveFront_nodup keys key follows.distinct
      · have fits : (moveFront (keys.take maxSize) key).length ≤ maxSize := by
          rw [← moved, List.length_reverse, List.length_map]
          exact Nat.le_trans (LruCache.moveLast_hit cache.entries key value entry) cache.bounded
        rw [← moveFront_take keys key follows.distinct maxSize, List.take_of_length_le fits, ← moved,
          List.reverse_reverse, cache.get_hit key value hit]
      · intro other listed
        rw [cache.get_hit key value hit] at listed
        rw [← same]
        exact moveLast_content follows key value other listed

theorem serve_follows (follows : Follows keys values cache) (use : Use Key Value) :
    Follows (touch maxSize keys use) (assign values use) (serve cache use) := by
  cases use with
  | add key value => exact put_follows follows key value
  | find key => exact get_follows follows key

theorem run_follows (follows : Follows keys values cache) (uses : List (Use Key Value)) :
    Follows (uses.foldl (touch maxSize) keys) (uses.foldl assign values)
      (Machine.run serve cache uses) := by
  induction uses generalizing keys values cache with
  | nil => exact follows
  | cons use rest ih => exact ih (serve_follows follows use)

/-- From the empty map, a lookup answers what the history says. -/
theorem run_peek (uses : List (Use Key Value)) (key : Key) :
    (Machine.run serve (LruCache.empty : LruCache Key Value maxSize) uses).peek key =
      answer maxSize uses key := by
  have start : Follows [] (fun _ => none) (LruCache.empty : LruCache Key Value maxSize) := by
    constructor
    · exact List.nodup_nil
    · rw [List.take_nil]
      rfl
    · intro entry member
      cases member
  exact follows_peek (run_follows start uses) key

end Simulation

end Ptnet.LruHistory
