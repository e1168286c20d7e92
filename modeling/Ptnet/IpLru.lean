import Ptnet.Connection

/-!
core/ip_lru.c, the cache from an address to the host of a DNS reply. The hash table is the list of
its entries in the order of their insertion, in which it is iterated; a lookup deletes the entry it
finds and inserts it again.
-/

namespace Ptnet

open Connection (Ip)

/-- `ip_lru_t`. The key has no IP version: an IPv4 address is the first four of its bytes. -/
structure IpLru where
  maxSize : Nat
  cache : List (Ip × String) := []
  deriving Repr

namespace IpLru

/-- The answers of `pd_strdup` and `pd_malloc`. -/
structure Alloc where
  strdup : Bool := true
  malloc : Bool := true
  deriving DecidableEq, Repr

def init (maxSize : Nat) : IpLru := { maxSize }

def findEntry (lru : IpLru) (ip : Ip) : IpLru × Option String :=
  match lru.cache.find? fun entry => entry.1 = ip with
  | some entry => ({ lru with cache := lru.cache.erase entry ++ [entry] }, some entry.2)
  | none => (lru, none)

def add (lru : IpLru) (ip : Ip) (hostname : String) (alloc : Alloc) : IpLru :=
  if !alloc.strdup then lru
  else
    match lru.findEntry ip with
    | (moved, some _) => { moved with cache := moved.cache.dropLast ++ [(ip, hostname)] }
    | (same, none) =>
        if !alloc.malloc then same
        else
          let cache := same.cache ++ [(ip, hostname)]
          -- The oldest entry is the first one that the iteration meets.
          { same with cache := if same.maxSize < cache.length then cache.tail else cache }

def find (lru : IpLru) (ip : Ip) (strdup : Bool) : IpLru × Option String :=
  let (found, host) := lru.findEntry ip
  (found, if strdup then host else none)

section Entries

variable (lru : IpLru) (ip : Ip)

theorem findEntry_mem (entry : Ip × String) :
    entry ∈ (findEntry lru ip).1.cache ↔ entry ∈ lru.cache := by
  rw [findEntry]
  split
  · next hit found =>
      have listed := List.mem_of_find?_eq_some found
      rw [List.mem_append, List.mem_singleton]
      constructor
      · rintro (kept | rfl)
        · exact List.mem_of_mem_erase kept
        · exact listed
      · intro member
        by_cases same : entry = hit
        · exact .inr same
        · exact .inl ((List.mem_erase_of_ne same).mpr member)
  · exact Iff.rfl

theorem findEntry_host (host : String) (found : (findEntry lru ip).2 = some host) :
    (ip, host) ∈ lru.cache := by
  rw [findEntry] at found
  split at found
  · next hit listed =>
      have key : hit.1 = ip := by simpa using List.find?_some listed
      obtain rfl := Option.some.inj found
      obtain rfl := key
      exact List.mem_of_find?_eq_some listed
  · cases found

/-- The entries after an addition are among those before, but for the one added. -/
theorem add_mem (hostname : String) (alloc : Alloc) (entry : Ip × String)
    (member : entry ∈ (add lru ip hostname alloc).cache) :
    entry ∈ lru.cache ∨ entry = (ip, hostname) := by
  have moved := findEntry_mem lru ip entry
  rw [add] at member
  split at member
  · exact .inl member
  · split at member
    · next after host found =>
        rw [found] at moved
        rcases List.mem_append.mp member with kept | new
        · exact .inl (moved.mp (List.dropLast_subset _ kept))
        · exact .inr (List.mem_singleton.mp new)
    · next after found =>
        rw [found] at moved
        split at member
        · exact .inl (moved.mp member)
        · have listed : entry ∈ after.cache ++ [(ip, hostname)] := by
            simp only at member
            split at member
            · exact List.mem_of_mem_tail member
            · exact member
          rcases List.mem_append.mp listed with kept | new
          · exact .inl (moved.mp kept)
          · exact .inr (List.mem_singleton.mp new)

theorem find_mem (strdup : Bool) (entry : Ip × String) :
    entry ∈ (find lru ip strdup).1.cache ↔ entry ∈ lru.cache := findEntry_mem lru ip entry

theorem find_host (strdup : Bool) (host : String) (found : (find lru ip strdup).2 = some host) :
    (ip, host) ∈ lru.cache := by
  rw [find] at found
  simp only at found
  split at found
  · exact findEntry_host lru ip host found
  · cases found

end Entries

end IpLru

end Ptnet
