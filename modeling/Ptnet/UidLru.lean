import Ptnet.Connection
import Ptnet.LruHistory
import Ptnet.PcapdFrames

/-!
common/uid_lru.c, the cache from a 5-tuple to the uid of its packets, and its use in `read_pkt` of
pcapd/pcapd.c. The hash table is the list of its entries, the one inserted last first: this is the
order in which `HASH_FIND` meets the entries of one key.
-/

namespace Ptnet

open Connection (Tuple)
open LruHistory (Use)
open PcapdFrames (LRU_MISS)

structure UidLru where
  maxSize : Nat
  cache : List (Tuple × BitVec 32) := []
  deriving DecidableEq, Repr

namespace UidLru

def init (maxSize : Nat) : UidLru := { maxSize }

def findEntry (lru : UidLru) (tuple : Tuple) : UidLru × Option (BitVec 32) :=
  match lru.cache.find? fun entry => entry.1 = tuple with
  | some entry => ({ lru with cache := entry :: lru.cache.erase entry }, some entry.2)
  | none => (lru, none)

/-- `uid_lru_add`, with the answer of `pd_malloc`. -/
def add (lru : UidLru) (tuple : Tuple) (uid : BitVec 32) (malloc : Bool) : UidLru :=
  if !malloc then lru
  else
    let cache := (tuple, uid) :: lru.cache
    -- The oldest entry is the first one that the iteration meets.
    { lru with cache := if lru.maxSize < cache.length then cache.dropLast else cache }

def find (lru : UidLru) (tuple : Tuple) : UidLru × BitVec 32 :=
  let (found, uid) := lru.findEntry tuple
  (found, uid.getD LRU_MISS)

/-- The part of `read_pkt` that reads the cache, with the uid found where it has none. -/
def readUid (lru : UidLru) (tuple : Tuple) (resolved : BitVec 32) (malloc : Bool) :
    UidLru × BitVec 32 :=
  let (found, uid) := lru.find tuple
  if uid = LRU_MISS then (found.add tuple resolved malloc, resolved) else (found, uid)

def step (lru : UidLru) : Use Tuple (BitVec 32) → UidLru
  | .find tuple => (lru.find tuple).1
  | .add tuple uid => lru.add tuple uid true

/-- The calls of `read_pkt`: an addition comes right after a lookup of its tuple that missed. -/
inductive Calls : UidLru → List (Use Tuple (BitVec 32)) → Prop where
  | nil (lru : UidLru) : Calls lru []
  | find (lru : UidLru) (tuple : Tuple) (rest : List (Use Tuple (BitVec 32)))
      (later : Calls (lru.find tuple).1 rest) : Calls lru (.find tuple :: rest)
  | miss (lru : UidLru) (tuple : Tuple) (uid : BitVec 32) (rest : List (Use Tuple (BitVec 32)))
      (missed : (lru.find tuple).2 = LRU_MISS)
      (later : Calls ((lru.find tuple).1.add tuple uid true) rest) :
      Calls lru (.find tuple :: .add tuple uid :: rest)

/-- The calls for packets with these tuples, each with the uid that is found where none is cached. -/
theorem reads_calls (lru : UidLru) (packets : List (Tuple × BitVec 32)) :
    ∃ uses, Calls lru uses ∧
      packets.foldl (fun lru packet => (lru.readUid packet.1 packet.2 true).1) lru =
        Machine.run step lru uses := by
  induction packets generalizing lru with
  | nil => exact ⟨[], .nil lru, rfl⟩
  | cons packet rest ih =>
      obtain ⟨uses, calls, reached⟩ := ih (lru.readUid packet.1 packet.2 true).1
      rw [List.foldl_cons, reached]
      simp only [readUid] at calls ⊢
      by_cases missed : (lru.find packet.1).2 = LRU_MISS
      · rw [if_pos missed] at calls ⊢
        exact ⟨.find packet.1 :: .add packet.1 packet.2 :: uses,
          .miss lru packet.1 packet.2 uses missed calls, rfl⟩
      · rw [if_neg missed] at calls ⊢
        exact ⟨.find packet.1 :: uses, .find lru packet.1 uses calls, rfl⟩

end UidLru

end Ptnet
