import Ptnet.IpLru
import Ptnet.UidLru

/-!
The two caches of the native code are bounded maps that forget the least recently used key: each
of their calls does to the entries what the map does, so a lookup answers what the history says.
-/

namespace Ptnet.LruRefinement

open Connection (Ip Tuple)
open LruHistory (Use answer serve)
open PcapdFrames (LRU_MISS)

section Hosts

/-- A call of `ip_lru`, the allocations of which succeed. -/
def hostStep (lru : IpLru) : Use Ip String → IpLru
  | .find ip => (lru.find ip true).1
  | .add ip hostname => lru.add ip hostname {}

variable {maxSize : Nat}

/-- The table holds the entries of the map, in its order. -/
structure Hosts (lru : IpLru) (cache : LruCache Ip String maxSize) : Prop where
  capacity : lru.maxSize = maxSize
  entries : lru.cache = cache.entries

variable {lru : IpLru} {cache : LruCache Ip String maxSize}

theorem findEntry_peek (hosts : Hosts lru cache) (ip : Ip) :
    (lru.findEntry ip).2 = cache.peek ip := by
  rw [IpLru.findEntry, hosts.entries, LruCache.peek]
  split
  · next entry found => rw [found]; rfl
  · next found => rw [found]; rfl

theorem findEntry_hit (hosts : Hosts lru cache) (ip : Ip) (host : String)
    (found : cache.peek ip = some host) :
    (lru.findEntry ip).1 =
      { lru with cache := cache.entries.erase (ip, host) ++ [(ip, host)] } := by
  rw [LruCache.peek] at found
  obtain ⟨⟨key, value⟩, hit, same⟩ := Option.map_eq_some_iff.mp found
  obtain rfl : key = ip := by simpa using List.find?_some hit
  obtain rfl : value = host := same
  rw [IpLru.findEntry, hosts.entries, hit]

theorem findEntry_miss (hosts : Hosts lru cache) (ip : Ip) (missed : cache.peek ip = none) :
    (lru.findEntry ip).1 = lru := by
  rw [LruCache.peek, Option.map_eq_none_iff] at missed
  rw [IpLru.findEntry, hosts.entries, missed]

theorem find_hosts (hosts : Hosts lru cache) (ip : Ip) :
    Hosts (lru.find ip true).1 (cache.get ip).2 := by
  have listed := cache.peek_mem ip
  rw [IpLru.find]
  cases found : cache.peek ip with
  | none =>
      rw [cache.get_miss ip found, findEntry_miss hosts ip found]
      exact hosts
  | some host =>
      rw [findEntry_hit hosts ip host found]
      constructor
      · exact hosts.capacity
      · rw [cache.get_hit ip host found]
        exact (LruCache.moveLast_listed cache.entries (ip, host) host cache.distinct
          (listed host found)).symm

theorem add_hosts (hosts : Hosts lru cache) (ip : Ip) (hostname : String) :
    Hosts (lru.add ip hostname {}) (cache.put ip hostname) := by
  have answered := findEntry_peek hosts ip
  rw [IpLru.add, if_neg (by simp)]
  cases found : cache.peek ip with
  | none =>
      have absent := cache.peek_absent ip found
      have same := findEntry_miss hosts ip found
      rw [found] at answered
      rw [show lru.findEntry ip = (lru, none) from Prod.ext same answered]
      constructor
      · exact hosts.capacity
      · rw [cache.put_absent ip hostname absent, ← hosts.entries, ← hosts.capacity]
        rfl
  | some host =>
      have moved := findEntry_hit hosts ip host found
      rw [found] at answered
      have listed := cache.peek_mem ip host found
      rw [show lru.findEntry ip = (_, some host) from Prod.ext moved answered]
      constructor
      · exact hosts.capacity
      · rw [cache.put_listed ip hostname host listed, LruCache.moveLast_listed cache.entries
          (ip, host) hostname cache.distinct listed]
        exact congrArg (· ++ [(ip, hostname)]) List.dropLast_concat

theorem hostStep_hosts (hosts : Hosts lru cache) (use : Use Ip String) :
    Hosts (hostStep lru use) (serve cache use) := by
  cases use with
  | find ip => exact find_hosts hosts ip
  | add ip hostname => exact add_hosts hosts ip hostname

theorem run_hosts (hosts : Hosts lru cache) (uses : List (Use Ip String)) :
    Hosts (Machine.run hostStep lru uses) (Machine.run serve cache uses) := by
  induction uses generalizing lru cache with
  | nil => exact hosts
  | cons use rest ih => exact ih (hostStep_hosts hosts use)

end Hosts

section Uids

variable {maxSize : Nat}

/-- The table holds the entries of the map in the opposite order, none with the uid of a miss. -/
structure Uids (lru : UidLru) (cache : LruCache Tuple (BitVec 32) maxSize) : Prop where
  capacity : lru.maxSize = maxSize
  entries : lru.cache = cache.entries.reverse
  resolved : ∀ entry ∈ cache.entries, entry.2 ≠ LRU_MISS

variable {lru : UidLru} {cache : LruCache Tuple (BitVec 32) maxSize}

theorem findEntry_known (uids : Uids lru cache) (tuple : Tuple) (uid : BitVec 32)
    (found : cache.peek tuple = some uid) :
    lru.findEntry tuple =
      ({ lru with cache := (LruCache.moveLast cache.entries tuple uid).reverse }, some uid) := by
  have listed := cache.peek_mem tuple uid found
  have distinct := List.Nodup.of_map Prod.fst cache.distinct
  have hit : (cache.entries.reverse.find? fun entry => entry.1 = tuple) = some (tuple, uid) :=
    LruCache.find_listed _ tuple uid (by rw [List.map_reverse, List.nodup_reverse]; exact cache.distinct)
      (List.mem_reverse.mpr listed)
  have erased : (cache.entries.erase (tuple, uid)).reverse =
      cache.entries.reverse.erase (tuple, uid) := by
    rw [distinct.erase_eq_filter, (List.nodup_reverse.mpr distinct).erase_eq_filter, List.filter_reverse]
  rw [UidLru.findEntry, uids.entries, hit]
  simp only
  rw [LruCache.moveLast_listed cache.entries (tuple, uid) uid cache.distinct listed,
    List.reverse_append, erased]
  rfl

theorem findEntry_unknown (uids : Uids lru cache) (tuple : Tuple)
    (missed : cache.peek tuple = none) : lru.findEntry tuple = (lru, none) := by
  have none : (lru.cache.find? fun entry => entry.1 = tuple) = none := by
    rw [LruCache.peek, Option.map_eq_none_iff, List.find?_eq_none] at missed
    rw [uids.entries, List.find?_eq_none]
    intro entry listed
    exact missed entry (List.mem_reverse.mp listed)
  rw [UidLru.findEntry, none]

theorem find_answer (uids : Uids lru cache) (tuple : Tuple) :
    (lru.find tuple).2 = (cache.peek tuple).getD LRU_MISS := by
  rw [UidLru.find]
  cases found : cache.peek tuple with
  | none => rw [findEntry_unknown uids tuple found]
  | some uid => rw [findEntry_known uids tuple uid found]

/-- A known tuple is never reported as a miss. -/
theorem find_missed (uids : Uids lru cache) (tuple : Tuple)
    (missed : (lru.find tuple).2 = LRU_MISS) : cache.peek tuple = none := by
  rw [find_answer uids tuple] at missed
  cases found : cache.peek tuple with
  | none => rfl
  | some uid =>
      rw [found] at missed
      exact absurd missed (uids.resolved (tuple, uid) (cache.peek_mem tuple uid found))

theorem find_uids (uids : Uids lru cache) (tuple : Tuple) :
    Uids (lru.find tuple).1 (cache.get tuple).2 := by
  rw [UidLru.find]
  cases found : cache.peek tuple with
  | none =>
      rw [findEntry_unknown uids tuple found, cache.get_miss tuple found]
      exact uids
  | some uid =>
      have listed := cache.peek_mem tuple uid found
      have moved := cache.get_hit tuple uid found
      rw [findEntry_known uids tuple uid found]
      constructor
      · exact uids.capacity
      · rw [moved]
      · intro entry member
        rw [moved, LruCache.moveLast_listed cache.entries (tuple, uid) uid cache.distinct listed] at member
        rcases List.mem_append.mp member with kept | last
        · exact uids.resolved entry (List.mem_of_mem_erase kept)
        · rw [List.mem_singleton.mp last]
          exact uids.resolved (tuple, uid) listed

theorem add_uids (uids : Uids lru cache) (tuple : Tuple) (uid : BitVec 32)
    (missed : cache.peek tuple = none) (resolved : uid ≠ LRU_MISS) :
    Uids (lru.add tuple uid true) (cache.put tuple uid) := by
  have added := cache.put_absent tuple uid (cache.peek_absent tuple missed)
  constructor
  · exact uids.capacity
  · have newest : (tuple, uid) :: lru.cache = (cache.entries ++ [(tuple, uid)]).reverse := by
      rw [uids.entries, List.reverse_append]
      rfl
    rw [added, apply_ite List.reverse, ← List.dropLast_reverse, ← List.length_reverse, ← newest,
      ← uids.capacity]
    rfl
  · intro entry member
    have listed : entry ∈ cache.entries ++ [(tuple, uid)] := by
      rw [added] at member
      split at member
      · exact List.mem_of_mem_tail member
      · exact member
    rcases List.mem_append.mp listed with kept | last
    · exact uids.resolved entry kept
    · rw [List.mem_singleton.mp last]
      exact resolved

theorem calls_uids (uids : Uids lru cache) (uses : List (Use Tuple (BitVec 32)))
    (calls : UidLru.Calls lru uses) (resolved : ∀ tuple, .add tuple LRU_MISS ∉ uses) :
    Uids (Machine.run UidLru.step lru uses) (Machine.run serve cache uses) := by
  induction calls generalizing cache with
  | nil lru => exact uids
  | find lru tuple rest _ ih =>
      exact ih (find_uids uids tuple) fun other member =>
        resolved other (List.mem_cons_of_mem _ member)
  | miss lru tuple uid rest missed _ ih =>
      have absent := find_missed uids tuple missed
      have looked := find_uids uids tuple
      rw [cache.get_miss tuple absent] at looked
      have known : uid ≠ LRU_MISS := by
        rintro rfl
        exact resolved tuple (List.mem_cons_of_mem _ List.mem_cons_self)
      have later : ∀ other, .add other LRU_MISS ∉ rest := fun other member =>
        resolved other (List.mem_cons_of_mem _ (List.mem_cons_of_mem _ member))
      have reached := ih (add_uids looked tuple uid absent known) later
      have same : serve cache (.find tuple) = cache := cache.get_miss tuple absent
      rw [Machine.run_cons, Machine.run_cons, Machine.run_cons, Machine.run_cons, same]
      exact reached

end Uids

/-- Both caches after any calls: at most their capacity of entries, one for each key, and a lookup
    answers the last value added for a key among those used last. -/
theorem caches_refine (maxSize : Nat) (hosts : List (Use Ip String))
    (uids : List (Use Tuple (BitVec 32))) (calls : UidLru.Calls (UidLru.init maxSize) uids)
    (resolved : ∀ tuple, .add tuple LRU_MISS ∉ uids) :
    let hostLru := Machine.run hostStep (IpLru.init maxSize) hosts
    let uidLru := Machine.run UidLru.step (UidLru.init maxSize) uids
    (hostLru.cache.length ≤ maxSize ∧ (hostLru.cache.map Prod.fst).Nodup ∧
      ∀ ip, (hostLru.find ip true).2 = answer maxSize hosts ip) ∧
    (uidLru.cache.length ≤ maxSize ∧ (uidLru.cache.map Prod.fst).Nodup ∧
      ∀ tuple, (uidLru.find tuple).2 = (answer maxSize uids tuple).getD LRU_MISS) := by
  have noHosts : Hosts (IpLru.init maxSize) (LruCache.empty : LruCache Ip String maxSize) := ⟨rfl, rfl⟩
  have noUids : Uids (UidLru.init maxSize) (LruCache.empty : LruCache Tuple (BitVec 32) maxSize) :=
    ⟨rfl, rfl, fun _ member => nomatch member⟩
  have hostsRun := run_hosts noHosts hosts
  have uidsRun := calls_uids noUids uids calls resolved
  constructor
  · refine ⟨?_, ?_, fun ip => ?_⟩
    · rw [hostsRun.entries]
      exact LruCache.bounded _
    · rw [hostsRun.entries]
      exact LruCache.distinct _
    · rw [← LruHistory.run_peek hosts ip, ← findEntry_peek hostsRun ip]
      rfl
  · refine ⟨?_, ?_, fun tuple => ?_⟩
    · rw [uidsRun.entries, List.length_reverse]
      exact LruCache.bounded _
    · rw [uidsRun.entries, List.map_reverse, List.nodup_reverse]
      exact LruCache.distinct _
    · rw [← LruHistory.run_peek uids tuple, find_answer uidsRun tuple]

def lookedUp : Tuple :=
  { srcIp := 0x0F02000A, dstIp := 0x08080808, srcPort := 40000, dstPort := 53, ipver := 4, ipproto := 17 }

def hostUses : List (Use Ip String) :=
  [.add 0x08080808 "dns.google", .add 0x01010101 "one.one.one.one", .find 0x08080808,
    .add 0x09090909 "dns9.quad9.net"]

def uidUses : List (Use Tuple (BitVec 32)) :=
  [.find lookedUp, .add lookedUp 10071, .find { lookedUp with srcPort := 40001 },
    .add { lookedUp with srcPort := 40001 } 10072, .find lookedUp,
    .find { lookedUp with srcPort := 40002 }, .add { lookedUp with srcPort := 40002 } 10073]

theorem uidUses_calls : UidLru.Calls (UidLru.init 2) uidUses := by
  apply UidLru.Calls.miss
  · decide
  apply UidLru.Calls.miss
  · decide
  apply UidLru.Calls.find
  apply UidLru.Calls.miss
  · decide
  exact .nil _

/-- What was looked up in between is still there, and the other one had to go. -/
theorem lookedUp_cached :
    let hostLru := Machine.run hostStep (IpLru.init 2) hostUses
    let uidLru := Machine.run UidLru.step (UidLru.init 2) uidUses
    ((hostLru.find 0x08080808 true).2 = some "dns.google" ∧
        (hostLru.find 0x01010101 true).2 = none) ∧
      (uidLru.find lookedUp).2 = 10071 ∧
        (uidLru.find { lookedUp with srcPort := 40001 }).2 = LRU_MISS := by
  have resolved : ∀ tuple, .add tuple LRU_MISS ∉ uidUses := by
    simp [uidUses, LRU_MISS]
  obtain ⟨⟨-, -, hosts⟩, -, -, uids⟩ := caches_refine 2 hostUses uidUses uidUses_calls resolved
  refine ⟨⟨(hosts _).trans ?_, (hosts _).trans ?_⟩, (uids _).trans ?_, (uids _).trans ?_⟩
  · decide
  · decide
  · decide
  · decide

/-- A uid that equals the answer of a miss is added again, so its tuple is there twice. -/
theorem missUid_twice :
    let uses : List (Use Tuple (BitVec 32)) :=
      [.find lookedUp, .add lookedUp LRU_MISS, .find lookedUp, .add lookedUp 10071]
    UidLru.Calls (UidLru.init 64) uses ∧
      ¬ ((Machine.run UidLru.step (UidLru.init 64) uses).cache.map Prod.fst).Nodup := by
  constructor
  · apply UidLru.Calls.miss
    · decide
    apply UidLru.Calls.miss
    · decide
    exact .nil _
  · decide

end Ptnet.LruRefinement
