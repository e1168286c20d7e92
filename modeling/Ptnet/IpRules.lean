import Ptnet.BlacklistLines

/-!
The networks of an IP blacklist file: what its rules say, and what `blacklist_match_ip` makes of
them. The prefix length goes through `atoi` and 8 bits, and the family of an address is guessed
again from its bytes, on insertion and on lookup.
-/

namespace Ptnet.IpRules

open Connection (Ip)
open NativeBlacklist BlacklistFile BlacklistLines

def ipv4Address (word : BitVec 32) : Ip := word.setWidth 128 <<< (96 : Nat)

/-- `ndpi_parse_ip_string`, with `inet_pton` for the two families. -/
def ndpiParseIpString (inetPton4 : String → Option (BitVec 32)) (inetPton6 : String → Option Ip)
    (text : String) : Option (Nat × Ip) :=
  if '.' ∈ text.toList then (inetPton4 text).map fun word => (4, ipv4Address word)
  else (inetPton6 text).map fun addr => (6, addr)

def maxBits (ipver : Nat) : Nat := if ipver = 4 then 32 else 128

def numeral (text : String) : Option Nat :=
  if text.toList ≠ [] ∧ ∀ char ∈ text.toList, char.isDigit = true then
    some (text.toList.foldl (fun value char => value * 10 + (char.toNat - '0'.toNat)) 0)
  else none

/-- The prefix length that a rule of the family asks for, if it is one. -/
def prefixLength (rule : List Char) (ipver : Nat) : Option Nat :=
  match slashOf rule with
  | none => some (maxBits ipver)
  | some bits => (numeral bits).filter fun length => length ≤ maxBits ipver

def address (ip : Ip) (ipver : Nat) : Ip := if ipver = 4 then ip >>> 96 <<< 96 else ip

/-- The prefix length that the code adds a rule with. -/
def narrowedBits (rule : List Char) (ipver : Nat) : Nat :=
  (ruleBits (slashOf rule) ipver % 256).toNat

/-- The family that the code takes an address for. -/
def guess (addr : Ip) : Nat := if ndpiIsIpv6 addr then 6 else 4

section Meaning

variable (inetPton4 : String → Option (BitVec 32)) (inetPton6 : String → Option Ip)

def parsed (rule : List Char) : Option (Nat × Ip) :=
  ndpiParseIpString inetPton4 inetPton6 (itemOf rule)

/-- The rule denotes a network of the family that contains the address. -/
def Denotes (rule : List Char) (ip : Ip) (ipver : Nat) : Prop :=
  ∃ addr bits, parsed inetPton4 inetPton6 rule = some (ipver, addr) ∧
    prefixLength rule ipver = some bits ∧ (Prefix.mk addr bits).contains (address ip ipver) = true

/-- An address with a prefix that is no number, or not in the range of the family. -/
def Malformed (rule : List Char) : Prop :=
  ∃ ipver addr, parsed inetPton4 inetPton6 rule = some (ipver, addr) ∧ prefixLength rule ipver = none

/-- The code would store a network for the rule. -/
def Accepted (rule : List Char) : Prop :=
  ∃ ipver addr, parsed inetPton4 inetPton6 rule = some (ipver, addr) ∧
    narrowedBits rule ipver ≤ maxBits (guess addr) ∧
    ¬ (ipver = 4 ∧ ruleBits (slashOf rule) ipver = 32 ∧ isInvalidIpv4 addr = true)

/-- A rule is read as it is written: where it is accepted, its prefix is a number in range and its
    address is taken for one of its own family. -/
def Read (rule : List Char) : Prop :=
  Accepted inetPton4 inetPton6 rule → ∃ ipver addr,
    parsed inetPton4 inetPton6 rule = some (ipver, addr) ∧ prefixLength rule ipver ≠ none ∧
      guess addr = ipver

def Unambiguous (ip : Ip) (ipver : Nat) : Prop := ipver = 4 ∨ ipver = 6 ∧ guess ip = 6

end Meaning

section Tries

def nets (tree : Ptree) : Bool → List Prefix
  | true => tree.v6
  | false => tree.v4

theorem matchIp_iff (bl : Blacklist) (ip : Ip) (ipver : Nat) :
    bl.matchIp ip ipver = true ↔
      ∃ net ∈ nets bl.ptree (ndpiIsIpv6 (address ip ipver)), net.contains (address ip ipver) := by
  rw [Blacklist.matchIp, ndpiPtreeMatchAddr, ← address]
  cases ndpiIsIpv6 (address ip ipver) <;> simp [nets]

theorem maxBits_guess (addr : Ip) :
    maxBits (guess addr) = if ndpiIsIpv6 addr = true then 128 else 32 := by
  rw [guess]
  split <;> rfl

/-- An insertion that succeeds puts one network into the trie of the guessed family. -/
theorem addIp_cases (bl : Blacklist) (malloc : Bool) (addr : Ip) (bits : Nat) :
    (bl.addIp malloc addr bits).2 = bl ∨
      bits ≤ maxBits (guess addr) ∧ ∀ six net,
        net ∈ nets (bl.addIp malloc addr bits).2.ptree six →
          net ∈ nets bl.ptree six ∨ six = ndpiIsIpv6 addr ∧ net = ⟨addr, bits⟩ := by
  rw [maxBits_guess]
  cases family : ndpiIsIpv6 addr <;>
    simp only [Blacklist.addIp, ndpiPtreeInsert, family, Bool.false_eq_true, if_false, if_true]
  all_goals
    split
    · exact Or.inl (by simp)
    · next fits =>
      split
      · exact Or.inl (by simp)
      · split
        · exact Or.inl (by simp)
        · refine Or.inr ⟨Nat.not_lt.mp fits, fun six net member => ?_⟩
          cases six <;> simp_all [nets, or_comm]

theorem addIp_first (addr : Ip) (bits : Nat) (fits : bits ≤ maxBits (guess addr)) :
    ⟨addr, bits⟩ ∈ nets (Blacklist.addIp {} true addr bits).2.ptree (ndpiIsIpv6 addr) := by
  rw [maxBits_guess] at fits
  cases family : ndpiIsIpv6 addr with
  | false =>
      rw [family, if_neg Bool.false_ne_true] at fits
      simp [Blacklist.addIp, ndpiPtreeInsert, family, Nat.not_lt.mpr fits, nets]
  | true =>
      rw [family, if_pos rfl] at fits
      simp [Blacklist.addIp, ndpiPtreeInsert, family, Nat.not_lt.mpr fits, nets]

end Tries

section Loading

variable (inetPton4 : String → Option (BitVec 32)) (inetPton6 : String → Option Ip)

def environment (malloc : Nat → Bool) : Environment :=
  ⟨ndpiParseIpString inetPton4 inetPton6, malloc⟩

theorem environment_malloc (malloc : Nat → Bool) :
    (environment inetPton4 inetPton6 malloc).malloc = malloc := rfl

theorem parsed_family (rule : List Char) (ipver : Nat) (addr : Ip)
    (found : parsed inetPton4 inetPton6 rule = some (ipver, addr)) :
    ipver = 4 ∧ guess addr = 4 ∨ ipver = 6 := by
  rw [parsed, ndpiParseIpString] at found
  split at found
  · obtain ⟨word, -, same⟩ := Option.map_eq_some_iff.mp found
    obtain ⟨rfl, rfl⟩ := Prod.mk.inj same
    refine Or.inl ⟨rfl, ?_⟩
    have word : ipv4Address word <<< (32 : Nat) = 0 := by
      rw [ipv4Address, ← BitVec.shiftLeft_add, BitVec.shiftLeft_eq_zero (by decide)]
      rfl
    simp [guess, ndpiIsIpv6, word]
  · obtain ⟨word, -, same⟩ := Option.map_eq_some_iff.mp found
    exact Or.inr (Prod.mk.inj same).1.symm

theorem addressOf_parsed (malloc : Nat → Bool) (rule : List Char) :
    addressOf (environment inetPton4 inetPton6 malloc) rule = parsed inetPton4 inetPton6 rule := by
  change (parsed inetPton4 inetPton6 rule).filter _ = _
  cases found : parsed inetPton4 inetPton6 rule with
  | none => rfl
  | some address =>
      have family := parsed_family inetPton4 inetPton6 rule address.1 address.2 found
      rw [Option.filter_some, if_pos]
      rcases family with ⟨four, -⟩ | six <;> simp [*]

def Stores (rule : List Char) (six : Bool) (net : Prefix) : Prop :=
  ∃ ipver addr, parsed inetPton4 inetPton6 rule = some (ipver, addr) ∧
    Accepted inetPton4 inetPton6 rule ∧ six = ndpiIsIpv6 addr ∧
      net = ⟨addr, narrowedBits rule ipver⟩

theorem addRule_accepted (malloc : Nat → Bool) (index : Nat) (rule : List Char) (bl : Blacklist)
    (counters : Counters) (room : counters.numOk < MAX_FILE_RULES) (ipver : Nat) (addr : Ip)
    (found : parsed inetPton4 inetPton6 rule = some (ipver, addr))
    (valid : ¬ (ipver = 4 ∧ ruleBits (slashOf rule) ipver = 32 ∧ isInvalidIpv4 addr = true)) :
    (addRule (environment inetPton4 inetPton6 malloc) .ip index rule bl counters).1 =
      (bl.addIp (malloc index) addr (narrowedBits rule ipver)).2 := by
  have below : ¬ MAX_FILE_RULES ≤ counters.numOk := Nat.not_le.mpr room
  have invalid : ¬ invalidHost (environment inetPton4 inetPton6 malloc) .ip rule = true := by
    simpa [invalidHost, addressOf_parsed, found] using valid
  simp [addRule, below, addressOf_parsed, found, invalid, narrowedBits, environment_malloc]

/-- An attempt changes nothing, or it adds the network of an accepted rule. -/
theorem addRule_cases (malloc : Nat → Bool) (index : Nat) (rule : List Char) (bl : Blacklist)
    (counters : Counters) :
    (addRule (environment inetPton4 inetPton6 malloc) .ip index rule bl counters).1 = bl ∨
      Accepted inetPton4 inetPton6 rule ∧ ∀ six net,
        net ∈ nets (addRule (environment inetPton4 inetPton6 malloc) .ip index rule bl
            counters).1.ptree six →
          net ∈ nets bl.ptree six ∨ Stores inetPton4 inetPton6 rule six net := by
  by_cases full : MAX_FILE_RULES ≤ counters.numOk
  · exact Or.inl (by simp only [addRule, full, if_true])
  · cases found : parsed inetPton4 inetPton6 rule with
    | none => exact Or.inl (by simp only [addRule, full, addressOf_parsed, found, if_false])
    | some both =>
        obtain ⟨ipver, addr⟩ := both
        by_cases invalid : ipver = 4 ∧ ruleBits (slashOf rule) ipver = 32 ∧ isInvalidIpv4 addr = true
        · have host : invalidHost (environment inetPton4 inetPton6 malloc) .ip rule = true := by
            simpa [invalidHost, addressOf_parsed, found, and_assoc] using invalid
          exact Or.inl (by simp only [addRule, full, addressOf_parsed, found, host, if_false, if_true])
        · rw [addRule_accepted inetPton4 inetPton6 malloc index rule bl counters
            (Nat.not_le.mp full) ipver addr found invalid]
          refine (addIp_cases bl (malloc index) addr (narrowedBits rule ipver)).imp_right ?_
          rintro ⟨fits, members⟩
          have accepted : Accepted inetPton4 inetPton6 rule := ⟨ipver, addr, found, fits, invalid⟩
          exact ⟨accepted, fun six net member => (members six net member).imp_right
            fun same => ⟨ipver, addr, found, accepted, same⟩⟩

/-- After a load every network in the tries is that of a rule which was tried. -/
theorem addRules_stores (malloc : Nat → Bool) (tried : List (Nat × List Char)) (bl : Blacklist)
    (counters : Counters) (six : Bool) (net : Prefix)
    (member : net ∈ nets (addRules (environment inetPton4 inetPton6 malloc) .ip tried bl
      counters).1.ptree six) :
    net ∈ nets bl.ptree six ∨ ∃ attempt ∈ tried, Stores inetPton4 inetPton6 attempt.2 six net := by
  induction tried generalizing bl counters with
  | nil => exact Or.inl member
  | cons attempt rest ih =>
      rw [addRules, List.foldl_cons, ← Prod.mk.eta (p := addRule _ _ _ _ _ _), ← addRules] at member
      rcases ih _ _ member with before | ⟨later, listed, stored⟩
      · rcases addRule_cases inetPton4 inetPton6 malloc attempt.1 attempt.2 bl counters with
          same | ⟨-, members⟩
        · exact Or.inl (same ▸ before)
        · exact (members six net before).imp_right fun stored =>
            ⟨attempt, List.mem_cons_self, stored⟩
      · exact Or.inr ⟨later, List.mem_cons_of_mem attempt listed, stored⟩

end Loading

section Numbers

theorem strtolDigits_fold (chars : List Char) (value : Nat)
    (digits : ∀ char ∈ chars, char.isDigit = true) :
    strtolDigits chars value =
      chars.foldl (fun value char => value * 10 + (char.toNat - '0'.toNat)) value := by
  induction chars generalizing value with
  | nil => rfl
  | cons char rest ih =>
      rw [strtolDigits, if_pos (digits char List.mem_cons_self), List.foldl_cons]
      exact ih _ fun other member => digits other (List.mem_cons_of_mem char member)

theorem digit_start (char : Char) (digit : char.isDigit = true) :
    isspace char = false ∧ char ≠ '-' ∧ char ≠ '+' := by
  have range : 48 ≤ char.toNat ∧ char.toNat ≤ 57 := by
    simpa [Char.isDigit, UInt32.le_iff_toNat_le] using digit
  refine ⟨?_, ?_, ?_⟩
  · have blank : char ≠ ' ' := by
      rintro rfl
      revert range
      decide
    simp only [isspace, blank, decide_false, Bool.false_or, Bool.and_eq_false_iff,
      decide_eq_false_iff_not]
    omega
  · rintro rfl
    revert range
    decide
  · rintro rfl
    revert range
    decide

theorem atoi_numeral (text : String) (value : Nat) (found : numeral text = some value)
    (small : value ≤ 128) : atoi text = value := by
  rw [numeral] at found
  split at found
  · next valid =>
      obtain ⟨nonempty, digits⟩ := valid
      rw [Option.some.injEq, ← strtolDigits_fold _ _ digits] at found
      cases chars : text.toList with
      | nil => exact absurd chars nonempty
      | cons first rest =>
          rw [chars] at found digits
          obtain ⟨space, minus, plus⟩ := digit_start first (digits first List.mem_cons_self)
          have read : strtol text = value := by
            rw [strtol, chars, List.dropWhile_cons_of_neg (by simp [space])]
            split
            · next same => exact absurd (List.cons.inj same).1 minus
            · next same => exact absurd (List.cons.inj same).1 plus
            · rw [found, LONG_MAX]
              omega
          rw [atoi, read, BitVec.toInt_ofInt]
          exact Int.bmod_eq_of_le (by omega) (by omega)
  · cases found

/-- A prefix length in range is the one that the code adds the rule with. -/
theorem narrowedBits_eq (rule : List Char) (ipver bits : Nat)
    (found : prefixLength rule ipver = some bits) : narrowedBits rule ipver = bits := by
  rw [prefixLength] at found
  have limit : maxBits ipver ≤ 128 := by
    rw [maxBits]
    split <;> decide
  cases slash : slashOf rule with
  | none =>
      rw [slash, Option.some.injEq, maxBits] at found
      rw [narrowedBits, slash, ruleBits, ← found]
      split <;> rfl
  | some text =>
      rw [slash] at found
      obtain ⟨read, small⟩ := Option.filter_eq_some_iff.mp found
      have fits : bits ≤ 128 := (of_decide_eq_true small).trans limit
      rw [narrowedBits, slash, ruleBits, atoi_numeral text bits read fits]
      omega

end Numbers

section Networks

variable (inetPton4 : String → Option (BitVec 32)) (inetPton6 : String → Option Ip)

/-- No attempt on the rule changes a blacklist. -/
def AddsNothing (rule : List Char) : Prop :=
  ∀ malloc index bl counters,
    (addRule (environment inetPton4 inetPton6 malloc) .ip index rule bl counters).1 = bl

/-- The rules of a file match their networks only, and malformed ones are left out. -/
structure MatchesOnly (text : List Char) : Prop where
  matched : ∀ malloc ip ipver, Unambiguous ip ipver →
    (blacklistLoadFile (environment inetPton4 inetPton6 malloc) {} (some text) .ip).1.matchIp
      ip ipver = true →
    ∃ rule ∈ triedRules text, Denotes inetPton4 inetPton6 rule ip ipver
  malformed : ∀ rule ∈ triedRules text, Malformed inetPton4 inetPton6 rule →
    AddsNothing inetPton4 inetPton6 rule

theorem address_four (addr : Ip) (four : ndpiIsIpv6 addr = false) : address addr 4 = addr := by
  have zero : addr <<< (32 : Nat) = 0 := by simpa [ndpiIsIpv6] using four
  rw [address, if_pos rfl]
  apply BitVec.eq_of_getLsbD_eq
  intro index inside
  rw [BitVec.getLsbD_shiftLeft, BitVec.getLsbD_ushiftRight]
  by_cases low : index < 96
  · have bit : (addr <<< (32 : Nat)).getLsbD (index + 32) = false := by
      rw [zero]
      exact BitVec.getLsbD_zero
    rw [BitVec.getLsbD_shiftLeft] at bit
    have place : index + 32 < 128 := by omega
    simp only [place, decide_true, Nat.not_lt.mpr (Nat.le_add_left 32 index), decide_false,
      Bool.not_false, Bool.and_self, Bool.true_and, Nat.add_sub_cancel] at bit
    simp [low, bit]
  · rw [show 96 + (index - 96) = index by omega]
    simp [low, inside]

/-- An IPv6 address without its last three words is looked up as an IPv4 address. -/
theorem matchIp_ambiguous (bl : Blacklist) (ip : Ip) (four : guess ip = 4) :
    bl.matchIp ip 6 = bl.matchIp ip 4 := by
  have short : ndpiIsIpv6 ip = false := by
    by_contra six
    simp [guess, six] at four
  have same := address_four ip short
  rw [address, if_pos rfl] at same
  rw [Blacklist.matchIp, Blacklist.matchIp, if_neg (by decide), if_pos rfl, same]

theorem unambiguous_guess (ip : Ip) (ipver : Nat) (unambiguous : Unambiguous ip ipver) :
    guess (address ip ipver) = ipver := by
  rcases unambiguous with rfl | ⟨rfl, six⟩
  · have word : ip >>> 96 <<< (96 : Nat) <<< (32 : Nat) = 0 := by
      rw [← BitVec.shiftLeft_add, BitVec.shiftLeft_eq_zero (by decide)]
      rfl
    simp [guess, address, ndpiIsIpv6, word]
  · simpa [address] using six

theorem guess_eq (first second : Ip) :
    guess first = guess second ↔ ndpiIsIpv6 first = ndpiIsIpv6 second := by
  simp only [guess]
  cases ndpiIsIpv6 first <;> cases ndpiIsIpv6 second <;> simp

/-- A network that is stored for a rule which is read as written is the one it denotes. -/
theorem stores_denotes (rule : List Char) (ip : Ip) (ipver : Nat) (net : Prefix)
    (read : Read inetPton4 inetPton6 rule) (unambiguous : Unambiguous ip ipver)
    (stored : Stores inetPton4 inetPton6 rule (ndpiIsIpv6 (address ip ipver)) net)
    (inside : net.contains (address ip ipver) = true) :
    Denotes inetPton4 inetPton6 rule ip ipver := by
  obtain ⟨family, addr, found, accepted, same, rfl⟩ := stored
  obtain ⟨other, again, known, valid, own⟩ := read accepted
  obtain ⟨rfl, rfl⟩ := Prod.mk.inj (Option.some.inj (found.symm.trans known))
  have agreed : family = ipver := by
    rw [← own, ← unambiguous_guess ip ipver unambiguous, eq_comm, guess_eq, same]
  subst agreed
  obtain ⟨bits, length⟩ := Option.ne_none_iff_exists'.mp valid
  rw [narrowedBits_eq rule family bits length] at inside
  exact ⟨addr, bits, found, length, inside⟩

theorem malformed_unread (rule : List Char) (malformed : Malformed inetPton4 inetPton6 rule)
    (read : Read inetPton4 inetPton6 rule) : ¬ Accepted inetPton4 inetPton6 rule := by
  intro accepted
  obtain ⟨ipver, addr, found, invalid⟩ := malformed
  obtain ⟨other, again, known, valid, -⟩ := read accepted
  obtain ⟨rfl, rfl⟩ := Prod.mk.inj (Option.some.inj (found.symm.trans known))
  exact valid invalid

theorem read_matchesOnly (text : List Char)
    (reads : ∀ rule ∈ triedRules text, Read inetPton4 inetPton6 rule) :
    MatchesOnly inetPton4 inetPton6 text := by
  constructor
  · intro malloc ip ipver unambiguous found
    rw [blacklistLoadFile_tries, matchIp_iff] at found
    obtain ⟨net, member, inside⟩ := found
    rcases addRules_stores inetPton4 inetPton6 malloc (tries text) {} {} _ net member with
      before | ⟨attempt, listed, stored⟩
    · have empty : ∀ six, nets ({} : Blacklist).ptree six = [] := by
        intro six
        cases six <;> rfl
      rw [empty] at before
      cases before
    · have tried : attempt.2 ∈ triedRules text := List.mem_map_of_mem listed
      exact ⟨attempt.2, tried, stores_denotes inetPton4 inetPton6 attempt.2 ip ipver net
        (reads attempt.2 tried) unambiguous stored inside⟩
  · intro rule tried malformed malloc index bl counters
    exact (addRule_cases inetPton4 inetPton6 malloc index rule bl counters).resolve_right
      fun added => malformed_unread inetPton4 inetPton6 rule malformed (reads rule tried) added.1

/-- A file with one accepted rule matches the address of the rule, in the guessed family. -/
theorem single_stored (rule buffer : List Char) (alone : tries buffer = [(0, rule)]) (ipver : Nat)
    (addr : Ip) (found : parsed inetPton4 inetPton6 rule = some (ipver, addr))
    (accepted : Accepted inetPton4 inetPton6 rule) :
    ⟨addr, narrowedBits rule ipver⟩ ∈ nets (blacklistLoadFile
      (environment inetPton4 inetPton6 fun _ => true) {} (some buffer) .ip).1.ptree
        (ndpiIsIpv6 addr) := by
  obtain ⟨family, again, known, fits, valid⟩ := accepted
  obtain ⟨rfl, rfl⟩ := Prod.mk.inj (Option.some.inj (found.symm.trans known))
  rw [blacklistLoadFile_tries, alone, addRules, List.foldl_cons, List.foldl_nil,
    addRule_accepted inetPton4 inetPton6 _ 0 rule {} {} (by decide) ipver addr found valid]
  exact addIp_first addr (narrowedBits rule ipver) fits

theorem matchesOnly_read (rule buffer : List Char) (alone : tries buffer = [(0, rule)])
    (only : MatchesOnly inetPton4 inetPton6 buffer) : Read inetPton4 inetPton6 rule := by
  intro accepted
  obtain ⟨ipver, addr, found, fits, valid⟩ := id accepted
  have tried : triedRules buffer = [rule] := by rw [triedRules, alone]; rfl
  have stored := single_stored inetPton4 inetPton6 rule buffer alone ipver addr found accepted
  refine ⟨ipver, addr, found, fun malformed => ?_, ?_⟩
  · -- The rule would be added to an empty list.
    have nothing := only.malformed rule (tried ▸ List.mem_singleton.mpr rfl)
      ⟨ipver, addr, found, malformed⟩ (fun _ => true) 0 {} {}
    rw [blacklistLoadFile_tries, alone, addRules, List.foldl_cons, List.foldl_nil, nothing] at stored
    cases family : ndpiIsIpv6 addr <;> rw [family] at stored <;> cases stored
  · rcases parsed_family inetPton4 inetPton6 rule ipver addr found with ⟨rfl, own⟩ | rfl
    · exact own
    · by_contra other
      -- Its own address would be matched as an IPv4 address.
      have four : ndpiIsIpv6 addr = false := by
        by_contra six
        exact other (by simp [guess, six])
      have same := address_four addr four
      have matched := only.matched (fun _ => true) addr 4 (Or.inl rfl)
        ((matchIp_iff _ _ _).mpr ⟨_, by rw [same]; exact stored, by simp [Prefix.contains, same]⟩)
      obtain ⟨denoting, listed, address, bits, known, -⟩ := matched
      rw [tried, List.mem_singleton] at listed
      rw [listed, found] at known
      cases known

/-- Each file with rules of this one matches their networks only, exactly if they are read as they
    are written. Where every line fits these rules are those of the lines; and the IPv6 addresses
    that are left out are matched as IPv4 addresses. -/
theorem networks_iff (text : List Char) :
    ((∀ other, (∀ rule ∈ triedRules other, rule ∈ triedRules text) →
        MatchesOnly inetPton4 inetPton6 other) ↔
      ∀ rule ∈ triedRules text, Read inetPton4 inetPton6 rule) ∧
    ((∀ line ∈ lines text, line.Fits) → triedRules text = rules text) ∧
    ∀ (bl : Blacklist) (ip : Ip), ¬ Unambiguous ip 6 → bl.matchIp ip 6 = bl.matchIp ip 4 := by
  refine ⟨?_, ?_, ?_⟩
  · constructor
    · intro only rule tried
      obtain ⟨buffer, alone⟩ := triedRules_buffer text rule tried
      refine matchesOnly_read inetPton4 inetPton6 rule buffer alone (only buffer ?_)
      intro other member
      rw [triedRules, alone, List.map_singleton, List.mem_singleton] at member
      exact member ▸ tried
    · exact fun reads other within => read_matchesOnly inetPton4 inetPton6 other
        fun rule tried => reads rule (within rule tried)
  · intro fits
    rw [triedRules, tries, attempts_rules]
    exact (tried_rules_iff text).mpr fits
  · intro bl ip ambiguous
    apply matchIp_ambiguous
    rw [guess]
    split
    · next six => exact absurd (Or.inr ⟨rfl, by simp [guess, six]⟩) ambiguous
    · rfl

/-- `inet_pton` for the one address of the file below. -/
def onlyHost (text : String) : Option (BitVec 32) :=
  if text = "1.2.3.4" then some 0x01020304 else none

def wideRule : List Char := "1.2.3.4/256".toList

theorem wideRule_parsed :
    parsed onlyHost (fun _ => none) wideRule = some (4, ipv4Address 0x01020304) := by
  decide +kernel

/-- A prefix length of 256 becomes 0: every IPv4 address is matched. -/
theorem widePrefix_matches :
    ¬ MatchesOnly onlyHost (fun _ => none) "1.2.3.4/256\n".toList := by
  intro only
  have alone : tries "1.2.3.4/256\n".toList = [(0, wideRule)] := by decide +kernel
  have narrowed : narrowedBits wideRule 4 = 0 := by decide +kernel
  have stored := single_stored onlyHost (fun _ => none) wideRule _ alone 4 _ wideRule_parsed
    ⟨4, _, wideRule_parsed, by rw [narrowed]; exact Nat.zero_le _,
      fun invalid => absurd invalid.2.2 (by decide +kernel)⟩
  rw [narrowed] at stored
  obtain ⟨rule, tried, addr, number, -, length, -⟩ := only.matched (fun _ => true)
    (ipv4Address 0x09090909) 4 (Or.inl rfl)
    ((matchIp_iff _ _ _).mpr ⟨_, stored, by decide +kernel⟩)
  rw [triedRules, alone, List.map_singleton, List.mem_singleton] at tried
  have bits : slashOf wideRule = some "256" := by decide +kernel
  have absent : prefixLength wideRule 4 = none := by simp [prefixLength, bits, numeral, maxBits]
  rw [tried, absent] at length
  cases length

end Networks

end Ptnet.IpRules
