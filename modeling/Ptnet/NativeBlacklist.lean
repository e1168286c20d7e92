import Mathlib
import Ptnet.Connection

/-!
`blacklist_t` of core/blacklist.c: domains, UIDs and networks, with the loader of a
Kotlin `ListDescriptor`. The nDPI Patricia tries are kept as the lists of their prefixes;
`inet_pton` and the outcome of every `malloc` are parameters.
-/

namespace Ptnet.NativeBlacklist

open Connection (Ip)

def EINVAL : Int := 22
def ENOMEM : Int := 12
def EADDRINUSE : Int := 98

/-- A prefix stored in one of the two tries, most significant address bit first. -/
structure Prefix where
  addr : Ip
  bits : Nat
  deriving DecidableEq, Repr

def Prefix.contains (net : Prefix) (addr : Ip) : Bool :=
  addr >>> (128 - net.bits) == net.addr >>> (128 - net.bits)

structure Ptree where
  v4 : List Prefix := []
  v6 : List Prefix := []
  deriving DecidableEq, Repr

/-- `ndpi_is_ipv6`: the family is guessed from the last three words. -/
def ndpiIsIpv6 (addr : Ip) : Bool := addr <<< 32 != 0

def ndpiPtreeInsert (tree : Ptree) (malloc : Bool) (addr : Ip) (bits : Nat) : Int × Ptree :=
  if ndpiIsIpv6 addr then
    if 128 < bits then (-1, tree)
    else if tree.v6.any fun net => net.bits = bits && net.contains addr then (-2, tree)
    else if !malloc then (-3, tree)
    else (0, { tree with v6 := ⟨addr, bits⟩ :: tree.v6 })
  else
    if 32 < bits then (-1, tree)
    else if tree.v4.any fun net => net.bits = bits && net.contains addr then (-2, tree)
    else if !malloc then (-3, tree)
    else (0, { tree with v4 := ⟨addr, bits⟩ :: tree.v4 })

def ndpiPtreeMatchAddr (tree : Ptree) (addr : Ip) : Bool :=
  if ndpiIsIpv6 addr then tree.v6.any (·.contains addr) else tree.v4.any (·.contains addr)

/-- `blacklist_t` without its statistics. -/
structure Blacklist where
  domains : List String := []
  uids : List Int := []
  ptree : Ptree := {}
  deriving DecidableEq, Repr

/-- Skips a leading `www.`. -/
def stripWww (domain : String) : String :=
  if "www.".toList.isPrefixOf domain.toList then String.ofList (domain.toList.drop 4) else domain

/-- The index of the last `.` among the first `stop` characters: `memrchr`. -/
def memrchrDot (chars : List Char) (stop : Nat) : Option Nat :=
  (List.range stop).reverse.find? fun index => chars[index]? = some '.'

def getSecondLevelDomain (domain : String) : String :=
  match memrchrDot domain.toList domain.toList.length with
  | none => domain
  | some dot =>
      if dot = 0 then domain
      else match memrchrDot domain.toList dot with
        | none => domain
        | some previous => String.ofList (domain.toList.drop (previous + 1))

namespace Blacklist

def matchDomain (bl : Blacklist) (domain : String) : Bool :=
  let host := stripWww domain
  bl.domains.contains host || bl.domains.contains (getSecondLevelDomain host)

def matchUid (bl : Blacklist) (uid : Int) : Bool := bl.uids.contains uid

/-- `blacklist_match_ip`: an IPv4 address occupies the first word, the rest is zero. -/
def matchIp (bl : Blacklist) (ip : Ip) (ipver : Nat) : Bool :=
  ndpiPtreeMatchAddr bl.ptree (if ipver = 4 then ip >>> 96 <<< 96 else ip)

def addDomain (bl : Blacklist) (malloc : Bool) (domain : String) : Int × Blacklist :=
  if bl.matchDomain (stripWww domain) then (-EADDRINUSE, bl)
  else if !malloc then (-ENOMEM, bl)
  else (0, { bl with domains := stripWww domain :: bl.domains })

def addIp (bl : Blacklist) (malloc : Bool) (addr : Ip) (bits : Nat) : Int × Blacklist :=
  match ndpiPtreeInsert bl.ptree malloc addr bits with
  | (rv, tree) =>
      if rv ≠ 0 then (if rv = -2 then (-EADDRINUSE, bl) else (-EINVAL, bl))
      else (0, { bl with ptree := tree })

/-- `parse` is `ndpi_parse_ip_string`: the IP version and the address. -/
def addIpstr (bl : Blacklist) (parse : String → Option (Nat × Ip)) (malloc : Bool)
    (ip : String) : Int × Blacklist :=
  match parse ip with
  | none => (-EINVAL, bl)
  | some (ipver, addr) =>
      if ipver ≠ 4 ∧ ipver ≠ 6 then (-EINVAL, bl)
      else bl.addIp malloc addr (if ipver = 4 then 32 else 128)

def addUid (bl : Blacklist) (malloc : Bool) (uid : Int) : Int × Blacklist :=
  if bl.matchUid uid then (-EADDRINUSE, bl)
  else if !malloc then (-ENOMEM, bl)
  else (0, { bl with uids := uid :: bl.uids })

end Blacklist

def LONG_MAX : Int := 9223372036854775807

def strtolDigits : List Char → Nat → Nat
  | [], value => value
  | char :: rest, value =>
      if char.isDigit then strtolDigits rest (value * 10 + (char.toNat - '0'.toNat)) else value

def isspace (char : Char) : Bool :=
  char = ' ' || (9 ≤ char.toNat && char.toNat ≤ 13)

def strtol (text : String) : Int :=
  match text.toList.dropWhile isspace with
  | '-' :: rest => max (-LONG_MAX - 1) (-(strtolDigits rest 0 : Int))
  | '+' :: rest => min LONG_MAX (strtolDigits rest 0 : Int)
  | rest => min LONG_MAX (strtolDigits rest 0 : Int)

/-- `atoi`: `strtol` narrowed to an `int`. -/
def atoi (text : String) : Int := (BitVec.ofInt 32 (strtol text)).toInt

inductive BlacklistType where
  | ip
  | domain
  | uid
  deriving DecidableEq, Repr

/-- Parameters of a load: the libc parser and the outcome of each allocation. -/
structure Environment where
  parse : String → Option (Nat × Ip)
  malloc : Nat → Bool

def Environment.plenty : Environment := ⟨fun _ => none, fun _ => true⟩

/-- One iteration of the loop in `bl_load_list_of_type`. -/
def addItem (env : Environment) (bl : Blacklist) (index : Nat) (item : String) :
    BlacklistType → Int × Blacklist
  | .ip => bl.addIpstr env.parse (env.malloc index) item
  | .domain => bl.addDomain (env.malloc index) item
  | .uid => bl.addUid (env.malloc index) (atoi item)

/-- `bl_load_list_of_type` from item `index` on. A failure ends the loop with -1. -/
def loadItems (env : Environment) (tp : BlacklistType) :
    List String → Nat → Int → Blacklist → Int × Blacklist
  | [], _, loaded, bl => (loaded, bl)
  | item :: rest, index, loaded, bl =>
      match addItem env bl index item tp with
      | (rv, next) =>
          if rv = 0 then loadItems env tp rest (index + 1) (loaded + 1) next
          else if rv = -EADDRINUSE then loadItems env tp rest (index + 1) loaded next
          else (-1, next)

def blLoadListOfType (env : Environment) (bl : Blacklist) (list : List String)
    (tp : BlacklistType) : Int × Blacklist :=
  loadItems env tp list 0 0 bl

structure ListDescriptor where
  apps : List String := []
  hosts : List String := []
  ips : List String := []
  deriving DecidableEq, Repr

/-- `blacklist_load_list_descriptor`, each list with its own environment. -/
def blacklistLoadListDescriptor (apps hosts ips : Environment) (bl : Blacklist)
    (ld : ListDescriptor) : Int × Blacklist :=
  match blLoadListOfType apps bl ld.apps .uid with
  | (numApps, withApps) =>
      match blLoadListOfType hosts withApps ld.hosts .domain with
      | (numDomains, withHosts) =>
          match blLoadListOfType ips withHosts ld.ips .ip with
          | (numIps, withIps) =>
              if numApps = -1 ∨ numIps = -1 ∨ numDomains = -1 then (-1, withIps)
              else (0, withIps)

section LoadedUids

theorem addUid_matches (bl : Blacklist) (malloc : Bool) (added uid : Int)
    (accepted : (bl.addUid malloc added).1 = 0 ∨ (bl.addUid malloc added).1 = -EADDRINUSE) :
    (bl.addUid malloc added).2.matchUid uid ↔ bl.matchUid uid ∨ added = uid := by
  by_cases present : bl.matchUid added
  · have kept : bl.addUid malloc added = (-EADDRINUSE, bl) := by
      simp [Blacklist.addUid, present]
    rw [kept]
    constructor
    · intro found
      exact Or.inl found
    · rintro (found | rfl)
      · exact found
      · exact present
  · cases malloc with
    | false => simp [Blacklist.addUid, present, ENOMEM, EADDRINUSE] at accepted
    | true =>
        have grown : bl.addUid true added = (0, { bl with uids := added :: bl.uids }) := by
          simp [Blacklist.addUid, present]
        rw [grown, or_comm]
        simp [Blacklist.matchUid, eq_comm (a := uid)]

/-- Loading UIDs without a failure adds exactly the parsed items. -/
theorem loadItems_matchUid (env : Environment) (items : List String) (index : Nat)
    (loaded : Int) (bl : Blacklist) (uid : Int) (count : 0 ≤ loaded)
    (complete : (loadItems env .uid items index loaded bl).1 ≠ -1) :
    (loadItems env .uid items index loaded bl).2.matchUid uid ↔
      bl.matchUid uid ∨ ∃ item ∈ items, atoi item = uid := by
  induction items generalizing index loaded bl with
  | nil => simp [loadItems]
  | cons item rest ih =>
      have step := addUid_matches bl (env.malloc index) (atoi item) uid
      rcases outcome : bl.addUid (env.malloc index) (atoi item) with ⟨rv, next⟩
      rw [outcome] at step
      simp only [loadItems, addItem, outcome] at complete ⊢
      by_cases fresh : rv = 0
      · simp only [fresh, ↓reduceIte] at complete ⊢
        rw [ih (index + 1) (loaded + 1) next (by omega) complete, step (Or.inl fresh)]
        simp [or_assoc]
      · by_cases duplicate : rv = -EADDRINUSE
        · rw [if_neg fresh, if_pos duplicate] at complete ⊢
          rw [ih (index + 1) loaded next count complete, step (Or.inr duplicate)]
          simp [or_assoc]
        · simp [fresh, duplicate] at complete

theorem addIp_uids (bl : Blacklist) (malloc : Bool) (addr : Ip) (bits : Nat) :
    (bl.addIp malloc addr bits).2.uids = bl.uids := by
  simp only [Blacklist.addIp]
  split <;> (try split) <;> rfl

theorem addItem_uids (env : Environment) (bl : Blacklist) (index : Nat) (item : String)
    (tp : BlacklistType) (other : tp ≠ .uid) :
    (addItem env bl index item tp).2.uids = bl.uids := by
  cases tp with
  | uid => exact absurd rfl other
  | ip =>
      simp only [addItem, Blacklist.addIpstr]
      split
      · rfl
      · split
        · rfl
        · exact addIp_uids _ _ _ _
  | domain =>
      simp only [addItem, Blacklist.addDomain]
      split
      · rfl
      · split <;> rfl

theorem loadItems_uids (env : Environment) (tp : BlacklistType) (other : tp ≠ .uid)
    (items : List String) (index : Nat) (loaded : Int) (bl : Blacklist) :
    (loadItems env tp items index loaded bl).2.uids = bl.uids := by
  induction items generalizing index loaded bl with
  | nil => rfl
  | cons item rest ih =>
      have kept := addItem_uids env bl index item tp other
      rcases outcome : addItem env bl index item tp with ⟨rv, next⟩
      rw [outcome] at kept
      simp only [loadItems, outcome]
      split
      · rw [ih]; exact kept
      · split
        · rw [ih]; exact kept
        · exact kept

/-- A fresh blacklist matches the UIDs of the descriptor's `apps` once these are loaded,
    whatever becomes of its hosts and addresses. -/
theorem loadListDescriptor_matchUid (apps hosts ips : Environment) (ld : ListDescriptor)
    (uid : Int) (complete : (blLoadListOfType apps {} ld.apps .uid).1 ≠ -1) :
    (blacklistLoadListDescriptor apps hosts ips {} ld).2.matchUid uid ↔
      ∃ item ∈ ld.apps, atoi item = uid := by
  have kept : (blacklistLoadListDescriptor apps hosts ips {} ld).2.uids =
      (blLoadListOfType apps {} ld.apps .uid).2.uids := by
    simp only [blacklistLoadListDescriptor]
    split <;>
      exact (loadItems_uids ips .ip (by decide) _ _ _ _).trans
        (loadItems_uids hosts .domain (by decide) _ _ _ _)
  rw [Blacklist.matchUid, kept, ← Blacklist.matchUid, blLoadListOfType,
    loadItems_matchUid apps ld.apps 0 0 {} uid (by decide) complete]
  simp [Blacklist.matchUid]

end LoadedUids

theorem isAlpha_range (char : Char) (letter : char.isAlpha = true) :
    65 ≤ char.toNat ∧ char.toNat ≤ 90 ∨ 97 ≤ char.toNat ∧ char.toNat ≤ 122 := by
  simpa [Char.isAlpha, Char.isUpper, Char.isLower, UInt32.le_iff_toNat_le] using letter

/-- A name whose first character is a letter has no numeric value. -/
theorem atoi_letter (text : String) (first : Char) (rest : List Char)
    (name : text.toList = first :: rest) (letter : first.isAlpha = true) : atoi text = 0 := by
  have range := isAlpha_range first letter
  have digit : first.isDigit = false := by
    change (decide (48 ≤ first.val) && decide (first.val ≤ 57)) = false
    simp only [UInt32.le_iff_toNat_le, Bool.and_eq_false_iff, decide_eq_false_iff_not]
    change ¬ 48 ≤ first.toNat ∨ ¬ first.toNat ≤ 57
    omega
  have space : isspace first = false := by
    have blank : first ≠ ' ' := by
      rintro rfl
      revert range
      decide
    simp only [isspace, blank, decide_false, Bool.false_or, Bool.and_eq_false_iff,
      decide_eq_false_iff_not]
    omega
  have minus : first ≠ '-' := by
    rintro rfl
    revert range
    decide
  have plus : first ≠ '+' := by
    rintro rfl
    revert range
    decide
  have value : strtol text = 0 := by
    rw [strtol, name, List.dropWhile_cons_of_neg (by simp [space])]
    split
    · next same => exact absurd (List.cons.inj same).1 minus
    · next same => exact absurd (List.cons.inj same).1 plus
    · rw [strtolDigits, digit, if_neg Bool.false_ne_true]
      decide
  simp [atoi, value]

end Ptnet.NativeBlacklist
