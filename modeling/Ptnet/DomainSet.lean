import Ptnet.HostMatching
import Ptnet.Machine

/-!
The domains of a blacklist as a set: what `blacklist_match_domain` answers after any sequence of
calls of `blacklist_add_domain`. A call leaves its domain out when the rules before it match it
already, so that what is stored depends on the order.
-/

namespace Ptnet.DomainSet

open NativeBlacklist HostMatching

/-- A call of `blacklist_add_domain`, with the outcome of its allocations. -/
structure Addition where
  domain : String
  malloc : Bool := true

/-- A blacklist with the domains that its callers believe to be in it. -/
structure Rules where
  bl : Blacklist := {}
  added : List String := []

namespace Rules

variable (set : Rules)

/-- Out of memory is the one answer that leaves the domain out for the caller as well. -/
def add (addition : Addition) : Rules :=
  let (rv, bl) := set.bl.addDomain addition.malloc addition.domain
  { bl := bl, added := if rv = -ENOMEM then set.added else addition.domain :: set.added }

/-- An added domain is the host or its last two labels, each without a leading `www.`. -/
def Means (host : String) : Prop :=
  ∃ domain ∈ set.added, stripWww domain = stripWww host ∨
    stripWww domain = getSecondLevelDomain (stripWww host)

/-- The matcher answers as the added domains say. -/
def Exact : Prop := ∀ host, set.bl.matchDomain host ↔ set.Means host

def Stored : Prop := ∀ rule ∈ set.bl.domains, ∃ domain ∈ set.added, stripWww domain = rule

def Complete : Prop := ∀ domain ∈ set.added, Covers set.bl (stripWww domain)

end Rules

/-- A domain with two `www.` which the rules match without the first one, but not as it is. -/
def Shadowed (bl : Blacklist) (domain : String) : Prop :=
  Repeated domain ∧ bl.matchDomain (stripWww domain) = true ∧ bl.matchDomain domain = false

instance (bl : Blacklist) (domain : String) : Decidable (Shadowed bl domain) :=
  inferInstanceAs (Decidable (_ ∧ _))

section Stripping

theorem stripWww_www (rest : String) : stripWww ("www." ++ rest) = rest := by
  unfold stripWww
  rw [String.toList_append, if_pos (List.isPrefixOf_iff_prefix.mpr (List.prefix_append _ _))]
  exact String.toList_inj.mp (String.toList_ofList.trans (List.drop_left' rfl))

theorem stripWww_plain (text : String) (plain : ¬ ∃ rest, text = "www." ++ rest) :
    stripWww text = text := by
  unfold stripWww
  rw [if_neg]
  intro front
  obtain ⟨rest, same⟩ := List.isPrefixOf_iff_prefix.mp front
  apply plain
  refine ⟨String.ofList rest, String.toList_inj.mp ?_⟩
  rw [String.toList_append, String.toList_ofList (l := rest), same]

theorem stripWww_single (domain : String) (single : ¬ Repeated domain) :
    stripWww (stripWww domain) = stripWww domain := by
  by_cases front : ∃ rest, domain = "www." ++ rest
  · obtain ⟨rest, rfl⟩ := front
    rw [stripWww_www]
    apply stripWww_plain
    rintro ⟨more, rfl⟩
    exact single ((repeated_iff _).mpr ⟨more, www_www more⟩)
  · rw [stripWww_plain domain front, stripWww_plain domain front]

end Stripping

namespace Rules

variable (set : Rules) (addition : Addition)

/-- Whether the rules cover the added domains decides what the matcher answers. -/
theorem exact_iff (stored : set.Stored) : set.Exact ↔ set.Complete := by
  constructor
  · intro faithful domain member
    rw [← matchDomain_iff, faithful domain]
    exact ⟨domain, member, Or.inl rfl⟩
  · intro complete host
    rw [matchDomain_iff]
    constructor
    · rintro (found | found)
      · obtain ⟨domain, member, same⟩ := stored _ found
        exact ⟨domain, member, Or.inl same⟩
      · obtain ⟨domain, member, same⟩ := stored _ found
        exact ⟨domain, member, Or.inr same⟩
    · rintro ⟨domain, member, same | same⟩
      · exact same ▸ complete domain member
      · have covered := complete domain member
        rw [same, Covers, getSecondLevelDomain_idem, or_self] at covered
        exact Or.inr covered

/-- What one call does: a duplicate, a failure, or a new rule. -/
theorem add_cases :
    (set.bl.matchDomain (stripWww addition.domain) = true ∧
      set.add addition = { set with added := addition.domain :: set.added }) ∨
    (set.bl.matchDomain (stripWww addition.domain) = false ∧ addition.malloc = false ∧
      set.add addition = set) ∨
    (set.bl.matchDomain (stripWww addition.domain) = false ∧ addition.malloc = true ∧
      set.add addition =
        { bl := { set.bl with domains := stripWww addition.domain :: set.bl.domains }
          added := addition.domain :: set.added }) := by
  by_cases found : set.bl.matchDomain (stripWww addition.domain) = true
  · refine Or.inl ⟨found, ?_⟩
    simp [add, Blacklist.addDomain, found, EADDRINUSE, ENOMEM]
  · have absent := Bool.eq_false_of_not_eq_true found
    cases outcome : addition.malloc with
    | false => exact Or.inr (Or.inl ⟨absent, rfl, by simp [add, Blacklist.addDomain, absent, outcome]⟩)
    | true =>
        refine Or.inr (Or.inr ⟨absent, rfl, ?_⟩)
        simp [add, Blacklist.addDomain, absent, outcome, ENOMEM]

theorem add_stored (stored : set.Stored) : (set.add addition).Stored := by
  intro rule member
  rcases add_cases set addition with ⟨-, next⟩ | ⟨-, -, next⟩ | ⟨-, -, next⟩
  · rw [next] at member ⊢
    obtain ⟨domain, known, same⟩ := stored rule member
    exact ⟨domain, List.mem_cons_of_mem _ known, same⟩
  · rw [next] at member ⊢
    exact stored rule member
  · rw [next] at member ⊢
    rcases List.mem_cons.mp member with rfl | older
    · exact ⟨addition.domain, List.mem_cons_self, rfl⟩
    · obtain ⟨domain, known, same⟩ := stored rule older
      exact ⟨domain, List.mem_cons_of_mem _ known, same⟩

/-- A domain is lost only if it is taken for a duplicate without being covered. -/
theorem shadowed_iff :
    Shadowed set.bl addition.domain ↔ set.bl.matchDomain (stripWww addition.domain) = true ∧
      ¬ Covers set.bl (stripWww addition.domain) := by
  rw [Shadowed, ← Bool.not_eq_true, matchDomain_iff set.bl addition.domain]
  refine ⟨fun shadowed => shadowed.2, fun lost => ⟨?_, lost⟩⟩
  by_contra single
  rw [matchDomain_iff, stripWww_single addition.domain single] at lost
  exact lost.2 lost.1

theorem add_complete (complete : set.Complete) :
    (set.add addition).Complete ↔ ¬ Shadowed set.bl addition.domain := by
  rw [shadowed_iff set addition, not_and_not_right]
  rcases add_cases set addition with ⟨found, next⟩ | ⟨absent, -, next⟩ | ⟨absent, -, next⟩
  · rw [next]
    constructor
    · exact fun all _ => all addition.domain List.mem_cons_self
    · intro covered domain member
      rcases List.mem_cons.mp member with rfl | older
      · exact covered found
      · exact complete domain older
  · rw [next]
    exact iff_of_true complete fun found => absurd found (Bool.eq_false_iff.mp absent)
  · rw [next]
    refine iff_of_true (fun domain member => ?_) fun found => absurd found (Bool.eq_false_iff.mp absent)
    rcases List.mem_cons.mp member with rfl | older
    · exact Or.inl List.mem_cons_self
    · exact (complete domain older).imp (List.mem_cons_of_mem _) (List.mem_cons_of_mem _)

theorem run_stored (additions : List Addition) : (Machine.run add {} additions).Stored :=
  Machine.run_invariant_always add Stored (fun set addition => add_stored set addition) {} additions
    fun _ member => absurd member List.not_mem_nil

/-- With enough memory every domain of the sequence counts as added. -/
theorem run_added (additions : List Addition) (enough : ∀ addition ∈ additions, addition.malloc)
    (domain : String) : domain ∈ (Machine.run add set additions).added ↔
      domain ∈ set.added ∨ domain ∈ additions.map Addition.domain := by
  induction additions generalizing set with
  | nil => simp
  | cons addition rest ih =>
      have counted : (set.add addition).added = addition.domain :: set.added := by
        rcases add_cases set addition with ⟨-, next⟩ | ⟨-, failed, -⟩ | ⟨-, -, next⟩
        · rw [next]
        · rw [enough addition List.mem_cons_self] at failed
          cases failed
        · rw [next]
      rw [Machine.run_cons, ih _ fun later member => enough later (List.mem_cons_of_mem _ member),
        counted]
      simp only [List.mem_cons, List.map_cons]
      tauto

end Rules

/-- No domain of the sequence is shadowed by the rules that stand when it is added. -/
def Unshadowed (additions : List Addition) : Prop :=
  Machine.Along Rules.add (fun set addition => ¬ Shadowed set.bl addition.domain) {} additions

instance (additions : List Addition) : Decidable (Unshadowed additions) :=
  inferInstanceAs (Decidable (Machine.Along _ _ _ _))

/-- The matcher follows the added domains all along a sequence exactly if none of them is shadowed;
    then the order of the sequence does not matter. -/
theorem added_exact_iff (additions : List Addition) :
    ((∀ reached, reached <+: additions → (Machine.run Rules.add {} reached).Exact) ↔
      Unshadowed additions) ∧
    (Unshadowed additions → (∀ addition ∈ additions, addition.malloc) →
      ∀ others, others.Perm additions → Unshadowed others → ∀ host,
        (Machine.run Rules.add {} others).bl.matchDomain host =
          (Machine.run Rules.add {} additions).bl.matchDomain host) := by
  have complete : ∀ sequence : List Addition,
      (∀ reached, reached <+: sequence → (Machine.run Rules.add {} reached).Complete) ↔
        Unshadowed sequence := fun sequence =>
    Machine.reached_iff Rules.add _ Rules.Complete Rules.add_complete {} sequence
      fun _ member => absurd member List.not_mem_nil
  have faithful : ∀ sequence : List Addition,
      (Machine.run Rules.add {} sequence).Exact ↔
        (Machine.run Rules.add {} sequence).Complete := fun sequence =>
    Rules.exact_iff _ (Rules.run_stored sequence)
  constructor
  · rw [← complete]
    exact forall₂_congr fun reached _ => faithful reached
  · intro regular enough others reordered regularOthers host
    have same : ∀ domain, domain ∈ (Machine.run Rules.add {} others).added ↔
        domain ∈ (Machine.run Rules.add {} additions).added := by
      intro domain
      rw [Rules.run_added {} others fun addition member => enough addition
          (reordered.subset member), Rules.run_added {} additions enough,
        (reordered.map Addition.domain).mem_iff]
    have first := (faithful others).mpr ((complete others).mpr regularOthers others List.prefix_rfl) host
    have second := (faithful additions).mpr
      ((complete additions).mpr regular additions List.prefix_rfl) host
    rw [Bool.eq_iff_iff, first, second]
    simp only [Rules.Means, same]

/-- A host and its second level, in both orders. -/
theorem subdomain_reordered (host : String) :
    (Machine.run Rules.add {} [⟨"example.com", true⟩, ⟨"www.a.example.com", true⟩]).bl.matchDomain
        host =
      (Machine.run Rules.add {}
        [⟨"www.a.example.com", true⟩, ⟨"example.com", true⟩]).bl.matchDomain host :=
  (added_exact_iff [⟨"www.a.example.com", true⟩, ⟨"example.com", true⟩]).2 (by decide +kernel)
    (by decide) [⟨"example.com", true⟩, ⟨"www.a.example.com", true⟩] (List.Perm.swap _ _ _)
    (by decide +kernel) host

/-- A domain with two `www.`, added after the rest of it, is left out and not matched. -/
theorem repeatedWww_lost :
    ¬ (Machine.run Rules.add {}
      [⟨"x.example.com", true⟩, ⟨"www.www.x.example.com", true⟩]).Exact := by
  intro faithful
  have matched := (faithful "www.www.x.example.com").mpr
    ⟨"www.www.x.example.com", by decide +kernel, Or.inl rfl⟩
  revert matched
  decide +kernel

end Ptnet.DomainSet
