import Ptnet.MatchLists

/-!
Host rules on both sides: `MatchList.matchesHost` of the app and `blacklist_match_domain`
of the blacklist loaded from its descriptor. Both look up the host and its last two labels;
they differ on a leading dot and on a repeated `www.`.
-/

namespace Ptnet.HostMatching

open NativeBlacklist MatchLists

section Labels

theorem memrchrDot_succ (chars : List Char) (stop : Nat) :
    memrchrDot chars (stop + 1)
      = if chars[stop]? = some '.' then some stop else memrchrDot chars stop := by
  rw [memrchrDot, List.range_succ, List.reverse_append, List.reverse_singleton,
    List.singleton_append, List.find?_cons]
  by_cases dot : chars[stop]? = some '.'
  · rw [if_pos dot, decide_eq_true dot]
  · rw [if_neg dot, decide_eq_false dot]
    rfl

/-- Characters without a dot at the end of the range do not matter. -/
theorem memrchrDot_skip (chars : List Char) (first count : Nat)
    (free : ∀ index, first ≤ index → index < first + count → chars[index]? ≠ some '.') :
    memrchrDot chars (first + count) = memrchrDot chars first := by
  induction count with
  | zero => rfl
  | succ more ih =>
      rw [← Nat.add_assoc, memrchrDot_succ,
        if_neg (free (first + more) (by omega) (by omega))]
      exact ih fun index low high => free index low (by omega)

theorem memrchrDot_last (front label rest : List Char) (free : '.' ∉ label) :
    memrchrDot (front ++ '.' :: (label ++ rest)) (front.length + 1 + label.length)
      = some front.length := by
  have skipped := memrchrDot_skip (front ++ '.' :: (label ++ rest)) (front.length + 1)
    label.length (by
      intro index low high dot
      rw [List.getElem?_append_right (by omega)] at dot
      obtain ⟨offset, rfl⟩ : ∃ offset, index = front.length + 1 + offset :=
        ⟨index - (front.length + 1), by omega⟩
      rw [show front.length + 1 + offset - front.length = offset + 1 by omega,
        List.getElem?_cons_succ, List.getElem?_append_left (by omega)] at dot
      exact free (List.mem_of_getElem? dot))
  rw [skipped, memrchrDot_succ, List.getElem?_append_right le_rfl, Nat.sub_self,
    List.getElem?_cons_zero, if_pos rfl]

theorem memrchrDot_none (chars : List Char) (stop : Nat) (free : '.' ∉ chars.take stop) :
    memrchrDot chars stop = none := by
  have skipped := memrchrDot_skip chars 0 stop (by
    intro index _ high dot
    apply free
    apply List.mem_of_getElem? (i := index)
    rw [List.getElem?_take, if_pos (by omega), dot])
  rw [Nat.zero_add] at skipped
  rw [skipped]
  rfl

theorem exists_last_dot (chars : List Char) (dotted : '.' ∈ chars) :
    ∃ front label, chars = front ++ '.' :: label ∧ '.' ∉ label := by
  induction chars with
  | nil => cases dotted
  | cons char rest ih =>
      by_cases later : '.' ∈ rest
      · obtain ⟨front, label, rfl, free⟩ := ih later
        exact ⟨char :: front, label, rfl, free⟩
      · have here : '.' = char := (List.mem_cons.mp dotted).resolve_right later
        exact ⟨[], rest, by rw [← here, List.nil_append], later⟩

theorem memrchrDot_last' (front label : List Char) (free : '.' ∉ label) :
    memrchrDot (front ++ '.' :: label) (front ++ '.' :: label).length = some front.length := by
  have found := memrchrDot_last front label [] free
  rw [List.append_nil] at found
  rw [List.length_append, List.length_cons, ← found]
  congr 1
  omega

/-- A domain by the number of its dots. -/
inductive Labels : List Char → Prop
  | single (label : List Char) (free : '.' ∉ label) : Labels label
  | pair (first second : List Char) (firstFree : '.' ∉ first) (secondFree : '.' ∉ second) :
      Labels (first ++ '.' :: second)
  | more (front first second : List Char) (firstFree : '.' ∉ first) (secondFree : '.' ∉ second) :
      Labels (front ++ '.' :: (first ++ '.' :: second))

theorem labels (chars : List Char) : Labels chars := by
  by_cases dotted : '.' ∈ chars
  · obtain ⟨start, second, rfl, secondFree⟩ := exists_last_dot chars dotted
    by_cases again : '.' ∈ start
    · obtain ⟨front, first, rfl, firstFree⟩ := exists_last_dot start again
      rw [List.append_assoc, List.cons_append]
      exact .more front first second firstFree secondFree
    · exact .pair start second again secondFree
  · exact .single chars dotted

variable (domain : String)

theorem getSecondLevelDomain_single (free : '.' ∉ domain.toList) :
    getSecondLevelDomain domain = domain := by
  unfold getSecondLevelDomain
  rw [memrchrDot_none _ _ (by rwa [List.take_length])]

theorem getSecondLevelDomain_pair (first second : List Char)
    (text : domain.toList = first ++ '.' :: second) (firstFree : '.' ∉ first)
    (secondFree : '.' ∉ second) : getSecondLevelDomain domain = domain := by
  unfold getSecondLevelDomain
  rw [text, memrchrDot_last' first second secondFree]
  dsimp only
  split
  · rfl
  · rw [memrchrDot_none _ _ (by rwa [List.take_left])]

theorem getSecondLevelDomain_more (front first second : List Char)
    (text : domain.toList = front ++ '.' :: (first ++ '.' :: second)) (firstFree : '.' ∉ first)
    (secondFree : '.' ∉ second) :
    getSecondLevelDomain domain = String.ofList (first ++ '.' :: second) := by
  have last := memrchrDot_last' (front ++ '.' :: first) second secondFree
  rw [List.append_assoc, List.cons_append] at last
  have before := memrchrDot_last front first ('.' :: second) firstFree
  have length : (front ++ '.' :: first).length = front.length + 1 + first.length := by
    rw [List.length_append, List.length_cons]
    omega
  unfold getSecondLevelDomain
  rw [text, last, length]
  dsimp only
  rw [if_neg (by omega), before]
  dsimp only
  rw [← List.drop_drop, List.drop_left, List.drop_one, List.tail_cons]

/-- Two labels behind a dot: the only domains on which the two sides differ. -/
def BareDot (domain : String) : Prop :=
  domain.toList.head? = some '.' ∧ domain.toList.count '.' = 2

instance : Decidable (BareDot domain) := inferInstanceAs (Decidable (_ ∧ _))

theorem bareDot_count (bare : BareDot domain) (front first second : List Char)
    (text : domain.toList = front ++ '.' :: (first ++ '.' :: second)) : front = [] := by
  obtain ⟨head, two⟩ := bare
  cases front with
  | nil => rfl
  | cons char rest =>
      rw [text, List.cons_append, List.head?_cons, Option.some.injEq] at head
      rw [text, head] at two
      simp only [List.cons_append, List.count_cons_self, List.count_append] at two
      omega

theorem not_bareDot (dots : domain.toList.count '.' < 2) : ¬ BareDot domain := by
  rintro ⟨_, two⟩
  omega

theorem utils_more (front first second : List Char)
    (text : domain.toList = front ++ '.' :: (first ++ '.' :: second)) (firstFree : '.' ∉ first)
    (secondFree : '.' ∉ second) :
    Utils.getSecondLevelDomain domain
      = if front = [] then domain else String.ofList (first ++ '.' :: second) := by
  have last := memrchrDot_last' (front ++ '.' :: first) second secondFree
  rw [List.append_assoc, List.cons_append] at last
  have root := memrchrDot_last' front first firstFree
  have length : (front ++ '.' :: first).length = front.length + first.length + 1 := by
    rw [List.length_append, List.length_cons]
    omega
  have taken : (front ++ '.' :: (first ++ '.' :: second)).take (front.length + first.length + 1)
      = front ++ '.' :: first := by
    rw [← length, ← List.cons_append, ← List.append_assoc, List.take_left]
  unfold Utils.getSecondLevelDomain Utils.lastIndexOfDot
  rw [text, last, length]
  dsimp only
  rw [if_neg (by omega), taken, root]
  dsimp only
  simp only [List.length_eq_zero_iff]
  rw [← List.drop_drop, List.drop_left, List.drop_one, List.tail_cons]

/-- On the app's side a dot at the very beginning does not separate labels. -/
theorem utils_getSecondLevelDomain :
    Utils.getSecondLevelDomain domain
      = if BareDot domain then domain else getSecondLevelDomain domain := by
  generalize text : domain.toList = chars
  cases labels chars with
  | single label free =>
      rw [getSecondLevelDomain_single domain (text ▸ free), ite_self]
      unfold Utils.getSecondLevelDomain Utils.lastIndexOfDot
      rw [memrchrDot_none _ _ (by rwa [List.take_length, text])]
  | pair first second firstFree secondFree =>
      rw [getSecondLevelDomain_pair domain first second text firstFree secondFree, ite_self]
      unfold Utils.getSecondLevelDomain Utils.lastIndexOfDot
      rw [text, memrchrDot_last' first second secondFree]
      dsimp only
      split
      · rfl
      · rw [List.take_left, memrchrDot_none _ _ (by rwa [List.take_length])]
  | more front first second firstFree secondFree =>
      rw [utils_more domain front first second text firstFree secondFree,
        getSecondLevelDomain_more domain front first second text firstFree secondFree]
      by_cases bare : BareDot domain
      · rw [if_pos bare, if_pos (bareDot_count domain bare front first second text)]
      · rw [if_neg bare, if_neg]
        rintro rfl
        apply bare
        rw [BareDot, text]
        simp [List.count_eq_zero_of_not_mem firstFree, List.count_eq_zero_of_not_mem secondFree]

theorem getSecondLevelDomain_idem :
    getSecondLevelDomain (getSecondLevelDomain domain) = getSecondLevelDomain domain := by
  generalize text : domain.toList = chars
  cases labels chars with
  | single label free =>
      have same := getSecondLevelDomain_single domain (text ▸ free)
      rw [same, same]
  | pair first second firstFree secondFree =>
      have same := getSecondLevelDomain_pair domain first second text firstFree secondFree
      rw [same, same]
  | more front first second firstFree secondFree =>
      rw [getSecondLevelDomain_more domain front first second text firstFree secondFree]
      exact getSecondLevelDomain_pair _ first second String.toList_ofList firstFree secondFree

end Labels

section Native

/-- The lookups of `blacklist_match_domain` once the leading `www.` is gone. -/
def Covers (bl : Blacklist) (host : String) : Prop :=
  host ∈ bl.domains ∨ getSecondLevelDomain host ∈ bl.domains

theorem matchDomain_iff (bl : Blacklist) (host : String) :
    bl.matchDomain host ↔ Covers bl (stripWww host) := by
  simp [Blacklist.matchDomain, Covers]

/-- A duplicate is left out only when the stored domains cover it already. -/
theorem addDomain_covers (bl : Blacklist) (malloc : Bool) (domain host : String)
    (plain : stripWww domain = domain)
    (accepted : (bl.addDomain malloc domain).1 = 0 ∨
      (bl.addDomain malloc domain).1 = -EADDRINUSE) :
    Covers (bl.addDomain malloc domain).2 host ↔
      Covers bl host ∨ host = domain ∨ getSecondLevelDomain host = domain := by
  by_cases present : Covers bl domain
  · have kept : bl.addDomain malloc domain = (-EADDRINUSE, bl) := by
      rw [Blacklist.addDomain, plain, if_pos]
      rw [matchDomain_iff, plain]
      exact present
    rw [kept]
    constructor
    · exact Or.inl
    · rintro (found | rfl | rfl)
      · exact found
      · exact present
      · rw [Covers, getSecondLevelDomain_idem, or_self] at present
        exact Or.inr present
  · have absent : ¬ bl.matchDomain domain := by
      rw [matchDomain_iff, plain]
      exact present
    cases malloc with
    | false => simp [Blacklist.addDomain, plain, absent, ENOMEM, EADDRINUSE] at accepted
    | true =>
        have grown : bl.addDomain true domain
            = (0, { bl with domains := domain :: bl.domains }) := by
          simp [Blacklist.addDomain, plain, absent]
        rw [grown]
        unfold Covers
        simp only [List.mem_cons]
        tauto

theorem loadItems_covers (env : Environment) (items : List String) (index : Nat) (loaded : Int)
    (bl : Blacklist) (host : String) (plain : ∀ item ∈ items, stripWww item = item)
    (count : 0 ≤ loaded) (complete : (loadItems env .domain items index loaded bl).1 ≠ -1) :
    Covers (loadItems env .domain items index loaded bl).2 host ↔
      Covers bl host ∨ host ∈ items ∨ getSecondLevelDomain host ∈ items := by
  induction items generalizing index loaded bl with
  | nil => simp [loadItems]
  | cons item rest ih =>
      have step := addDomain_covers bl (env.malloc index) item host
        (plain item List.mem_cons_self)
      have later := fun other member => plain other (List.mem_cons_of_mem item member)
      rcases outcome : bl.addDomain (env.malloc index) item with ⟨rv, next⟩
      rw [outcome] at step
      simp only [loadItems, addItem, outcome] at complete ⊢
      by_cases fresh : rv = 0
      · rw [if_pos fresh] at complete ⊢
        rw [ih (index + 1) (loaded + 1) next later (by omega) complete, step (Or.inl fresh)]
        simp only [List.mem_cons, or_assoc, or_left_comm]
      · by_cases duplicate : rv = -EADDRINUSE
        · rw [if_neg fresh, if_pos duplicate] at complete ⊢
          rw [ih (index + 1) loaded next later count complete, step (Or.inr duplicate)]
          simp only [List.mem_cons, or_assoc, or_left_comm]
        · simp [fresh, duplicate] at complete

theorem addIp_domains (bl : Blacklist) (malloc : Bool) (addr : Connection.Ip) (bits : Nat) :
    (bl.addIp malloc addr bits).2.domains = bl.domains := by
  rcases outcome : ndpiPtreeInsert bl.ptree malloc addr bits with ⟨rv, tree⟩
  rw [Blacklist.addIp, outcome]
  dsimp only
  split
  · split <;> rfl
  · rfl

theorem addItem_domains (env : Environment) (bl : Blacklist) (index : Nat) (item : String)
    (tp : BlacklistType) (other : tp ≠ .domain) :
    (addItem env bl index item tp).2.domains = bl.domains := by
  cases tp with
  | domain => exact absurd rfl other
  | uid =>
      simp only [addItem, Blacklist.addUid]
      split
      · rfl
      · split <;> rfl
  | ip =>
      simp only [addItem, Blacklist.addIpstr]
      split
      · rfl
      · split
        · rfl
        · exact addIp_domains _ _ _ _

theorem loadItems_domains (env : Environment) (tp : BlacklistType) (other : tp ≠ .domain)
    (items : List String) (index : Nat) (loaded : Int) (bl : Blacklist) :
    (loadItems env tp items index loaded bl).2.domains = bl.domains := by
  induction items generalizing index loaded bl with
  | nil => rfl
  | cons item rest ih =>
      have kept := addItem_domains env bl index item tp other
      rcases outcome : addItem env bl index item tp with ⟨rv, next⟩
      rw [outcome] at kept
      simp only [loadItems, outcome]
      split
      · exact (ih _ _ _).trans kept
      · split
        · exact (ih _ _ _).trans kept
        · exact kept

/-- A loaded descriptor covers the hosts that its items name exactly or as their domain. -/
theorem loadListDescriptor_matchDomain (apps hosts ips : Environment) (ld : ListDescriptor)
    (host : String) (plain : ∀ item ∈ ld.hosts, stripWww item = item)
    (loaded : (blacklistLoadListDescriptor apps hosts ips {} ld).1 = 0) :
    (blacklistLoadListDescriptor apps hosts ips {} ld).2.matchDomain host ↔
      stripWww host ∈ ld.hosts ∨ getSecondLevelDomain (stripWww host) ∈ ld.hosts := by
  have before := loadItems_domains apps .uid (by decide) ld.apps 0 0 {}
  have after := loadItems_domains ips .ip (by decide) ld.ips 0 0
    (loadItems hosts .domain ld.hosts 0 0 (loadItems apps .uid ld.apps 0 0 {}).2).2
  have covers := loadItems_covers hosts ld.hosts 0 0 (loadItems apps .uid ld.apps 0 0 {}).2
    (stripWww host) plain le_rfl
  have complete : (loadItems hosts .domain ld.hosts 0 0
      (loadItems apps .uid ld.apps 0 0 {}).2).1 ≠ -1 := by
    intro failed
    unfold blacklistLoadListDescriptor blLoadListOfType at loaded
    dsimp only at loaded
    rw [if_pos (Or.inr (Or.inr failed))] at loaded
    cases loaded
  have result : (blacklistLoadListDescriptor apps hosts ips {} ld).2.domains
      = (loadItems hosts .domain ld.hosts 0 0 (loadItems apps .uid ld.apps 0 0 {}).2).2.domains := by
    unfold blacklistLoadListDescriptor blLoadListOfType
    dsimp only
    rw [apply_ite Prod.snd, ite_self]
    exact after
  rw [matchDomain_iff, Covers, result, ← Covers, covers complete]
  unfold Covers
  rw [before]
  simp

end Native

section App

/-- The list after `addHost` of each host in turn. -/
def hostRules (resolver : AppsResolver) (infos : List String) : MatchList :=
  infos.foldl (fun list info => (list.addHost resolver info).2) {}

theorem matchKey_host (first second : String) :
    matchKey .host first = matchKey .host second ↔ first = second := by
  constructor
  · intro same
    have chars := congrArg String.toList same
    simp only [matchKey, String.toList_append, List.append_cancel_left_eq] at chars
    exact String.toList_inj.mp chars
  · rintro rfl
    rfl

structure HostIndexes (list : MatchList) (rules : List String) : Prop where
  keys : ∀ value, matchKey .host value ∈ list.mMatches ↔ value ∈ rules
  items : ∀ value, value ∈ list.descriptorItems .host ↔ value ∈ rules

theorem addHost_indexes (list : MatchList) (resolver : AppsResolver) (rules : List String)
    (info : String) (indexes : HostIndexes list rules) :
    HostIndexes (list.addHost resolver info).2 (rules ++ [Utils.cleanDomain info]) := by
  by_cases present : matchKey .host (Utils.cleanDomain info) ∈ list.mMatches
  · have kept : list.addHost resolver info = (false, list) := if_pos present
    have known := (indexes.keys _).mp present
    rw [kept]
    constructor
    · intro value
      rw [indexes.keys, List.mem_append, List.mem_singleton]
      exact ⟨Or.inl, fun found => found.elim id fun same => same ▸ known⟩
    · intro value
      rw [indexes.items, List.mem_append, List.mem_singleton]
      exact ⟨Or.inl, fun found => found.elim id fun same => same ▸ known⟩
  · have grown : list.addHost resolver info = (true,
        { list with
          mRules := list.mRules ++ [⟨.host, Utils.cleanDomain info⟩]
          mMatches := list.mMatches.insert (matchKey .host (Utils.cleanDomain info))
            ⟨.host, Utils.cleanDomain info⟩ }) := by
      rw [MatchList.addHost, MatchList.addRule, if_neg present, if_neg RuleType.noConfusion]
    rw [grown]
    constructor
    · intro value
      rw [AList.mem_insert, matchKey_host, indexes.keys, List.mem_append, List.mem_singleton,
        or_comm]
    · intro value
      have items := indexes.items value
      unfold MatchList.descriptorItems at *
      rw [List.filter_append, List.map_append, List.mem_append, items, List.mem_append]
      rfl

theorem hostRules_indexes (resolver : AppsResolver) (infos : List String) :
    HostIndexes (hostRules resolver infos) (infos.map Utils.cleanDomain) := by
  suffices general : ∀ (list : MatchList) (rules : List String), HostIndexes list rules →
      HostIndexes (infos.foldl (fun list info => (list.addHost resolver info).2) list)
        (rules ++ infos.map Utils.cleanDomain) from
    general {} [] ⟨fun _ => by simp, fun _ => by simp [MatchList.descriptorItems]⟩
  induction infos with
  | nil =>
      intro list rules indexes
      rw [List.map_nil, List.append_nil]
      exact indexes
  | cons info rest ih =>
      intro list rules indexes
      have later := ih _ _ (addHost_indexes list resolver rules info indexes)
      rw [List.append_assoc] at later
      exact later

theorem getSecondLevelDomain_length (domain : String) :
    (getSecondLevelDomain domain).toList.length ≤ domain.toList.length := by
  generalize text : domain.toList = chars
  cases labels chars with
  | single label free =>
      rw [getSecondLevelDomain_single domain (text ▸ free), text]
  | pair first second firstFree secondFree =>
      rw [getSecondLevelDomain_pair domain first second text firstFree secondFree, text]
  | more front first second firstFree secondFree =>
      rw [getSecondLevelDomain_more domain front first second text firstFree secondFree,
        String.toList_ofList, List.length_append, List.length_append, List.length_cons,
        List.length_cons, List.length_append, List.length_cons]
      omega

theorem utils_length (domain : String) :
    (Utils.getSecondLevelDomain domain).toList.length ≤ domain.toList.length := by
  rw [utils_getSecondLevelDomain]
  split
  · exact le_rfl
  · exact getSecondLevelDomain_length domain

theorem cleanDomain_www (rest : String) : Utils.cleanDomain ("www." ++ rest) = rest := by
  have front : "www.".toList.isPrefixOf ("www." ++ rest).toList = true := by
    rw [String.toList_append, List.isPrefixOf_iff_prefix]
    exact List.prefix_append _ _
  rw [Utils.cleanDomain, if_pos front, String.toList_append, List.drop_left' (by rfl),
    String.ofList_toList]

theorem cleanDomain_plain (text : String) (plain : ¬ ∃ rest, text = "www." ++ rest) :
    Utils.cleanDomain text = text := by
  apply if_neg
  rw [List.isPrefixOf_iff_prefix]
  rintro ⟨rest, same⟩
  refine plain ⟨String.ofList rest, String.toList_inj.mp ?_⟩
  rw [String.toList_append, String.toList_ofList (l := rest), same]

theorem length_www (rest : String) :
    ("www." ++ rest).toList.length = rest.toList.length + 4 := by
  rw [String.toList_append, List.length_append, Nat.add_comm]
  rfl

/-- The comparison with the uncleaned host in `matchesHost` excludes nothing. -/
theorem matchesHost_iff (list : MatchList) (rules : List String) (host : String)
    (indexes : HostIndexes list rules) :
    list.matchesHost host ↔ Utils.cleanDomain (Utils.cleanDomain host) ∈ rules ∨
      Utils.getSecondLevelDomain (Utils.cleanDomain host) ∈ rules := by
  have looked : list.matchesHost host ↔
      Utils.cleanDomain (Utils.cleanDomain host) ∈ rules ∨
        Utils.getSecondLevelDomain (Utils.cleanDomain host) ≠ host ∧
          Utils.getSecondLevelDomain (Utils.cleanDomain host) ∈ rules := by
    simp only [MatchList.matchesHost, MatchList.matchesExactHost, indexes.keys]
    by_cases exact : Utils.cleanDomain (Utils.cleanDomain host) ∈ rules
    · simp [exact]
    · simp [exact]
  rw [looked]
  by_cases same : Utils.getSecondLevelDomain (Utils.cleanDomain host) = host
  · have plain : ¬ ∃ rest, host = "www." ++ rest := by
      rintro ⟨rest, rfl⟩
      have shorter := utils_length (Utils.cleanDomain ("www." ++ rest))
      rw [same, length_www, cleanDomain_www] at shorter
      omega
    rw [cleanDomain_plain host plain] at same ⊢
    rw [cleanDomain_plain host plain, same]
    simp
  · simp [same]

end App

section Sync

/-- The text begins with two `www.`. -/
def Repeated (text : String) : Prop := "www.www.".toList.isPrefixOf text.toList

instance (text : String) : Decidable (Repeated text) :=
  inferInstanceAs (Decidable (_ = true))

/-- The host is a dot and the two labels of a rule, but no rule itself. -/
def LeadingDot (rules : List String) (host : String) : Prop :=
  ∃ rule ∈ rules, Utils.cleanDomain host = "." ++ rule ∧ rule.toList.count '.' = 1 ∧
    "." ++ rule ∉ rules

/-- The host is a rule behind two `www.`, and its last two labels are no rule. -/
def RepeatedWww (rules : List String) (host : String) : Prop :=
  ∃ rule ∈ rules, host = "www.www." ++ rule ∧ getSecondLevelDomain ("www." ++ rule) ∉ rules

theorem repeated_iff (text : String) : Repeated text ↔ ∃ rest, text = "www.www." ++ rest := by
  rw [Repeated, List.isPrefixOf_iff_prefix]
  constructor
  · rintro ⟨rest, same⟩
    refine ⟨String.ofList rest, String.toList_inj.mp ?_⟩
    rw [String.toList_append, String.toList_ofList (l := rest), same]
  · rintro ⟨rest, rfl⟩
    rw [String.toList_append]
    exact List.prefix_append _ _

theorem www_www (rest : String) : "www." ++ ("www." ++ rest) = "www.www." ++ rest := by
  rw [← String.append_assoc]
  rfl

theorem cleanDomain_single (info : String) (single : ¬ Repeated info) :
    ¬ ∃ rest, Utils.cleanDomain info = "www." ++ rest := by
  rintro ⟨rest, same⟩
  apply single
  rw [repeated_iff]
  by_cases front : ∃ tail, info = "www." ++ tail
  · obtain ⟨tail, rfl⟩ := front
    rw [cleanDomain_www] at same
    exact ⟨rest, by rw [same, www_www]⟩
  · rw [cleanDomain_plain info front] at same
    exact absurd ⟨rest, same⟩ front

theorem bareDot_iff (domain : String) :
    BareDot domain ↔ domain = "." ++ getSecondLevelDomain domain ∧
      (getSecondLevelDomain domain).toList.count '.' = 1 := by
  have longer : domain ≠ "." ++ domain := by
    intro same
    have chars := congrArg (fun text => text.toList.length) same
    simp only [String.toList_append, List.length_append] at chars
    change _ = 1 + _ at chars
    omega
  generalize text : domain.toList = chars
  cases labels chars with
  | single label free =>
      have dots : domain.toList.count '.' = 0 := by
        rw [text, List.count_eq_zero_of_not_mem free]
      rw [getSecondLevelDomain_single domain (text ▸ free)]
      exact ⟨fun bare => absurd bare (not_bareDot domain (by omega)),
        fun pair => absurd pair.1 longer⟩
  | pair first second firstFree secondFree =>
      have dots : domain.toList.count '.' = 1 := by
        simp [text, List.count_eq_zero_of_not_mem firstFree,
          List.count_eq_zero_of_not_mem secondFree]
      rw [getSecondLevelDomain_pair domain first second text firstFree secondFree]
      exact ⟨fun bare => absurd bare (not_bareDot domain (by omega)),
        fun pair => absurd pair.1 longer⟩
  | more front first second firstFree secondFree =>
      have one : (first ++ '.' :: second).count '.' = 1 := by
        simp [List.count_eq_zero_of_not_mem firstFree, List.count_eq_zero_of_not_mem secondFree]
      rw [getSecondLevelDomain_more domain front first second text firstFree secondFree,
        String.toList_ofList]
      constructor
      · intro bare
        have front_nil := bareDot_count domain bare front first second text
        refine ⟨String.toList_inj.mp ?_, one⟩
        rw [text, front_nil, String.toList_append,
          String.toList_ofList (l := first ++ '.' :: second)]
        rfl
      · rintro ⟨same, _⟩
        have chars := congrArg String.toList same
        rw [String.toList_append, String.toList_ofList (l := first ++ '.' :: second)] at chars
        rw [BareDot, chars]
        refine ⟨rfl, ?_⟩
        change ('.' :: (first ++ '.' :: second)).count '.' = 2
        rw [List.count_cons_self, one]

theorem not_bareDot_www (rest : String) : ¬ BareDot ("www." ++ rest) := by
  rintro ⟨head, _⟩
  rw [String.toList_append] at head
  cases head

theorem append_left_cancel (front first second : String) (same : front ++ first = front ++ second) :
    first = second := by
  have chars := congrArg String.toList same
  rw [String.toList_append, String.toList_append, List.append_cancel_left_eq] at chars
  exact String.toList_inj.mp chars

theorem bareDot_rule (rule : String) (one : rule.toList.count '.' = 1) : BareDot ("." ++ rule) := by
  rw [BareDot, String.toList_append]
  refine ⟨rfl, ?_⟩
  change ('.' :: rule.toList).count '.' = 2
  rw [List.count_cons_self, one]

/-- The host keeps a `www.` when it is cleaned exactly if it begins with two. -/
theorem cleanDomain_repeated (host rest : String) :
    Utils.cleanDomain host = "www." ++ rest ↔ host = "www.www." ++ rest := by
  by_cases front : ∃ tail, host = "www." ++ tail
  · obtain ⟨tail, rfl⟩ := front
    rw [cleanDomain_www, ← www_www]
    exact ⟨fun same => same ▸ rfl, append_left_cancel _ _ _⟩
  · rw [cleanDomain_plain host front]
    constructor
    · intro same
      exact absurd ⟨rest, same⟩ front
    · intro same
      exact absurd ⟨"www." ++ rest, by rw [same, www_www]⟩ front

theorem repeatedWww_iff (rules : List String) (host rest : String)
    (cleaned : Utils.cleanDomain host = "www." ++ rest) :
    RepeatedWww rules host ↔ rest ∈ rules ∧ getSecondLevelDomain ("www." ++ rest) ∉ rules := by
  have text := (cleanDomain_repeated host rest).mp cleaned
  constructor
  · rintro ⟨rule, member, same, missing⟩
    rw [text] at same
    rw [append_left_cancel _ _ _ same]
    exact ⟨member, missing⟩
  · rintro ⟨member, missing⟩
    exact ⟨rest, member, text, missing⟩

theorem leadingDot_iff (rules : List String) (host : String) :
    LeadingDot rules host ↔ BareDot (Utils.cleanDomain host) ∧
      getSecondLevelDomain (Utils.cleanDomain host) ∈ rules ∧
      Utils.cleanDomain host ∉ rules := by
  constructor
  · rintro ⟨rule, member, same, one, missing⟩
    have bare : BareDot (Utils.cleanDomain host) := same ▸ bareDot_rule rule one
    have parts := ((bareDot_iff _).mp bare).1
    rw [same] at parts
    refine ⟨bare, ?_, same ▸ missing⟩
    rw [same, ← append_left_cancel _ _ _ parts]
    exact member
  · rintro ⟨bare, member, missing⟩
    obtain ⟨same, one⟩ := (bareDot_iff _).mp bare
    exact ⟨_, member, same, one, same ▸ missing⟩

theorem native_iff (resolver : AppsResolver) (apps hosts ips : Environment)
    (infos : List String) (host : String) (single : ∀ info ∈ infos, ¬ Repeated info)
    (loaded : (blacklistLoadListDescriptor apps hosts ips {}
      (hostRules resolver infos).toListDescriptor).1 = 0) :
    (blacklistLoadListDescriptor apps hosts ips {}
        (hostRules resolver infos).toListDescriptor).2.matchDomain host ↔
      stripWww host ∈ infos.map Utils.cleanDomain ∨
        getSecondLevelDomain (stripWww host) ∈ infos.map Utils.cleanDomain := by
  have items := (hostRules_indexes resolver infos).items
  have plain : ∀ item ∈ (hostRules resolver infos).toListDescriptor.hosts,
      stripWww item = item := by
    intro item member
    obtain ⟨info, added, rfl⟩ := List.mem_map.mp ((items item).mp member)
    exact cleanDomain_plain _ (cleanDomain_single info (single info added))
  rw [loadListDescriptor_matchDomain apps hosts ips _ host plain loaded]
  exact or_congr (items _) (items _)

/-- The two pairs of lookups find the same hosts, these two kinds excepted. -/
theorem lookups_agree (rules : List String) (host : String)
    (unprefixed : ∀ rest, "www." ++ rest ∉ rules) :
    ((Utils.cleanDomain host ∈ rules ∨ getSecondLevelDomain (Utils.cleanDomain host) ∈ rules) ↔
        (Utils.cleanDomain (Utils.cleanDomain host) ∈ rules ∨
          Utils.getSecondLevelDomain (Utils.cleanDomain host) ∈ rules)) ↔
      ¬ LeadingDot rules host ∧ ¬ RepeatedWww rules host := by
  rw [leadingDot_iff, utils_getSecondLevelDomain]
  by_cases again : ∃ rest, Utils.cleanDomain host = "www." ++ rest
  · -- the app drops the second `www.` as well, the native side keeps it
    obtain ⟨rest, cleaned⟩ := again
    have absent := unprefixed rest
    have other := not_bareDot_www rest
    rw [repeatedWww_iff rules host rest cleaned, cleaned, cleanDomain_www, if_neg other]
    simp only [absent, other, false_or, false_and, not_false_eq_true, true_and]
    rw [iff_comm (a := getSecondLevelDomain _ ∈ rules), or_iff_right_iff_imp, not_and_not_right]
  · -- only the leading dot is left to tell the two sides apart
    have single : ¬ RepeatedWww rules host := by
      rintro ⟨rule, _, same, _⟩
      exact again ⟨rule, (cleanDomain_repeated host rule).mpr same⟩
    rw [cleanDomain_plain (Utils.cleanDomain host) again]
    by_cases bare : BareDot (Utils.cleanDomain host)
    · simp only [bare, single, true_and, not_false_eq_true, and_true, if_true]
      rw [or_self, or_iff_left_iff_imp, not_and_not_right]
    · simp only [bare, single, false_and, not_false_eq_true, and_self, if_false]

/-- Exactly when the two sides agree on a host, if no rule was added with two `www.`. -/
theorem matchesHost_sync (resolver : AppsResolver) (apps hosts ips : Environment)
    (infos : List String) (host : String) (single : ∀ info ∈ infos, ¬ Repeated info)
    (loaded : (blacklistLoadListDescriptor apps hosts ips {}
      (hostRules resolver infos).toListDescriptor).1 = 0) :
    ((blacklistLoadListDescriptor apps hosts ips {}
          (hostRules resolver infos).toListDescriptor).2.matchDomain host ↔
        (hostRules resolver infos).matchesHost host) ↔
      ¬ LeadingDot (infos.map Utils.cleanDomain) host ∧
        ¬ RepeatedWww (infos.map Utils.cleanDomain) host := by
  rw [native_iff resolver apps hosts ips infos host single loaded,
    matchesHost_iff _ _ host (hostRules_indexes resolver infos)]
  apply lookups_agree
  intro rest member
  obtain ⟨info, added, same⟩ := List.mem_map.mp member
  exact cleanDomain_single info (single info added) ⟨rest, same⟩

theorem noApp_named : ∀ app ∈ ([] : List AppDescriptor), PackageName app.packageName :=
  fun _ member => absurd member List.not_mem_nil

theorem noPackage_named (name : String) (uid : Int) (found : none = some uid) : PackageName name :=
  absurd found.symm (Option.some_ne_none uid)

def noApps : AppsResolver where
  apps := []
  getPackageUid := fun _ => none
  getPackagesForUid := fun _ => []
  resolveInstalledApp := fun _ _ => none
  appsNamed := noApp_named
  packagesNamed := noPackage_named

/-- With the rule `example.com`, both sides match `www.a.example.com`. -/
theorem subdomain_sync :
    ((blacklistLoadListDescriptor .plenty .plenty .plenty {}
          (hostRules noApps ["example.com"]).toListDescriptor).2.matchDomain "www.a.example.com" ↔
        (hostRules noApps ["example.com"]).matchesHost "www.a.example.com") ↔
      ¬ LeadingDot (["example.com"].map Utils.cleanDomain) "www.a.example.com" ∧
        ¬ RepeatedWww (["example.com"].map Utils.cleanDomain) "www.a.example.com" :=
  matchesHost_sync noApps .plenty .plenty .plenty ["example.com"] "www.a.example.com" (by decide)
    (by decide +kernel)

/-- A dot before the two labels of a rule: the native side matches, the app does not. -/
theorem leadingDot_differs :
    ¬ ∀ (resolver : AppsResolver) (apps hosts ips : Environment) (infos : List String)
        (host : String), host ≠ "" →
      (blacklistLoadListDescriptor apps hosts ips {}
        (hostRules resolver infos).toListDescriptor).1 = 0 →
      ((blacklistLoadListDescriptor apps hosts ips {}
          (hostRules resolver infos).toListDescriptor).2.matchDomain host ↔
        (hostRules resolver infos).matchesHost host) := by
  intro sync
  have agreed := sync noApps .plenty .plenty .plenty ["example.com"] ".example.com" (by decide)
    (by decide +kernel)
  revert agreed
  decide +kernel

end Sync

end Ptnet.HostMatching
