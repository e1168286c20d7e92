import Ptnet.BlacklistFile
import Ptnet.HostMatching

/-!
The lines of a blacklist file and the rules that `blacklist_load_file` tries to add. The loop
reads buffers, not lines: what it takes for a rule is compared with the lines of the file.
-/

namespace Ptnet.BlacklistLines

open Connection (Ip)
open NativeBlacklist BlacklistFile

section Rules

/-- The rule in a buffer, if the loop does not skip it. -/
def ruleOf (buffer : List Char) : Option (List Char) :=
  let text := cString buffer
  if text.head?.all fun char => char = '#' || char = '\n' then none
  else some (text.takeWhile fun char => char ≠ '\r' && char ≠ '\n')

def itemOf (rule : List Char) : String := String.ofList (rule.takeWhile fun char => char ≠ '/')

def slashOf (rule : List Char) : Option String :=
  match rule.dropWhile fun char => char ≠ '/' with
  | [] => none
  | _ :: bits => some (String.ofList bits)

def addressOf (env : Environment) (rule : List Char) : Option (Nat × Ip) :=
  (env.parse (itemOf rule)).filter fun (ipver, _) => ipver = 4 || ipver = 6

/-- The hosts which the loop passes over as invalid. -/
def invalidHost (env : Environment) (btype : BlacklistType) (rule : List Char) : Bool :=
  match btype, addressOf env rule with
  | .ip, some (ipver, addr) =>
      ipver = 4 && ruleBits (slashOf rule) ipver = 32 && isInvalidIpv4 addr
  | _, _ => false

def addRule (env : Environment) (btype : BlacklistType) (index : Nat) (rule : List Char)
    (bl : Blacklist) (counters : Counters) : Blacklist × Counters :=
  if MAX_FILE_RULES ≤ counters.numOk then (bl, counters.fail)
  else
    match btype, addressOf env rule with
    | .ip, none => (bl, counters.fail)
    | .ip, some (ipver, addr) =>
        if invalidHost env .ip rule then (bl, counters)
        else
          let (rv, added) :=
            bl.addIp (env.malloc index) addr (ruleBits (slashOf rule) ipver % 256).toNat
          (added, counters.count rv)
    | _, some _ => (bl, counters.fail)
    | _, none =>
        let (rv, added) := bl.addDomain (env.malloc index) (itemOf rule)
        (added, counters.count rv)

/-- A buffer is skipped, or its rule is tried. -/
theorem loadLine_rule (env : Environment) (btype : BlacklistType) (index : Nat)
    (buffer : List Char) (bl : Blacklist) (counters : Counters) :
    loadLine env btype index buffer bl counters =
      match ruleOf buffer with
      | none => (bl, counters)
      | some rule => addRule env btype index rule bl counters := by
  unfold loadLine ruleOf
  dsimp only
  split
  · rfl
  · dsimp only
    unfold addRule
    split
    · rfl
    · change (match btype, addressOf env _ with
        | .ip, none => _
        | .ip, some (ipver, addr) => _
        | _, some _ => _
        | _, none => _) = _
      cases found : addressOf env _ with
      | none => cases btype <;> rfl
      | some address =>
          cases btype with
          | ip =>
              simp only [invalidHost, found, Bool.and_eq_true, decide_eq_true_eq, and_assoc]
              rfl
          | domain => rfl
          | uid => rfl

/-- The rules of a list of buffers, each with the number of its buffer. -/
def attempts : Nat → List (List Char) → List (Nat × List Char)
  | _, [] => []
  | index, buffer :: rest =>
      match ruleOf buffer with
      | none => attempts (index + 1) rest
      | some rule => (index, rule) :: attempts (index + 1) rest

theorem attempts_rules (index : Nat) (buffers : List (List Char)) :
    (attempts index buffers).map Prod.snd = buffers.filterMap ruleOf := by
  induction buffers generalizing index with
  | nil => rfl
  | cons buffer rest ih =>
      cases found : ruleOf buffer with
      | none => simpa [attempts, found] using ih (index + 1)
      | some rule => simpa [attempts, found] using ih (index + 1)

def addRules (env : Environment) (btype : BlacklistType) (tried : List (Nat × List Char))
    (bl : Blacklist) (counters : Counters) : Blacklist × Counters :=
  tried.foldl (fun state attempt => addRule env btype attempt.1 attempt.2 state.1 state.2)
    (bl, counters)

theorem loadLines_attempts (env : Environment) (btype : BlacklistType) (index : Nat)
    (buffers : List (List Char)) (bl : Blacklist) (counters : Counters) :
    loadLines env btype index buffers bl counters =
      addRules env btype (attempts index buffers) bl counters := by
  induction buffers generalizing index bl counters with
  | nil => rfl
  | cons buffer rest ih =>
      simp only [loadLines, loadLine_rule, attempts]
      cases found : ruleOf buffer with
      | none => exact ih (index + 1) bl counters
      | some rule =>
          dsimp only
          rw [ih (index + 1), addRules, addRules, List.foldl_cons, Prod.mk.eta]

end Rules

section Lines

/-- A line of a file: what stands before its end, and whether a line feed ends it. -/
structure Line where
  chars : List Char
  ended : Bool
  deriving DecidableEq, Repr

def linesFrom : List Char → List Char → List Line
  | line, [] => if line.isEmpty then [] else [⟨line, false⟩]
  | line, char :: rest =>
      if char = '\n' then ⟨line, true⟩ :: linesFrom [] rest else linesFrom (line ++ [char]) rest

def lines (text : List Char) : List Line := linesFrom [] text

namespace Line

variable (line : Line)

def ending : List Char := if line.ended then ['\n'] else []

/-- The line without its end, which is a line feed or a carriage return and a line feed. -/
def text : List Char :=
  if line.ended = true ∧ line.chars.getLast? = some '\r' then line.chars.dropLast else line.chars

def rule : Option (List Char) :=
  if line.text.head?.all fun char => char = '#' then none else some line.text

/-- What `fgets` makes of the line. -/
def buffers : List (List Char) := fgetsAll [] (line.chars ++ line.ending)

/-- The rules that the loop takes from the line. -/
def tried : List (List Char) := line.buffers.filterMap ruleOf

structure Proper : Prop where
  free : '\n' ∉ line.chars
  nonempty : line.ended = true ∨ line.chars ≠ []

end Line

def rules (text : List Char) : List (List Char) := (lines text).filterMap Line.rule

theorem linesFrom_proper (before text : List Char) (free : '\n' ∉ before) :
    ∀ line ∈ linesFrom before text, line.Proper := by
  induction text generalizing before with
  | nil =>
      intro line member
      simp only [linesFrom] at member
      split at member
      · cases member
      · next nonempty =>
          rw [List.mem_singleton.mp member]
          exact ⟨free, Or.inr (by simpa using nonempty)⟩
  | cons char rest ih =>
      intro line member
      simp only [linesFrom] at member
      split at member
      · rcases List.mem_cons.mp member with rfl | later
        · exact ⟨free, Or.inl rfl⟩
        · exact ih [] List.not_mem_nil line later
      · next other =>
          exact ih (before ++ [char]) (by simp [free, Ne.symm other]) line member

/-- A line feed ends the buffer, so that what follows it is read from the start of a buffer. -/
theorem fgetsAll_feed (before chars rest : List Char) (free : '\n' ∉ chars) :
    fgetsAll before (chars ++ '\n' :: rest) =
      fgetsAll before (chars ++ ['\n']) ++ fgetsAll [] rest := by
  induction chars generalizing before with
  | nil => simp [fgetsAll]
  | cons char more ih =>
      have apart : char ≠ '\n' := fun same => free (same ▸ List.mem_cons_self)
      have later : '\n' ∉ more := fun member => free (List.mem_cons_of_mem char member)
      simp only [List.cons_append, fgetsAll, apart, false_or]
      split
      · rw [ih [] later, List.cons_append]
      · exact ih (before ++ [char]) later

theorem fgetsAll_lines (before text : List Char) (free : '\n' ∉ before) :
    fgetsAll [] (before ++ text) = (linesFrom before text).flatMap Line.buffers := by
  induction text generalizing before with
  | nil =>
      cases before with
      | nil => rfl
      | cons char rest => simp [linesFrom, Line.buffers, Line.ending]
  | cons char rest ih =>
      by_cases feed : char = '\n'
      · have later := ih [] List.not_mem_nil
        rw [List.nil_append] at later
        rw [feed, fgetsAll_feed [] before rest free, later]
        simp [linesFrom, Line.buffers, Line.ending]
      · rw [linesFrom, if_neg feed, ← ih (before ++ [char]) (by simp [free, Ne.symm feed]),
          List.append_assoc, List.singleton_append]

theorem buffers_lines (text : List Char) :
    (fgetsAll [] text).filterMap ruleOf = (lines text).flatMap Line.tried := by
  have split := fgetsAll_lines [] text List.not_mem_nil
  rw [List.nil_append] at split
  rw [split, List.filterMap_flatMap]
  rfl

end Lines

section Fragments

/-- A character with which the loop skips a buffer. -/
def Skipped (char : Char) : Prop := char = '#' ∨ char.toNat = 0

instance (char : Char) : Decidable (Skipped char) := inferInstanceAs (Decidable (_ ∨ _))

def Skips (chars : List Char) : Prop :=
  ∀ index char, chars[LINE_ROOM * index]? = some char → Skipped char

theorem skips_split (chars : List Char) :
    Skips chars ↔ (∀ char, chars.head? = some char → Skipped char) ∧
      Skips (chars.drop LINE_ROOM) := by
  constructor
  · intro skips
    refine ⟨fun char first => skips 0 char ?_, fun index char found => skips (index + 1) char ?_⟩
    · rwa [Nat.mul_zero, ← List.head?_eq_getElem?]
    · rwa [List.getElem?_drop, Nat.add_comm, ← Nat.mul_succ] at found
  · rintro ⟨first, later⟩ index char found
    cases index with
    | zero => exact first char (by rwa [Nat.mul_zero, ← List.head?_eq_getElem?] at found)
    | succ more =>
        apply later more char
        rwa [List.getElem?_drop, Nat.add_comm, ← Nat.mul_succ]

theorem fgetsAll_short (before chars ending : List Char) (free : '\n' ∉ chars)
    (ends : ending = [] ∨ ending = ['\n']) (short : before.length + chars.length < LINE_ROOM) :
    fgetsAll before (chars ++ ending) =
      if before ++ chars ++ ending = [] then [] else [before ++ chars ++ ending] := by
  induction chars generalizing before with
  | nil =>
      rcases ends with rfl | rfl
      · simp [fgetsAll]
      · simp [fgetsAll]
  | cons char more ih =>
      have apart : char ≠ '\n' := fun same => free (same ▸ List.mem_cons_self)
      have later : '\n' ∉ more := fun member => free (List.mem_cons_of_mem char member)
      rw [List.length_cons] at short
      have room : before.length + 1 ≠ LINE_ROOM := by omega
      have shorter : (before ++ [char]).length + more.length < LINE_ROOM := by
        rw [List.length_append, List.length_singleton]
        omega
      have next := ih (before ++ [char]) later shorter
      simp only [List.cons_append, fgetsAll, apart, room, or_self, if_false]
      rw [next]
      simp only [List.append_assoc, List.singleton_append]

theorem fgetsAll_full (before chars rest : List Char) (free : '\n' ∉ chars) (nonempty : chars ≠ [])
    (full : before.length + chars.length = LINE_ROOM) :
    fgetsAll before (chars ++ rest) = (before ++ chars) :: fgetsAll [] rest := by
  induction chars generalizing before with
  | nil => exact absurd rfl nonempty
  | cons char more ih =>
      have apart : char ≠ '\n' := fun same => free (same ▸ List.mem_cons_self)
      rw [List.length_cons] at full
      simp only [List.cons_append, fgetsAll, apart, false_or]
      cases more with
      | nil => rw [if_pos (by simpa using full), List.nil_append]
      | cons next rest =>
          have later : '\n' ∉ next :: rest := fun member => free (List.mem_cons_of_mem char member)
          rw [List.length_cons] at full
          have filled : (before ++ [char]).length + (next :: rest).length = LINE_ROOM := by
            rw [List.length_append, List.length_singleton, List.length_cons]
            omega
          rw [if_neg (by omega), ih (before ++ [char]) later (List.cons_ne_nil next rest) filled]
          simp only [List.append_assoc, List.singleton_append]

theorem cString_line (chars : List Char) (free : '\n' ∉ chars) :
    (cString chars).takeWhile (fun char => char ≠ '\r' && char ≠ '\n') =
      chars.takeWhile fun char => char ≠ '\r' && char.toNat ≠ 0 := by
  induction chars with
  | nil => rfl
  | cons char rest ih =>
      have apart : char ≠ '\n' := fun same => free (same ▸ List.mem_cons_self)
      have later := ih fun member => free (List.mem_cons_of_mem char member)
      by_cases zero : char.toNat = 0
      · simp [cString, zero]
      · by_cases feed : char = '\r'
        · simp [cString, feed]
        · simpa [cString, zero, feed, apart] using later

theorem cString_line_ending (chars ending : List Char) (ends : ending = [] ∨ ending = ['\n']) :
    (cString (chars ++ ending)).takeWhile (fun char => char ≠ '\r' && char ≠ '\n') =
      (cString chars).takeWhile (fun char => char ≠ '\r' && char ≠ '\n') := by
  induction chars with
  | nil => rcases ends with rfl | rfl <;> simp [cString]
  | cons char rest ih =>
      rw [List.cons_append, cString, cString, List.takeWhile_cons, List.takeWhile_cons]
      split
      · rw [List.takeWhile_cons, List.takeWhile_cons]
        split
        · exact congrArg (char :: ·) ih
        · rfl
      · rfl

theorem fgetsAll_buffer (before text buffer : List Char) (free : '\n' ∉ before)
    (short : before.length < LINE_ROOM) (member : buffer ∈ fgetsAll before text) :
    fgetsAll [] buffer = [buffer] := by
  induction text generalizing before with
  | nil =>
      rw [fgetsAll] at member
      split at member
      · cases member
      · next nonempty =>
          rw [List.mem_singleton.mp member]
          have whole := fgetsAll_short [] before [] free (Or.inl rfl) (by simpa using short)
          simpa [List.isEmpty_iff.not.mp nonempty] using whole
  | cons char rest ih =>
      rw [fgetsAll] at member
      split at member
      · next cut =>
          rcases List.mem_cons.mp member with rfl | later
          · by_cases feed : char = '\n'
            · have whole := fgetsAll_short [] before ['\n'] free (Or.inr rfl) (by simpa using short)
              simpa [feed] using whole
            · have full : before.length + 1 = LINE_ROOM := cut.resolve_left feed
              have whole := fgetsAll_full [] (before ++ [char]) [] (by simp [free, Ne.symm feed])
                (by simp) (by simpa using full)
              simpa [fgetsAll] using whole
          · exact ih [] List.not_mem_nil (by decide) later
      · next within =>
          obtain ⟨feed, room⟩ := not_or.mp within
          refine ih (before ++ [char]) (by simp [free, Ne.symm feed]) ?_ member
          rw [List.length_append, List.length_singleton]
          omega

theorem ruleOf_ending (chars ending : List Char) (ends : ending = [] ∨ ending = ['\n']) :
    ruleOf (chars ++ ending) = ruleOf chars := by
  have cut := cString_line_ending chars ending ends
  cases chars with
  | nil => rcases ends with rfl | rfl <;> rfl
  | cons char rest =>
      have first : (cString (char :: rest ++ ending)).head? = (cString (char :: rest)).head? := by
        rw [List.cons_append, cString, cString, List.takeWhile_cons, List.takeWhile_cons]
        split <;> rfl
      rw [ruleOf, ruleOf, cut, first]

theorem ruleOf_free (chars : List Char) (free : '\n' ∉ chars) :
    ruleOf chars = if ∀ char, chars.head? = some char → Skipped char then none
      else some (chars.takeWhile fun char => char ≠ '\r' && char.toNat ≠ 0) := by
  rw [ruleOf, cString_line chars free]
  cases chars with
  | nil => simp [cString]
  | cons char rest =>
      have apart : char ≠ '\n' := fun same => free (same ▸ List.mem_cons_self)
      by_cases zero : char.toNat = 0
      · simp [cString, zero, Skipped]
      · simp [cString, zero, apart, Skipped]

theorem tried_cons (buffer : List Char) (rest : List (List Char)) :
    (buffer :: rest).filterMap ruleOf = (ruleOf buffer).toList ++ rest.filterMap ruleOf := by
  cases found : ruleOf buffer <;> simp [found]

theorem tried_split (chars ending : List Char) (free : '\n' ∉ chars)
    (ends : ending = [] ∨ ending = ['\n']) :
    (fgetsAll [] (chars ++ ending)).filterMap ruleOf =
      (ruleOf (chars.take LINE_ROOM)).toList ++
        (fgetsAll [] (chars.drop LINE_ROOM ++ ending)).filterMap ruleOf := by
  by_cases short : chars.length < LINE_ROOM
  · have nothing : (fgetsAll [] ending).filterMap ruleOf = [] := by
      rcases ends with rfl | rfl <;> rfl
    rw [List.take_of_length_le short.le, List.drop_of_length_le short.le, List.nil_append, nothing,
      List.append_nil, fgetsAll_short [] chars ending free ends (by simpa using short),
      ← ruleOf_ending chars ending ends, List.nil_append]
    split
    · next empty => rw [empty]; rfl
    · rw [tried_cons, List.filterMap_nil, List.append_nil]
  · have first : (chars.take LINE_ROOM).length = LINE_ROOM := by
      rw [List.length_take]
      omega
    have full := fgetsAll_full [] (chars.take LINE_ROOM) (chars.drop LINE_ROOM ++ ending)
      (fun member => free (List.mem_of_mem_take member))
      (by rw [ne_eq, ← List.length_eq_zero_iff, first]; decide) (by simpa using first)
    rw [← List.append_assoc, List.take_append_drop, List.nil_append] at full
    rw [full, tried_cons]

theorem tried_nil_iff (chars ending : List Char) (free : '\n' ∉ chars)
    (ends : ending = [] ∨ ending = ['\n']) :
    (fgetsAll [] (chars ++ ending)).filterMap ruleOf = [] ↔ Skips chars := by
  induction length : chars.length using Nat.strongRecOn generalizing chars with
  | ind count ih =>
      have cut : '\n' ∉ chars.drop LINE_ROOM := fun member => free (List.mem_of_mem_drop member)
      have taken : '\n' ∉ chars.take LINE_ROOM := fun member => free (List.mem_of_mem_take member)
      have head : (chars.take LINE_ROOM).head? = chars.head? := by cases chars <;> rfl
      rw [tried_split chars ending free ends, skips_split, List.append_eq_nil_iff,
        ruleOf_free _ taken, head]
      have first : ((if ∀ char, chars.head? = some char → Skipped char then none
          else some ((chars.take LINE_ROOM).takeWhile fun char =>
            char ≠ '\r' && char.toNat ≠ 0) : Option (List Char)).toList = []) ↔
          ∀ char, chars.head? = some char → Skipped char := by
        split <;> simp_all
      rw [first]
      apply and_congr_right
      intro _
      cases chars with
      | nil =>
          refine iff_of_true ?_ fun index char found => ?_
          · rcases ends with rfl | rfl <;> rfl
          · rw [List.drop_nil, List.getElem?_nil] at found
            cases found
      | cons char rest =>
          refine ih ((char :: rest).drop LINE_ROOM).length ?_ _ cut rfl
          rw [← length, List.length_drop, List.length_cons]
          simp only [LINE_ROOM]
          omega

end Fragments

namespace Line

variable (line : Line)

/-- The loop takes the rule of the line from it, and nothing else. -/
structure Fits : Prop where
  /-- A blank line or a comment has no buffer that passes for a rule. -/
  passed : line.rule = none → Skips line.chars
  /-- A rule fills one buffer at most, and has no character at which it is cut. -/
  whole : ∀ rule, line.rule = some rule →
    line.chars.length ≤ LINE_ROOM ∧ ∀ char ∈ rule, char ≠ '\r' ∧ char.toNat ≠ 0

theorem ending_cases : line.ending = [] ∨ line.ending = ['\n'] := by
  rw [ending]
  split
  · exact Or.inr rfl
  · exact Or.inl rfl

theorem chars_cases : line.chars = line.text ∨ line.chars = line.text ++ ['\r'] := by
  rw [text]
  split
  · next returned => exact Or.inr (List.dropLast_append_getLast? _ returned.2).symm
  · exact Or.inl rfl

theorem rule_eq_none_iff : line.rule = none ↔ ∀ char, line.text.head? = some char → char = '#' := by
  rw [rule]
  cases line.text <;> simp

theorem rule_eq_some (rule : List Char) (found : line.rule = some rule) :
    line.text = rule ∧ ∃ char rest, rule = char :: rest ∧ char ≠ '#' := by
  have held : line.rule ≠ none := found ▸ Option.some_ne_none rule
  rw [ne_eq, rule_eq_none_iff] at held
  rw [Line.rule] at found
  split at found
  · cases found
  · have same : line.text = rule := Option.some.inj found
    rw [same] at held
    cases rule with
    | nil => simp at held
    | cons char rest => exact ⟨same, char, rest, rfl, by simpa using held⟩

/-- No rule that the loop takes has a character at which it would be cut. -/
theorem ruleOf_plain (buffer rule : List Char) (found : ruleOf buffer = some rule) :
    ∀ char ∈ rule, char ≠ '\r' ∧ char.toNat ≠ 0 := by
  rw [ruleOf] at found
  split at found
  · cases found
  · intro char member
    rw [← Option.some.inj found] at member
    have inside := (List.takeWhile_sublist _).subset member
    have line := List.mem_takeWhile_imp member
    have zero := List.mem_takeWhile_imp inside
    simp only [ne_eq, Bool.and_eq_true, decide_eq_true_eq] at line zero
    exact ⟨line.1, zero⟩

theorem tried_plain (rule : List Char) (member : rule ∈ line.tried) :
    ∀ char ∈ rule, char ≠ '\r' ∧ char.toNat ≠ 0 := by
  obtain ⟨buffer, -, found⟩ := List.mem_filterMap.mp member
  exact ruleOf_plain buffer rule found

variable (proper : line.Proper)

include proper

theorem tried_nil : line.tried = [] ↔ Skips line.chars :=
  tried_nil_iff line.chars line.ending proper.free line.ending_cases

theorem tried_first : line.tried = (ruleOf (line.chars.take LINE_ROOM)).toList ++
    (fgetsAll [] (line.chars.drop LINE_ROOM ++ line.ending)).filterMap ruleOf :=
  tried_split line.chars line.ending proper.free line.ending_cases

theorem rest_nil : (fgetsAll [] (line.chars.drop LINE_ROOM ++ line.ending)).filterMap ruleOf = [] ↔
    Skips (line.chars.drop LINE_ROOM) :=
  tried_nil_iff _ line.ending (fun member => proper.free (List.mem_of_mem_drop member))
    line.ending_cases

theorem ruleOf_first (rule : List Char) (found : line.rule = some rule)
    (plain : ∀ char ∈ rule, char ≠ '\r' ∧ char.toNat ≠ 0) :
    ruleOf (line.chars.take LINE_ROOM) = some (rule.take LINE_ROOM) := by
  obtain ⟨same, char, rest, rfl, other⟩ := line.rule_eq_some rule found
  have start := plain char List.mem_cons_self
  have head : (line.chars.take LINE_ROOM).head? = some char := by
    rcases line.chars_cases with whole | whole <;> rw [whole, same] <;> rfl
  rw [ruleOf_free _ fun member => proper.free (List.mem_of_mem_take member), head, if_neg]
  · have every : ∀ other ∈ (char :: rest).take LINE_ROOM,
        (other ≠ '\r' && other.toNat ≠ 0) = true := by
      intro other member
      simpa using plain other (List.mem_of_mem_take member)
    rcases line.chars_cases with whole | whole
    · rw [whole, same, List.takeWhile_eq_self_iff.mpr every]
    · rw [whole, same, List.take_append, List.takeWhile_append_of_pos every]
      cases LINE_ROOM - (char :: rest).length <;> simp
  · intro skipped
    exact (skipped char rfl).elim other start.2

theorem tried_iff : line.tried = line.rule.toList ↔ line.Fits := by
  cases found : line.rule with
  | none =>
      rw [Option.toList_none, line.tried_nil proper]
      exact ⟨fun skips => ⟨fun _ => skips, by simp [found]⟩, fun fits => fits.passed found⟩
  | some rule =>
      obtain ⟨same, -⟩ := line.rule_eq_some rule found
      constructor
      · intro tried
        have plain := line.tried_plain rule (tried ▸ List.mem_singleton.mpr rfl)
        rw [line.tried_first proper, line.ruleOf_first proper rule found plain] at tried
        obtain ⟨first, rest⟩ := List.cons.inj tried
        have skips := (line.rest_nil proper).mp rest
        refine ⟨fun none => absurd (found.symm.trans none) (Option.some_ne_none rule), ?_⟩
        intro other known
        obtain rfl := Option.some.inj (found.symm.trans known)
        refine ⟨?_, plain⟩
        -- A longer line is cut before its carriage return, which then passes for a rule.
        by_contra long
        have fit : rule.length ≤ LINE_ROOM := by
          have lengths := congrArg List.length first
          rw [List.length_take] at lengths
          omega
        rcases line.chars_cases with whole | whole
        · rw [whole, same] at long
          exact long fit
        · rw [whole, same, List.length_append, List.length_singleton] at long
          have full : rule.length = LINE_ROOM := by omega
          rw [whole, same, ← full, List.drop_left] at skips
          exact absurd (skips 0 '\r' rfl) (by decide)
      · intro fits
        obtain ⟨short, plain⟩ := fits.whole rule found
        have fit : rule.length ≤ LINE_ROOM := by
          rcases line.chars_cases with whole | whole
          · rwa [whole, same] at short
          · rw [whole, same, List.length_append] at short
            omega
        have nothing : Skips (line.chars.drop LINE_ROOM) := by
          intro index char member
          rw [List.drop_of_length_le short, List.getElem?_nil] at member
          cases member
        rw [line.tried_first proper, line.ruleOf_first proper rule found plain,
          (line.rest_nil proper).mpr nothing, List.take_of_length_le fit]
        rfl

end Line

section Files

/-- Two lists of pieces that make up the same are the same pieces, where none of the second is
    longer than its counterpart. -/
theorem flatMap_eq_iff {Item Piece : Type*} (items : List Item) (first second : Item → List Piece)
    (fewer : ∀ item ∈ items, (second item).length ≤ (first item).length) :
    items.flatMap first = items.flatMap second ↔ ∀ item ∈ items, first item = second item := by
  induction items with
  | nil => simp
  | cons item rest ih =>
      have later := fun other (member : other ∈ rest) =>
        fewer other (List.mem_cons_of_mem item member)
      have lengths : (rest.flatMap second).length ≤ (rest.flatMap first).length := by
        simp only [List.length_flatMap]
        exact List.sum_le_sum later
      rw [List.flatMap_cons, List.flatMap_cons, List.forall_mem_cons, ← ih later]
      constructor
      · intro same
        have total := congrArg List.length same
        rw [List.length_append, List.length_append] at total
        have here := fewer item List.mem_cons_self
        exact List.append_inj same (by omega)
      · rintro ⟨head, tail⟩
        rw [head, tail]

theorem rules_flatMap (text : List Char) :
    rules text = (lines text).flatMap fun line => line.rule.toList := by
  rw [rules]
  induction lines text with
  | nil => rfl
  | cons line rest ih => cases found : line.rule <;> simp [found, ih]

/-- The rules that the loop tries are those of the lines exactly if every line fits. -/
theorem tried_rules_iff (text : List Char) :
    (fgetsAll [] text).filterMap ruleOf = rules text ↔ ∀ line ∈ lines text, line.Fits := by
  have proper := linesFrom_proper [] text List.not_mem_nil
  rw [buffers_lines, rules_flatMap]
  constructor
  · intro same
    have fewer : ∀ line ∈ lines text, line.rule.toList.length ≤ line.tried.length := by
      intro line member
      cases found : line.rule with
      | none => exact Nat.zero_le _
      | some rule =>
          -- The rule is one of those tried, so that the loop does not pass over the line.
          have known : rule ∈ (lines text).flatMap Line.tried := by
            rw [same]
            exact List.mem_flatMap.mpr ⟨line, member, by rw [found]; exact List.mem_singleton.mpr rfl⟩
          obtain ⟨source, -, tried⟩ := List.mem_flatMap.mp known
          rw [line.tried_first (proper line member), line.ruleOf_first (proper line member) rule found
            (source.tried_plain rule tried)]
          exact Nat.le_add_left 1 _
    intro line member
    exact (line.tried_iff (proper line member)).mp
      ((flatMap_eq_iff _ Line.tried _ fewer).mp same line member)
  · intro fits
    exact List.flatMap_congr fun line member =>
      (line.tried_iff (proper line member)).mpr (fits line member)

def total (counters : Counters) : Nat := counters.numOk + counters.numFail + counters.numDup

theorem total_count (counters : Counters) (rv : Int) :
    total (counters.count rv) = total counters + 1 ∧
      (counters.count rv).numOk ≤ counters.numOk + 1 := by
  simp only [Counters.count]
  split
  · exact ⟨by simp only [total]; omega, le_rfl⟩
  · split <;> exact ⟨by simp only [total]; omega, Nat.le_succ _⟩

theorem total_fail (counters : Counters) :
    total counters.fail = total counters + 1 ∧ counters.fail.numOk ≤ counters.numOk + 1 :=
  ⟨by simp only [total, Counters.fail]; omega, Nat.le_succ _⟩

variable (env : Environment) (btype : BlacklistType)

/-- Below the limit, an attempt is counted once unless its host is invalid. -/
theorem addRule_total (index : Nat) (rule : List Char) (bl : Blacklist) (counters : Counters)
    (room : counters.numOk < MAX_FILE_RULES) :
    total (addRule env btype index rule bl counters).2 =
        total counters + (if invalidHost env btype rule then 0 else 1) ∧
      (addRule env btype index rule bl counters).2.numOk ≤ counters.numOk + 1 := by
  have below : ¬ MAX_FILE_RULES ≤ counters.numOk := Nat.not_le.mpr room
  cases found : addressOf env rule with
  | none =>
      cases btype with
      | ip => simpa [addRule, below, invalidHost, found] using total_fail counters
      | domain => simpa [addRule, below, invalidHost, found] using total_count counters _
      | uid => simpa [addRule, below, invalidHost, found] using total_count counters _
  | some address =>
      cases btype with
      | ip =>
          by_cases invalid : invalidHost env .ip rule = true
          · simp [addRule, below, found, invalid]
          · simpa [addRule, below, found, invalid] using total_count counters _
      | domain => simpa [addRule, below, invalidHost, found] using total_fail counters
      | uid => simpa [addRule, below, invalidHost, found] using total_fail counters

theorem addRules_total (tried : List (Nat × List Char)) (bl : Blacklist) (counters : Counters)
    (room : counters.numOk + tried.length ≤ MAX_FILE_RULES) :
    total (addRules env btype tried bl counters).2 = total counters +
      ((tried.map Prod.snd).filter fun rule => !invalidHost env btype rule).length := by
  induction tried generalizing bl counters with
  | nil => rfl
  | cons attempt rest ih =>
      rw [List.length_cons] at room
      obtain ⟨counted, bound⟩ := addRule_total env btype attempt.1 attempt.2 bl counters (by omega)
      have later := ih (addRule env btype attempt.1 attempt.2 bl counters).1
        (addRule env btype attempt.1 attempt.2 bl counters).2 (by omega)
      rw [addRules, List.foldl_cons, ← Prod.mk.eta (p := addRule env btype _ _ _ _), ← addRules,
        later, counted, List.map_cons, List.filter_cons]
      cases invalidHost env btype attempt.2 with
      | true => rfl
      | false =>
          simp only [Bool.false_eq_true, if_false, Bool.not_false, if_true, List.length_cons]
          omega

def tries (text : List Char) : List (Nat × List Char) := attempts 0 (fgetsAll [] text)

def triedRules (text : List Char) : List (List Char) := (tries text).map Prod.snd

/-- The buffer of a rule that was tried is a file with that rule only. -/
theorem triedRules_buffer (text rule : List Char) (member : rule ∈ triedRules text) :
    ∃ buffer, tries buffer = [(0, rule)] := by
  rw [triedRules, tries, attempts_rules] at member
  obtain ⟨buffer, listed, found⟩ := List.mem_filterMap.mp member
  refine ⟨buffer, ?_⟩
  rw [tries, fgetsAll_buffer [] text buffer List.not_mem_nil (by decide) listed]
  simp [attempts, found]

theorem blacklistLoadFile_tries (env : Environment) (btype : BlacklistType) (bl : Blacklist)
    (text : List Char) : (blacklistLoadFile env bl (some text) btype).1 =
      (addRules env btype (tries text) bl {}).1 := by
  simp only [blacklistLoadFile, loadLines_attempts, tries]

/-- A file is read line by line: the load consists of one attempt for the rule of each line, and
    counts each of them but the invalid hosts. -/
structure ReadsLines (bl : Blacklist) (text : List Char) : Prop where
  loaded : blacklistLoadFile env bl (some text) btype =
    ((addRules env btype (tries text) bl {}).1,
      some
        { numRules := (addRules env btype (tries text) bl {}).2.numOk
          numFailed := (addRules env btype (tries text) bl {}).2.numFail })
  tried : (tries text).map Prod.snd = rules text
  accounted : total (addRules env btype (tries text) bl {}).2 =
    ((rules text).filter fun rule => !invalidHost env btype rule).length

/-- A file is read line by line exactly if each of its lines fits. -/
theorem readsLines_iff (bl : Blacklist) (text : List Char)
    (few : (rules text).length ≤ MAX_FILE_RULES) :
    ReadsLines env btype bl text ↔ ∀ line ∈ lines text, line.Fits := by
  rw [← tried_rules_iff, ← attempts_rules 0]
  constructor
  · exact fun reads => reads.tried
  · intro tried
    have length : (tries text).length = (rules text).length := by
      rw [← List.length_map (f := Prod.snd), tries, tried]
    refine ⟨?_, tried, ?_⟩
    · simp only [blacklistLoadFile, loadLines_attempts, tries]
    · rw [addRules_total env btype (tries text) bl {} (by simpa [length] using few), tries, tried]
      exact Nat.zero_add _

/-- A file with both line endings, a blank line and a comment. -/
theorem mixedFile_read :
    ReadsLines .plenty .domain {} "# hosts\na.com\r\n\nb.com".toList ↔
      ∀ line ∈ lines "# hosts\na.com\r\n\nb.com".toList, line.Fits :=
  readsLines_iff .plenty .domain {} _ (by decide +kernel)

/-- A comment of more than a buffer: its end is taken for a rule. -/
theorem longComment_ruled :
    ¬ ReadsLines .plenty .domain {}
      ('#' :: List.replicate 254 ' ' ++ "evil.com\n".toList) := by
  intro reads
  have tried := reads.tried
  revert tried
  decide +kernel

end Files

end Ptnet.BlacklistLines
