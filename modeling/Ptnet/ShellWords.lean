import Ptnet.CStrings
import Ptnet.Machine

/-!
Tokens of the POSIX shell language: what a text read by a shell is as one simple command. Blanks
and newlines end words, and the three kinds of quoting are removed. A word which the shell would
expand is not a literal one, and a text with such a word, an operator, or a second command has no
argument vector here.
-/

namespace Ptnet.ShellWords

open CStrings (Text text)
open Machine (run run_append)

def TAB : UInt8 := 9
def NEWLINE : UInt8 := 10
def BLANK : UInt8 := 32
def DOUBLE_QUOTE : UInt8 := 34
def HASH : UInt8 := 35
def DOLLAR : UInt8 := 36
def QUOTE : UInt8 := 39
def BACKSLASH : UInt8 := 92
def BACKTICK : UInt8 := 96
def TILDE : UInt8 := 126

/-- Operators, parameter and command expansions, and patterns. -/
def ACTIVE : Text := text "|&;<>()$*?[" ++ [BACKTICK]

inductive Mode where
  | plain
  | escaped
  | single
  | double
  | doubleEscaped
  | comment
  | ended
  | rejected
  deriving DecidableEq

structure Lexer where
  words : List Text := []
  current : Option Text := none
  mode : Mode := .plain
  deriving DecidableEq

namespace Lexer

variable (lexer : Lexer)

def goto (mode : Mode) : Lexer := { lexer with mode := mode }

def add (bytes : Text) : Lexer :=
  { lexer with current := some (lexer.current.getD [] ++ bytes) }

def close : Lexer :=
  { lexer with words := lexer.words ++ lexer.current.toList, current := none }

def endLine : Lexer := lexer.close.goto (if lexer.close.words = [] then .plain else .ended)

end Lexer

section Reading

variable (lexer : Lexer) (byte : UInt8)

def plainStep : Lexer :=
  if byte = BLANK ∨ byte = TAB then lexer.close
  else if byte = NEWLINE then lexer.endLine
  else if byte = QUOTE then (lexer.add []).goto .single
  else if byte = DOUBLE_QUOTE then (lexer.add []).goto .double
  else if byte = BACKSLASH then lexer.goto .escaped
  else if byte ∈ ACTIVE then lexer.goto .rejected
  else if lexer.current = none ∧ byte = HASH then lexer.goto .comment
  else if lexer.current = none ∧ byte = TILDE then lexer.goto .rejected
  else lexer.add [byte]

def escapedStep : Lexer :=
  -- A newline behind a backslash continues the line.
  if byte = NEWLINE then lexer.goto .plain else (lexer.add [byte]).goto .plain

def singleStep : Lexer :=
  if byte = QUOTE then lexer.goto .plain else lexer.add [byte]

def doubleStep : Lexer :=
  if byte = DOUBLE_QUOTE then lexer.goto .plain
  else if byte = BACKSLASH then lexer.goto .doubleEscaped
  else if byte = DOLLAR ∨ byte = BACKTICK then lexer.goto .rejected
  else lexer.add [byte]

def doubleEscapedStep : Lexer :=
  if byte = NEWLINE then lexer.goto .double
  else if byte = DOLLAR ∨ byte = BACKTICK ∨ byte = DOUBLE_QUOTE ∨ byte = BACKSLASH then
    (lexer.add [byte]).goto .double
  -- Before any other byte the backslash stays.
  else (lexer.add [BACKSLASH, byte]).goto .double

def commentStep : Lexer :=
  if byte = NEWLINE then lexer.endLine else lexer

def endedStep : Lexer :=
  if byte = BLANK ∨ byte = TAB ∨ byte = NEWLINE then lexer
  else if byte = HASH then lexer.goto .comment
  else lexer.goto .rejected

def step : Lexer :=
  match lexer.mode with
  | .plain => plainStep lexer byte
  | .escaped => escapedStep lexer byte
  | .single => singleStep lexer byte
  | .double => doubleStep lexer byte
  | .doubleEscaped => doubleEscapedStep lexer byte
  | .comment => commentStep lexer byte
  | .ended => endedStep lexer byte
  | .rejected => lexer

/-- The words at the end of the input; a quotation must not be open there. -/
def finish : Option (List Text) :=
  match lexer.mode with
  | .plain | .comment | .ended => some lexer.close.words
  | .escaped | .single | .double | .doubleEscaped | .rejected => none

end Reading

/-- The argument vector of the one simple command in a text. -/
def argv (input : Text) : Option (List Text) := finish (run step {} input)

section Spelling

def isOrdinary (byte : UInt8) : Bool :=
  !([BLANK, TAB, NEWLINE, QUOTE, DOUBLE_QUOTE, BACKSLASH] ++ ACTIVE).contains byte

structure Bare (word : Text) : Prop where
  nonempty : word ≠ []
  ordinary : ∀ byte ∈ word, isOrdinary byte
  starts : word.head? ≠ some HASH ∧ word.head? ≠ some TILDE

inductive Item where
  | bare (word : Text)
  | quoted (word : Text)

def Item.word : Item → Text
  | .bare word => word
  | .quoted word => word

def Item.spelled : Item → Text
  | .bare word => word
  | .quoted word => QUOTE :: word ++ [QUOTE]

def Item.Sound : Item → Prop
  | .bare word => Bare word
  | .quoted word => QUOTE ∉ word

def spelled (items : List Item) : Text := items.flatMap fun item => item.spelled ++ [BLANK]

theorem plainStep_ordinary (lexer : Lexer) (byte : UInt8) (ordinary : isOrdinary byte)
    (inside : lexer.current = none → byte ≠ HASH ∧ byte ≠ TILDE) :
    plainStep lexer byte = lexer.add [byte] := by
  simp only [isOrdinary, List.contains_eq_mem, List.mem_append, List.mem_cons, List.not_mem_nil,
    or_false, Bool.not_eq_true', decide_eq_false_iff_not, not_or] at ordinary
  obtain ⟨⟨blank, tab, newline, quote, double, backslash⟩, active⟩ := ordinary
  have hash : ¬ (lexer.current = none ∧ byte = HASH) := fun both => (inside both.1).1 both.2
  have tilde : ¬ (lexer.current = none ∧ byte = TILDE) := fun both => (inside both.1).2 both.2
  simp [plainStep, blank, tab, newline, quote, double, backslash, active, hash, tilde]

theorem run_ordinary (words : List Text) (word : Text) (ordinary : ∀ byte ∈ word, isOrdinary byte)
    (done : Text) :
    run step ⟨words, some done, .plain⟩ word = ⟨words, some (done ++ word), .plain⟩ := by
  induction word generalizing done with
  | nil => simp
  | cons byte rest ih =>
      have first : step ⟨words, some done, .plain⟩ byte = ⟨words, some (done ++ [byte]), .plain⟩ :=
        plainStep_ordinary _ byte (ordinary byte List.mem_cons_self) (by simp)
      have later := ih (fun other member => ordinary other (List.mem_cons_of_mem byte member))
        (done ++ [byte])
      rw [Machine.run_cons, first, later]
      simp

/-- Between single quotes every byte but the quote is literal. -/
theorem run_literal (words : List Text) (word : Text) (unquoted : QUOTE ∉ word) (done : Text) :
    run step ⟨words, some done, .single⟩ word = ⟨words, some (done ++ word), .single⟩ := by
  induction word generalizing done with
  | nil => simp
  | cons byte rest ih =>
      rw [List.mem_cons, not_or] at unquoted
      have first : step ⟨words, some done, .single⟩ byte =
          ⟨words, some (done ++ [byte]), .single⟩ := by
        simp [step, singleStep, Lexer.add, Ne.symm unquoted.1]
      rw [Machine.run_cons, first, ih unquoted.2]
      simp

theorem run_bare (words : List Text) (word : Text) (bare : Bare word) :
    run step ⟨words, none, .plain⟩ word = ⟨words, some word, .plain⟩ := by
  cases word with
  | nil => exact absurd rfl bare.nonempty
  | cons byte rest =>
      have first : step ⟨words, none, .plain⟩ byte = ⟨words, some [byte], .plain⟩ := by
        refine plainStep_ordinary _ byte (bare.ordinary byte List.mem_cons_self) fun _ => ?_
        simpa using bare.starts
      have later := run_ordinary words rest
        (fun other member => bare.ordinary other (List.mem_cons_of_mem byte member)) [byte]
      rw [Machine.run_cons, first, later]
      simp

theorem step_openQuote (words : List Text) :
    step ⟨words, none, .plain⟩ QUOTE = ⟨words, some [], .single⟩ := by
  simp [step, plainStep, Lexer.add, Lexer.goto, QUOTE, BLANK, TAB, NEWLINE]

theorem run_openQuote (words : List Text) (word : Text) (unquoted : QUOTE ∉ word) :
    run step ⟨words, none, .plain⟩ (QUOTE :: word) = ⟨words, some word, .single⟩ := by
  rw [Machine.run_cons, step_openQuote, run_literal words word unquoted, List.nil_append]

theorem run_item (words : List Text) (item : Item) (sound : item.Sound) :
    run step ⟨words, none, .plain⟩ item.spelled = ⟨words, some item.word, .plain⟩ := by
  cases item with
  | bare word => exact run_bare words word sound
  | quoted word =>
      rw [Item.spelled, run_append, run_openQuote words word sound]
      simp [step, singleStep, Lexer.goto, Item.word]

theorem run_spelled (words : List Text) (items : List Item) (sound : ∀ item ∈ items, item.Sound) :
    run step ⟨words, none, .plain⟩ (spelled items) = ⟨words ++ items.map Item.word, none, .plain⟩ := by
  induction items generalizing words with
  | nil => simp [spelled]
  | cons item rest ih =>
      have first := run_item words item (sound item List.mem_cons_self)
      have blank : step ⟨words, some item.word, .plain⟩ BLANK =
          ⟨words ++ [item.word], none, .plain⟩ := by
        simp [step, plainStep, Lexer.close]
      have later := ih (words ++ [item.word])
        fun other member => sound other (List.mem_cons_of_mem item member)
      rw [spelled] at later
      rw [spelled, List.flatMap_cons, run_append, run_append, first, Machine.run_cons,
        Machine.run_nil, blank, later]
      simp

theorem finish_endLine (lexer : Lexer) : finish lexer.endLine = some lexer.close.words := by
  rw [Lexer.endLine]
  by_cases empty : lexer.close.words = []
  · rw [if_pos empty]
    simp [finish, Lexer.goto, Lexer.close]
  · rw [if_neg empty]
    simp [finish, Lexer.goto, Lexer.close]

theorem step_newline (lexer : Lexer) (plain : lexer.mode = .plain) :
    step lexer NEWLINE = lexer.endLine := by
  simp [step, plain, plainStep, NEWLINE, BLANK, TAB]

/-- At the end of the line the words read so far are the argument vector. -/
theorem finish_newline (words : List Text) (current : Option Text) :
    finish (step ⟨words, current, .plain⟩ NEWLINE) = some (words ++ current.toList) := by
  rw [step_newline _ rfl, finish_endLine]
  rfl

variable (items : List Item) (sound : ∀ item ∈ items, item.Sound)

include sound

theorem argv_spelled (last : Item) (soundLast : last.Sound) :
    argv (spelled items ++ last.spelled ++ [NEWLINE]) = some ((items ++ [last]).map Item.word) := by
  rw [argv, run_append, run_append, run_spelled [] items sound, run_item _ last soundLast]
  simp [finish_newline]

theorem argv_blank :
    argv (spelled items ++ [NEWLINE]) = some (items.map Item.word) := by
  rw [argv, run_append, run_spelled [] items sound]
  simp [finish_newline]

theorem argv_unclosed (word : Text) (unquoted : QUOTE ∉ word) :
    argv (spelled items ++ QUOTE :: word ++ [NEWLINE]) = none := by
  rw [argv, run_append, run_append, run_spelled [] items sound, run_openQuote _ word unquoted]
  rfl

end Spelling

section Counting

def Mode.escape : Mode → Nat
  | .escaped | .double | .doubleEscaped => 1
  | .plain | .single | .comment | .ended | .rejected => 0

def Mode.pending : Mode → Nat
  | .doubleEscaped => 1
  | .plain | .escaped | .single | .double | .comment | .ended | .rejected => 0

def size (words : List Text) : Nat := (words.map fun word => word.length + 1).sum

namespace Lexer

variable (lexer : Lexer)

def weight : Nat := size lexer.words + (lexer.current.getD []).length

def quotes : Nat := lexer.words.flatten.count QUOTE + (lexer.current.getD []).count QUOTE

/-- What the words have cost: a quote in one of them costs a byte of its own, as does the byte by
    which a mode was entered. -/
def charge : Nat := lexer.weight + max lexer.mode.escape (min lexer.quotes 1) + lexer.mode.pending

@[simp] theorem goto_weight (mode : Mode) : (lexer.goto mode).weight = lexer.weight := rfl

@[simp] theorem goto_quotes (mode : Mode) : (lexer.goto mode).quotes = lexer.quotes := rfl

@[simp] theorem goto_mode (mode : Mode) : (lexer.goto mode).mode = mode := rfl

@[simp] theorem add_weight (bytes : Text) :
    (lexer.add bytes).weight = lexer.weight + bytes.length := by
  simp [weight, add, Nat.add_assoc]

@[simp] theorem add_quotes (bytes : Text) :
    (lexer.add bytes).quotes = lexer.quotes + bytes.count QUOTE := by
  simp [quotes, add, Nat.add_assoc]

@[simp] theorem add_mode (bytes : Text) : (lexer.add bytes).mode = lexer.mode := rfl

theorem close_weight : lexer.close.weight ≤ lexer.weight + 1 := by
  cases word : lexer.current with
  | none => simp [weight, close, word]
  | some word' => simp [weight, close, word, size, Nat.add_assoc]

@[simp] theorem close_quotes : lexer.close.quotes = lexer.quotes := by
  cases word : lexer.current with
  | none => simp [quotes, close, word]
  | some word' => simp [quotes, close, word]

@[simp] theorem close_mode : lexer.close.mode = lexer.mode := rfl

theorem endLine_weight : lexer.endLine.weight ≤ lexer.weight + 1 := lexer.close_weight

@[simp] theorem endLine_quotes : lexer.endLine.quotes = lexer.quotes := lexer.close_quotes

@[simp] theorem endLine_escape : lexer.endLine.mode.escape = 0 := by
  rw [endLine, goto_mode]
  split <;> rfl

@[simp] theorem endLine_pending : lexer.endLine.mode.pending = 0 := by
  rw [endLine, goto_mode]
  split <;> rfl

end Lexer

variable (lexer : Lexer) (byte : UInt8)

/-- A byte brings at most one byte to the words, and a quote none that is not a literal one. -/
def Frugal (after : Lexer) : Prop :=
  after.charge + [byte].count QUOTE + lexer.quotes ≤ lexer.charge + 1 + after.quotes

theorem other_uncounted (other : byte ≠ QUOTE) : [byte].count QUOTE = 0 := by
  simp [other]

theorem endLine_frugal (other : byte ≠ QUOTE) : Frugal lexer byte lexer.endLine := by
  have ended := lexer.endLine_weight
  have uncounted := other_uncounted byte other
  simp only [Frugal, Lexer.charge, Lexer.endLine_quotes, Lexer.endLine_escape,
    Lexer.endLine_pending]
  omega

theorem plainStep_frugal (plain : lexer.mode = .plain) :
    Frugal lexer byte (plainStep lexer byte) := by
  by_cases quote : byte = QUOTE
  · subst quote
    simp [Frugal, plainStep, Lexer.charge, plain, Mode.escape, Mode.pending, QUOTE, BLANK, TAB,
      NEWLINE]
  · have closed := lexer.close_weight
    have uncounted := other_uncounted byte quote
    unfold plainStep
    split_ifs with blank newline
    · simp only [Frugal, Lexer.charge, Lexer.close_quotes, Lexer.close_mode]
      omega
    · exact endLine_frugal lexer byte quote
    all_goals
      simp only [Frugal, Lexer.charge, Lexer.goto_weight, Lexer.goto_quotes, Lexer.goto_mode,
        Lexer.add_weight, Lexer.add_quotes, Lexer.add_mode, plain, Mode.escape, Mode.pending,
        List.length_nil, List.length_singleton, List.count_nil]
      omega

theorem count_le_one : [byte].count QUOTE ≤ 1 := List.count_le_length

theorem unchanged_frugal : Frugal lexer byte lexer := by
  have once := count_le_one byte
  rw [Frugal]
  omega

theorem escapedStep_frugal (escaped : lexer.mode = .escaped) :
    Frugal lexer byte (escapedStep lexer byte) := by
  have once := count_le_one byte
  unfold escapedStep
  split_ifs
  all_goals
    simp only [Frugal, Lexer.charge, Lexer.goto_weight, Lexer.goto_quotes, Lexer.goto_mode, escaped,
      Lexer.add_weight, Lexer.add_quotes, Mode.escape, Mode.pending, List.length_singleton]
    omega

theorem singleStep_frugal (single : lexer.mode = .single) :
    Frugal lexer byte (singleStep lexer byte) := by
  unfold singleStep
  split_ifs with quote
  · subst quote
    simp [Frugal, Lexer.charge, single, Mode.escape, Mode.pending]
  · have uncounted := other_uncounted byte quote
    simp only [Frugal, Lexer.charge, Lexer.add_weight, Lexer.add_quotes, Lexer.add_mode,
      List.length_singleton]
    omega

theorem doubleStep_frugal (double : lexer.mode = .double) :
    Frugal lexer byte (doubleStep lexer byte) := by
  by_cases backslash : byte = BACKSLASH
  · subst backslash
    simp [Frugal, doubleStep, Lexer.charge, double, Mode.escape, Mode.pending, BACKSLASH,
      DOUBLE_QUOTE, QUOTE]
  · have once := count_le_one byte
    unfold doubleStep
    rw [if_neg backslash]
    split_ifs
    all_goals
      simp only [Frugal, Lexer.charge, Lexer.goto_weight, Lexer.goto_quotes, Lexer.goto_mode,
        Lexer.add_weight, Lexer.add_quotes, Lexer.add_mode, double, Mode.escape, Mode.pending,
        List.length_singleton]
      omega

theorem doubleEscapedStep_frugal (escaped : lexer.mode = .doubleEscaped) :
    Frugal lexer byte (doubleEscapedStep lexer byte) := by
  have once := count_le_one byte
  have kept : [BACKSLASH, byte].count QUOTE = [byte].count QUOTE := by
    rw [List.count_cons_of_ne (by decide)]
  unfold doubleEscapedStep
  split_ifs
  all_goals
    simp only [Frugal, Lexer.charge, Lexer.goto_weight, Lexer.goto_quotes, Lexer.goto_mode,
      Lexer.add_weight, Lexer.add_quotes, escaped, Mode.escape, Mode.pending, kept,
      List.length_cons, List.length_nil]
    omega

theorem commentStep_frugal : Frugal lexer byte (commentStep lexer byte) := by
  unfold commentStep
  split_ifs with newline
  · exact endLine_frugal lexer byte (by rw [newline]; decide)
  · exact unchanged_frugal lexer byte

theorem endedStep_frugal (ended : lexer.mode = .ended) :
    Frugal lexer byte (endedStep lexer byte) := by
  have once := count_le_one byte
  unfold endedStep
  split_ifs
  · exact unchanged_frugal lexer byte
  all_goals
    simp only [Frugal, Lexer.charge, Lexer.goto_weight, Lexer.goto_quotes, Lexer.goto_mode, ended,
      Mode.escape, Mode.pending]
    omega

theorem step_frugal : Frugal lexer byte (step lexer byte) := by
  cases mode : lexer.mode with
  | plain => simpa only [step, mode] using plainStep_frugal lexer byte mode
  | escaped => simpa only [step, mode] using escapedStep_frugal lexer byte mode
  | single => simpa only [step, mode] using singleStep_frugal lexer byte mode
  | double => simpa only [step, mode] using doubleStep_frugal lexer byte mode
  | doubleEscaped => simpa only [step, mode] using doubleEscapedStep_frugal lexer byte mode
  | comment => simpa only [step, mode] using commentStep_frugal lexer byte
  | ended => simpa only [step, mode] using endedStep_frugal lexer byte mode
  | rejected => simpa only [step, mode] using unchanged_frugal lexer byte

theorem run_frugal (input : Text) :
    (run step lexer input).charge + input.count QUOTE + lexer.quotes ≤
      lexer.charge + input.length + (run step lexer input).quotes := by
  induction input generalizing lexer with
  | nil =>
      rw [Machine.run_nil, List.count_nil, List.length_nil]
  | cons byte rest ih =>
      have first := step_frugal lexer byte
      have later := ih (step lexer byte)
      have split : (byte :: rest).count QUOTE = [byte].count QUOTE + rest.count QUOTE := by
        rw [← List.count_append, List.singleton_append]
      rw [Frugal] at first
      rw [Machine.run_cons, split, List.length_cons]
      omega

theorem finish_words (words : List Text) (done : finish (step lexer NEWLINE) = some words) :
    words = lexer.close.words := by
  cases mode : lexer.mode with
  | plain =>
      rw [step_newline lexer mode, finish_endLine] at done
      exact (Option.some.inj done).symm
  | comment =>
      simp only [step, mode, commentStep, if_true, finish_endLine] at done
      exact (Option.some.inj done).symm
  | escaped =>
      simp only [step, mode, escapedStep, if_true, finish, Lexer.goto_mode] at done
      exact (Option.some.inj done).symm
  | ended =>
      have ends : step lexer NEWLINE = lexer := by simp [step, mode, endedStep]
      simp only [ends, finish, mode] at done
      exact (Option.some.inj done).symm
  | single | double | doubleEscaped | rejected =>
      simp [step, mode, singleStep, doubleStep, doubleEscapedStep, finish, NEWLINE, QUOTE,
        DOUBLE_QUOTE, BACKSLASH, DOLLAR, BACKTICK] at done

/-- Every quote that is in no word was used up, and a quote in a word took a byte more. -/
theorem argv_frugal (input : Text) (words : List Text)
    (read : argv (input ++ [NEWLINE]) = some words) :
    size words + input.count QUOTE + min (words.flatten.count QUOTE) 1 ≤
      input.length + 1 + words.flatten.count QUOTE := by
  rw [argv, run_append, Machine.run_cons, Machine.run_nil] at read
  have counted := run_frugal {} input
  generalize run step {} input = lexer at read counted
  have same := finish_words lexer words read
  have closed := lexer.close_weight
  have kept := lexer.close_quotes
  simp only [Lexer.charge, Lexer.weight, Lexer.quotes, Lexer.close, Option.getD_none,
    List.length_nil, List.count_nil] at closed kept counted
  have start : size ([] : List Text) = 0 := rfl
  simp only [start, Mode.escape, Mode.pending, List.flatten_nil, List.count_nil] at counted
  rw [same]
  simp only [Lexer.close]
  omega

end Counting

example : argv (text "ls -l 'a b' \"c\\\"d\" e\\ f # g\n") =
    some [text "ls", text "-l", text "a b", text "c\"d", text "e f"] := by decide

example : argv (text "ls a; ls b\n") = none := by decide

end Ptnet.ShellWords
