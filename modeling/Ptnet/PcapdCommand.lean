import Ptnet.ShellWords
import Ptnet.UidFilter

/-!
The command which starts `pcapd`: the checks of `connectPcapd` in core/capture_libpcap.c, the text
of the arguments in its buffer, and what `start_subprocess` of common/utils.c writes to the shell.
-/

namespace Ptnet.PcapdCommand

open CStrings (Text text decimal snprintf)
open ShellWords (argv Bare Item NEWLINE BLANK QUOTE)
open UidFilter (UIDS_FILTER_SIZE getUidsFilter)

/-- `sizeof(args)` -/
def ARGS_SIZE : Nat := 256

/-- The path of the program, in the directory of the native libraries: what `get_libprog_path`
    returns. -/
structure Program where
  path : Text
  bare : Bare path

/-- The fields of `pd` which `connectPcapd` reads, and `getuid()`. -/
structure Pd where
  pcapd : Program
  uid : BitVec 32
  pcapFileCapture : Bool
  captureInterface : Text
  bpf : Option Text := none
  tlsDecryption : Bool := false
  appFilterUids : List (BitVec 32) := []
  daemonize : Bool := false

section Checks

def isAlnum (byte : UInt8) : Bool :=
  CStrings.isDigit byte || (65 ≤ byte && byte ≤ 90) || (97 ≤ byte && byte ≤ 122)

def validIfname (name : Text) : Bool :=
  if name = [] then false
  else if 16 ≤ name.length then false
  else name.all fun byte => (text "._@").contains byte || isAlnum byte

def disallowedChars : Text := text "$'\"\n\r" ++ [ShellWords.BACKTICK]

def validBpf (bpf : Text) : Bool := bpf.all fun byte => !disallowedChars.contains byte

end Checks

section Command

variable (pd : Pd)

def bpf : Text := pd.bpf.getD []

/-- `get_uids_filter` with its buffer. -/
def uidsFilter : Text := getUidsFilter pd.tlsDecryption pd.appFilterUids UIDS_FILTER_SIZE

/-- What is printed for `args`, before it is cut to the buffer. -/
def printed (daemonize : Bool) : Text :=
  text "-l pcapd.log -L " ++ decimal pd.uid.toNat ++ text " -i '" ++ pd.captureInterface ++
    text "' -u " ++ uidsFilter pd ++ text " -t -b '" ++ bpf pd ++ text "'" ++
    (if daemonize then text " -d" else [])

def args (daemonize : Bool) : Text := (snprintf [] 0 ARGS_SIZE (printed pd daemonize)).1

/-- What `start_subprocess` writes to the shell. -/
def startSubprocess (prog args : Text) : Text := prog ++ [BLANK] ++ args ++ [NEWLINE]

/-- The option `-d`: set for every capture from an interface. -/
def daemonize : Bool := !pd.pcapFileCapture || pd.daemonize

/-- The text that starts the daemon, where the checks are passed; `access` tells whether a file
    is there. -/
def connectPcapd (access : Text → Bool) : Option Text :=
  if bpf pd ≠ [] ∧ validBpf (bpf pd) = false then none
  else if pd.pcapFileCapture then
    if access pd.captureInterface then
      some (startSubprocess pd.pcapd.path (args pd pd.daemonize))
    else none
  else if validIfname pd.captureInterface then
    some (startSubprocess pd.pcapd.path (args pd true))
  else none

/-- The argument vector that `pcapd` is meant to get, with a text for its UID filter. -/
def intended (filter : Text) : List Text :=
  [pd.pcapd.path, text "-l", text "pcapd.log", text "-L", decimal pd.uid.toNat, text "-i",
    pd.captureInterface, text "-u", filter, text "-t", text "-b", bpf pd] ++
    (if daemonize pd then [text "-d"] else [])

def wholeFilter : Text :=
  if pd.tlsDecryption || pd.appFilterUids.isEmpty then text "-1"
  else UidFilter.joined pd.appFilterUids

end Command

section Filter

variable (pd : Pd)

def Listing (filter : Text) : Prop :=
  ∀ byte ∈ filter, CStrings.isDigit byte ∨ byte = UidFilter.COMMA ∨ byte = CStrings.MINUS

theorem digit_ordinary (byte : UInt8) (digit : CStrings.isDigit byte) :
    ShellWords.isOrdinary byte ∧ byte ≠ ShellWords.HASH ∧ byte ≠ ShellWords.TILDE := by
  have each : ∀ value : Fin 256, CStrings.isDigit (UInt8.ofNat value.val) = true →
      ShellWords.isOrdinary (UInt8.ofNat value.val) = true ∧
        UInt8.ofNat value.val ≠ ShellWords.HASH ∧ UInt8.ofNat value.val ≠ ShellWords.TILDE := by
    decide +kernel
  have known := each ⟨byte.toNat, byte.toNat_lt⟩
  rw [UInt8.ofNat_toNat] at known
  exact known digit

theorem listing_ordinary (filter : Text) (listing : Listing filter) (byte : UInt8)
    (member : byte ∈ filter) :
    ShellWords.isOrdinary byte ∧ byte ≠ ShellWords.HASH ∧ byte ≠ ShellWords.TILDE := by
  rcases listing byte member with digit | rfl | rfl
  · exact digit_ordinary byte digit
  · decide
  · decide

theorem listing_bare (filter : Text) (listing : Listing filter) (nonempty : filter ≠ []) :
    Bare filter where
  nonempty := nonempty
  ordinary := fun byte member => (listing_ordinary filter listing byte member).1
  starts := by
    cases filter with
    | nil => exact absurd rfl nonempty
    | cons byte rest =>
        have first := listing_ordinary (byte :: rest) listing byte List.mem_cons_self
        simpa using first.2

theorem ordinary_unquoted (word : Text) (ordinary : ∀ byte ∈ word, ShellWords.isOrdinary byte) :
    QUOTE ∉ word := by
  intro member
  exact absurd (ordinary QUOTE member) (by decide)

theorem decimal_listing (value : Nat) : Listing (decimal value) :=
  fun byte member => .inl (CStrings.decimal_digits value byte member)

theorem formatInt_listing (value : Int) : Listing (CStrings.formatInt value) := by
  intro byte member
  rw [CStrings.formatInt] at member
  split at member
  · rcases List.mem_cons.mp member with minus | digit
    · exact .inr (.inr minus)
    · exact decimal_listing _ byte digit
  · exact decimal_listing _ byte member

theorem joined_listing (uids : List (BitVec 32)) : Listing (UidFilter.joined uids) := by
  cases uids with
  | nil => simp [Listing, UidFilter.joined, List.intercalate]
  | cons uid rest =>
      rw [UidFilter.joined_cons]
      intro byte member
      rcases List.mem_append.mp member with first | later
      · exact formatInt_listing uid.toInt byte first
      · obtain ⟨other, -, printed⟩ := List.mem_flatMap.mp later
        rcases List.mem_cons.mp printed with comma | number
        · exact .inr (.inl comma)
        · exact formatInt_listing other.toInt byte number

theorem joined_nonempty (uid : BitVec 32) (rest : List (BitVec 32)) :
    UidFilter.joined (uid :: rest) ≠ [] := by
  rw [UidFilter.joined_cons, CStrings.formatInt]
  split
  · simp
  · simp [CStrings.decimal_nonempty]

theorem wholeFilter_listing : Listing (wholeFilter pd) := by
  rw [wholeFilter]
  split
  · intro byte member
    rcases List.mem_pair.mp (show byte ∈ [CStrings.MINUS, 49] from member) with rfl | rfl
    · exact .inr (.inr rfl)
    · exact .inl (by decide)
  · exact joined_listing pd.appFilterUids

theorem uidsFilter_cut : uidsFilter pd = (wholeFilter pd).take (UIDS_FILTER_SIZE - 1) := by
  rw [uidsFilter, wholeFilter]
  split
  · next unfiltered =>
      rw [getUidsFilter, if_pos unfiltered]
      decide
  · next filtered =>
      rw [Bool.or_eq_true, not_or, Bool.not_eq_true] at filtered
      cases uids : pd.appFilterUids with
      | nil => simp [uids] at filtered
      | cons uid rest =>
          rw [filtered.1]
          exact UidFilter.getUidsFilter_cut uid rest UIDS_FILTER_SIZE (by decide)

theorem wholeFilter_nonempty : wholeFilter pd ≠ [] := by
  rw [wholeFilter]
  split
  · decide
  · next filtered =>
      cases uids : pd.appFilterUids with
      | nil => simp [uids] at filtered
      | cons uid rest => exact joined_nonempty uid rest

theorem uidsFilter_bare : Bare (uidsFilter pd) := by
  rw [uidsFilter_cut]
  refine listing_bare _ (fun byte member => ?_) ?_
  · exact wholeFilter_listing pd byte (List.mem_of_mem_take member)
  · rw [Ne, List.take_eq_nil_iff, not_or]
    exact ⟨by decide, wholeFilter_nonempty pd⟩

end Filter

section Checked

variable (access : Text → Bool) (pd : Pd)

theorem validBpf_unquoted (valid : bpf pd = [] ∨ validBpf (bpf pd)) : QUOTE ∉ bpf pd := by
  rcases valid with empty | valid
  · simp [empty]
  · intro member
    exact absurd (List.all_eq_true.mp valid QUOTE member) (by decide)

theorem validIfname_unquoted (name : Text) (valid : validIfname name) : QUOTE ∉ name := by
  intro member
  rw [validIfname] at valid
  split_ifs at valid
  exact absurd (List.all_eq_true.mp valid QUOTE member) (by decide)

/-- What the checks leave open is the path of a file. -/
theorem connectPcapd_checked (input : Text) (started : connectPcapd pd access = some input) :
    input = startSubprocess pd.pcapd.path (args pd (daemonize pd)) ∧ QUOTE ∉ bpf pd ∧
      (pd.pcapFileCapture = false → QUOTE ∉ pd.captureInterface) := by
  rw [connectPcapd] at started
  split at started
  · cases started
  · next checked =>
      have valid : bpf pd = [] ∨ validBpf (bpf pd) = true := by
        rw [not_and, Bool.not_eq_false] at checked
        exact or_iff_not_imp_left.mpr checked
      have unquoted := validBpf_unquoted pd valid
      cases mode : pd.pcapFileCapture with
      | true =>
          rw [mode, if_pos rfl] at started
          split at started
          · refine ⟨?_, unquoted, fun interface => Bool.noConfusion interface⟩
            rw [daemonize, mode]
            exact (Option.some.inj started).symm
          · cases started
      | false =>
          rw [mode, if_neg Bool.false_ne_true] at started
          split at started
          · next name =>
              refine ⟨?_, unquoted, fun _ => validIfname_unquoted pd.captureInterface name⟩
              rw [daemonize, mode]
              exact (Option.some.inj started).symm
          · cases started

end Checked

section Spelled

variable (pd : Pd) (daemonize : Bool)

def items : List Item :=
  [.bare pd.pcapd.path, .bare (text "-l"), .bare (text "pcapd.log"), .bare (text "-L"),
    .bare (decimal pd.uid.toNat), .bare (text "-i"), .quoted pd.captureInterface,
    .bare (text "-u"), .bare (uidsFilter pd), .bare (text "-t"), .bare (text "-b")]

theorem option_bare (word : Text) (nonempty : word ≠ [])
    (ordinary : word.all ShellWords.isOrdinary)
    (starts : word.head? ≠ some ShellWords.HASH ∧ word.head? ≠ some ShellWords.TILDE) :
    Bare word :=
  ⟨nonempty, List.all_eq_true.mp ordinary, starts⟩

theorem items_sound (unquoted : QUOTE ∉ pd.captureInterface) : ∀ item ∈ items pd, item.Sound := by
  have uid := listing_bare _ (decimal_listing pd.uid.toNat) (CStrings.decimal_nonempty _)
  simp only [items, List.forall_mem_cons, List.not_mem_nil, false_imp_iff, implies_true, and_true,
    Item.Sound]
  refine ⟨pd.pcapd.bare, ?_, ?_, ?_, uid, ?_, unquoted, ?_, uidsFilter_bare pd, ?_, ?_⟩
  all_goals
    exact option_bare _ (by decide) (by decide +kernel) (by decide +kernel)

theorem printed_spelled :
    pd.pcapd.path ++ [BLANK] ++ printed pd daemonize =
      ShellWords.spelled (items pd) ++ QUOTE :: bpf pd ++ [QUOTE] ++
        (if daemonize then BLANK :: text "-d" else []) := by
  have first : text "-l pcapd.log -L " =
      text "-l" ++ [BLANK] ++ (text "pcapd.log" ++ [BLANK]) ++ (text "-L" ++ [BLANK]) := by
    decide
  have second : text " -i '" = [BLANK] ++ (text "-i" ++ [BLANK]) ++ [QUOTE] := by decide
  have third : text "' -u " = [QUOTE, BLANK] ++ (text "-u" ++ [BLANK]) := by decide
  have fourth : text " -t -b '" =
      [BLANK] ++ (text "-t" ++ [BLANK]) ++ (text "-b" ++ [BLANK]) ++ [QUOTE] := by decide
  have fifth : text "'" = [QUOTE] := by decide
  have last : text " -d" = BLANK :: text "-d" := by decide
  rw [printed, first, second, third, fourth, fifth, last]
  simp [ShellWords.spelled, items, Item.spelled]

theorem printed_count (bpfUnquoted : QUOTE ∉ bpf pd) :
    (printed pd daemonize).count QUOTE = pd.captureInterface.count QUOTE + 4 := by
  have uid := List.count_eq_zero.mpr (ordinary_unquoted (decimal pd.uid.toNat)
    (listing_bare _ (decimal_listing _) (CStrings.decimal_nonempty _)).ordinary)
  have filter := List.count_eq_zero.mpr
    (ordinary_unquoted (uidsFilter pd) (uidsFilter_bare pd).ordinary)
  have expression := List.count_eq_zero.mpr bpfUnquoted
  have option : (if daemonize then text " -d" else []).count QUOTE = 0 := by
    cases daemonize <;> decide
  have first : (text "-l pcapd.log -L ").count QUOTE = 0 := by decide
  have second : (text " -i '").count QUOTE = 1 := by decide
  have third : (text "' -u ").count QUOTE = 1 := by decide
  have fourth : (text " -t -b '").count QUOTE = 1 := by decide
  have fifth : (text "'").count QUOTE = 1 := by decide
  simp only [printed, List.count_append]
  omega

end Spelled

section Vector

variable (pd : Pd) (filter : Text)

theorem intended_quotes (bpfUnquoted : QUOTE ∉ bpf pd) (unquoted : QUOTE ∉ filter) :
    (intended pd filter).flatten.count QUOTE = pd.captureInterface.count QUOTE := by
  have program := List.count_eq_zero.mpr (ordinary_unquoted _ pd.pcapd.bare.ordinary)
  have uid := List.count_eq_zero.mpr (ordinary_unquoted (decimal pd.uid.toNat)
    (listing_bare _ (decimal_listing _) (CStrings.decimal_nonempty _)).ordinary)
  have expression := List.count_eq_zero.mpr bpfUnquoted
  have uids := List.count_eq_zero.mpr unquoted
  have daemon : (if daemonize pd then [text "-d"] else []).flatten.count QUOTE = 0 := by
    cases daemonize pd <;> decide
  have options : (text "-l").count QUOTE = 0 ∧ (text "pcapd.log").count QUOTE = 0 ∧
      (text "-L").count QUOTE = 0 ∧ (text "-i").count QUOTE = 0 ∧ (text "-u").count QUOTE = 0 ∧
      (text "-t").count QUOTE = 0 ∧ (text "-b").count QUOTE = 0 := by decide
  rw [intended, List.flatten_append, List.count_append, daemon]
  simp only [List.flatten_cons, List.flatten_nil, List.count_append, List.count_nil, options]
  omega

theorem intended_size :
    ShellWords.size (intended pd filter) + (uidsFilter pd).length + 3 =
      pd.pcapd.path.length + 1 + (printed pd (daemonize pd)).length + filter.length := by
  have options : (text "-l").length = 2 ∧ (text "pcapd.log").length = 9 ∧
      (text "-L").length = 2 ∧ (text "-i").length = 2 ∧ (text "-u").length = 2 ∧
      (text "-t").length = 2 ∧ (text "-b").length = 2 ∧ (text "-d").length = 2 := by
    decide
  have formats : (text "-l pcapd.log -L ").length = 16 ∧ (text " -i '").length = 5 ∧
      (text "' -u ").length = 5 ∧ (text " -t -b '").length = 8 ∧ (text "'").length = 1 ∧
      (text " -d").length = 3 := by decide
  cases daemon : daemonize pd
  all_goals
    simp only [ShellWords.size, intended, printed, daemon, if_true, Bool.false_eq_true, if_false,
      List.cons_append, List.nil_append, List.map_cons, List.map_nil, List.sum_cons,
      List.sum_nil, List.length_append, List.length_nil, options, formats]
    omega

theorem args_cut (daemonize : Bool) :
    args pd daemonize = (printed pd daemonize).take (ARGS_SIZE - 1) := by
  simp [args, snprintf]

def lost : Text := (printed pd (daemonize pd)).drop (ARGS_SIZE - 1)

/-- Reading the intended words leaves no byte to spare: nothing but quotes can be missing, and no
    quote of the path can have been escaped. -/
theorem intended_spares (bpfUnquoted : QUOTE ∉ bpf pd) (unquoted : QUOTE ∉ filter)
    (longer : (uidsFilter pd).length ≤ filter.length)
    (read : argv (startSubprocess pd.pcapd.path (args pd (daemonize pd))) =
      some (intended pd filter)) :
    filter.length = (uidsFilter pd).length ∧ QUOTE ∉ pd.captureInterface ∧
      ∀ byte ∈ lost pd, QUOTE = byte := by
  have spent := ShellWords.argv_frugal _ _ read
  have size := intended_size pd filter
  have program := List.count_eq_zero.mpr (ordinary_unquoted _ pd.pcapd.bare.ordinary)
  have blank : [BLANK].count QUOTE = 0 := by decide
  have quotes := printed_count pd (daemonize pd) bpfUnquoted
  have whole : args pd (daemonize pd) ++ lost pd = printed pd (daemonize pd) := by
    rw [args_cut, lost, List.take_append_drop]
  have length := congrArg List.length whole
  have count := congrArg (List.count QUOTE) whole
  have few : (lost pd).count QUOTE ≤ (lost pd).length := List.count_le_length
  rw [intended_quotes pd filter bpfUnquoted unquoted] at spent
  simp only [List.length_append, List.count_append, List.length_singleton] at spent length count
  refine ⟨by omega, ?_, ?_⟩
  · rw [← List.count_eq_zero]
    omega
  · rw [← List.count_eq_length]
    omega

theorem cut_last (kept missing whole : Text) (last : UInt8)
    (same : kept ++ missing = whole ++ [last]) :
    missing = [] ∨ ∃ before, missing = before ++ [last] ∧ kept ++ before = whole := by
  rcases List.eq_nil_or_concat' missing with empty | ⟨before, byte, rfl⟩
  · exact .inl empty
  · rw [← List.append_assoc] at same
    obtain ⟨front, final⟩ := List.append_inj' same rfl
    exact .inr ⟨before, by rw [final], front⟩

theorem cut_quotes (front expression kept missing : Text) (unquoted : QUOTE ∉ expression)
    (whole : kept ++ missing = front ++ [BLANK] ++ QUOTE :: expression ++ [QUOTE])
    (quotes : ∀ byte ∈ missing, QUOTE = byte) :
    missing = [] ∨ kept = front ++ [BLANK] ++ QUOTE :: expression ∨
      kept = front ++ [BLANK] ∧ expression = [] := by
  rcases cut_last kept missing _ QUOTE whole with empty | ⟨before, rfl, unclosed⟩
  · exact .inl empty
  · rcases List.eq_nil_or_concat' expression with rfl | ⟨init, final, rfl⟩
    · rcases cut_last kept before _ QUOTE unclosed with rfl | ⟨rest, rfl, opened⟩
      · exact .inr (.inl (by simpa using unclosed))
      · rcases cut_last kept rest _ BLANK opened with rfl | ⟨tail, rfl, -⟩
        · exact .inr (.inr ⟨by simpa using opened, rfl⟩)
        · exact absurd (quotes BLANK (by simp)) (by decide)
    · have ends : kept ++ before = (front ++ [BLANK] ++ QUOTE :: init) ++ [final] := by
        simpa using unclosed
      rcases cut_last kept before _ final ends with rfl | ⟨rest, rfl, -⟩
      · exact .inr (.inl (by simpa using unclosed))
      · rw [← quotes final (by simp)] at unquoted
        exact absurd (by simp) unquoted

/-- The command with its arguments cut by quotes only does not have the intended words. -/
theorem intended_uncut (bpfUnquoted : QUOTE ∉ bpf pd) (unquoted : QUOTE ∉ pd.captureInterface)
    (read : argv (startSubprocess pd.pcapd.path (args pd (daemonize pd))) =
      some (intended pd filter))
    (quotes : ∀ byte ∈ lost pd, QUOTE = byte) : lost pd = [] := by
  have whole : pd.pcapd.path ++ [BLANK] ++ args pd (daemonize pd) ++ lost pd =
      pd.pcapd.path ++ [BLANK] ++ printed pd (daemonize pd) := by
    rw [args_cut, lost, List.append_assoc, List.take_append_drop]
  rw [printed_spelled] at whole
  cases daemon : daemonize pd with
  | true =>
      have ends : text "-d" = text "-" ++ [100] := by decide
      rw [daemon, if_pos rfl, ends, ← List.cons_append, ← List.append_assoc] at whole
      rcases cut_last _ _ _ _ whole with empty | ⟨before, missing, -⟩
      · exact empty
      · have byte := quotes 100 (by simp [missing])
        exact absurd byte (by decide)
  | false =>
      have blank : ShellWords.spelled (items pd) =
          ShellWords.spelled (items pd).dropLast ++ text "-b" ++ [BLANK] := by
        simp [ShellWords.spelled, items, Item.spelled]
      rw [daemon, if_neg Bool.false_ne_true, List.append_nil, blank] at whole
      have sound := items_sound pd unquoted
      rw [startSubprocess, daemon] at read
      rcases cut_quotes _ _ _ _ bpfUnquoted whole quotes with empty | unclosed | ⟨opened, -⟩
      · exact empty
      · rw [unclosed, ← blank, ShellWords.argv_unclosed (items pd) sound (bpf pd) bpfUnquoted] at read
        cases read
      · rw [opened, ← blank, ShellWords.argv_blank (items pd) sound] at read
        have length := congrArg List.length (Option.some.inj read)
        simp [items, intended, daemon] at length

theorem argv_uncut (bpfUnquoted : QUOTE ∉ bpf pd) (unquoted : QUOTE ∉ pd.captureInterface)
    (uncut : lost pd = []) :
    argv (startSubprocess pd.pcapd.path (args pd (daemonize pd))) =
      some (intended pd (uidsFilter pd)) := by
  have whole : args pd (daemonize pd) = printed pd (daemonize pd) := by
    have parts := List.take_append_drop (ARGS_SIZE - 1) (printed pd (daemonize pd))
    rwa [← args_cut, ← lost, uncut, List.append_nil] at parts
  have sound := items_sound pd unquoted
  have last : (Item.quoted (bpf pd)).Sound := bpfUnquoted
  rw [startSubprocess, whole, printed_spelled]
  cases daemon : daemonize pd with
  | false =>
      rw [if_neg Bool.false_ne_true, List.append_nil]
      have vector := ShellWords.argv_spelled (items pd) sound (.quoted (bpf pd)) last
      simpa [Item.spelled, Item.word, items, intended, daemon] using vector
  | true =>
      have option : (Item.bare (text "-d")).Sound :=
        option_bare _ (by decide) (by decide +kernel) (by decide +kernel)
      have all : ∀ item ∈ items pd ++ [.quoted (bpf pd)], item.Sound := by
        intro item member
        rcases List.mem_append.mp member with front | expression
        · exact sound item front
        · rw [List.mem_singleton.mp expression]
          exact last
      have vector := ShellWords.argv_spelled _ all (.bare (text "-d")) option
      simpa [ShellWords.spelled, Item.spelled, Item.word, items, intended, daemon] using vector

/-- The condition under which the daemon gets its arguments. -/
theorem argv_iff (bpfUnquoted : QUOTE ∉ bpf pd) (unquoted : QUOTE ∉ filter)
    (extends' : uidsFilter pd <+: filter) :
    argv (startSubprocess pd.pcapd.path (args pd (daemonize pd))) = some (intended pd filter) ↔
      (printed pd (daemonize pd)).length < ARGS_SIZE ∧ QUOTE ∉ pd.captureInterface ∧
        filter = uidsFilter pd := by
  have fits : lost pd = [] ↔ (printed pd (daemonize pd)).length < ARGS_SIZE := by
    rw [lost, List.drop_eq_nil_iff, ARGS_SIZE]
    omega
  rw [← fits]
  constructor
  · intro read
    obtain ⟨same, path, quotes⟩ :=
      intended_spares pd filter bpfUnquoted unquoted extends'.length_le read
    exact ⟨intended_uncut pd filter bpfUnquoted path read quotes, path,
      (extends'.eq_of_length same.symm).symm⟩
  · rintro ⟨uncut, path, rfl⟩
    exact argv_uncut pd bpfUnquoted path uncut

end Vector

section Command

variable (pd : Pd) (access : Text → Bool) (input : Text)

/-- The command has the intended argument vector if and only if the arguments fit in their buffer
    and the path of a capture file has no quote; with the whole list of UIDs, if it fits in the
    buffer of the filter too. -/
theorem command_iff (started : connectPcapd pd access = some input) :
    (argv input = some (intended pd (uidsFilter pd)) ↔
      (printed pd (daemonize pd)).length < ARGS_SIZE ∧
        (pd.pcapFileCapture = true → QUOTE ∉ pd.captureInterface)) ∧
    (argv input = some (intended pd (wholeFilter pd)) ↔
      (printed pd (daemonize pd)).length < ARGS_SIZE ∧
        (pd.pcapFileCapture = true → QUOTE ∉ pd.captureInterface) ∧
        (wholeFilter pd).length < UIDS_FILTER_SIZE) := by
  obtain ⟨rfl, bpfUnquoted, interface⟩ := connectPcapd_checked access pd input started
  have path : QUOTE ∉ pd.captureInterface ↔
      (pd.pcapFileCapture = true → QUOTE ∉ pd.captureInterface) := by
    cases mode : pd.pcapFileCapture with
    | true => simp
    | false => simpa using interface mode
  have cut := uidsFilter_cut pd
  have whole : wholeFilter pd = uidsFilter pd ↔ (wholeFilter pd).length < UIDS_FILTER_SIZE := by
    rw [cut, eq_comm, List.take_eq_self_iff, UIDS_FILTER_SIZE]
    omega
  have listing := listing_bare _ (wholeFilter_listing pd) (wholeFilter_nonempty pd)
  rw [← path, ← whole]
  constructor
  · have vector := argv_iff pd (uidsFilter pd) bpfUnquoted
      (ordinary_unquoted _ (uidsFilter_bare pd).ordinary) List.prefix_rfl
    simpa using vector
  · exact argv_iff pd (wholeFilter pd) bpfUnquoted (ordinary_unquoted _ listing.ordinary)
      (cut ▸ List.take_prefix _ _)

def program : Program where
  path := text "/data/app/lib/arm64/libpcapd.so"
  bare := option_bare _ (by decide) (by decide +kernel) (by decide +kernel)

def wlan : Pd :=
  { pcapd := program, uid := 10123, pcapFileCapture := false, captureInterface := text "wlan0" }

theorem wlan_command :
    (argv (startSubprocess program.path (args wlan true)) =
        some (intended wlan (uidsFilter wlan)) ↔
      (printed wlan (daemonize wlan)).length < ARGS_SIZE ∧
        (wlan.pcapFileCapture = true → QUOTE ∉ wlan.captureInterface)) ∧
    (argv (startSubprocess program.path (args wlan true)) =
        some (intended wlan (wholeFilter wlan)) ↔
      (printed wlan (daemonize wlan)).length < ARGS_SIZE ∧
        (wlan.pcapFileCapture = true → QUOTE ∉ wlan.captureInterface) ∧
        (wholeFilter wlan).length < UIDS_FILTER_SIZE) :=
  command_iff wlan (fun _ => false) _ (by decide)

def quotedFile : Pd :=
  { pcapd := program, uid := 10123, pcapFileCapture := true,
    captureInterface := text "/sdcard/a'; id; 'b.pcap" }

def longBpf : Pd :=
  { wlan with bpf := some (text "host 1.2.3.4" ++ (List.replicate 20 (text " or 1.2.3.4")).flatten) }

/-- The name of a file ends the command and begins another one, and a BPF expression loses its
    closing quote. -/
theorem command_mangled :
    (∃ first rest, connectPcapd quotedFile (fun _ => true) = some (first ++ text "; id; " ++ rest) ∧
        argv (first ++ [NEWLINE]) = some [program.path, text "-l", text "pcapd.log", text "-L",
          text "10123", text "-i", text "/sdcard/a"] ∧
        argv (first ++ text "; id; " ++ rest) ≠ some (intended quotedFile (uidsFilter quotedFile))) ∧
      ∃ input, connectPcapd longBpf (fun _ => true) = some input ∧
        argv input ≠ some (intended longBpf (uidsFilter longBpf)) := by
  refine ⟨⟨program.path ++ text " -l pcapd.log -L 10123 -i '/sdcard/a'",
    text "'b.pcap' -u -1 -t -b ''\n", ?_⟩, startSubprocess program.path (args longBpf true), ?_⟩
  · decide +kernel
  · decide +kernel

end Command

end Ptnet.PcapdCommand
