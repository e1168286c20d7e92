import Ptnet.CStrings
import Ptnet.PcapdFrames

/-!
The UID filter of `pcapd`: the text which `get_uids_filter` of core/capture_libpcap.c prints for
the option `-u`, what `parse_uid_filter` of pcapd/pcapd.c makes of it, and its use on a packet.
-/

namespace Ptnet.UidFilter

open CStrings (Text text formatInt snprintf atoi tokens)
open PcapdFrames (Conf Iface Frame Export UID_UNKNOWN exportFrame readPkt resolveUid savefile
  uidAccepted)

def COMMA : UInt8 := 44

section Parse

def numUids (s : Text) : Nat := s.count COMMA + 1

/-- The loop of `parse_uid_filter`; `none` is the exit for an invalid UID. -/
def parseTokens (numUids : Nat) : List Text → List (BitVec 32) → Option (List (BitVec 32))
  | [], rv => some rv
  | token :: rest, rv =>
      if rv.length < numUids then
        let uid := atoi token
        if uid.toInt < -1 then none
        else parseTokens numUids rest (if uid ≠ UID_UNKNOWN then rv ++ [uid] else rv)
      else some rv

/-- The UIDs of the array, which the terminator follows. -/
def parseUidFilter (s : Text) : Option (List (BitVec 32)) :=
  parseTokens (numUids s) (tokens COMMA s) []

def array (uids : List (BitVec 32)) : List (BitVec 32) := uids ++ [UID_UNKNOWN]

end Parse

section Matches

/-- The loop of `matches_uid_filter` from an entry on, for a number of rounds. -/
def matchesLoop (uid : BitVec 32) : Nat → List (BitVec 32) → Option Bool
  | 0, _ => none
  | _ + 1, [] => none
  | rounds + 1, entry :: later =>
      if entry = UID_UNKNOWN then some false
      else if entry = uid then some true
      -- The loop does not move on to the next entry.
      else matchesLoop uid rounds (entry :: later)

/-- `none` where the function has not returned after the rounds. -/
def matchesUidFilter (filter : Option (List (BitVec 32))) (uid : BitVec 32) (rounds : Nat) :
    Option Bool :=
  match filter with
  | none => some true
  | some entries =>
      if entries.head? = some UID_UNKNOWN then some true else matchesLoop uid rounds entries

end Matches

section Filter

variable (tlsDecryption : Bool)

/-- The loop of `get_uids_filter`; the result is the text in the buffer, and the offset. -/
def printUids (bufSize : Nat) : List (BitVec 32) → Bool → Text × Nat → Text × Nat
  | [], _, state => state
  | uid :: rest, first, (buf, off) =>
      if off < bufSize then
        let printed := (if first then [] else [COMMA]) ++ formatInt uid.toInt
        let written := snprintf buf off (bufSize - off) printed
        printUids bufSize rest false (written.1, off + written.2)
      else (buf, off)

def getUidsFilter (uids : List (BitVec 32)) (bufSize : Nat) : Text :=
  if tlsDecryption || uids.isEmpty then text "-1" else (printUids bufSize uids true ([], 0)).1

/-- `sizeof(uids_filter_buf)` -/
def UIDS_FILTER_SIZE : Nat := 128

end Filter

section Parsed

theorem parseTokens_filter (numUids : Nat) (items : List Text) (rv : List (BitVec 32))
    (room : items.length + rv.length ≤ numUids) (uids : List (BitVec 32))
    (parsed : parseTokens numUids items rv = some uids) :
    uids = rv ++ (items.map atoi).filter (· ≠ UID_UNKNOWN) ∧
      ∀ item ∈ items, -1 ≤ (atoi item).toInt := by
  induction items generalizing rv with
  | nil =>
      cases parsed
      simp
  | cons token rest ih =>
      rw [List.length_cons] at room
      have open' : rv.length < numUids := by omega
      simp only [parseTokens, open', if_true] at parsed
      split at parsed
      · cases parsed
      · next valid =>
          by_cases ends : atoi token = UID_UNKNOWN
          · have later := ih rv (by omega) (by simpa [ends] using parsed)
            simp only [List.map_cons, ends, List.mem_cons, forall_eq_or_imp]
            exact ⟨by simpa using later.1, by decide, later.2⟩
          · have later := ih (rv ++ [atoi token])
              (by rw [List.length_append, List.length_singleton]; omega)
              (by simpa [ends] using parsed)
            simp only [List.map_cons, List.mem_cons, forall_eq_or_imp]
            refine ⟨?_, by omega, later.2⟩
            simpa [ends] using later.1

/-- No UID in a filter is the terminator, or negative. -/
theorem parseUidFilter_uids (s : Text) (uids : List (BitVec 32))
    (parsed : parseUidFilter s = some uids) :
    uids = ((tokens COMMA s).map atoi).filter (· ≠ UID_UNKNOWN) ∧ ∀ uid ∈ uids, 0 ≤ uid.toInt := by
  obtain ⟨same, valid⟩ := parseTokens_filter (numUids s) (tokens COMMA s) []
    (by simpa [numUids] using CStrings.tokens_count COMMA s) uids parsed
  refine ⟨by simpa using same, ?_⟩
  intro uid member
  rw [same, List.nil_append, List.mem_filter, List.mem_map] at member
  obtain ⟨⟨token, source, rfl⟩, proper⟩ := member
  have low := valid token source
  have differs : (atoi token).toInt ≠ -1 := by
    intro ends
    have same : atoi token = UID_UNKNOWN := by
      rw [← BitVec.ofInt_toInt (x := atoi token), ends]
      rfl
    simp [same] at proper
  omega

end Parsed

section Matching

variable (uids : List (BitVec 32)) (uid : BitVec 32)

theorem natural_proper (entry : BitVec 32) (natural : 0 ≤ entry.toInt) : entry ≠ UID_UNKNOWN := by
  rintro rfl
  exact absurd natural (by decide)

/-- The loop never leaves an entry that is another UID. -/
theorem matchesLoop_stuck (entry : BitVec 32) (later : List (BitVec 32)) (rounds : Nat)
    (proper : entry ≠ UID_UNKNOWN) (other : entry ≠ uid) :
    matchesLoop uid rounds (entry :: later) = none := by
  induction rounds with
  | zero => rfl
  | succ rounds ih => rw [matchesLoop, if_neg proper, if_neg other, ih]

/-- The answer of the function is what `readPkt` goes by. -/
theorem matchesUidFilter_answers (proper : ∀ entry ∈ uids, 0 ≤ entry.toInt) (answer : Bool) :
    (∃ rounds, matchesUidFilter (some (array uids)) uid rounds = some answer) ↔
      uidAccepted uids uid = some answer := by
  cases uids with
  | nil =>
      simp [matchesUidFilter, array, uidAccepted]
  | cons entry later =>
      have valid := natural_proper entry (proper entry List.mem_cons_self)
      have begins : (array (entry :: later)).head? ≠ some UID_UNKNOWN := by
        simpa [array] using valid
      simp only [matchesUidFilter, if_neg begins, uidAccepted]
      by_cases same : entry = uid
      · subst same
        constructor
        · rintro ⟨_ | rounds, answered⟩
          · cases answered
          · simpa [array, matchesLoop, valid] using answered
        · intro answered
          refine ⟨1, ?_⟩
          simpa [array, matchesLoop, valid] using answered
      · rw [if_neg same]
        constructor
        · rintro ⟨rounds, answered⟩
          rw [array, List.cons_append, matchesLoop_stuck uid entry _ rounds valid same] at answered
          cases answered
        · intro answered
          cases answered

def selected : Bool := uids.isEmpty || uids.contains uid

theorem answer_iff :
    uidAccepted uids uid = some (selected uids uid) ↔
      uids = [] ∨ uids.head? = some uid := by
  cases uids with
  | nil => simp [uidAccepted, selected]
  | cons entry later =>
      simp only [uidAccepted, List.head?_cons, Option.some.injEq, reduceCtorEq,
        false_or]
      by_cases same : entry = uid
      · simp [same, selected]
      · simp [same]

end Matching

section Forwarding

variable {timeBytes : Nat}
variable (conf : Conf) (nldiag : Bool) (iface : Iface) (frame : Frame timeBytes)

/-- `read_pkt` sends the packet if it is selected, and nothing otherwise. -/
def Forwards (uids : List (BitVec 32)) : Prop :=
  let resolved := resolveUid iface frame nldiag
  readPkt conf nldiag iface (.packet frame) =
    .ok (if selected uids resolved.1 then some (exportFrame conf iface frame resolved.1) else none,
      resolved.2)

theorem forwards_iff (uids : List (BitVec 32)) (filter : conf.uidFilter = some uids)
    (client : conf.noClient = false) (long : iface.dlink.ipoffset ≤ frame.pkt.length) :
    Forwards conf nldiag iface frame uids ↔
      uidAccepted uids (resolveUid iface frame nldiag).1 =
        some (selected uids (resolveUid iface frame nldiag).1) := by
  simp only [Forwards, readPkt, if_neg (Nat.not_lt.mpr long), filter, client]
  cases answer : uidAccepted uids (resolveUid iface frame nldiag).1 with
  | none => simp
  | some accepted =>
      cases accepted <;> cases selected uids (resolveUid iface frame nldiag).1 <;> simp

/-- The filter answers, and the packet is forwarded as it should be, if and only if the filter is
    empty or the packet's UID is its first one. -/
theorem filter_iff (s : Text) (uids : List (BitVec 32)) (parsed : parseUidFilter s = some uids)
    (filter : conf.uidFilter = some uids) (client : conf.noClient = false)
    (long : iface.dlink.ipoffset ≤ frame.pkt.length) :
    (∀ uid, (∃ rounds, matchesUidFilter (some (array uids)) uid rounds =
        some (selected uids uid)) ↔ uids = [] ∨ uids.head? = some uid) ∧
      (Forwards conf nldiag iface frame uids ↔
        uids = [] ∨ uids.head? = some (resolveUid iface frame nldiag).1) := by
  have proper := (parseUidFilter_uids s uids parsed).2
  constructor
  · intro uid
    rw [matchesUidFilter_answers uids uid proper, answer_iff]
  · rw [forwards_iff conf nldiag iface frame uids filter client long, answer_iff]

def fileFrame : Frame 8 := { tvSec := 0, tvUsec := 0, pkt := [69] }

def threeUids : List (BitVec 32) := [10100, 10200, 10300]

/-- The first UID of three is told, and the other two as little as that of a file's packet. -/
theorem threeUids_filter :
    (∀ uid ∈ threeUids, (∃ rounds, matchesUidFilter (some (array threeUids)) uid rounds =
        some (selected threeUids uid)) ↔ uid = 10100) ∧
      ¬ Forwards { uidFilter := some threeUids } false savefile fileFrame threeUids := by
  have filtered := filter_iff { uidFilter := some threeUids } false savefile fileFrame
    (text "10100,10200,10300") threeUids (by decide +kernel) rfl rfl (by decide)
  refine ⟨fun uid member => ?_, mt filtered.2.mp (by decide +kernel)⟩
  rw [filtered.1 uid]
  simp only [threeUids, List.mem_cons, List.not_mem_nil, or_false] at member
  rcases member with rfl | rfl | rfl
  · decide
  · decide
  · decide

/-- The second UID of a filter is never found. -/
theorem secondUid_hangs :
    parseUidFilter (text "10100,10200") = some [10100, 10200] ∧
      ∀ rounds, matchesUidFilter (some (array [10100, 10200])) 10200 rounds = none := by
  refine ⟨by decide +kernel, ?_⟩
  intro rounds
  exact matchesLoop_stuck 10200 10100 [10200, UID_UNKNOWN] rounds (by decide) (by decide)

end Forwarding

section Encoding

def joined (uids : List (BitVec 32)) : Text :=
  [COMMA].intercalate (uids.map fun uid => formatInt uid.toInt)

def listed (uids : List (BitVec 32)) : Text :=
  uids.flatMap fun uid => COMMA :: formatInt uid.toInt

theorem joined_cons (uid : BitVec 32) (rest : List (BitVec 32)) :
    joined (uid :: rest) = formatInt uid.toInt ++ listed rest := by
  induction rest generalizing uid with
  | nil => simp [joined, listed]
  | cons next later ih =>
      have first := ih next
      simp only [joined, List.map_cons] at first ⊢
      rw [List.intercalate_cons_of_ne_nil (by simp), first]
      simp [listed]

/-- Printing at the end of what was printed so far, the buffer keeps what fits. -/
theorem snprintf_cut (done printed : Text) (bufSize : Nat) (room : done.length < bufSize) :
    (snprintf (done.take (bufSize - 1)) done.length (bufSize - done.length) printed).1 =
      (done ++ printed).take (bufSize - 1) := by
  have whole : done.take (bufSize - 1) = done := List.take_of_length_le (by omega)
  have left : bufSize - 1 = done.length + (bufSize - done.length - 1) := by omega
  rw [snprintf, whole, List.take_length, left, List.take_length_add_append]

theorem printUids_cut (bufSize : Nat) (rest : List (BitVec 32)) (done : Text) :
    (printUids bufSize rest false (done.take (bufSize - 1), done.length)).1 =
      (done ++ listed rest).take (bufSize - 1) := by
  induction rest generalizing done with
  | nil => simp [printUids, listed]
  | cons uid rest ih =>
      simp only [printUids]
      split
      · next room =>
          have printed := snprintf_cut done (COMMA :: formatInt uid.toInt) bufSize room
          have later := ih (done ++ COMMA :: formatInt uid.toInt)
          rw [List.length_append] at later
          simp only [Bool.false_eq_true, if_false, List.singleton_append]
          rw [printed]
          simpa [snprintf, listed] using later
      · next full =>
          rw [List.take_append_of_le_length (by omega)]

theorem getUidsFilter_cut (uid : BitVec 32) (rest : List (BitVec 32)) (bufSize : Nat)
    (room : 0 < bufSize) :
    getUidsFilter false (uid :: rest) bufSize = (joined (uid :: rest)).take (bufSize - 1) := by
  have printed := snprintf_cut [] (formatInt uid.toInt) bufSize room
  have later := printUids_cut bufSize rest (formatInt uid.toInt)
  rw [joined_cons, ← later]
  simp only [List.take_nil, List.length_nil, Nat.sub_zero, List.nil_append] at printed
  simp only [getUidsFilter, Bool.false_or, List.isEmpty_cons, Bool.false_eq_true, if_false,
    printUids, room, if_true, List.nil_append, Nat.sub_zero, Nat.zero_add]
  rw [printed]
  rfl

section Natural

variable (uids : List (BitVec 32)) (natural : ∀ uid ∈ uids, 0 ≤ uid.toInt)

include natural

theorem formatted_proper (item : Text) (member : item ∈ uids.map fun uid => formatInt uid.toInt) :
    COMMA ∉ item ∧ item ≠ [] := by
  obtain ⟨uid, source, rfl⟩ := List.mem_map.mp member
  rw [formatInt, if_neg (Int.not_lt.mpr (natural uid source))]
  refine ⟨fun comma => ?_, CStrings.decimal_nonempty _⟩
  exact absurd (CStrings.decimal_digits _ COMMA comma) (by decide)

theorem joined_bytes (byte : UInt8) (member : byte ∈ joined uids) (other : byte ≠ COMMA) :
    CStrings.isDigit byte := by
  cases uids with
  | nil => simp [joined] at member
  | cons uid rest =>
      have digits : ∀ known ∈ uid :: rest, ∀ byte ∈ formatInt known.toInt,
          CStrings.isDigit byte := by
        intro known source byte inside
        rw [formatInt, if_neg (Int.not_lt.mpr (natural known source))] at inside
        exact CStrings.decimal_digits _ byte inside
      rw [joined_cons, List.mem_append, listed, List.mem_flatMap] at member
      rcases member with first | ⟨known, source, inside⟩
      · exact digits uid List.mem_cons_self byte first
      · rcases List.mem_cons.mp inside with rfl | deeper
        · exact absurd rfl other
        · exact digits known (List.mem_cons_of_mem uid source) byte deeper

theorem parse_joined (some' : uids ≠ []) : parseUidFilter (joined uids) = some uids := by
  have items := CStrings.tokens_joined COMMA (uids.map fun uid => formatInt uid.toInt)
    (by simpa using some') (formatted_proper uids natural)
  have count := CStrings.tokens_count COMMA (joined uids)
  have read : ∀ (rest rv : List (BitVec 32)) (numUids : Nat), rest.length + rv.length ≤ numUids →
      (∀ uid ∈ rest, 0 ≤ uid.toInt) →
        parseTokens numUids (rest.map fun uid => formatInt uid.toInt) rv = some (rv ++ rest) := by
    intro rest
    induction rest with
    | nil => simp [parseTokens]
    | cons uid rest ih =>
        intro rv numUids room valid
        rw [List.length_cons] at room
        have open' : rv.length < numUids := by omega
        have proper := valid uid List.mem_cons_self
        have positive : ¬ uid.toInt < -1 := by omega
        have later := ih (rv ++ [uid]) numUids
          (by rw [List.length_append, List.length_singleton]; omega)
          (fun other member => valid other (List.mem_cons_of_mem uid member))
        simp only [List.map_cons, parseTokens, open', if_true, CStrings.atoi_formatInt uid proper,
          positive, if_false, ne_eq, natural_proper uid proper, not_false_eq_true]
        simpa using later
  rw [joined] at count ⊢
  rw [items, List.length_map] at count
  rw [parseUidFilter, items]
  simpa using read uids [] _ (by simpa [numUids] using count) natural

theorem parsed_length (part : Text) (begins : part <+: joined uids) (read : List (BitVec 32))
    (parsed : parseUidFilter part = some read) : (joined read).length ≤ part.length := by
  obtain ⟨same, valid⟩ := parseUidFilter_uids part read parsed
  rw [List.filter_map] at same
  let items := (tokens COMMA part).filter fun token => decide (atoi token ≠ UID_UNKNOWN)
  have shorter : ∀ token ∈ items, (formatInt (atoi token).toInt).length ≤ token.length := by
    intro token member
    have source := (List.mem_filter.mp member).1
    apply CStrings.atoi_length token (CStrings.tokens_nonempty COMMA part token source)
    · intro byte inside
      obtain ⟨present, other⟩ := CStrings.tokens_bytes COMMA part token source byte inside
      exact joined_bytes uids natural byte (begins.subset present) other
    · apply valid
      rw [same]
      exact List.mem_map_of_mem member
  calc (joined read).length
      ≤ ([COMMA].intercalate items).length := by
        rw [joined, same, List.map_map, CStrings.joined_length, CStrings.joined_length,
          List.map_map, List.length_map]
        exact Nat.add_le_add_right (List.sum_le_sum shorter) _
    _ ≤ ([COMMA].intercalate (tokens COMMA part)).length := by
        have kept := List.filter_sublist
          (p := fun token => decide (atoi token ≠ UID_UNKNOWN)) (l := tokens COMMA part)
        rw [CStrings.joined_length, CStrings.joined_length]
        exact Nat.add_le_add ((kept.map List.length).sum_le_sum (by simp))
          (Nat.sub_le_sub_right kept.length_le 1)
    _ ≤ part.length := CStrings.tokens_length COMMA part

/-- The list is given back if and only if its text fits in the buffer. -/
theorem roundTrip_iff (some' : uids ≠ []) :
    parseUidFilter (getUidsFilter false uids UIDS_FILTER_SIZE) = some uids ↔
      (joined uids).length < UIDS_FILTER_SIZE := by
  obtain ⟨uid, rest, rfl⟩ := List.exists_cons_of_ne_nil some'
  rw [getUidsFilter_cut uid rest UIDS_FILTER_SIZE (by decide)]
  constructor
  · intro parsed
    have length := parsed_length (uid :: rest) natural _ (List.take_prefix _ _) _ parsed
    have short := List.length_take_le (UIDS_FILTER_SIZE - 1) (joined (uid :: rest))
    simp only [UIDS_FILTER_SIZE] at *
    omega
  · intro fits
    rw [List.take_of_length_le (by omega)]
    exact parse_joined (uid :: rest) natural some'

end Natural

theorem twoUids_roundTrip :
    parseUidFilter (getUidsFilter false [10100, 10200] UIDS_FILTER_SIZE) = some [10100, 10200] ↔
      (joined [10100, 10200]).length < UIDS_FILTER_SIZE :=
  roundTrip_iff [10100, 10200]
    (List.forall_mem_cons.mpr ⟨by decide, List.forall_mem_singleton.mpr (by decide)⟩) (by decide)

def manyUids : List (BitVec 32) := (List.range 22).map fun index => BitVec.ofNat 32 (10100 + index)

/-- The last UID is cut to its first digit. -/
theorem manyUids_cut :
    parseUidFilter (getUidsFilter false manyUids UIDS_FILTER_SIZE) =
      some (manyUids.take 21 ++ [1]) ∧ manyUids.take 21 ++ [1] ≠ manyUids := by
  decide +kernel

end Encoding

end Ptnet.UidFilter
