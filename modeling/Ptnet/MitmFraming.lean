import Mathlib
import Ptnet.MitmStream

/-!
The stream the mitm addon sends, and when `MitmReceiver.run` recovers it. A reader which
stays within the header lines recovers every message; a payload byte in the reader's
buffer is lost to the message it belongs to.
-/

namespace Ptnet.MitmFraming

open MitmStream

/-- A message as the addon sends it; its type is one token of the header. -/
structure Message where
  tstamp : Int
  port : Int
  type : String
  payload : List UInt8
  tstampLong : LONG.least ≤ tstamp ∧ tstamp ≤ LONG.greatest
  portInt : INT.least ≤ port ∧ port ≤ INT.greatest
  typeSet : type.toList ≠ []
  typeAscii : ∀ char ∈ type.toList, char.toNat < 128
  typeToken : ∀ char ∈ type.toList, char ≠ ':' ∧ char ≠ '\n' ∧ char ≠ '\r'
  payloadShort : (payload.length : Int) ≤ MAX_MESSAGE

def decimal (value : Int) : List Char :=
  if value < 0 then '-' :: Nat.toDigits 10 value.natAbs else Nat.toDigits 10 value.natAbs

def headerChars (message : Message) : List Char :=
  decimal message.tstamp ++ ':' :: (decimal message.port ++ ':' :: (message.type.toList ++
    ':' :: decimal message.payload.length))

def asciiBytes (chars : List Char) : List UInt8 := chars.map fun char => UInt8.ofNat char.toNat

/-- `timestamp:port:type:length\n`, then the payload. -/
def encode (message : Message) : List UInt8 :=
  asciiBytes (headerChars message) ++ NEWLINE :: message.payload

def encodeAll (messages : List Message) : List UInt8 := messages.flatMap encode

/-- The bytes of a stream which continues at position `start`. -/
def located : Nat → List UInt8 → List Byte
  | _, [] => []
  | start, value :: rest => ⟨value, some start⟩ :: located (start + 1) rest

def expected : Nat → List Message → List Decoded
  | _, [] => []
  | start, message :: rest =>
      let body := start + (headerChars message).length + 1
      ⟨message.tstamp, message.port, parseMsgType message.type, located body message.payload⟩ ::
        expected (body + message.payload.length) rest

def openReader (stream : List Byte) (reads : List Nat) : Reader := ⟨[], false, ⟨stream, reads⟩⟩

def receive (charset : Charset) (messages : List Message) (reads : List Nat) :
    List Decoded × Outcome :=
  run charset ((encodeAll messages).length + 1)
    (openReader (located 0 (encodeAll messages)) reads)

/-- When a header line has been returned, the reader holds no byte of its payload. -/
def Aligned : Reader → List Message → Prop
  | _, [] => True
  | reader, message :: rest =>
      let after := reader.readLine.2
      let next := (readPayload message.payload.length message.payload.length after.source).2
      (message.payload = [] ∨ after.buffer = []) ∧ Aligned { after with source := next } rest

section Located

theorem located_append (start : Nat) (first last : List UInt8) :
    located start (first ++ last) =
      located start first ++ located (start + first.length) last := by
  induction first generalizing start with
  | nil => rfl
  | cons value rest ih =>
      simp [located, ih, Nat.add_assoc, Nat.add_comm 1]

@[simp] theorem located_length (start : Nat) (bytes : List UInt8) :
    (located start bytes).length = bytes.length := by
  induction bytes generalizing start with
  | nil => rfl
  | cons value rest ih => simp [located, ih]

@[simp] theorem located_values (start : Nat) (bytes : List UInt8) :
    (located start bytes).map (·.value) = bytes := by
  induction bytes generalizing start with
  | nil => rfl
  | cons value rest ih => simp [located, ih]

theorem located_drop (start count : Nat) (bytes : List UInt8) :
    (located start bytes).drop count = located (start + count) (bytes.drop count) := by
  induction bytes generalizing start count with
  | nil => simp [located]
  | cons value rest ih =>
      cases count with
      | zero => rfl
      | succ count =>
          simp only [located, List.drop_succ_cons, ih]
          congr 1
          omega

end Located

section Headers

theorem isDigit_range (char : Char) (digit : char.isDigit = true) :
    48 ≤ char.toNat ∧ char.toNat ≤ 57 := by
  simpa [Char.isDigit, UInt32.le_iff_toNat_le] using digit

theorem decimal_chars (value : Int) (char : Char) (member : char ∈ decimal value) :
    char = '-' ∨ 48 ≤ char.toNat ∧ char.toNat ≤ 57 := by
  have digits : ∀ other ∈ Nat.toDigits 10 value.natAbs, 48 ≤ other.toNat ∧ other.toNat ≤ 57 :=
    fun other found => isDigit_range other (Nat.isDigit_of_mem_toDigits (by decide) (by decide) found)
  unfold decimal at member
  split at member
  · rcases List.mem_cons.mp member with sign | digit
    · exact Or.inl sign
    · exact Or.inr (digits char digit)
  · exact Or.inr (digits char member)

theorem decimal_ne_nil (value : Int) : decimal value ≠ [] := by
  unfold decimal
  split
  · exact List.cons_ne_nil _ _
  · exact Nat.toDigits_ne_nil

theorem parseDigits_eq (charset : Charset) (digits : List Char) (value : Nat)
    (valid : ∀ char ∈ digits, char.isDigit = true) :
    parseDigits charset digits value = some (Nat.ofDigitChars 10 digits value) := by
  induction digits generalizing value with
  | nil => simp [parseDigits]
  | cons char rest ih =>
      have digit := valid char List.mem_cons_self
      have ascii : char.toNat < 128 := by
        have range := isDigit_range char digit
        omega
      simp only [parseDigits, characterDigit, ascii, digit, ↓reduceIte]
      rw [ih _ fun other member => valid other (List.mem_cons_of_mem _ member),
        Nat.ofDigitChars_cons]

theorem parseDigits_toDigits (charset : Charset) (value : Nat) :
    parseDigits charset (Nat.toDigits 10 value) 0 = some value := by
  rw [parseDigits_eq charset _ 0 fun char member =>
    Nat.isDigit_of_mem_toDigits (by decide) (by decide) member, Nat.ofDigitChars_ten_toDigits]

theorem parseInteger_decimal (charset : Charset) (type : IntType) (value : Int)
    (range : type.least ≤ value ∧ value ≤ type.greatest) :
    parseInteger charset type (decimal value) = some value := by
  have admitted : type.check value = some value := by simp [IntType.check, range]
  by_cases negative : value < 0
  · have digits : Nat.toDigits 10 value.natAbs ≠ [] := Nat.toDigits_ne_nil
    have magnitude : -(value.natAbs : Int) = value := by omega
    simp only [decimal, negative, parseInteger, digits, parseDigits_toDigits, magnitude, admitted,
      ↓reduceIte, Option.bind_some]
  · have magnitude : (value.natAbs : Int) = value := by omega
    cases digits : Nat.toDigits 10 value.natAbs with
    | nil => exact absurd digits Nat.toDigits_ne_nil
    | cons first rest =>
        have member : first ∈ Nat.toDigits 10 value.natAbs := by simp [digits]
        have range := isDigit_range first
          (Nat.isDigit_of_mem_toDigits (by decide) (by decide) member)
        have minus : first ≠ '-' := by
          rintro rfl
          revert range
          decide
        have plus : first ≠ '+' := by
          rintro rfl
          revert range
          decide
        have parsed := parseDigits_toDigits charset value.natAbs
        rw [digits] at parsed
        simp only [decimal, negative, digits, parseInteger, minus, plus, parsed, magnitude,
          admitted, ↓reduceIte, Option.bind_some]

theorem decimal_ascii (value : Int) (char : Char) (member : char ∈ decimal value) :
    char.toNat < 128 ∧ char ≠ ':' ∧ char ≠ '\n' ∧ char ≠ '\r' := by
  rcases decimal_chars value char member with rfl | range
  · decide
  · refine ⟨by omega, ?_, ?_, ?_⟩ <;>
      · rintro rfl
        revert range
        decide

theorem headerChars_ascii (message : Message) (char : Char)
    (member : char ∈ headerChars message) :
    char.toNat < 128 ∧ char ≠ '\n' ∧ char ≠ '\r' := by
  simp only [headerChars, List.mem_append, List.mem_cons] at member
  have number (value : Int) (found : char ∈ decimal value) :
      char.toNat < 128 ∧ char ≠ '\n' ∧ char ≠ '\r' :=
    ⟨(decimal_ascii value char found).1, (decimal_ascii value char found).2.2⟩
  rcases member with found | rfl | found | rfl | found | rfl | found
  · exact number _ found
  · decide
  · exact number _ found
  · decide
  · exact ⟨message.typeAscii char found, (message.typeToken char found).2⟩
  · decide
  · exact number _ found

theorem tokens_headerChars (message : Message) :
    tokens (headerChars message) =
      [decimal message.tstamp, decimal message.port, message.type.toList,
        decimal message.payload.length] := by
  have number (value : Int) : ':' ∉ decimal value := by
    intro member
    exact (decimal_ascii value ':' member).2.1 rfl
  have type : ':' ∉ message.type.toList := by
    intro member
    exact (message.typeToken ':' member).1 rfl
  rw [tokens, headerChars, List.splitOn_append_cons_self_of_not_mem (number _),
    List.splitOn_append_cons_self_of_not_mem (number _),
    List.splitOn_append_cons_self_of_not_mem type, List.splitOn_eq_singleton (number _)]
  simp [decimal_ne_nil, message.typeSet]

theorem parseHeader_headerChars (charset : Charset) (message : Message) :
    parseHeader charset (headerChars message) =
      some ⟨message.tstamp, message.port, message.type, message.payload.length⟩ := by
  have short : INT.least ≤ (message.payload.length : Int) ∧
      (message.payload.length : Int) ≤ INT.greatest := by
    have bound := message.payloadShort
    simp only [MAX_MESSAGE, INT] at bound ⊢
    omega
  rw [parseHeader, tokens_headerChars]
  simp [parseInteger_decimal charset LONG message.tstamp message.tstampLong,
    parseInteger_decimal charset INT message.port message.portInt,
    parseInteger_decimal charset INT message.payload.length short]

theorem ascii_value (char : Char) (ascii : char.toNat < 128) :
    (UInt8.ofNat char.toNat).toNat = char.toNat := by
  simp only [UInt8.toNat_ofNat']
  omega

theorem decodeText_asciiBytes (charset : Charset) (chars : List Char)
    (ascii : ∀ char ∈ chars, char.toNat < 128) :
    decodeText charset (asciiBytes chars) = chars := by
  have all : isAscii (asciiBytes chars) = true := by
    simp only [isAscii, asciiBytes, List.all_map, List.all_eq_true, Function.comp_apply,
      decide_eq_true_eq]
    intro char member
    rw [ascii_value char (ascii char member)]
    exact ascii char member
  rw [decodeText, if_pos all, asciiBytes, List.map_map]
  conv_rhs => rw [← List.map_id chars]
  apply List.map_congr_left
  intro char member
  simp [ascii_value char (ascii char member)]

theorem headerBytes_plain (message : Message) (start : Nat) :
    ∀ byte ∈ located start (asciiBytes (headerChars message)), isEol byte = false := by
  intro byte member
  have value : byte.value ∈ asciiBytes (headerChars message) := by
    rw [← located_values start (asciiBytes (headerChars message))]
    exact List.mem_map_of_mem member
  obtain ⟨char, found, same⟩ := List.mem_map.mp value
  obtain ⟨ascii, newline, carriage⟩ := headerChars_ascii message char found
  have distinct (other : Char) (small : other.toNat < 128) (different : char ≠ other) :
      byte.value ≠ UInt8.ofNat other.toNat := by
    intro equal
    apply different
    have codes := congrArg UInt8.toNat (same.trans equal)
    rw [ascii_value char ascii, ascii_value other small] at codes
    exact Char.toNat_inj.mp codes
  have notNewline := distinct '\n' (by decide) newline
  have notCarriage := distinct '\r' (by decide) carriage
  simp only [isEol, Bool.or_eq_false_iff, beq_eq_false_iff_ne]
  exact ⟨notNewline, notCarriage⟩

end Headers

section Reading

theorem read_split (source : Source) (count : Nat) :
    ∃ size, (source.read count).1 = source.unread.take size ∧
      (source.read count).2.unread = source.unread.drop size ∧ size ≤ count ∧
      (0 < count → 0 < size) := by
  unfold Source.read
  split
  · exact ⟨count, rfl, rfl, Nat.le_refl _, fun positive => positive⟩
  · next size rest _ => exact ⟨min (max size 1) count, rfl, rfl, by omega, by omega⟩

theorem take_drop_split {α : Type} (items : List α) (size count : Nat) (filler : α)
    (bound : size ≤ count) :
    items.take size ++ ((items.drop size).take (count - min size items.length) ++
        List.replicate (count - min size items.length - (items.drop size).length) filler) =
      items.take count ++ List.replicate (count - items.length) filler ∧
    (items.drop size).drop (count - min size items.length) = items.drop count := by
  by_cases inside : size ≤ items.length
  · have counted : min size items.length = size := Nat.min_eq_left inside
    have total : count = size + (count - size) := by omega
    constructor
    · rw [← List.append_assoc, counted, ← List.take_add, ← total, List.length_drop,
        Nat.sub_sub, Nat.add_sub_cancel' inside]
    · rw [counted, List.drop_drop, ← total]
  · have counted : min size items.length = items.length := Nat.min_eq_right (by omega)
    have taken : items.take size = items := List.take_of_length_le (by omega)
    have rest : items.drop size = [] := List.drop_of_length_le (by omega)
    constructor
    · simp [counted, taken, rest, List.take_of_length_le (show items.length ≤ count by omega)]
    · simp [rest, List.drop_of_length_le (show items.length ≤ count by omega)]

/-- However the socket splits the payload, the array holds the next bytes of the stream,
    and zeros where the stream has ended. -/
theorem readPayload_eq (fuel count : Nat) (source : Source) (enough : count ≤ fuel) :
    (readPayload fuel count source).1 = source.unread.take count ++
        List.replicate (count - source.unread.length) ⟨0, none⟩ ∧
      (readPayload fuel count source).2.unread = source.unread.drop count := by
  induction fuel generalizing count source with
  | zero =>
      have zero : count = 0 := by omega
      subst zero
      simp [readPayload]
  | succ fuel ih =>
      by_cases zero : count = 0
      · subst zero
        simp [readPayload]
      · obtain ⟨size, bytes, unread, bound, positive⟩ := read_split source count
        have progress := positive (by omega)
        obtain ⟨filled, dropped⟩ := take_drop_split source.unread size count ⟨0, none⟩ bound
        rcases outcome : source.read count with ⟨_ | ⟨first, more⟩, next⟩
        · rw [outcome] at bytes unread
          have closed : source.unread = [] := by
            rcases List.take_eq_nil_iff.mp bytes.symm with none | empty
            · omega
            · exact empty
          simp only [closed, List.drop_nil] at unread
          simp [readPayload, zero, outcome, closed, unread]
        · rw [outcome] at bytes unread
          have length : more.length + 1 = min size source.unread.length := by
            simpa using congrArg List.length bytes
          obtain ⟨rest, last⟩ := ih (count - (more.length + 1)) next (by omega)
          rw [length, unread] at rest last
          simp only [readPayload, zero, outcome, ↓reduceIte, length, rest, last]
          rw [← bytes] at filled
          exact ⟨filled, dropped⟩

theorem fill_eq (reader : Reader) :
    reader.fill.buffer ++ reader.fill.source.unread = reader.buffer ++ reader.source.unread ∧
      reader.fill.skipLF = reader.skipLF ∧
      (reader.fill.buffer = [] → reader.buffer ++ reader.source.unread = []) := by
  unfold Reader.fill
  split
  · next empty =>
      obtain ⟨size, bytes, unread, bound, positive⟩ :=
        read_split reader.source reader.source.unread.length
      refine ⟨?_, rfl, fun none => ?_⟩
      · simp [bytes, unread, empty]
      · have none : (reader.source.read reader.source.unread.length).1 = [] := none
        rcases List.take_eq_nil_iff.mp (bytes.symm.trans none) with zero | closed
        · have closed : reader.source.unread.length = 0 := by
            by_contra some
            have progress := positive (by omega)
            omega
          simpa [empty] using closed
        · simp [empty, closed]
  · next first rest some => exact ⟨rfl, rfl, fun none => by simp [some] at none⟩

theorem fill_progress (reader : Reader) (empty : reader.buffer = [])
    (some : reader.fill.buffer ≠ []) :
    reader.fill.source.unread.length < reader.source.unread.length := by
  have length := congrArg List.length (fill_eq reader).1
  have positive : 0 < reader.fill.buffer.length := List.length_pos_iff.mpr some
  simp only [List.length_append, empty, List.length_nil] at length
  omega

/-- The two ways a filled buffer can meet the end of the line. -/
theorem buffer_meets_line (buffer unread line rest : List Byte) (eol : Byte)
    (stream : buffer ++ unread = line ++ eol :: rest) :
    (∃ more, line = buffer ++ more ∧ unread = more ++ eol :: rest) ∨
      ∃ ahead, buffer = line ++ eol :: ahead ∧ rest = ahead ++ unread := by
  rcases List.append_eq_append_iff.mp stream with ⟨more, left, right⟩ | ⟨more, left, right⟩
  · exact Or.inl ⟨more, left, right⟩
  · cases more with
    | nil => exact Or.inl ⟨[], by simpa using left.symm, by simpa using right.symm⟩
    | cons first ahead =>
        simp only [List.cons_append, List.cons.injEq] at right
        exact Or.inr ⟨ahead, by rw [left, right.1], right.2⟩

/-- A line is returned whole, however the reader is filled, and the reader goes on behind
    its line feed. -/
theorem readLineLoop_eq (fuel : Nat) (start line rest : List Byte) (eol : Byte)
    (reader : Reader) (plain : ∀ byte ∈ line, isEol byte = false) (newline : eol.value = NEWLINE)
    (idle : reader.skipLF = false)
    (stream : reader.buffer ++ reader.source.unread = line ++ eol :: rest)
    (enough : reader.source.unread.length + 1 ≤ fuel)
    (buffered : reader.buffer ≠ [] → reader.source.unread.length + 2 ≤ fuel) :
    ∃ buffer source, Reader.readLineLoop fuel start reader =
        (some (start ++ line), ⟨buffer, false, source⟩) ∧ buffer ++ source.unread = rest := by
  induction fuel generalizing start line reader with
  | zero => omega
  | succ fuel ih =>
      obtain ⟨kept, flag, closed⟩ := fill_eq reader
      rw [stream] at kept closed
      have some : reader.fill.buffer ≠ [] := fun none => by simpa using closed none
      have shrunk : reader.fill.source.unread.length + 1 ≤ fuel := by
        by_cases empty : reader.buffer = []
        · have progress := fill_progress reader empty some
          omega
        · have same : reader.fill = reader := by
            unfold Reader.fill
            split
            · contradiction
            · rfl
          rw [same]
          have room := buffered empty
          omega
      have current : reader.fill.skipLeftover = reader.fill := by
        obtain ⟨first, ahead, cons⟩ := List.exists_cons_of_ne_nil some
        have off : reader.fill.skipLF = false := flag.trans idle
        rcases fetched : reader.fill with ⟨buffer, skipLF, source⟩
        simp only [fetched] at cons off
        simp [Reader.skipLeftover, cons, off]
      have filled : reader.fill.buffer.isEmpty = false := by simpa using some
      simp only [Reader.readLineLoop, filled, current]
      -- The buffer ends inside the line, and the loop goes on, or it holds the line feed.
      rcases buffer_meets_line _ _ _ _ _ kept with ⟨more, split, left⟩ | ⟨ahead, split, left⟩
      · have all : ∀ byte ∈ reader.fill.buffer, (!isEol byte) = true := by
          intro byte member
          rw [plain byte (by rw [split]; exact List.mem_append_left _ member)]
          rfl
        rw [List.takeWhile_eq_self_iff.mpr all, List.dropWhile_eq_nil_iff.mpr all]
        obtain ⟨buffer, source, result, rest⟩ := ih (start ++ reader.fill.buffer) more
          { reader.fill with buffer := [] }
          (fun byte member => plain byte (by rw [split]; exact List.mem_append_right _ member))
          (flag.trans idle) left shrunk (fun none => absurd rfl none)
        exact ⟨buffer, source, by rw [split, ← List.append_assoc]; exact result, rest⟩
      · have all : ∀ byte ∈ line, (!isEol byte) = true := by
          intro byte member
          rw [plain byte member]
          rfl
        have ends : (!isEol eol) = false := by simp [isEol, newline]
        have feed : (eol.value == CARRIAGE_RETURN) = false := by rw [newline]; decide
        rw [split, List.takeWhile_append_of_pos all, List.dropWhile_append_of_pos all,
          List.takeWhile_cons_of_neg (by simp [ends]), List.dropWhile_cons_of_neg (by simp [ends])]
        exact ⟨ahead, reader.fill.source, by simp [feed], left.symm⟩

end Reading

section Receiving

theorem readLine_eq (line rest : List Byte) (eol : Byte) (reader : Reader)
    (plain : ∀ byte ∈ line, isEol byte = false) (newline : eol.value = NEWLINE)
    (idle : reader.skipLF = false)
    (stream : reader.buffer ++ reader.source.unread = line ++ eol :: rest) :
    ∃ buffer source, reader.readLine = (some line, ⟨buffer, false, source⟩) ∧
      buffer ++ source.unread = rest :=
  readLineLoop_eq _ [] line rest eol reader plain newline idle stream (by omega) (by omega)

theorem readLine_end (reader : Reader)
    (stream : reader.buffer ++ reader.source.unread = []) : (reader.readLine).1 = none := by
  have kept := (fill_eq reader).1
  rw [stream] at kept
  have empty : reader.fill.buffer = [] := (List.append_eq_nil_iff.mp kept).1
  simp [Reader.readLine, Reader.readLineLoop, empty]

theorem located_origin (start : Nat) (bytes : List UInt8) :
    ∀ byte ∈ located start bytes, ∃ position, byte.origin = some position ∧ start ≤ position := by
  induction bytes generalizing start with
  | nil => simp [located]
  | cons value rest ih =>
      intro byte member
      rcases List.mem_cons.mp member with rfl | later
      · exact ⟨start, rfl, Nat.le_refl _⟩
      · obtain ⟨position, origin, bound⟩ := ih (start + 1) byte later
        exact ⟨position, origin, by omega⟩

/-- A payload of which the reader holds the first byte is not the one that was sent. -/
theorem payload_lost (body count : Nat) (payload after : List UInt8) (buffer unread : List Byte)
    (stream : buffer ++ unread = located body (payload ++ after)) (held : buffer ≠ [])
    (sent : payload ≠ []) :
    unread.take count ++ List.replicate (count - unread.length) ⟨0, none⟩ ≠
      located body payload := by
  intro same
  obtain ⟨first, rest, cons⟩ := List.exists_cons_of_ne_nil sent
  have member : (⟨first, some body⟩ : Byte) ∈ located body payload := by
    rw [cons]
    exact List.mem_cons_self
  rw [← same] at member
  have behind : unread = located (body + buffer.length) ((payload ++ after).drop buffer.length) := by
    rw [← located_drop, ← stream, List.drop_left]
  have some : 0 < buffer.length := List.length_pos_iff.mpr held
  rcases List.mem_append.mp member with read | filled
  · have later := List.mem_of_mem_take read
    rw [behind] at later
    obtain ⟨position, origin, bound⟩ := located_origin _ _ _ later
    simp only [Option.some.injEq] at origin
    omega
  · have zero := List.eq_of_mem_replicate filled
    simp at zero

/-- A payload of which the reader holds nothing is read whole, and the rest follows. -/
theorem payload_kept (body : Nat) (payload after : List UInt8) (buffer unread : List Byte)
    (stream : buffer ++ unread = located body (payload ++ after))
    (clean : payload = [] ∨ buffer = []) :
    unread.take payload.length ++ List.replicate (payload.length - unread.length) ⟨0, none⟩ =
        located body payload ∧
      buffer ++ unread.drop payload.length = located (body + payload.length) after := by
  rw [located_append] at stream
  rcases clean with none | empty
  · subst none
    simpa [located] using stream
  · subst empty
    have length : (located body payload).length = payload.length := located_length body payload
    have inside : payload.length ≤ unread.length := by
      rw [List.nil_append] at stream
      rw [stream, List.length_append, length]
      omega
    rw [List.nil_append] at stream
    constructor
    · rw [Nat.sub_eq_zero_of_le inside, List.replicate_zero, List.append_nil, stream,
        List.take_left' length]
    · rw [List.nil_append, stream, List.drop_left' length]

theorem located_encode (start : Nat) (message : Message) (rest : List Message) :
    located start (encodeAll (message :: rest)) =
      located start (asciiBytes (headerChars message)) ++
        ⟨NEWLINE, some (start + (headerChars message).length)⟩ ::
          located (start + (headerChars message).length + 1)
            (message.payload ++ encodeAll rest) := by
  have bytes : encodeAll (message :: rest) =
      asciiBytes (headerChars message) ++ NEWLINE :: (message.payload ++ encodeAll rest) := by
    simp [encodeAll, encode]
  rw [bytes, located_append]
  simp [located, asciiBytes]

theorem run_iff (charset : Charset) (messages : List Message) (start fuel : Nat)
    (reader : Reader) (idle : reader.skipLF = false)
    (stream : reader.buffer ++ reader.source.unread = located start (encodeAll messages))
    (enough : (encodeAll messages).length < fuel) :
    run charset fuel reader = (expected start messages, .endOfStream) ↔
      Aligned reader messages := by
  induction messages generalizing start fuel reader with
  | nil =>
      obtain ⟨fuel, rfl⟩ := Nat.exists_eq_succ_of_ne_zero (Nat.ne_of_gt (Nat.zero_lt_of_lt enough))
      have ended := readLine_end reader stream
      rcases line : reader.readLine with ⟨result, after⟩
      rw [line] at ended
      simp only at ended
      simp [run, line, ended, expected, Aligned]
  | cons message rest ih =>
      obtain ⟨fuel, rfl⟩ := Nat.exists_eq_succ_of_ne_zero (Nat.ne_of_gt (Nat.zero_lt_of_lt enough))
      rw [located_encode] at stream
      obtain ⟨buffer, source, line, behind⟩ := readLine_eq _ _ _ reader
        (headerBytes_plain message start) rfl idle stream
      have header : parseHeader charset (decodeText charset
          ((located start (asciiBytes (headerChars message))).map (·.value))) =
          some ⟨message.tstamp, message.port, message.type, message.payload.length⟩ := by
        rw [located_values, decodeText_asciiBytes charset _
          fun char member => (headerChars_ascii message char member).1]
        exact parseHeader_headerChars charset message
      have short : ¬ MAX_MESSAGE < (message.payload.length : Int) :=
        Int.not_lt.mpr message.payloadShort
      have positive : ¬ (message.payload.length : Int) < 0 := by omega
      obtain ⟨read, unread⟩ := readPayload_eq message.payload.length message.payload.length source
        (Nat.le_refl _)
      have room : (encodeAll rest).length < fuel := by
        have length : (encodeAll (message :: rest)).length =
            (encode message).length + (encodeAll rest).length := by simp [encodeAll]
        have some : 0 < (encode message).length := by
          rw [encode, List.length_append, List.length_cons]
          omega
        omega
      simp only [run, line, header, short, positive, ↓reduceIte, Int.toNat_natCast, expected,
        Aligned]
      rcases taken : readPayload message.payload.length message.payload.length source with
        ⟨msg, next⟩
      rw [taken] at read unread
      simp only at read unread ⊢
      -- The payload is read from the socket: bytes of it in the buffer of the line reader are lost.
      by_cases clean : message.payload = [] ∨ buffer = []
      · obtain ⟨whole, follows⟩ := payload_kept _ message.payload (encodeAll rest) buffer
          source.unread behind clean
        have next_iff := ih _ fuel ⟨buffer, false, next⟩ rfl
          (by rw [unread]; exact follows) room
        rw [read, whole, ← next_iff]
        simp [Prod.ext_iff, clean]
      · have lost := payload_lost _ message.payload.length message.payload (encodeAll rest) buffer
          source.unread behind (fun empty => clean (Or.inr empty)) (fun none => clean (Or.inl none))
        rw [← read] at lost
        simp [lost, clean]

/-- The receiver recovers every message, with the bytes it was sent, exactly if the reader
    never holds a byte of a payload. -/
theorem receive_iff (charset : Charset) (messages : List Message) (reads : List Nat) :
    receive charset messages reads = (expected 0 messages, .endOfStream) ↔
      Aligned (openReader (located 0 (encodeAll messages)) reads) messages :=
  run_iff charset messages 0 _ _ rfl (by simp [openReader]) (Nat.lt_succ_self _)

end Receiving

def logMessage : Message where
  tstamp := 1
  port := 2
  type := "log"
  payload := [65]
  tstampLong := by decide
  portInt := by decide
  typeSet := by decide
  typeAscii := by simp
  typeToken := by simp
  payloadShort := by decide

def asciiOnly : Charset := ⟨fun _ => [], fun _ => none, List.length, fun count _ => count⟩

/-- One read returns the header and the payload: the reader keeps both, and the array of
    the message stays zero. -/
theorem payload_swallowed :
    ¬ ∀ (charset : Charset) (messages : List Message) (reads : List Nat),
      receive charset messages reads = (expected 0 messages, .endOfStream) := by
  intro recovers
  have same := recovers asciiOnly [logMessage] [11]
  revert same
  decide

end Ptnet.MitmFraming
