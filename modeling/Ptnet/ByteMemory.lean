import Mathlib.Data.List.Basic
import Mathlib.Data.Nat.ModEq

/-!
Byte buffers that are written in place, little-endian integers, and byte streams made of
self-delimiting records. A buffer has a size and arbitrary earlier contents; a write that
leaves it is noted. Writing adjacent regions is writing their concatenation.
-/

namespace Ptnet.ByteMemory

abbrev Bytes := List UInt8

def zeros (count : Nat) : Bytes := List.replicate count 0

@[simp] theorem zeros_length (count : Nat) : (zeros count).length = count := List.length_replicate

@[ext] structure Memory where
  cells : Nat → UInt8
  size : Nat
  overrun : Bool := false

namespace Memory

def write (memory : Memory) (offset : Nat) (bytes : Bytes) : Memory :=
  { memory with
    cells := fun address =>
      if offset ≤ address then (bytes[address - offset]?).getD (memory.cells address)
      else memory.cells address
    overrun := memory.overrun || decide (memory.size < offset + bytes.length) }

def read (memory : Memory) (offset count : Nat) : Bytes :=
  (List.range count).map fun index => memory.cells (offset + index)

section Regions

variable (memory : Memory)

@[simp] theorem read_length (offset count : Nat) : (memory.read offset count).length = count := by
  simp [read]

@[simp] theorem read_zero (offset : Nat) : memory.read offset 0 = [] := rfl

@[simp] theorem write_size (offset : Nat) (bytes : Bytes) :
    (memory.write offset bytes).size = memory.size := rfl

theorem read_append (offset first last : Nat) :
    memory.read offset (first + last)
      = memory.read offset first ++ memory.read (offset + first) last := by
  simp [read, List.range_add, Nat.add_assoc]

theorem read_congr (other : Memory) (offset count : Nat)
    (same : ∀ index, index < count → memory.cells (offset + index) = other.cells (offset + index)) :
    memory.read offset count = other.read offset count := by
  apply List.map_congr_left
  intro index member
  exact same index (List.mem_range.mp member)

theorem read_write_same (offset : Nat) (bytes : Bytes) :
    (memory.write offset bytes).read offset bytes.length = bytes := by
  apply List.ext_getElem
  · simp
  · intro index within _
    simp only [read_length] at within
    simp [read, write, within]

theorem read_written_tail (offset : Nat) (first last : Bytes) :
    (memory.write offset (first ++ last)).read (offset + first.length) last.length = last := by
  have whole := read_write_same memory offset (first ++ last)
  rw [List.length_append, read_append] at whole
  exact (List.append_inj whole (read_length _ _ _)).2

theorem read_write_before (offset start count : Nat) (bytes : Bytes) (below : start + count ≤ offset) :
    (memory.write offset bytes).read start count = memory.read start count := by
  apply read_congr
  intro index within
  exact if_neg (by omega)

theorem read_write_after (offset start count : Nat) (bytes : Bytes)
    (above : offset + bytes.length ≤ start) :
    (memory.write offset bytes).read start count = memory.read start count := by
  apply read_congr
  intro index _
  have beyond : bytes.length ≤ start + index - offset := by omega
  simp [write, List.getElem?_eq_none beyond]

theorem read_write_extend (start length : Nat) (bytes : Bytes) :
    (memory.write (start + length) bytes).read start (length + bytes.length)
      = memory.read start length ++ bytes := by
  rw [read_append, read_write_before memory (start + length) start length bytes (Nat.le_refl _),
    read_write_same]

theorem write_write (offset : Nat) (first last : Bytes) :
    (memory.write offset first).write (offset + first.length) last
      = memory.write offset (first ++ last) := by
  have cells : ∀ address, ((memory.write offset first).write (offset + first.length) last).cells
      address = (memory.write offset (first ++ last)).cells address := by
    intro address
    simp only [write]
    by_cases behind : offset + first.length ≤ address
    · have inside : offset ≤ address := by omega
      have beyond : first.length ≤ address - offset := by omega
      rw [if_pos behind, if_pos inside, if_pos inside, List.getElem?_append_right beyond,
        List.getElem?_eq_none beyond, Option.getD_none, Nat.sub_sub]
    · rw [if_neg behind]
      by_cases inside : offset ≤ address
      · have within : address - offset < first.length := by omega
        rw [if_pos inside, if_pos inside, List.getElem?_append_left within]
      · rw [if_neg inside, if_neg inside]
  have overrun : ((memory.write offset first).write (offset + first.length) last).overrun
      = (memory.write offset (first ++ last)).overrun := by
    change (memory.overrun || decide (memory.size < offset + first.length) ||
        decide (memory.size < offset + first.length + last.length))
      = (memory.overrun || decide (memory.size < offset + (first ++ last).length))
    rw [List.length_append, ← Nat.add_assoc]
    by_cases beyond : memory.size < offset + first.length
    · have further : memory.size < offset + first.length + last.length := by omega
      simp [beyond, further]
    · simp [beyond]
  exact Memory.ext (funext cells) rfl overrun

theorem write_adjoining (offset next : Nat) (first last : Bytes)
    (adjoins : next = offset + first.length) :
    (memory.write offset first).write next last = memory.write offset (first ++ last) := by
  rw [adjoins, write_write]

theorem read_write_around (count : Nat) (head tail : Bytes) :
    ((memory.write 0 head).write (head.length + count) tail).read 0
        (head.length + (count + tail.length))
      = head ++ (memory.read head.length count ++ tail) := by
  have extended := read_write_extend (memory.write 0 head) 0 (head.length + count) tail
  have first : (memory.write 0 head).read 0 (head.length + count)
      = head ++ memory.read head.length count := by
    rw [read_append, read_write_same, Nat.zero_add,
      read_write_after memory 0 head.length count head (by omega)]
  rw [Nat.zero_add, first] at extended
  rw [← Nat.add_assoc, extended, List.append_assoc]

theorem write_fits (offset : Nat) (bytes : Bytes) (fits : offset + bytes.length ≤ memory.size) :
    (memory.write offset bytes).overrun = memory.overrun := by
  simp [write, Nat.not_lt.mpr fits]

/-- Only the region from `start` to `stop` has changed. -/
structure Within (before after : Memory) (start stop : Nat) : Prop where
  size : after.size = before.size
  below : ∀ address, address < start → after.cells address = before.cells address
  above : ∀ address, stop ≤ address → after.cells address = before.cells address
  overrun : stop ≤ before.size → after.overrun = before.overrun

theorem Within.refl (start stop : Nat) : Within memory memory start stop :=
  ⟨rfl, fun _ _ => rfl, fun _ _ => rfl, fun _ => rfl⟩

theorem Within.write {before after : Memory} {start stop : Nat}
    (within : Within before after start stop) (offset : Nat) (bytes : Bytes)
    (starts : start ≤ offset) (ends : offset + bytes.length ≤ stop) :
    Within before (after.write offset bytes) start stop where
  size := within.size
  below := fun address inside =>
    (if_neg (by omega)).trans (within.below address inside)
  above := fun address beyond => by
    have behind : bytes.length ≤ address - offset := by omega
    rw [← within.above address beyond]
    simp [Memory.write, List.getElem?_eq_none behind]
  overrun := fun room => by
    have fits : offset + bytes.length ≤ after.size := by
      rw [within.size]
      omega
    rw [write_fits after offset bytes fits, within.overrun room]

theorem Within.trans {first second third : Memory} {start stop : Nat}
    (before : Within first second start stop) (after : Within second third start stop) :
    Within first third start stop where
  size := after.size.trans before.size
  below := fun address inside => (after.below address inside).trans (before.below address inside)
  above := fun address beyond => (after.above address beyond).trans (before.above address beyond)
  overrun := fun room => (after.overrun (before.size ▸ room)).trans (before.overrun room)

theorem Within.wider {before after : Memory} {start stop : Nat}
    (within : Within before after start stop) {first last : Nat} (lower : first ≤ start)
    (upper : stop ≤ last) : Within before after first last where
  size := within.size
  below := fun address inside => within.below address (Nat.lt_of_lt_of_le inside lower)
  above := fun address beyond => within.above address (Nat.le_trans upper beyond)
  overrun := fun room => within.overrun (Nat.le_trans upper room)

theorem Within.read_below {before after : Memory} {start stop : Nat}
    (within : Within before after start stop) (offset count : Nat) (under : offset + count ≤ start) :
    after.read offset count = before.read offset count := by
  apply read_congr
  intro index inside
  exact within.below (offset + index) (by omega)

end Regions

end Memory

/-- The low `count` bytes of a value, the least significant one first. -/
def encodeLe : Nat → Nat → Bytes
  | 0, _ => []
  | count + 1, value => UInt8.ofNat value :: encodeLe count (value / 256)

def decodeLe : Bytes → Nat
  | [] => 0
  | byte :: rest => byte.toNat + 256 * decodeLe rest

@[simp] theorem encodeLe_length (count value : Nat) : (encodeLe count value).length = count := by
  induction count generalizing value with
  | zero => rfl
  | succ count ih => rw [encodeLe, List.length_cons, ih]

theorem decodeLe_encodeLe (count value : Nat) :
    decodeLe (encodeLe count value) = value % 256 ^ count := by
  induction count generalizing value with
  | zero => simp [encodeLe, decodeLe, Nat.mod_one]
  | succ count ih =>
      have low : (UInt8.ofNat value).toNat = value % 256 := rfl
      rw [encodeLe, decodeLe, ih, low, Nat.pow_succ', Nat.mod_mul]

def takeLe (count : Nat) (bytes : Bytes) : Nat × Bytes :=
  (decodeLe (bytes.take count), bytes.drop count)

@[simp] theorem takeLe_encodeLe (count value : Nat) (rest : Bytes) :
    takeLe count (encodeLe count value ++ rest) = (value % 256 ^ count, rest) := by
  have length := encodeLe_length count value
  rw [takeLe, List.take_left' length, List.drop_left' length, decodeLe_encodeLe]

section Streams

variable {Record : Type*}

/-- The records of a stream; `one` takes a record off its front. -/
def parseAll (one : Bytes → Option (Record × Bytes)) : Nat → Bytes → Option (List Record)
  | _, [] => some []
  | 0, _ => none
  | fuel + 1, bytes =>
      match one bytes with
      | none => none
      | some (record, rest) => (parseAll one fuel rest).map fun records => record :: records

def Inverts (one : Bytes → Option (Record × Bytes)) (encode : Record → Bytes)
    (wellFormed : Record → Prop) : Prop :=
  ∀ record, wellFormed record → encode record ≠ [] ∧
    ∀ rest, one (encode record ++ rest) = some (record, rest)

theorem parseAll_encoded (one : Bytes → Option (Record × Bytes)) (encode : Record → Bytes)
    (wellFormed : Record → Prop) (inverts : Inverts one encode wellFormed)
    (records : List Record) (valid : ∀ record ∈ records, wellFormed record) (fuel : Nat)
    (enough : records.length ≤ fuel) :
    parseAll one fuel (records.flatMap encode) = some records := by
  induction records generalizing fuel with
  | nil => cases fuel <;> rfl
  | cons record rest ih =>
      obtain ⟨nonempty, taken⟩ := inverts record (valid record List.mem_cons_self)
      obtain ⟨fuel, rfl⟩ : ∃ less, fuel = less + 1 := ⟨fuel - 1, by simp at enough; omega⟩
      have later := ih (fun other member => valid other (List.mem_cons_of_mem record member)) fuel
        (by simpa using enough)
      rw [List.flatMap_cons]
      cases bytes : encode record ++ rest.flatMap encode with
      | nil => exact absurd (List.append_eq_nil_iff.mp bytes).1 nonempty
      | cons byte others =>
          have first := taken (rest.flatMap encode)
          rw [bytes] at first
          simp only [parseAll, first, later, Option.map_some]

/-- Each record takes at least one byte, so the length of the stream is fuel enough. -/
theorem flatMap_length_le (encode : Record → Bytes) (records : List Record)
    (nonempty : ∀ record ∈ records, encode record ≠ []) :
    records.length ≤ (records.flatMap encode).length := by
  induction records with
  | nil => exact Nat.le_refl 0
  | cons record rest ih =>
      have here := List.length_pos_of_ne_nil (nonempty record List.mem_cons_self)
      have later := ih fun other member => nonempty other (List.mem_cons_of_mem record member)
      rw [List.flatMap_cons, List.length_append, List.length_cons]
      omega

end Streams

section Padding

/-- The bytes up to the next multiple of four: `(~len + 1) & 0x3`. -/
def padding (len : Nat) : Nat := (4 - len % 4) % 4

theorem padding_lt (len : Nat) : padding len < 4 := Nat.mod_lt _ (by decide)

theorem padding_aligned (len : Nat) : (len + padding len) % 4 = 0 := by
  unfold padding
  omega

end Padding

end Ptnet.ByteMemory
