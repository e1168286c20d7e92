import Mathlib

/-!
DNS messages in the layout of RFC 1035: names with compression pointers, questions, records and
responses, and the octets they are made of. `Holds` says that a memory holds octets from an
offset on.
-/

namespace Ptnet.DnsMessage

abbrev Octets := List UInt8

def isHostOctet (octet : UInt8) : Bool :=
  octet = 45 || (48 ≤ octet && octet ≤ 57) || (65 ≤ octet && octet ≤ 90) ||
    (97 ≤ octet && octet ≤ 122)

structure Label where
  octets : Octets
  nonempty : octets ≠ []
  short : octets.length ≤ 63
  host : ∀ octet ∈ octets, isHostOctet octet = true

inductive Ending where
  | root
  | pointer (offset : BitVec 14)
  deriving DecidableEq

/-- Labels, and the root or a pointer to a name earlier in the message. -/
structure Name where
  labels : List Label
  ending : Ending

structure Question where
  name : Name
  qtype : BitVec 16
  qclass : BitVec 16

structure Record where
  name : Name
  type : BitVec 16
  cls : BitVec 16
  ttl : BitVec 32
  rdata : Octets
  fits : rdata.length < 65536

/-- A response repeats the question that it answers; there may be more of them. -/
structure Response where
  id : BitVec 16
  flags : BitVec 16
  response : flags.getMsbD 0 = true
  question : Question
  questions : List Question
  answers : List Record
  authorities : List Record
  additionals : List Record
  fewQuestions : questions.length + 1 < 65536
  fewAnswers : answers.length < 65536
  fewAuthorities : authorities.length < 65536
  fewAdditionals : additionals.length < 65536

def word16 (value : Nat) : Octets := [UInt8.ofNat (value / 256), UInt8.ofNat value]

def word32 (value : Nat) : Octets := word16 (value / 65536) ++ word16 value

def Label.encode (label : Label) : Octets := UInt8.ofNat label.octets.length :: label.octets

def Ending.encode : Ending → Octets
  | .root => [0]
  | .pointer offset => word16 (0xC000 + offset.toNat)

namespace Name

variable (name : Name)

def labelOctets : Octets := name.labels.flatMap Label.encode

def encode : Octets := name.labelOctets ++ name.ending.encode

end Name

def Question.encode (question : Question) : Octets :=
  question.name.encode ++ (word16 question.qtype.toNat ++ word16 question.qclass.toNat)

namespace Record

variable (record : Record)

/-- The ten octets between the name and the data. -/
def fixed : Octets :=
  word16 record.type.toNat ++ (word16 record.cls.toNat ++ (word32 record.ttl.toNat ++
    word16 record.rdata.length))

def encode : Octets := record.name.encode ++ (record.fixed ++ record.rdata)

end Record

namespace Response

variable (message : Response)

def allQuestions : List Question := message.question :: message.questions

def header : Octets :=
  word16 message.id.toNat ++ (word16 message.flags.toNat ++ (word16 message.allQuestions.length ++
    (word16 message.answers.length ++ (word16 message.authorities.length ++
      word16 message.additionals.length))))

def encode : Octets :=
  message.header ++ (message.allQuestions.flatMap Question.encode ++
    (message.answers.flatMap Record.encode ++ (message.authorities.flatMap Record.encode ++
      message.additionals.flatMap Record.encode)))

end Response

section Octets

theorem word16_length (value : Nat) : (word16 value).length = 2 := rfl

theorem fixed_length (record : Record) : record.fixed.length = 10 := rfl

theorem header_length (message : Response) : message.header.length = 12 := rfl

theorem word16_read (value : Nat) (small : value < 65536) :
    (UInt8.ofNat (value / 256)).toNat * 256 + (UInt8.ofNat value).toNat = value := by
  rw [UInt8.toNat_ofNat', UInt8.toNat_ofNat']
  omega

/-- The octets of labels are neither zero nor those of a pointer. -/
def Plain (octets : Octets) : Prop := ∀ octet ∈ octets, octet ≠ 0 ∧ octet < 0xC0

theorem hostOctet_plain (octet : UInt8) (host : isHostOctet octet = true) :
    octet ≠ 0 ∧ octet < 0xC0 := by
  have each : ∀ value : Fin 256, isHostOctet (UInt8.ofNat value.val) = true →
      UInt8.ofNat value.val ≠ 0 ∧ UInt8.ofNat value.val < 0xC0 := by decide +kernel
  have known := each ⟨octet.toNat, octet.toNat_lt⟩
  rw [UInt8.ofNat_toNat] at known
  exact known host

theorem label_plain (label : Label) : Plain label.encode := by
  intro octet member
  rcases List.mem_cons.mp member with rfl | inside
  · have small := label.short
    have some' := List.length_pos_iff.mpr label.nonempty
    constructor
    · intro zero
      have size := congrArg UInt8.toNat zero
      rw [UInt8.toNat_ofNat', Nat.mod_eq_of_lt (by omega)] at size
      simp at size
      exact label.nonempty size
    · rw [UInt8.lt_iff_toNat_lt, UInt8.toNat_ofNat', Nat.mod_eq_of_lt (by omega)]
      simp
      omega
  · exact hostOctet_plain octet (label.host octet inside)

theorem labels_plain (name : Name) : Plain name.labelOctets := by
  intro octet member
  obtain ⟨label, -, inside⟩ := List.mem_flatMap.mp member
  exact label_plain label octet inside

theorem pointer_first (offset : BitVec 14) :
    UInt8.ofNat ((0xC000 + offset.toNat) / 256) = UInt8.ofNat (0xC0 + offset.toNat / 256) ∧
      (UInt8.ofNat (0xC0 + offset.toNat / 256)).toNat = 0xC0 + offset.toNat / 256 ∧
      (UInt8.ofNat (0xC000 + offset.toNat)).toNat = offset.toNat % 256 := by
  have small := offset.isLt
  refine ⟨?_, ?_, ?_⟩
  · congr 1
    omega
  · rw [UInt8.toNat_ofNat']
    omega
  · rw [UInt8.toNat_ofNat']
    omega

end Octets

section Memory

variable (memory : Nat → UInt8)

/-- The memory holds the octets from an offset on. -/
def Holds : Nat → Octets → Prop
  | _, [] => True
  | start, octet :: rest => memory start = octet ∧ Holds (start + 1) rest

theorem holds_append (start : Nat) (first last : Octets) :
    Holds memory start (first ++ last) ↔
      Holds memory start first ∧ Holds memory (start + first.length) last := by
  induction first generalizing start with
  | nil => simp [Holds]
  | cons octet rest ih =>
      rw [List.cons_append, Holds, Holds, ih, List.length_cons, and_assoc,
        show start + 1 + rest.length = start + (rest.length + 1) by omega]

theorem holds_word16 (start value : Nat) (held : Holds memory start (word16 value))
    (small : value < 65536) :
    (memory start).toNat * 256 + (memory (start + 1)).toNat = value := by
  rw [held.1, held.2.1, word16_read value small]

theorem holds_map (start : Nat) (octets : Octets) (held : Holds memory start octets) :
    (List.range octets.length).map (fun index => memory (start + index)) = octets := by
  induction octets generalizing start with
  | nil => rfl
  | cons octet rest ih =>
      rw [List.length_cons, List.range_succ_eq_map, List.map_cons, List.map_map]
      refine List.cons_eq_cons.mpr ⟨held.1, ?_⟩
      have later := ih (start + 1) held.2
      simpa [Function.comp_def, Nat.add_assoc, Nat.add_comm 1] using later

theorem holds_getD (before octets : Octets) :
    Holds (fun offset => (before ++ octets).getD offset 0) before.length octets := by
  induction octets generalizing before with
  | nil => trivial
  | cons octet rest ih =>
      constructor
      · simp
      · have later := ih (before ++ [octet])
        simpa [List.append_assoc] using later

theorem holds_iff (start : Nat) (octets : Octets) :
    Holds memory start octets ↔
      ∀ index, index < octets.length → memory (start + index) = octets.getD index 0 := by
  induction octets generalizing start with
  | nil => exact iff_of_true trivial fun index inside => absurd inside (Nat.not_lt_zero index)
  | cons octet rest ih =>
      rw [Holds, ih]
      constructor
      · rintro ⟨here, later⟩ index inside
        cases index with
        | zero => simpa using here
        | succ index =>
            rw [show start + (index + 1) = start + 1 + index by omega, List.getD_cons_succ]
            exact later index (Nat.lt_of_succ_lt_succ inside)
      · refine fun all => ⟨by simpa using all 0 (Nat.succ_pos _), fun index inside => ?_⟩
        have later := all (index + 1) (Nat.succ_lt_succ inside)
        rwa [show start + (index + 1) = start + 1 + index by omega, List.getD_cons_succ] at later

end Memory

section Wire

/-- The octets of a name; its labels may hold any octets. -/
inductive IsName : Octets → Prop where
  | root : IsName [0]
  | pointer (high low : UInt8) (marked : 0xC0 ≤ high) : IsName [high, low]
  | label (octets rest : Octets) (nonempty : octets ≠ []) (short : octets.length ≤ 63)
      (named : IsName rest) : IsName (UInt8.ofNat octets.length :: (octets ++ rest))

structure WireQuery where
  name : Octets
  named : IsName name
  qtype : BitVec 16
  qclass : BitVec 16

structure WireAnswer where
  name : Octets
  named : IsName name
  type : BitVec 16
  cls : BitVec 16
  ttl : BitVec 32
  rdata : Octets
  fits : rdata.length < 65536

def WireQuery.encode (query : WireQuery) : Octets :=
  query.name ++ (word16 query.qtype.toNat ++ word16 query.qclass.toNat)

namespace WireAnswer

variable (answer : WireAnswer)

/-- The record with this data, at the root. -/
def record : Record :=
  ⟨⟨[], .root⟩, answer.type, answer.cls, answer.ttl, answer.rdata, answer.fits⟩

def encode : Octets := answer.name ++ (answer.record.fixed ++ answer.record.rdata)

end WireAnswer

/-- A datagram with the beginning of a response: its questions, its first answers, and octets of
    which nothing is said. -/
structure Datagram where
  id : BitVec 16
  flags : BitVec 16
  response : flags.getMsbD 0 = true
  queries : List WireQuery
  announced : BitVec 16
  authorities : BitVec 16
  additionals : BitVec 16
  answers : List WireAnswer
  rest : Octets
  fewQueries : queries.length < 65536
  fewAnswers : answers.length ≤ announced.toNat

namespace Datagram

variable (datagram : Datagram)

def header : Octets :=
  word16 datagram.id.toNat ++ (word16 datagram.flags.toNat ++ (word16 datagram.queries.length ++
    (word16 datagram.announced.toNat ++ (word16 datagram.authorities.toNat ++
      word16 datagram.additionals.toNat))))

def encode : Octets :=
  datagram.header ++ (datagram.queries.flatMap WireQuery.encode ++
    (datagram.answers.flatMap WireAnswer.encode ++ datagram.rest))

theorem header_length : datagram.header.length = 12 := rfl

end Datagram

theorem isName_length (octets : Octets) (named : IsName octets) : 0 < octets.length := by
  cases named with
  | root => decide
  | pointer high low marked => exact Nat.succ_pos 1
  | label octets rest nonempty short named => exact Nat.succ_pos _

end Wire

end Ptnet.DnsMessage
