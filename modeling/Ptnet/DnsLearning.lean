import Ptnet.DnsMessage
import Ptnet.DnsReply

/-!
What `process_dns_reply` learns from a well-formed response. The walk keeps step with the message
as long as it skips the names right; it takes the pointers for two octets only if the first of
them is exactly 0xc0.
-/

namespace Ptnet.DnsLearning

open Connection (Ip)
open DnsMessage DnsReply
open ZdtunPacket (address)

/-- The walk finds the end of such a name: it ends with the root, or with a pointer below 256, or
    with one whose low octet is taken for the root. -/
def Readable : Ending → Prop
  | .root => True
  | .pointer offset => offset.toNat / 256 = 0 ∨ offset.toNat % 256 = 0

/-- In a query a pointer is taken for labels. -/
def QueryReadable : Ending → Prop
  | .root => True
  | .pointer offset => offset.toNat % 256 = 0

def addressOf (record : Record) : Option (Nat × Ip) :=
  if record.type = 1 ∧ record.rdata.length = 4 then some (4, address record.rdata)
  else if record.type = 28 ∧ record.rdata.length = 16 then some (6, address record.rdata)
  else none

def addresses (message : Response) : List (Nat × Ip) :=
  (message.answers.take MAX_REPLIES).filterMap addressOf

section Names

variable (memory : Memory)

theorem plain_front (octets : Octets) (plain : Plain octets) : 0 ∉ octets ∧ 0xC0 ∉ octets :=
  ⟨fun zero => (plain 0 zero).1 rfl, fun marked => absurd (plain 0xC0 marked).2 (by decide)⟩

theorem nameEnd_front (front : Octets) (nonzero : 0 ∉ front) (unmarked : 0xC0 ∉ front)
    (start len : Nat) (held : Holds memory start front) :
    nameEnd memory (front.length + len) start = nameEnd memory len (start + front.length) := by
  induction front generalizing start with
  | nil => simp
  | cons octet rest ih =>
      obtain ⟨here, later⟩ := not_or.mp (mt List.mem_cons.mpr nonzero)
      obtain ⟨plain, others⟩ := not_or.mp (mt List.mem_cons.mpr unmarked)
      rw [List.length_cons, show rest.length + 1 + len = rest.length + len + 1 by omega, nameEnd,
        held.1, if_neg (Ne.symm here), if_neg (Ne.symm plain), ih later others (start + 1) held.2,
        show start + 1 + rest.length = start + (rest.length + 1) by omega]

theorem queryNameEnd_front (front : Octets) (nonzero : 0 ∉ front) (start len : Nat)
    (held : Holds memory start front) :
    queryNameEnd memory (front.length + len) start =
      queryNameEnd memory len (start + front.length) := by
  induction front generalizing start with
  | nil => simp
  | cons octet rest ih =>
      obtain ⟨here, later⟩ := not_or.mp (mt List.mem_cons.mpr nonzero)
      rw [List.length_cons, show rest.length + 1 + len = rest.length + len + 1 by omega,
        queryNameEnd, held.1, if_pos (Ne.symm here), ih later (start + 1) held.2,
        show start + 1 + rest.length = start + (rest.length + 1) by omega]

theorem pointer_octets (start : Nat) (offset : BitVec 14)
    (held : Holds memory start (Ending.pointer offset).encode) :
    memory start ≠ 0 ∧ (memory start = 0xC0 ↔ offset.toNat / 256 = 0) ∧
      (memory (start + 1) = 0 ↔ offset.toNat % 256 = 0) := by
  obtain ⟨same, first, second⟩ := pointer_first offset
  have high : (memory start).toNat = 0xC0 + offset.toNat / 256 := by rw [held.1, same, first]
  have low : (memory (start + 1)).toNat = offset.toNat % 256 := by rw [held.2.1, second]
  refine ⟨?_, ?_, ?_⟩
  · intro zero
    rw [zero] at high
    simp at high
    omega
  · rw [← UInt8.toNat_inj, high]
    simp
  · rw [← UInt8.toNat_inj, low]
    simp

theorem nameEnd_ending (ending : Ending) (readable : Readable ending) (start len : Nat)
    (held : Holds memory start ending.encode) (room : ending.encode.length ≤ len) :
    nameEnd memory len start = start + ending.encode.length := by
  cases ending with
  | root =>
      obtain ⟨rest, rfl⟩ := Nat.exists_eq_add_of_le' room
      exact if_pos held.1
  | pointer offset =>
      obtain ⟨rest, rfl⟩ := Nat.exists_eq_add_of_le' room
      obtain ⟨some', first, second⟩ := pointer_octets memory start offset held
      change nameEnd memory (rest + 1 + 1) start = start + 2
      rw [nameEnd, if_neg some']
      by_cases near : offset.toNat / 256 = 0
      · rw [if_pos (first.mpr near)]
      · rw [if_neg (mt first.mp near), nameEnd, if_pos (second.mpr (readable.resolve_left near))]

/-- Behind a pointer which is not recognised the walk is one octet too far, where the type of the
    record has a zero as its first octet. -/
theorem nameEnd_pointer (offset : BitVec 14) (unreadable : ¬ Readable (.pointer offset))
    (start len : Nat) (held : Holds memory start (Ending.pointer offset).encode)
    (zero : memory (start + 2) = 0) (room : 3 ≤ len) : nameEnd memory len start = start + 3 := by
  obtain ⟨rest, rfl⟩ := Nat.exists_eq_add_of_le' room
  obtain ⟨some', first, second⟩ := pointer_octets memory start offset held
  obtain ⟨far, low⟩ := not_or.mp unreadable
  change nameEnd memory (rest + 1 + 1 + 1) start = start + 3
  rw [nameEnd, if_neg some', if_neg (mt first.mp far), nameEnd, if_neg (mt second.mp low)]
  split
  · rfl
  · rw [nameEnd, if_pos zero]

theorem queryNameEnd_ending (ending : Ending) (readable : QueryReadable ending) (start len : Nat)
    (held : Holds memory start ending.encode) (room : ending.encode.length ≤ len) :
    queryNameEnd memory len start + 1 = start + ending.encode.length := by
  cases ending with
  | root =>
      obtain ⟨rest, rfl⟩ := Nat.exists_eq_add_of_le' room
      exact congrArg (· + 1) (if_neg (not_not.mpr held.1))
  | pointer offset =>
      obtain ⟨rest, rfl⟩ := Nat.exists_eq_add_of_le' room
      obtain ⟨some', -, second⟩ := pointer_octets memory start offset held
      change queryNameEnd memory (rest + 1 + 1) start + 1 = start + 2
      rw [queryNameEnd, if_pos some', queryNameEnd, if_neg (not_not.mpr (second.mpr readable))]

theorem nameEnd_name (name : Name) (readable : Readable name.ending) (start len : Nat)
    (held : Holds memory start name.encode) (room : name.encode.length ≤ len) :
    nameEnd memory len start = start + name.encode.length := by
  rw [Name.encode, holds_append] at held
  rw [Name.encode, List.length_append] at room ⊢
  obtain ⟨nonzero, unmarked⟩ := plain_front _ (labels_plain name)
  rw [show len = name.labelOctets.length + (len - name.labelOctets.length) by omega,
    nameEnd_front memory _ nonzero unmarked start _ held.1,
    nameEnd_ending memory name.ending readable _ _ held.2 (by omega), Nat.add_assoc]

theorem queryNameEnd_name (name : Name) (readable : QueryReadable name.ending) (start len : Nat)
    (held : Holds memory start name.encode) (room : name.encode.length ≤ len) :
    queryNameEnd memory len start + 1 = start + name.encode.length := by
  rw [Name.encode, holds_append] at held
  rw [Name.encode, List.length_append] at room ⊢
  obtain ⟨nonzero, -⟩ := plain_front _ (labels_plain name)
  rw [show len = name.labelOctets.length + (len - name.labelOctets.length) by omega,
    queryNameEnd_front memory _ nonzero start _ held.1,
    queryNameEnd_ending memory name.ending readable _ _ held.2 (by omega), Nat.add_assoc]

end Names

section Records

variable (memory : Memory) (l7Len : Nat)

theorem encode_length (record : Record) :
    record.encode.length = record.name.encode.length + (10 + record.rdata.length) := by
  rw [Record.encode, List.length_append, List.length_append, fixed_length]

theorem question_length (question : Question) :
    question.encode.length = question.name.encode.length + 4 := by
  rw [Question.encode, List.length_append, List.length_append, word16_length, word16_length]

theorem ntohsAt_eq (start value : Nat) (held : Holds memory start (word16 value))
    (small : value < 65536) : ntohsAt memory start = value :=
  holds_word16 memory start value held small

theorem processRecord_learned (record : Record) (walk : Walk)
    (held : Holds memory walk.reply (record.fixed ++ record.rdata)) :
    (processRecord memory walk).reply = walk.reply + (10 + record.rdata.length) ∧
      (processRecord memory walk).learned = walk.learned ++ (addressOf record).toList := by
  rw [holds_append, fixed_length, Record.fixed] at held
  obtain ⟨header, data⟩ := held
  rw [holds_append, holds_append, holds_append] at header
  obtain ⟨typeHeld, -, -, lengthHeld⟩ := header
  have type := ntohsAt_eq memory _ _ typeHeld record.type.isLt
  have length := ntohsAt_eq memory _ _ lengthHeld record.fits
  have known : ntohsAt memory (walk.reply + 8) = record.rdata.length := length
  have bytes := holds_map memory _ _ data
  have isType : ∀ value : BitVec 16, record.type = value ↔ record.type.toNat = value.toNat :=
    fun value => BitVec.toNat_inj.symm
  refine ⟨?_, ?_⟩
  · rw [processRecord_reply, known, Nat.add_assoc]
  · simp only [processRecord, addressOf, addressSize, type, known, isType]
    by_cases a : record.type.toNat = 1 ∧ record.rdata.length = 4
    · rw [a.2] at bytes
      simp [a, DNS_TYPE_A, Walk.skip, Walk.learn, Walk.look, bytesAt, bytes]
    · by_cases aaaa : record.type.toNat = 28 ∧ record.rdata.length = 16
      · rw [aaaa.2] at bytes
        simp [aaaa, DNS_TYPE_A, DNS_TYPE_AAAA, Walk.skip, Walk.learn, Walk.look, bytesAt, bytes]
      · simp [a, aaaa, DNS_TYPE_A, DNS_TYPE_AAAA, Walk.skip, Walk.look]

theorem processReplies_named (name : Octets) (record : Record) (more : Nat) (walk : Walk)
    (held : Holds memory walk.reply (name ++ (record.fixed ++ record.rdata)))
    (room : walk.reply + (name.length + (10 + record.rdata.length)) ≤ l7Len)
    (skipped : nameEnd memory (l7Len - walk.reply) walk.reply = walk.reply + name.length) :
    ∃ reads, processReplies memory l7Len (more + 1) walk =
      processReplies memory l7Len more
        ⟨walk.reply + (name.length + (10 + record.rdata.length)), reads,
          walk.learned ++ (addressOf record).toList⟩ := by
  rw [holds_append] at held
  have inside : walk.reply < l7Len := by omega
  obtain ⟨-, reply, learned⟩ :=
    skipName_inside memory l7Len (l7Len - walk.reply) walk (by omega)
  rw [skipped] at reply
  obtain ⟨next, found⟩ := processRecord_learned memory record
    (skipName memory (l7Len - walk.reply) walk) (reply ▸ held.2)
  refine ⟨(processRecord memory (skipName memory (l7Len - walk.reply) walk)).reads, ?_⟩
  rw [processReplies, if_pos inside, if_neg (by rw [reply]; omega)]
  congr 1
  rw [learned] at found
  rw [reply, Nat.add_assoc] at next
  rw [← next, ← found]

theorem processReplies_each {Item : Type*} (encode : Item → Octets) (record : Item → Record)
    (items : List Item)
    (passed : ∀ item ∈ items, ∀ more (walk : Walk), Holds memory walk.reply (encode item) →
      walk.reply + (encode item).length ≤ l7Len →
      ∃ reads, processReplies memory l7Len (more + 1) walk =
        processReplies memory l7Len more
          ⟨walk.reply + (encode item).length, reads,
            walk.learned ++ (addressOf (record item)).toList⟩)
    (more : Nat) (walk : Walk) (held : Holds memory walk.reply (items.flatMap encode))
    (room : walk.reply + (items.flatMap encode).length ≤ l7Len) :
    ∃ reads, processReplies memory l7Len (items.length + more) walk =
      processReplies memory l7Len more
        ⟨walk.reply + (items.flatMap encode).length, reads,
          walk.learned ++ items.filterMap fun item => addressOf (record item)⟩ := by
  induction items generalizing walk with
  | nil => exact ⟨walk.reads, by simp⟩
  | cons item rest ih =>
      rw [List.flatMap_cons, holds_append] at held
      rw [List.flatMap_cons, List.length_append] at room ⊢
      obtain ⟨reads, first⟩ := passed item List.mem_cons_self (rest.length + more) walk held.1
        (by omega)
      obtain ⟨readsRest, later⟩ := ih
        (fun other member => passed other (List.mem_cons_of_mem item member))
        ⟨walk.reply + (encode item).length, reads,
          walk.learned ++ (addressOf (record item)).toList⟩ held.2 (by simp only; omega)
      refine ⟨readsRest, ?_⟩
      rw [List.length_cons, show rest.length + 1 + more = rest.length + more + 1 by omega, first,
        later]
      have learned : (addressOf (record item)).toList ++
          (rest.filterMap fun other => addressOf (record other)) =
          (item :: rest).filterMap fun other => addressOf (record other) := by
        cases found : addressOf (record item) <;> simp [found]
      simp only [Nat.add_assoc, List.append_assoc, learned]

theorem processReplies_answers (answers : List Record) (more : Nat) (walk : Walk)
    (held : Holds memory walk.reply (answers.flatMap Record.encode))
    (room : walk.reply + (answers.flatMap Record.encode).length ≤ l7Len)
    (readable : ∀ record ∈ answers, Readable record.name.ending) :
    ∃ reads, processReplies memory l7Len (answers.length + more) walk =
      processReplies memory l7Len more
        ⟨walk.reply + (answers.flatMap Record.encode).length, reads,
          walk.learned ++ answers.filterMap addressOf⟩ := by
  refine processReplies_each memory l7Len Record.encode id answers ?_ more walk held room
  intro record member left walk held room
  have name := held
  rw [Record.encode, holds_append] at name
  rw [encode_length] at room ⊢
  exact processReplies_named memory l7Len record.name.encode record left walk held room
    (nameEnd_name memory record.name (readable record member) walk.reply _ name.1 (by omega))

theorem queriesEnd_each {Item : Type*} (encode : Item → Octets) (items : List Item)
    (skipped : ∀ item ∈ items, ∀ start, Holds memory start (encode item) →
      start + (encode item).length ≤ l7Len →
      start < l7Len ∧ queryNameEnd memory (l7Len - start) start + 5 = start + (encode item).length)
    (start : Nat) (held : Holds memory start (items.flatMap encode))
    (room : start + (items.flatMap encode).length ≤ l7Len) :
    queriesEnd memory l7Len items.length start = start + (items.flatMap encode).length := by
  induction items generalizing start with
  | nil => rfl
  | cons item rest ih =>
      rw [List.flatMap_cons, holds_append] at held
      rw [List.flatMap_cons, List.length_append] at room ⊢
      obtain ⟨inside, next⟩ := skipped item List.mem_cons_self start held.1 (by omega)
      rw [List.length_cons, queriesEnd, if_pos inside, next,
        ih (fun other member => skipped other (List.mem_cons_of_mem item member))
          (start + (encode item).length) held.2 (by omega)]
      omega

theorem queriesEnd_questions (questions : List Question) (start : Nat)
    (held : Holds memory start (questions.flatMap Question.encode))
    (room : start + (questions.flatMap Question.encode).length ≤ l7Len)
    (readable : ∀ question ∈ questions, QueryReadable question.name.ending) :
    queriesEnd memory l7Len questions.length start =
      start + (questions.flatMap Question.encode).length := by
  refine queriesEnd_each memory l7Len Question.encode questions ?_ start held room
  intro question member start held room
  rw [Question.encode, holds_append] at held
  have size := question_length question
  have skipped := queryNameEnd_name memory question.name (readable question member) start
    (l7Len - start) held.1 (by omega)
  omega

theorem queryNameEnd_ge (len start : Nat) : start ≤ queryNameEnd memory len start := by
  induction len generalizing start with
  | zero => exact Nat.le_refl _
  | succ len ih =>
      rw [queryNameEnd]
      split
      · exact Nat.le_of_lt (ih (start + 1))
      · exact Nat.le_refl _

theorem queriesEnd_ge (more start : Nat) : start ≤ queriesEnd memory l7Len more start := by
  induction more generalizing start with
  | zero => exact Nat.le_refl _
  | succ more ih =>
      have name := queryNameEnd_ge memory (l7Len - start) start
      have rest := ih (queryNameEnd memory (l7Len - start) start + 5)
      rw [queriesEnd]
      split <;> omega

/-- The skipping of queries leaves octets behind that have fewer zeros than there are queries. -/
theorem queriesEnd_past (octets : Octets) (more start : Nat) (held : Holds memory start octets)
    (few : octets.count 0 < more) (room : start + octets.length + 5 ≤ l7Len) :
    start + octets.length + 5 ≤ queriesEnd memory l7Len more start := by
  induction more generalizing octets start with
  | zero => exact absurd few (Nat.not_lt_zero _)
  | succ more ih =>
      rw [queriesEnd, if_pos (by omega)]
      have rest := queriesEnd_ge memory l7Len more
        (queryNameEnd memory (l7Len - start) start + 5)
      by_cases zero : 0 ∈ octets
      · obtain ⟨front, back, rfl, nonzero⟩ := List.eq_append_cons_of_mem zero
        rw [holds_append] at held
        obtain ⟨before, found, behind⟩ := held
        rw [List.length_append, List.length_cons] at room ⊢
        rw [List.count_append, List.count_cons_self] at few
        have here : queryNameEnd memory (l7Len - start) start = start + front.length := by
          obtain ⟨left, size⟩ : ∃ left, l7Len - start = front.length + (left + 1) :=
            ⟨l7Len - start - front.length - 1, by omega⟩
          rw [size, queryNameEnd_front memory front nonzero start _ before, queryNameEnd,
            if_neg (not_not.mpr found)]
        rw [here] at rest ⊢
        by_cases long : 4 ≤ back.length
        · have fewer : (back.drop 4).count 0 < more :=
            Nat.lt_of_le_of_lt ((List.drop_sublist 4 back).count_le 0) (by omega)
          rw [← List.take_append_drop 4 back, holds_append, List.length_take,
            Nat.min_eq_left long] at behind
          have size := List.length_drop (l := back) (i := 4)
          have later := ih (back.drop 4) (start + front.length + 5) behind.2 fewer (by omega)
          omega
        · -- The step ends behind the octets, and another one is left for the zero.
          obtain ⟨left, rfl⟩ : ∃ left, more = left + 1 := ⟨more - 1, by omega⟩
          have name := queryNameEnd_ge memory (l7Len - (start + front.length + 5))
            (start + front.length + 5)
          have others := queriesEnd_ge memory l7Len left
            (queryNameEnd memory (l7Len - (start + front.length + 5))
              (start + front.length + 5) + 5)
          rw [queriesEnd] at rest ⊢
          split at rest <;> split <;> omega
      · have passed := queryNameEnd_front memory octets zero start (l7Len - start - octets.length)
          held
        rw [show octets.length + (l7Len - start - octets.length) = l7Len - start by omega] at passed
        have name := queryNameEnd_ge memory (l7Len - start - octets.length) (start + octets.length)
        omega

end Records

section Responses

/-- From every memory with the message the code learns the addresses among its first answers. -/
def Learns (message : Response) : Prop :=
  ∀ memory query, Holds memory 0 message.encode → '.' ∈ query.toList →
    (processDnsReply memory message.encode.length query).learned = addresses message

variable (message : Response) (memory : Memory)

theorem flags_response : message.flags.toNat / 0x8000 % 2 = 1 := by
  have bit := message.response
  rw [BitVec.getMsbD, Bool.and_eq_true] at bit
  have set := bit.2
  rw [BitVec.getLsbD, Nat.testBit_eq_decide_div_mod_eq] at set
  simpa using set

theorem message_counts (held : Holds memory 0 message.encode) :
    ntohsAt memory 2 = message.flags.toNat ∧ ntohsAt memory 4 = message.allQuestions.length ∧
      ntohsAt memory 6 = message.answers.length := by
  rw [Response.encode, holds_append, Response.header] at held
  obtain ⟨header, -⟩ := held
  simp only [holds_append, word16_length, Nat.zero_add] at header
  obtain ⟨-, flags, questions, answers, -⟩ := header
  exact ⟨ntohsAt_eq memory _ _ flags message.flags.isLt,
    ntohsAt_eq memory _ _ questions message.fewQuestions,
    ntohsAt_eq memory _ _ answers message.fewAnswers⟩

def answersStart : Nat := 12 + (message.allQuestions.flatMap Question.encode).length

theorem message_sections (held : Holds memory 0 message.encode) :
    Holds memory 12 (message.allQuestions.flatMap Question.encode) ∧
      Holds memory (answersStart message) (message.answers.flatMap Record.encode) := by
  rw [Response.encode, holds_append, holds_append, holds_append, header_length] at held
  exact ⟨held.2.1, held.2.2.1⟩

theorem message_length : answersStart message + (message.answers.flatMap Record.encode).length ≤
    message.encode.length := by
  rw [Response.encode, List.length_append, List.length_append, List.length_append, header_length,
    answersStart]
  omega

/-- The walk over the answers begins where the skipping of the queries ends. -/
theorem processDnsReply_queries (held : Holds memory 0 message.encode) (query : String)
    (dotted : '.' ∈ query.toList) (some' : message.answers ≠ []) :
    ∃ reads, processDnsReply memory message.encode.length query =
      processReplies memory message.encode.length (min message.answers.length MAX_REPLIES)
        ⟨queriesEnd memory message.encode.length message.allQuestions.length 12, reads, []⟩ := by
  obtain ⟨flags, asked, answered⟩ := message_counts message memory held
  have long := message_length message
  have header : 12 ≤ message.encode.length := by
    rw [answersStart] at long
    omega
  have walked : Answered memory message.encode.length query :=
    ⟨dotted, header, flags ▸ flags_response message, asked ▸ Nat.succ_ne_zero _,
      answered ▸ List.length_eq_zero_iff.not.mpr some'⟩
  rw [processDnsReply_answered memory _ query walked, records, asked, answered]
  obtain ⟨-, reply, learned⟩ := skipQueries_inside memory message.encode.length
    message.allQuestions.length
    (((Walk.mk DNS_PACKET_SIZE [] []).look 2 2 |>.look 4 2).look 6 2)
  revert reply learned
  generalize skipQueries memory message.encode.length _ _ = walk
  rintro reply learned
  cases walk with
  | mk next reads found =>
      obtain rfl : found = [] := learned
      obtain rfl := reply
      exact ⟨reads, rfl⟩

/-- The walk over the answers of a message, whose queries were skipped right. -/
theorem processDnsReply_walk
    (questions : ∀ question ∈ message.allQuestions, QueryReadable question.name.ending)
    (held : Holds memory 0 message.encode) (query : String) (dotted : '.' ∈ query.toList)
    (some' : message.answers ≠ []) :
    ∃ reads, processDnsReply memory message.encode.length query =
      processReplies memory message.encode.length (min message.answers.length MAX_REPLIES)
        ⟨answersStart message, reads, []⟩ := by
  have long := message_length message
  have place := queriesEnd_questions memory message.encode.length message.allQuestions 12
    (message_sections message memory held).1 (by rw [answersStart] at long; omega) questions
  obtain ⟨reads, walk⟩ := processDnsReply_queries message memory held query dotted some'
  rw [place] at walk
  exact ⟨reads, walk⟩

/-- A response without answers, or of which the names are skipped right. -/
def NamesRead : Prop :=
  message.answers ≠ [] →
    (∀ question ∈ message.allQuestions, QueryReadable question.name.ending) ∧
      ∀ record ∈ message.answers.take MAX_REPLIES, Readable record.name.ending

/-- All addresses are learned if the names are skipped right. -/
theorem readable_learns (read : NamesRead message) : Learns message := by
  intro memory query held dotted
  by_cases none' : message.answers = []
  · have ignored : ¬ Answered memory message.encode.length query := by
      intro answered
      apply answered.answers
      rw [(message_counts message memory held).2.2, none']
      rfl
    rw [(processDnsReply_ignored memory _ query ignored).2, addresses, none']
    rfl
  · obtain ⟨questions, answers⟩ := read none'
    obtain ⟨reads, walk⟩ := processDnsReply_walk message memory questions held query dotted none'
    have long := message_length message
    have split : message.answers.flatMap Record.encode =
        (message.answers.take MAX_REPLIES).flatMap Record.encode ++
          (message.answers.drop MAX_REPLIES).flatMap Record.encode := by
      rw [← List.flatMap_append, List.take_append_drop]
    have taken := (message_sections message memory held).2
    rw [split, holds_append] at taken
    rw [split, List.length_append] at long
    obtain ⟨after, done⟩ := processReplies_answers memory message.encode.length
      (message.answers.take MAX_REPLIES) 0 ⟨answersStart message, reads, []⟩ taken.1
      (by simp only; omega) answers
    rw [List.length_take, Nat.add_zero, Nat.min_comm] at done
    rw [walk, done]
    rfl

end Responses

section Traps

theorem first_failing {Item : Type*} (test : Item → Prop) (items : List Item) (count : Nat)
    (fails : ¬ ∀ item ∈ items.take count, test item) :
    ∃ front bad back, items = front ++ bad :: back ∧ front.length < count ∧
      (∀ item ∈ front, test item) ∧ ¬ test bad := by
  induction items generalizing count with
  | nil => exact absurd (by simp) fails
  | cons item rest ih =>
      cases count with
      | zero => exact absurd (by simp) fails
      | succ more =>
          by_cases passes : test item
          · rw [List.take_succ_cons, List.forall_mem_cons, not_and] at fails
            obtain ⟨front, bad, back, rfl, few, all, failing⟩ := ih more (fails passes)
            refine ⟨item :: front, bad, back, rfl, by simpa using few, ?_, failing⟩
            exact List.forall_mem_cons.mpr ⟨passes, all⟩
          · exact ⟨[], item, rest, rfl, Nat.succ_pos more, by simp, passes⟩

theorem empty_fits : ([] : Octets).length < 65536 := by decide

def blank (record : Record) : Record :=
  { name := record.name, type := 5, cls := 0, ttl := 0, rdata := [], fits := empty_fits }

def trapData : Octets := 4 :: List.replicate 255 0

theorem trapData_length : trapData.length = 256 := by
  rw [trapData, List.length_cons, List.length_replicate]

theorem trapData_fits : trapData.length < 65536 := trapData_length ▸ by decide

/-- A record with the same name whose octets, read from the second one of its type on, are those
    of an A record. -/
def trap (record : Record) : Record :=
  { name := record.name, type := 0, cls := 256, ttl := 0, rdata := trapData, fits := trapData_fits }

theorem blank_address (record : Record) : addressOf (blank record) = none := by
  simp [addressOf, blank]

theorem trap_address (record : Record) : addressOf (trap record) = none := by
  have other : (trap record).type = 0 := rfl
  rw [addressOf, other, if_neg (fun given => absurd given.1 (by decide)),
    if_neg (fun given => absurd given.1 (by decide))]

theorem trap_octets (record : Record) : (trap record).fixed ++ (trap record).rdata =
    [0, 0, 1, 0, 0, 0, 0, 0, 1, 0, 4] ++ List.replicate 255 0 := by
  have length : (trap record).rdata.length = 256 := trapData_length
  have fixed : (trap record).fixed = [0, 0, 1, 0, 0, 0, 0, 0, 1, 0] := by
    rw [Record.fixed, length]
    change word16 0 ++ (word16 256 ++ (word32 0 ++ word16 256)) = _
    decide
  rw [fixed]
  rfl

variable (memory : Memory) (l7Len : Nat)

theorem learned_grows (more : Nat) (walk : Walk) :
    walk.learned <+: (processReplies memory l7Len more walk).learned := by
  induction more generalizing walk with
  | zero => exact List.prefix_rfl
  | succ more ih =>
      rw [processReplies]
      split
      · next within =>
          have named := (skipName_inside memory l7Len (l7Len - walk.reply) walk (by omega)).2.2
          dsimp only
          split
          · rw [named]
          · refine List.IsPrefix.trans ?_ (ih _)
            rw [← named]
            simp only [processRecord]
            split
            · exact List.prefix_rfl
            · exact List.prefix_append _ _
      · exact List.prefix_rfl

/-- The walk falls into the trap behind a name that it does not skip right. -/
theorem trap_learned (record : Record) (unreadable : ¬ Readable record.name.ending) (walk : Walk)
    (held : Holds memory walk.reply (trap record).encode)
    (room : walk.reply + (trap record).encode.length ≤ l7Len) (more : Nat) :
    (processReplies memory l7Len (more + 1) walk).learned ≠ [] := by
  have size := encode_length (trap record)
  have data : (trap record).rdata.length = 256 := trapData_length
  rw [data] at size
  rw [Record.encode, trap_octets, holds_append] at held
  obtain ⟨name, octets⟩ := held
  have sameName : (trap record).name = record.name := rfl
  rw [sameName] at name octets size
  cases ending : record.name.ending with
  | root => exact absurd (by rw [ending]; trivial) unreadable
  | pointer offset =>
      rw [ending] at unreadable
      rw [Name.encode, ending, holds_append] at name
      have length : record.name.encode.length = record.name.labelOctets.length + 2 := by
        rw [Name.encode, ending, List.length_append]
        rfl
      rw [length] at octets size
      have inside : walk.reply < l7Len := by omega
      obtain ⟨-, reply, -⟩ := skipName_inside memory l7Len (l7Len - walk.reply) walk (by omega)
      have split : l7Len - walk.reply = record.name.labelOctets.length +
          (l7Len - walk.reply - record.name.labelOctets.length) := by omega
      obtain ⟨nonzero, unmarked⟩ := plain_front _ (labels_plain record.name)
      rw [split, nameEnd_front memory _ nonzero unmarked _ _ name.1,
        nameEnd_pointer memory offset unreadable _ _ name.2
          (by rw [Nat.add_assoc]; exact octets.1) (by omega), ← split] at reply
      -- The header of the trap begins at the second octet of its type.
      obtain ⟨-, type, high, -, -, -, -, -, -, low, length', -⟩ :
          Holds memory (walk.reply + (record.name.labelOctets.length + 2))
            [0, 0, 1, 0, 0, 0, 0, 0, 1, 0, 4] := (holds_append memory _ _ _).mp octets |>.1
      generalize place : walk.reply + record.name.labelOctets.length + 3 = header at reply
      have recType : ntohsAt memory header = 1 := by
        rw [← place, ntohsAt, show walk.reply + record.name.labelOctets.length + 3 =
          walk.reply + (record.name.labelOctets.length + 2) + 1 by omega, type, high]
        rfl
      have addrLen : ntohsAt memory (header + 8) = 4 := by
        rw [← place, ntohsAt, show walk.reply + record.name.labelOctets.length + 3 + 8 =
          walk.reply + (record.name.labelOctets.length + 2) + 1 + 1 + 1 + 1 + 1 + 1 + 1 + 1 + 1 by
            omega, low, length']
        rfl
      have found : addressSize memory header = 4 := by
        simp [addressSize, recType, addrLen, DNS_TYPE_A]
      intro nothing
      have grows := learned_grows memory l7Len more
        (processRecord memory (skipName memory (l7Len - walk.reply) walk))
      rw [processReplies, if_pos inside, if_neg (by rw [reply]; omega)] at nothing
      rw [nothing, List.prefix_nil] at grows
      simp only [processRecord, reply, found] at grows
      exact absurd grows (by simp [Walk.skip, Walk.learn])

end Traps

/-- Two responses with the same names in their questions and answers. -/
structure SameNames (message other : Response) : Prop where
  questions : other.allQuestions.map Question.name = message.allQuestions.map Question.name
  answers : other.answers.map Record.name = message.answers.map Record.name

theorem names_transfer {Item : Type*} (name : Item → Name) (test : Ending → Prop)
    (items others : List Item) (count : Nat) (same : others.map name = items.map name)
    (all : ∀ item ∈ items.take count, test (name item).ending) :
    ∀ item ∈ others.take count, test (name item).ending := by
  intro item member
  have named : name item ∈ (items.take count).map name := by
    rw [List.map_take, ← same, ← List.map_take]
    exact List.mem_map_of_mem member
  obtain ⟨other, listed, equal⟩ := List.mem_map.mp named
  rw [← equal]
  exact all other listed

section Misread

def unended (question : Question) : Question := { question with qtype := 257, qclass := 257 }

theorem lostData_fits : (List.replicate 16 (1 : UInt8)).length < 65536 := by
  rw [List.length_replicate]
  decide

theorem one_fits : [(1 : UInt8)].length < 65536 := by decide

def lost (record : Record) : Record :=
  { name := record.name, type := 28, cls := 257, ttl := 0x01010101, rdata := List.replicate 16 1,
    fits := lostData_fits }

/-- A record with the same name in which the type AAAA is not found from any octet on. -/
def dull (record : Record) : Record :=
  { name := record.name, type := 257, cls := 257, ttl := 0x01010101, rdata := [1],
    fits := one_fits }

theorem lost_octets (record : Record) : (lost record).fixed ++ (lost record).rdata =
    0 :: ([28, 1, 1, 1, 1, 1, 1, 0, 16] ++ List.replicate 15 1 ++ [1]) := by
  change (word16 28 ++ (word16 257 ++ (word32 0x01010101 ++
    word16 (List.replicate 16 (1 : UInt8)).length))) ++ List.replicate 16 1 = _
  decide

theorem dull_octets (record : Record) : (dull record).fixed ++ (dull record).rdata =
    [1, 1, 1, 1, 1, 1, 1, 1, 0] ++ [1] ++ [1] := by
  change (word16 257 ++ (word16 257 ++ (word32 0x01010101 ++ word16 1))) ++ [1] = _
  decide

theorem lost_address (record : Record) :
    addressOf (lost record) = some (6, address (List.replicate 16 1)) := by
  have type : (lost record).type = 28 := rfl
  have size : (lost record).rdata.length = 16 := List.length_replicate
  rw [addressOf, type, size, if_neg (fun given => absurd given.1 (by decide)),
    if_pos ⟨rfl, rfl⟩]
  rfl

/-- The octets of a name but its end hold no zero, and its end holds one at most. -/
theorem unended_zeros (question : Question) : (unended question).encode.count 0 ≤ 1 ∧
    (¬ QueryReadable question.name.ending → (unended question).encode.count 0 = 0) := by
  have labels : question.name.labelOctets.count 0 = 0 :=
    List.count_eq_zero.mpr (plain_front _ (labels_plain question.name)).1
  have fields : (word16 257 ++ word16 257).count 0 = 0 := by decide
  have whole : (unended question).encode.count 0 = question.name.ending.encode.count 0 := by
    change (question.name.encode ++ (word16 257 ++ word16 257)).count 0 = _
    rw [List.count_append, fields, Name.encode, List.count_append, labels, Nat.zero_add,
      Nat.add_zero]
  rw [whole]
  cases question.name.ending with
  | root => exact ⟨by decide, fun misread => absurd trivial misread⟩
  | pointer offset =>
      have octets : Holds (fun index => (Ending.pointer offset).encode.getD index 0) 0
          (Ending.pointer offset).encode := holds_getD [] _
      obtain ⟨some', -, low⟩ := pointer_octets _ 0 offset octets
      change UInt8.ofNat ((0xC000 + offset.toNat) / 256) ≠ 0 at some'
      change UInt8.ofNat (0xC000 + offset.toNat) = 0 ↔ offset.toNat % 256 = 0 at low
      rw [Ending.encode, word16, List.count_cons_of_ne some']
      refine ⟨List.count_le_length, fun misread => ?_⟩
      rw [List.count_cons_of_ne (mt low.mp misread), List.count_nil]

/-- A misread question leaves fewer zeros than there are questions. -/
theorem questions_zeros (questions : List Question) :
    ((questions.map unended).flatMap Question.encode).count 0 ≤ questions.length := by
  induction questions with
  | nil => exact Nat.le_refl _
  | cons question rest ih =>
      rw [List.map_cons, List.flatMap_cons, List.count_append, List.length_cons]
      have one := (unended_zeros question).1
      omega

theorem misread_zeros (questions : List Question)
    (misread : ¬ ∀ question ∈ questions, QueryReadable question.name.ending) :
    ((questions.map unended).flatMap Question.encode).count 0 < questions.length := by
  simp only [not_forall] at misread
  obtain ⟨bad, member, failing⟩ := misread
  obtain ⟨front, back, rfl⟩ := List.append_of_mem member
  have before := questions_zeros front
  have after := questions_zeros back
  have none' := (unended_zeros bad).2 failing
  rw [List.map_append, List.map_cons, List.flatMap_append, List.flatMap_cons, List.count_append,
    List.count_append, none', List.length_append, List.length_cons]
  omega

/-- The octets of the type AAAA do not follow each other. -/
def Untyped (octets : Octets) : Prop :=
  octets.IsChain fun first second => ¬ (first = 0 ∧ second = 28)

theorem name_untyped (name : Name) : Untyped (1 :: (name.encode ++ [1])) := by
  have labels : ∀ octet ∈ 1 :: name.labelOctets, octet ≠ 0 := by
    intro octet member
    rcases List.mem_cons.mp member with rfl | inside
    · decide
    · exact (labels_plain name octet inside).1
  have front : Untyped (1 :: name.labelOctets) :=
    List.Pairwise.isChain (List.pairwise_of_forall_mem_list
      fun first member _ _ pair => labels first member pair.1)
  have ending : Untyped (name.ending.encode ++ [1]) := by
    cases name.ending with
    | root => exact List.isChain_pair.mpr fun pair => absurd pair.2 (by decide)
    | pointer offset =>
        have some' := (pointer_octets _ 0 offset (holds_getD [] _)).1
        refine List.isChain_cons_cons.mpr ⟨fun pair => some' pair.1, ?_⟩
        exact List.isChain_pair.mpr fun pair => absurd pair.2 (by decide)
  rw [Name.encode, List.append_assoc, ← List.cons_append]
  refine List.isChain_append.mpr ⟨front, ending, ?_⟩
  intro last known _ _ pair
  exact labels last (List.mem_of_getLast? known) pair.1

theorem dull_untyped (records : List Record) :
    Untyped (1 :: (records.map dull).flatMap Record.encode) := by
  induction records with
  | nil => exact List.isChain_singleton 1
  | cons record rest ih =>
      have octets : (dull record).encode =
          record.name.encode ++ 1 :: ([1, 1, 1, 1, 1, 1, 1, 0, 1] ++ [1]) := by
        change record.name.encode ++ ((dull record).fixed ++ (dull record).rdata) = _
        rw [dull_octets]
        rfl
      rw [List.map_cons, List.flatMap_cons, octets, List.append_assoc, List.cons_append,
        List.append_assoc, List.singleton_append, ← List.cons_append]
      refine List.isChain_split.mpr ⟨name_untyped record.name, ?_⟩
      rw [← List.cons_append]
      exact List.isChain_split.mpr ⟨by decide, ih⟩

/-- No record with the type AAAA is found in such octets. -/
theorem untyped_read (before octets : Octets) (untyped : Untyped octets) (offset : Nat)
    (behind : before.length ≤ offset) :
    ¬ ((before ++ octets).getD offset 0 = 0 ∧ (before ++ octets).getD (offset + 1) 0 = 28) := by
  rintro ⟨first, second⟩
  rw [List.getD_append_right _ _ _ _ behind] at first
  rw [List.getD_append_right _ _ _ _ (by omega),
    show offset + 1 - before.length = offset - before.length + 1 by omega] at second
  by_cases inside : offset - before.length + 1 < octets.length
  · rw [List.getD_eq_getElem _ _ (by omega)] at first
    rw [List.getD_eq_getElem _ _ inside] at second
    exact untyped.getElem (offset - before.length) inside ⟨first, second⟩
  · rw [List.getD_eq_default _ _ (by omega)] at second
    exact absurd second (by decide)

variable (memory : Memory) (l7Len : Nat)

theorem nameEnd_ge (len start : Nat) : start ≤ nameEnd memory len start := by
  induction len generalizing start with
  | zero => exact Nat.le_refl _
  | succ len ih =>
      rw [nameEnd]
      split
      · omega
      · split
        · omega
        · exact Nat.le_of_lt (ih (start + 1))

/-- Where the type AAAA is not found, no IPv6 address is learned. -/
theorem processReplies_untyped (from' : Nat)
    (untyped : ∀ offset, from' ≤ offset → ¬ (memory offset = 0 ∧ memory (offset + 1) = 28))
    (more : Nat) (walk : Walk) (behind : from' ≤ walk.reply)
    (known : ∀ found ∈ walk.learned, found.1 ≠ 6) :
    ∀ found ∈ (processReplies memory l7Len more walk).learned, found.1 ≠ 6 := by
  induction more generalizing walk with
  | zero => exact known
  | succ more ih =>
      rw [processReplies]
      split
      · next within =>
          obtain ⟨-, reply, learned⟩ := skipName_inside memory l7Len (l7Len - walk.reply) walk
            (by omega)
          have name := nameEnd_ge memory (l7Len - walk.reply) walk.reply
          rw [← reply] at name
          rw [← learned] at known
          generalize skipName memory (l7Len - walk.reply) walk = named at name known ⊢
          dsimp only
          split
          · exact known
          · refine ih _ ?_ ?_
            · rw [processRecord_reply]
              omega
            · have other : ntohsAt memory named.reply ≠ 28 := by
                intro type
                rw [ntohsAt] at type
                have second := (memory (named.reply + 1)).toNat_lt
                refine untyped named.reply (by omega) ⟨?_, ?_⟩ <;> rw [← UInt8.toNat_inj] <;>
                  simp <;> omega
              have size : addressSize memory named.reply = 0 ∨
                  addressSize memory named.reply = 4 := by
                simp only [addressSize, DNS_TYPE_AAAA, other, false_and, if_false]
                split
                · exact Or.inr rfl
                · exact Or.inl rfl
              simp only [processRecord]
              rcases size with none' | four
              · simpa [none', Walk.skip, Walk.look] using known
              · simp only [four]
                intro found member
                rcases List.mem_append.mp member with before | new
                · exact known found before
                · rw [List.mem_singleton.mp new]
                  exact show (4 : Nat) ≠ 6 by decide
      · exact known

variable (message : Response)

/-- A response with the same names, of which the code passes by the first answer: the walk over
    the queries ends behind the first octet of its type. -/
theorem misread_trap (some' : message.answers ≠ [])
    (misread : ¬ ∀ question ∈ message.allQuestions, QueryReadable question.name.ending) :
    ∃ other, SameNames message other ∧ ¬ Learns other := by
  obtain ⟨first, rest, answers⟩ := List.exists_cons_of_ne_nil some'
  have few : (lost first :: rest.map dull).length < 65536 := by
    have given := message.fewAnswers
    rw [answers] at given
    simpa using given
  have fewQuestions : (message.questions.map unended).length + 1 < 65536 := by
    rw [List.length_map]
    exact message.fewQuestions
  let other : Response :=
    { message with
      question := unended message.question
      questions := message.questions.map unended
      answers := lost first :: rest.map dull
      authorities := []
      additionals := []
      fewQuestions := fewQuestions
      fewAnswers := few
      fewAuthorities := by decide
      fewAdditionals := by decide }
  have asked : other.allQuestions = message.allQuestions.map unended := rfl
  have names : SameNames message other := by
    refine ⟨?_, ?_⟩
    · rw [asked, List.map_map]
      rfl
    · change (lost first :: rest.map dull).map Record.name = _
      rw [answers, List.map_cons, List.map_cons, List.map_map]
      rfl
  refine ⟨other, names, fun learns => ?_⟩
  let memory : Memory := fun offset => other.encode.getD offset 0
  have held : Holds memory 0 other.encode := holds_getD [] other.encode
  have learned := learns memory "a.b" held (by decide)
  obtain ⟨reads, walk⟩ := processDnsReply_queries other memory held "a.b" (by decide)
    (List.cons_ne_nil _ _)
  rw [walk] at learned
  generalize questions : (message.allQuestions.map unended).flatMap Question.encode = queries
  -- A question that is misread ends without the zero octet that the code looks for.
  have zeros : queries.count 0 < message.allQuestions.length :=
    questions ▸ misread_zeros message.allQuestions misread
  generalize remaining : (rest.map dull).flatMap Record.encode = others
  -- Behind the first octet of its type the answer is without that type.
  have untyped : Untyped ([28, 1, 1, 1, 1, 1, 1, 0, 16] ++ List.replicate 15 1 ++ 1 :: others) :=
    List.isChain_split.mpr ⟨by decide, remaining ▸ dull_untyped rest⟩
  have listed : other.answers.flatMap Record.encode = first.name.labelOctets ++
      (first.name.ending.encode ++ 0 ::
        ([28, 1, 1, 1, 1, 1, 1, 0, 16] ++ List.replicate 15 1 ++ 1 :: others)) := by
    change (lost first :: rest.map dull).flatMap Record.encode = _
    rw [List.flatMap_cons, remaining, Record.encode, lost_octets]
    change (first.name.labelOctets ++ first.name.ending.encode) ++ _ ++ others = _
    simp only [List.append_assoc, List.cons_append, List.nil_append]
  have octets : other.encode = (other.header ++ (queries ++ (first.name.labelOctets ++
      (first.name.ending.encode ++ [0])))) ++
        ([28, 1, 1, 1, 1, 1, 1, 0, 16] ++ List.replicate 15 1 ++ 1 :: others) := by
    rw [Response.encode, listed, asked, questions]
    simp only [other, List.flatMap_nil, List.append_nil, List.append_assoc, List.cons_append,
      List.nil_append]
  generalize front : other.header ++ (queries ++ (first.name.labelOctets ++
    (first.name.ending.encode ++ [0]))) = before at octets
  have length : before.length =
      12 + (queries.length + (first.name.labelOctets.length +
        (first.name.ending.encode.length + 1))) := by
    simp [← front, header_length]
  have size : other.encode.length = before.length + (25 + others.length) := by
    rw [octets]
    simp
    omega
  have ending : first.name.ending.encode.length ≤ 2 := by
    cases first.name.ending with
    | root => exact Nat.le_succ 1
    | pointer offset => exact Nat.le_refl 2
  have places : Holds memory 12 (queries ++ first.name.labelOctets) := by
    obtain ⟨before, behind⟩ := message_sections other memory held
    rw [answersStart, listed, holds_append] at behind
    rw [asked, questions] at before behind
    exact (holds_append memory _ _ _).mpr ⟨before, behind.1⟩
  have count : (queries ++ first.name.labelOctets).count 0 < other.allQuestions.length := by
    have labels := List.count_eq_zero.mpr (plain_front _ (labels_plain first.name)).1
    rw [List.count_append, labels, asked, List.length_map]
    simpa using zeros
  have past := queriesEnd_past memory other.encode.length _ _ 12 places count
    (by rw [List.length_append]; omega)
  -- From there on no offset looks like the type of an AAAA record.
  have absent : ∀ offset, before.length ≤ offset →
      ¬ (memory offset = 0 ∧ memory (offset + 1) = 28) := by
    intro offset behind
    have tail := untyped_read before _ untyped offset behind
    rwa [← octets] at tail
  have none' := processReplies_untyped memory other.encode.length before.length absent
    (min other.answers.length MAX_REPLIES)
    ⟨queriesEnd memory other.encode.length other.allQuestions.length 12, reads, []⟩
    (by rw [List.length_append] at past; simp only; omega)
    (fun found member => absurd member List.not_mem_nil)
  rw [learned] at none'
  refine none' (6, address (List.replicate 16 1)) ?_ rfl
  rw [addresses, List.mem_filterMap]
  exact ⟨lost first, List.mem_cons_self, lost_address first⟩

end Misread

/-- A response with the same names, from which the code learns an address that is not there. -/
theorem unreadable_trap (message : Response)
    (questions : ∀ question ∈ message.allQuestions, QueryReadable question.name.ending)
    (unreadable : ¬ ∀ record ∈ message.answers.take MAX_REPLIES, Readable record.name.ending) :
    ∃ other, SameNames message other ∧ ¬ Learns other := by
  obtain ⟨front, bad, back, split, few, readable, failing⟩ :=
    first_failing (fun record : Record => Readable record.name.ending) message.answers MAX_REPLIES
      unreadable
  let answers := front.map blank ++ trap bad :: back.map blank
  have count : answers.length = message.answers.length := by
    rw [split]
    simp [answers]
  let other : Response :=
    { message with answers := answers, fewAnswers := count ▸ message.fewAnswers }
  have names : SameNames message other := by
    refine ⟨rfl, ?_⟩
    change answers.map Record.name = _
    rw [split]
    simp [answers, Function.comp_def, blank, trap]
  refine ⟨other, names, fun learns => ?_⟩
  have held : Holds (fun offset => other.encode.getD offset 0) 0 other.encode :=
    holds_getD [] other.encode
  have learned := learns _ "a.b" held (by decide)
  -- No answer of the other message has an address.
  have nothing : addresses other = [] := by
    rw [addresses, List.filterMap_eq_nil_iff]
    intro record member
    rcases List.mem_append.mp (List.mem_of_mem_take member) with before | after
    · obtain ⟨source, -, rfl⟩ := List.mem_map.mp before
      exact blank_address source
    · rcases List.mem_cons.mp after with rfl | later
      · exact trap_address bad
      · obtain ⟨source, -, rfl⟩ := List.mem_map.mp later
        exact blank_address source
  obtain ⟨reads, walk⟩ := processDnsReply_walk other _ questions held "a.b" (by decide)
    (by simp [other, answers])
  have parts : other.answers.flatMap Record.encode = (front.map blank).flatMap Record.encode ++
      ((trap bad).encode ++ (back.map blank).flatMap Record.encode) := by
    simp [other, answers]
  have long := message_length other
  have sections := (message_sections other _ held).2
  rw [parts, holds_append, holds_append] at sections
  rw [parts, List.length_append, List.length_append] at long
  obtain ⟨more, limit⟩ : ∃ more,
      min other.answers.length MAX_REPLIES = (front.map blank).length + (more + 1) := by
    refine ⟨min other.answers.length MAX_REPLIES - front.length - 1, ?_⟩
    have total : other.answers.length = front.length + (back.length + 1) := by
      simp [other, answers]
    rw [List.length_map]
    omega
  obtain ⟨readsFront, reached⟩ := processReplies_answers _ other.encode.length (front.map blank)
    (more + 1) ⟨answersStart other, reads, []⟩ sections.1 (by simp only; omega) (by
      intro record member
      obtain ⟨source, listed, rfl⟩ := List.mem_map.mp member
      exact readable source listed)
  rw [walk, limit, reached, nothing] at learned
  -- The first answers are skipped right and teach nothing; then comes the trap.
  have none' : (front.map blank).filterMap addressOf = [] := by
    rw [List.filterMap_eq_nil_iff]
    intro record member
    obtain ⟨source, -, rfl⟩ := List.mem_map.mp member
    exact blank_address source
  exact trap_learned _ other.encode.length bad failing _ sections.2.1 (by simp only; omega) more
    learned

/-- The code learns the addresses of all responses with the names of one, exactly if it has no
    answers, or the names of its questions and of the first answers are skipped right. -/
theorem names_learn_iff (message : Response) :
    (∀ other, SameNames message other → Learns other) ↔ NamesRead message := by
  constructor
  · intro learns some'
    have questions : ∀ question ∈ message.allQuestions, QueryReadable question.name.ending := by
      by_contra misread
      obtain ⟨other, names, fails⟩ := misread_trap message some' misread
      exact fails (learns other names)
    refine ⟨questions, ?_⟩
    by_contra unreadable
    obtain ⟨other, names, fails⟩ := unreadable_trap message questions unreadable
    exact fails (learns other names)
  · intro read other names
    apply readable_learns other
    intro some'
    have listed : message.answers ≠ [] := by
      rintro none'
      have same := names.answers
      rw [none', List.map_nil, List.map_eq_nil_iff] at same
      exact some' same
    obtain ⟨questions, answers⟩ := read listed
    have whole := names_transfer Question.name QueryReadable message.allQuestions other.allQuestions
      other.allQuestions.length names.questions
      fun question member => questions question (List.mem_of_mem_take member)
    rw [List.take_length] at whole
    exact ⟨whole, names_transfer Record.name Readable message.answers other.answers MAX_REPLIES
      names.answers answers⟩

section Example

theorem letters_nonempty (count : Nat) : List.replicate (count + 1) (97 : UInt8) ≠ [] :=
  List.cons_ne_nil _ _

theorem letters_short (count : Nat) (few : count < 63) :
    (List.replicate (count + 1) (97 : UInt8)).length ≤ 63 := by
  rw [List.length_replicate]
  exact few

theorem letters_host (count : Nat) :
    ∀ octet ∈ List.replicate (count + 1) (97 : UInt8), isHostOctet octet = true := by
  intro octet member
  rw [List.eq_of_mem_replicate member]
  decide

def letters (count : Nat) (few : count < 63) : Label :=
  ⟨List.replicate (count + 1) 97, letters_nonempty count, letters_short count few,
    letters_host count⟩

theorem zero_few : 0 < 63 := by decide

theorem one_few : 1 < 63 := by decide

/-- `a.aa` -/
def askedName : Name := ⟨[letters 0 zero_few, letters 1 one_few], .root⟩

/-- The name at offset 12, which is the one asked for. -/
def sameName : Name := ⟨[], .pointer 12⟩

/-- A name that is `a` and the last label of the name asked for. -/
def otherName : Name := ⟨[letters 0 zero_few], .pointer 14⟩

theorem text_fits : (229 :: List.replicate 229 (97 : UInt8)).length < 65536 := by
  rw [List.length_cons, List.length_replicate]
  decide

def textRecord : Record := ⟨sameName, 16, 1, 300, 229 :: List.replicate 229 97, text_fits⟩

theorem address_fits (first second third fourth : UInt8) :
    [first, second, third, fourth].length < 65536 := show 4 < 65536 by decide

def addressRecord (name : Name) (last : UInt8) : Record :=
  ⟨name, 1, 1, 300, [10, 0, 0, last], address_fits 10 0 0 last⟩

theorem answer_response : (0x8180 : BitVec 16).getMsbD 0 = true := by decide

theorem none_few {Item : Type} : ([] : List Item).length < 65536 := show 0 < 65536 by decide

theorem one_question : ([] : List Question).length + 1 < 65536 := by decide

theorem three_few {Item : Type} (first second third : Item) :
    [first, second, third].length < 65536 := show 3 < 65536 by decide

/-- A text record, an address of another name, and an address of the name that a pointer to the
    second answer stands for. -/
def pointerReply (offset : BitVec 14) : Response where
  id := 0x1234
  flags := 0x8180
  response := answer_response
  question := ⟨askedName, 1, 1⟩
  questions := []
  answers := [textRecord, addressRecord otherName 1, addressRecord ⟨[], .pointer offset⟩ 2]
  authorities := []
  additionals := []
  fewQuestions := one_question
  fewAnswers := three_few _ _ _
  fewAuthorities := none_few
  fewAdditionals := none_few

/-- The second answer begins at offset 264, and a pointer to it hides the third address. -/
theorem farPointer_missed : ¬ Learns (pointerReply 264) := by
  intro learns
  have learned := learns _ "a.aa" (holds_getD [] (pointerReply 264).encode) (by decide)
  revert learned
  decide +kernel

end Example

end Ptnet.DnsLearning
