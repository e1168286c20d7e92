import Ptnet.DnsLearning

/-!
What `process_dns_reply` adds to the host cache from a datagram that holds the beginning of a
response. Its names may have labels of any octets; where the code finds the ends of the names, it
adds the addresses of the first answers and nothing else.
-/

namespace Ptnet.DnsAddresses

open Connection (Ip)
open DnsMessage DnsReply DnsLearning

/-- The loop over a query finds the end of the name: its last octet is the first zero. -/
def QuerySkipped (name : Octets) : Prop := ∃ front, 0 ∉ front ∧ name = front ++ [0]

/-- The loop over the name of an answer finds its end: it is the first zero, or the octet behind
    the first 0xc0. -/
def AnswerSkipped (name : Octets) : Prop :=
  ∃ front, 0 ∉ front ∧ 0xC0 ∉ front ∧ (name = front ++ [0] ∨ ∃ low, name = front ++ [0xC0, low])

structure Skipped (datagram : Datagram) : Prop where
  queries : ∀ query ∈ datagram.queries, QuerySkipped query.name
  answers : ∀ answer ∈ datagram.answers.take MAX_REPLIES, AnswerSkipped answer.name
  whole : min datagram.announced.toNat MAX_REPLIES ≤ datagram.answers.length ∨ datagram.rest = []

def wireAddresses (datagram : Datagram) : List (Nat × Ip) :=
  (datagram.answers.take MAX_REPLIES).filterMap fun answer => addressOf answer.record

section Names

variable (memory : Memory)

theorem queryNameEnd_skipped (name : Octets) (skipped : QuerySkipped name) (start len : Nat)
    (held : Holds memory start name) (room : name.length ≤ len) :
    queryNameEnd memory len start + 1 = start + name.length := by
  obtain ⟨front, nonzero, rfl⟩ := skipped
  rw [holds_append] at held
  rw [List.length_append, List.length_singleton] at room ⊢
  obtain ⟨more, rfl⟩ := Nat.exists_eq_add_of_le room
  rw [show front.length + 1 + more = front.length + (more + 1) by omega,
    queryNameEnd_front memory front nonzero start _ held.1, queryNameEnd,
    if_neg (not_not.mpr held.2.1), Nat.add_assoc]

theorem nameEnd_skipped (name : Octets) (skipped : AnswerSkipped name) (start len : Nat)
    (held : Holds memory start name) (room : name.length ≤ len) :
    nameEnd memory len start = start + name.length := by
  obtain ⟨front, nonzero, unmarked, rfl | ⟨low, rfl⟩⟩ := skipped
  · rw [holds_append] at held
    rw [List.length_append, List.length_singleton] at room ⊢
    obtain ⟨more, rfl⟩ := Nat.exists_eq_add_of_le room
    rw [show front.length + 1 + more = front.length + (more + 1) by omega,
      nameEnd_front memory front nonzero unmarked start _ held.1, nameEnd, if_pos held.2.1,
      Nat.add_assoc]
  · have marked : ¬ (0xC0 : UInt8) = 0 := by decide
    rw [holds_append] at held
    rw [List.length_append, List.length_cons, List.length_singleton] at room ⊢
    obtain ⟨more, rfl⟩ := Nat.exists_eq_add_of_le room
    rw [show front.length + (1 + 1) + more = front.length + (more + 1 + 1) by omega,
      nameEnd_front memory front nonzero unmarked start _ held.1, nameEnd, held.2.1, if_neg marked,
      if_pos rfl, Nat.add_assoc]

end Names

section Answers

variable (memory : Memory) (l7Len : Nat)

theorem encode_length (answer : WireAnswer) :
    answer.encode.length = answer.name.length + (10 + answer.record.rdata.length) := by
  rw [WireAnswer.encode, List.length_append, List.length_append, fixed_length]

theorem query_length (query : WireQuery) : query.encode.length = query.name.length + 4 := by
  rw [WireQuery.encode, List.length_append, List.length_append, word16_length, word16_length]

theorem processReplies_wire (answers : List WireAnswer)
    (skipped : ∀ answer ∈ answers, AnswerSkipped answer.name) (more : Nat) (walk : Walk)
    (held : Holds memory walk.reply (answers.flatMap WireAnswer.encode))
    (room : walk.reply + (answers.flatMap WireAnswer.encode).length ≤ l7Len) :
    ∃ reads, processReplies memory l7Len (answers.length + more) walk =
      processReplies memory l7Len more
        ⟨walk.reply + (answers.flatMap WireAnswer.encode).length, reads,
          walk.learned ++ answers.filterMap fun answer => addressOf answer.record⟩ := by
  refine processReplies_each memory l7Len WireAnswer.encode WireAnswer.record answers ?_ more walk
    held room
  intro answer member left walk held room
  have name := held
  rw [WireAnswer.encode, holds_append] at name
  rw [encode_length] at room ⊢
  exact processReplies_named memory l7Len answer.name answer.record left walk held room
    (nameEnd_skipped memory answer.name (skipped answer member) walk.reply _ name.1 (by omega))

theorem queriesEnd_queries (queries : List WireQuery) (start : Nat)
    (skipped : ∀ query ∈ queries, QuerySkipped query.name)
    (held : Holds memory start (queries.flatMap WireQuery.encode))
    (room : start + (queries.flatMap WireQuery.encode).length ≤ l7Len) :
    queriesEnd memory l7Len queries.length start =
      start + (queries.flatMap WireQuery.encode).length := by
  refine queriesEnd_each memory l7Len WireQuery.encode queries ?_ start held room
  intro query member start held room
  rw [WireQuery.encode, holds_append] at held
  have size := query_length query
  have skip := queryNameEnd_skipped memory query.name (skipped query member) start
    (l7Len - start) held.1 (by omega)
  omega

theorem processReplies_done (more : Nat) (walk : Walk) (ends : l7Len ≤ walk.reply) :
    (processReplies memory l7Len more walk).learned = walk.learned := by
  cases more with
  | zero => rfl
  | succ more => rw [processReplies, if_neg (Nat.not_lt.mpr ends)]

end Answers

section Datagrams

variable (datagram : Datagram) (memory : Memory)

def answersStart : Nat := 12 + (datagram.queries.flatMap WireQuery.encode).length

theorem datagram_held (held : Holds memory 0 datagram.encode) :
    ntohsAt memory 4 = datagram.queries.length ∧ ntohsAt memory 6 = datagram.announced.toNat ∧
      Holds memory 12 (datagram.queries.flatMap WireQuery.encode) ∧
      Holds memory (answersStart datagram) (datagram.answers.flatMap WireAnswer.encode) := by
  rw [Datagram.encode, holds_append, holds_append, holds_append, datagram.header_length,
    Datagram.header] at held
  obtain ⟨header, queries, answers, -⟩ := held
  simp only [holds_append, word16_length, Nat.zero_add] at header
  obtain ⟨-, -, asked, announced, -⟩ := header
  exact ⟨ntohsAt_eq memory _ _ asked datagram.fewQueries,
    ntohsAt_eq memory _ _ announced datagram.announced.isLt, queries, answers⟩

theorem datagram_length : datagram.encode.length =
    answersStart datagram + ((datagram.answers.flatMap WireAnswer.encode).length +
      datagram.rest.length) := by
  rw [Datagram.encode, List.length_append, List.length_append, List.length_append,
    datagram.header_length, answersStart, Nat.add_assoc]

/-- The number of records that the code walks over is that of the first answers, unless the
    datagram ends with them. -/
theorem skipped_limit (skipped : Skipped datagram) : ∃ more,
    min datagram.announced.toNat MAX_REPLIES =
      (datagram.answers.take MAX_REPLIES).length + more ∧
    (more = 0 ∨ datagram.answers.take MAX_REPLIES = datagram.answers ∧ datagram.rest = []) := by
  have few := datagram.fewAnswers
  have size : (datagram.answers.take MAX_REPLIES).length =
      min MAX_REPLIES datagram.answers.length := List.length_take
  rcases skipped.whole with walked | nothing
  · exact ⟨0, by omega, .inl rfl⟩
  · by_cases all : datagram.answers.length ≤ MAX_REPLIES
    · exact ⟨min datagram.announced.toNat MAX_REPLIES - datagram.answers.length, by omega,
        .inr ⟨List.take_of_length_le all, nothing⟩⟩
    · exact ⟨0, by omega, .inl rfl⟩

/-- The code adds the addresses among the first answers of a datagram that it keeps step with. -/
theorem skipped_learned (skipped : Skipped datagram) (held : Holds memory 0 datagram.encode)
    (query : String) (answered : Answered memory datagram.encode.length query) :
    (processDnsReply memory datagram.encode.length query).learned = wireAddresses datagram := by
  obtain ⟨asked, announced, queries, answers⟩ := datagram_held datagram memory held
  have long := datagram_length datagram
  have split : datagram.answers.flatMap WireAnswer.encode =
      (datagram.answers.take MAX_REPLIES).flatMap WireAnswer.encode ++
        (datagram.answers.drop MAX_REPLIES).flatMap WireAnswer.encode := by
    rw [← List.flatMap_append, List.take_append_drop]
  have size := congrArg List.length split
  rw [List.length_append] at size
  rw [split, holds_append] at answers
  obtain ⟨-, reply, learned⟩ := skipQueries_inside memory datagram.encode.length
    datagram.queries.length (((Walk.mk DNS_PACKET_SIZE [] []).look 2 2 |>.look 4 2).look 6 2)
  have start : _ = answersStart datagram := reply.trans
    (queriesEnd_queries memory datagram.encode.length datagram.queries 12 skipped.queries queries
      (by rw [answersStart] at long; omega))
  rw [processDnsReply_answered memory _ query answered, records, asked, announced]
  revert start learned
  generalize skipQueries memory datagram.encode.length _ _ = walk
  intro learned start
  obtain ⟨more, limit, ends⟩ := skipped_limit datagram skipped
  obtain ⟨reads, walked⟩ := processReplies_wire memory datagram.encode.length
    (datagram.answers.take MAX_REPLIES) skipped.answers more walk (start ▸ answers.1)
    (by rw [start]; omega)
  rw [limit, walked, learned]
  rcases ends with rfl | ⟨all, nothing⟩
  · rfl
  · refine processReplies_done memory _ more _ ?_
    rw [all, start, long, nothing]
    exact Nat.le_refl _

end Datagrams

end Ptnet.DnsAddresses
