import Ptnet.ZdtunPacket

/-!
`process_dns_reply` of core/pcapdroid.c. The memory from the L7 payload on is a function of the
offset, so that a read behind the payload has a value; every read is recorded. `len` is the
length of the payload less the offset of `reply` all along.
-/

namespace Ptnet.DnsReply

open Connection (Ip)
open ZdtunPacket (address)

abbrev Memory := Nat → UInt8

/-- `sizeof(dns_packet_t)` -/
def DNS_PACKET_SIZE : Nat := 12

def DNS_TYPE_A : Nat := 0x1
def DNS_TYPE_AAAA : Nat := 0x1c

def MAX_REPLIES : Nat := 32

/-- `reply`, the offsets that were read, and what was added to the cache with its IP version. -/
structure Walk where
  reply : Nat
  reads : List Nat := []
  learned : List (Nat × Ip) := []
  deriving DecidableEq, Repr

def bytesAt (memory : Memory) (start count : Nat) : List UInt8 :=
  (List.range count).map fun index => memory (start + index)

/-- `ntohs` of the two bytes at an offset. -/
def ntohsAt (memory : Memory) (start : Nat) : Nat :=
  (memory start).toNat * 256 + (memory (start + 1)).toNat

namespace Walk

def look (walk : Walk) (start count : Nat) : Walk :=
  { walk with reads := walk.reads ++ List.range' start count }

def skip (walk : Walk) (count : Nat) : Walk := { walk with reply := walk.reply + count }

/-- `ip_lru_add` -/
def learn (walk : Walk) (ipver : Nat) (ip : Ip) : Walk :=
  { walk with learned := walk.learned ++ [(ipver, ip)] }

end Walk

/-- The inner loop over a query; the number counts `len` down. -/
def skipQueryName (memory : Memory) : Nat → Walk → Walk
  | 0, walk => walk
  | len + 1, walk =>
      let seen := walk.look walk.reply 1
      if memory walk.reply ≠ 0 then skipQueryName memory len (seen.skip 1) else seen

def skipQueries (memory : Memory) (l7Len : Nat) : Nat → Walk → Walk
  | 0, walk => walk
  | more + 1, walk =>
      if walk.reply < l7Len then
        skipQueries memory l7Len more ((skipQueryName memory (l7Len - walk.reply) walk).skip 5)
      else walk

def skipName (memory : Memory) : Nat → Walk → Walk
  | 0, walk => walk
  | len + 1, walk =>
      let seen := walk.look walk.reply 1
      if memory walk.reply = 0 then seen.skip 1
      else if memory walk.reply = 0xc0 then seen.skip 2
      else skipName memory len (seen.skip 1)

def addressSize (memory : Memory) (header : Nat) : Nat :=
  let recType := ntohsAt memory header
  let addrLen := ntohsAt memory (header + 8)
  if recType = DNS_TYPE_A ∧ addrLen = 4 then 4
  else if recType = DNS_TYPE_AAAA ∧ addrLen = 16 then 16
  else 0

def processRecord (memory : Memory) (walk : Walk) : Walk :=
  let addrLen := ntohsAt memory (walk.reply + 8)
  let data := ((walk.look walk.reply 2).look (walk.reply + 8) 2).skip 10
  let size := addressSize memory walk.reply
  let found :=
    if size = 0 then data
    else (data.look data.reply size).learn (if size = 4 then 4 else 6)
      (address (bytesAt memory data.reply size))
  found.skip addrLen

def processReplies (memory : Memory) (l7Len : Nat) : Nat → Walk → Walk
  | 0, walk => walk
  | more + 1, walk =>
      if walk.reply < l7Len then
        let named := skipName memory (l7Len - walk.reply) walk
        if l7Len < named.reply + 10 then named
        else processReplies memory l7Len more (processRecord memory named)
      else walk

def processDnsReply (memory : Memory) (l7Len : Nat) (query : String) : Walk :=
  let start : Walk := { reply := DNS_PACKET_SIZE }
  if query = "" ∨ '.' ∉ query.toList ∨ l7Len < DNS_PACKET_SIZE then start
  else
    let flags := start.look 2 2
    if ntohsAt memory 2 / 0x8000 % 2 = 1 then
      let questions := flags.look 4 2
      if ntohsAt memory 4 ≠ 0 then
        let answers := questions.look 6 2
        if ntohsAt memory 6 ≠ 0 then
          processReplies memory l7Len (min (ntohsAt memory 6) MAX_REPLIES)
            (skipQueries memory l7Len (ntohsAt memory 4) answers)
        else answers
      else questions
    else flags

section Bounds

variable (memory : Memory) (l7Len : Nat)

def Inside (walk : Walk) : Prop := ∀ offset ∈ walk.reads, offset < l7Len

def nameEnd : Nat → Nat → Nat
  | 0, reply => reply
  | len + 1, reply =>
      if memory reply = 0 then reply + 1
      else if memory reply = 0xc0 then reply + 2
      else nameEnd len (reply + 1)

def queryNameEnd : Nat → Nat → Nat
  | 0, reply => reply
  | len + 1, reply => if memory reply ≠ 0 then queryNameEnd len (reply + 1) else reply

def queriesEnd : Nat → Nat → Nat
  | 0, reply => reply
  | more + 1, reply =>
      if reply < l7Len then queriesEnd more (queryNameEnd memory (l7Len - reply) reply + 5)
      else reply

/-- Each of the records from an offset on holds its address, if it is one of an address and its
    ten fixed bytes are there. -/
def Complete : Nat → Nat → Prop
  | 0, _ => True
  | more + 1, reply =>
      reply < l7Len →
      let header := nameEnd memory (l7Len - reply) reply
      header + 10 ≤ l7Len →
      header + 10 + addressSize memory header ≤ l7Len ∧
        Complete more (header + 10 + ntohsAt memory (header + 8))

theorem inside_look (walk : Walk) (start count : Nat) (some' : 0 < count) :
    Inside l7Len (walk.look start count) ↔ Inside l7Len walk ∧ start + count ≤ l7Len := by
  simp only [Inside, Walk.look, List.forall_mem_append]
  apply and_congr_right
  intro _
  constructor
  · intro inside
    have last := inside (start + count - 1) (List.mem_range'_1.mpr (by omega))
    omega
  · intro fits offset member
    have range := List.mem_range'_1.mp member
    omega

theorem inside_skip (walk : Walk) (count : Nat) :
    Inside l7Len (walk.skip count) ↔ Inside l7Len walk := Iff.rfl

theorem inside_learn (walk : Walk) (ipver : Nat) (ip : Ip) :
    Inside l7Len (walk.learn ipver ip) ↔ Inside l7Len walk := Iff.rfl

theorem skipQueryName_inside (len : Nat) (walk : Walk) (room : walk.reply + len ≤ l7Len) :
    (Inside l7Len (skipQueryName memory len walk) ↔ Inside l7Len walk) ∧
      (skipQueryName memory len walk).reply = queryNameEnd memory len walk.reply ∧
      (skipQueryName memory len walk).learned = walk.learned := by
  induction len generalizing walk with
  | zero => exact ⟨Iff.rfl, rfl, rfl⟩
  | succ len ih =>
      have seen := inside_look l7Len walk walk.reply 1 (by decide)
      simp only [skipQueryName, queryNameEnd]
      split
      · obtain ⟨inside, reply, learned⟩ := ih ((walk.look walk.reply 1).skip 1)
          (by simp only [Walk.skip, Walk.look]; omega)
        refine ⟨?_, reply, learned⟩
        rw [inside, inside_skip, seen]
        exact and_iff_left (by omega)
      · refine ⟨?_, rfl, rfl⟩
        rw [seen]
        exact and_iff_left (by omega)

theorem skipQueries_inside (more : Nat) (walk : Walk) :
    (Inside l7Len (skipQueries memory l7Len more walk) ↔ Inside l7Len walk) ∧
      (skipQueries memory l7Len more walk).reply = queriesEnd memory l7Len more walk.reply ∧
      (skipQueries memory l7Len more walk).learned = walk.learned := by
  induction more generalizing walk with
  | zero => exact ⟨Iff.rfl, rfl, rfl⟩
  | succ more ih =>
      simp only [skipQueries, queriesEnd]
      split
      · next within =>
          obtain ⟨inside, reply, learned⟩ :=
            skipQueryName_inside memory l7Len (l7Len - walk.reply) walk (by omega)
          obtain ⟨insideRest, replyRest, learnedRest⟩ :=
            ih ((skipQueryName memory (l7Len - walk.reply) walk).skip 5)
          refine ⟨by rw [insideRest, inside_skip, inside], ?_, learnedRest.trans learned⟩
          rw [replyRest, Walk.skip, reply]
      · exact ⟨Iff.rfl, rfl, rfl⟩

theorem skipName_inside (len : Nat) (walk : Walk) (room : walk.reply + len ≤ l7Len) :
    (Inside l7Len (skipName memory len walk) ↔ Inside l7Len walk) ∧
      (skipName memory len walk).reply = nameEnd memory len walk.reply ∧
      (skipName memory len walk).learned = walk.learned := by
  induction len generalizing walk with
  | zero => exact ⟨Iff.rfl, rfl, rfl⟩
  | succ len ih =>
      have seen : Inside l7Len (walk.look walk.reply 1) ↔ Inside l7Len walk := by
        rw [inside_look l7Len walk walk.reply 1 (by decide)]
        exact and_iff_left (by omega)
      simp only [skipName, nameEnd]
      split
      · exact ⟨seen, rfl, rfl⟩
      · split
        · exact ⟨seen, rfl, rfl⟩
        · obtain ⟨inside, reply, learned⟩ := ih ((walk.look walk.reply 1).skip 1)
            (by simp only [Walk.skip, Walk.look]; omega)
          exact ⟨by rw [inside, inside_skip, seen], reply, learned⟩

theorem processRecord_inside (walk : Walk) (fixed : walk.reply + 10 ≤ l7Len) :
    Inside l7Len (processRecord memory walk) ↔
      Inside l7Len walk ∧ walk.reply + 10 + addressSize memory walk.reply ≤ l7Len := by
  have header : Inside l7Len ((walk.look walk.reply 2).look (walk.reply + 8) 2) ↔
      Inside l7Len walk := by
    rw [inside_look _ _ _ _ (by decide), inside_look _ _ _ _ (by decide), and_assoc]
    exact and_iff_left (by omega)
  simp only [processRecord]
  split
  · next none' =>
      rw [inside_skip, inside_skip, header, none']
      exact (and_iff_left (by omega)).symm
  · next some' =>
      rw [inside_skip, inside_learn, inside_look _ _ _ _ (Nat.pos_of_ne_zero some'), inside_skip,
        header]
      rfl

theorem processRecord_reply (walk : Walk) : (processRecord memory walk).reply =
    walk.reply + 10 + ntohsAt memory (walk.reply + 8) := by
  simp only [processRecord]
  split <;> rfl

theorem processReplies_inside (more : Nat) (walk : Walk) :
    Inside l7Len (processReplies memory l7Len more walk) ↔
      Inside l7Len walk ∧ Complete memory l7Len more walk.reply := by
  induction more generalizing walk with
  | zero => exact (and_iff_left trivial).symm
  | succ more ih =>
      simp only [processReplies, Complete]
      by_cases within : walk.reply < l7Len
      · obtain ⟨inside, reply, -⟩ :=
          skipName_inside memory l7Len (l7Len - walk.reply) walk (by omega)
        rw [if_pos within, reply]
        by_cases short : l7Len < nameEnd memory (l7Len - walk.reply) walk.reply + 10
        · rw [if_pos short, inside]
          exact (and_iff_left fun _ fixed => absurd short (Nat.not_lt.mpr fixed)).symm
        · rw [if_neg short, ih, processRecord_inside memory l7Len _ (by rw [reply]; omega),
            processRecord_reply, inside, reply, and_assoc]
          apply and_congr_right
          intro _
          exact ⟨fun complete _ _ => complete, fun complete => complete within (by omega)⟩
      · rw [if_neg within]
        exact (and_iff_left fun inside => absurd inside within).symm

structure Answered (query : String) : Prop where
  dotted : '.' ∈ query.toList
  header : DNS_PACKET_SIZE ≤ l7Len
  response : ntohsAt memory 2 / 0x8000 % 2 = 1
  questions : ntohsAt memory 4 ≠ 0
  answers : ntohsAt memory 6 ≠ 0

def records (memory : Memory) (l7Len : Nat) : Walk :=
  processReplies memory l7Len (min (ntohsAt memory 6) MAX_REPLIES)
    (skipQueries memory l7Len (ntohsAt memory 4)
      (((Walk.mk DNS_PACKET_SIZE [] []).look 2 2 |>.look 4 2).look 6 2))

theorem processDnsReply_answered (query : String) (answered : Answered memory l7Len query) :
    processDnsReply memory l7Len query = records memory l7Len := by
  have nonempty : query ≠ "" := by
    rintro rfl
    cases answered.dotted
  have guard : ¬ (query = "" ∨ '.' ∉ query.toList ∨ l7Len < DNS_PACKET_SIZE) := by
    simp [nonempty, answered.dotted, answered.header]
  simp only [processDnsReply, guard, if_false, answered.response, if_true, ne_eq, answered.questions,
    not_false_eq_true, answered.answers, records]

/-- Without the guards only the header is read. -/
theorem processDnsReply_ignored (query : String) (ignored : ¬ Answered memory l7Len query) :
    Inside l7Len (processDnsReply memory l7Len query) ∧
      (processDnsReply memory l7Len query).learned = [] := by
  have start : Inside l7Len (Walk.mk DNS_PACKET_SIZE [] []) := fun _ read => absurd read
    List.not_mem_nil
  by_cases guard : query = "" ∨ '.' ∉ query.toList ∨ l7Len < DNS_PACKET_SIZE
  · simp only [processDnsReply, guard, if_true]
    exact ⟨start, trivial⟩
  · obtain ⟨nonempty, dotted, header⟩ := not_or.mp guard |>.imp_right not_or.mp
    have room : 12 ≤ l7Len := Nat.not_lt.mp header
    have flags := (inside_look l7Len (Walk.mk DNS_PACKET_SIZE [] []) 2 2 (by decide)).mpr
      ⟨start, by omega⟩
    have questions := (inside_look l7Len _ 4 2 (by decide)).mpr ⟨flags, by omega⟩
    have answers := (inside_look l7Len _ 6 2 (by decide)).mpr ⟨questions, by omega⟩
    simp only [processDnsReply, guard, if_false]
    split
    · next response =>
        split
        · next asked =>
            split
            · next replied =>
                exact absurd ⟨not_not.mp dotted, room, response, asked, replied⟩ ignored
            · exact ⟨answers, rfl⟩
        · exact ⟨questions, rfl⟩
    · exact ⟨flags, rfl⟩

/-- All reads are inside the payload exactly if no record of an address is cut before the end of
    the address. -/
theorem reads_inside_iff (query : String) :
    Inside l7Len (processDnsReply memory l7Len query) ↔
      (Answered memory l7Len query →
        Complete memory l7Len (min (ntohsAt memory 6) MAX_REPLIES)
          (queriesEnd memory l7Len (ntohsAt memory 4) DNS_PACKET_SIZE)) := by
  by_cases answered : Answered memory l7Len query
  · have room : 12 ≤ l7Len := answered.header
    have header : Inside l7Len
        (((Walk.mk DNS_PACKET_SIZE [] []).look 2 2 |>.look 4 2).look 6 2) := by
      simp only [inside_look l7Len _ _ 2 (by decide)]
      exact ⟨⟨⟨fun _ read => absurd read List.not_mem_nil, by omega⟩, by omega⟩, by omega⟩
    obtain ⟨inside, reply, -⟩ := skipQueries_inside memory l7Len (ntohsAt memory 4)
      (((Walk.mk DNS_PACKET_SIZE [] []).look 2 2 |>.look 4 2).look 6 2)
    rw [processDnsReply_answered memory l7Len query answered, records, processReplies_inside, inside,
      reply]
    exact ⟨fun complete _ => complete.2, fun complete => ⟨header, complete answered⟩⟩
  · exact iff_of_true (processDnsReply_ignored memory l7Len query answered).1
      fun given => absurd given answered

/-- A response that ends with the header of an A record: the root is asked for and answered. -/
def cutReply : List UInt8 :=
  [0, 0, 0x81, 0x80, 0, 1, 0, 1, 0, 0, 0, 0] ++ [0, 0, 1, 0, 1] ++ [0, 0, 1, 0, 1, 0, 0, 0, 0, 0, 4]

/-- Its address is read behind the payload. -/
theorem cutReply_overrun :
    ¬ Inside cutReply.length
      (processDnsReply (fun offset => cutReply.getD offset 0) cutReply.length "a.com") := by
  intro inside
  exact absurd (inside 28 (by decide +kernel)) (by decide)

end Bounds

end Ptnet.DnsReply
