import Ptnet.HttpSplits

/-!
The reassembly on a whole stream: the headers of a message, its body, and the messages one
after the other. Each phase ends with the chunks that are left, the first of which may be
what is left of a divided one.
-/

namespace Ptnet.HttpReassembly

open Connection (PayloadChunk)
open Pieces (prefix_shared cutAt leftAt resume cutAt_flatten cutAt_within cutAt_beyond cutAt_past
  cutAt_single cutAt_cons cutAt_one)
open HTTPReassembly

section Continuation

/-- The handling of chunks, once a part of the first one is done. -/
def handleFrom (platform : Platform) (chunk : PayloadChunk) (rest : List PayloadChunk) :
    Except Exception (HTTPReassembly × Option Nat) → Except Exception HTTPReassembly
  | .error exception => .error exception
  | .ok (next, none) => handleChunks platform next rest
  | .ok (next, some newBodyStart) =>
      if 0 < newBodyStart ∧ newBodyStart < chunk.payload.length then
        handleChunks platform next
          (subchunk chunk newBodyStart (chunk.payload.length - newBodyStart) :: rest)
      else handleChunks platform next rest

theorem handleChunks_cons (platform : Platform) (state : HTTPReassembly) (chunk : PayloadChunk)
    (rest : List PayloadChunk) :
    handleChunks platform state (chunk :: rest) =
      handleFrom platform chunk rest (handlePart platform state chunk) := by
  rw [handleChunks, handleChunk]
  rcases handlePart platform state chunk with exception | ⟨next, _ | newBodyStart⟩
  · rfl
  · rfl
  · by_cases inside : 0 < newBodyStart ∧ newBodyStart < chunk.payload.length
    · simp only [handleFrom, inside, and_self, ↓reduceIte, handleChunks]
    · simp only [handleFrom, inside, ↓reduceIte]

def Filled (chunks : List PayloadChunk) : Prop := ∀ chunk ∈ chunks, chunk.payload ≠ []

/-- The rest of a chunk is handled like a chunk of its own. -/
theorem handleFrom_next (platform : Platform) (next : HTTPReassembly) (chunk : PayloadChunk)
    (rest : List PayloadChunk) (newBodyStart : Nat) (some : 0 < newBodyStart)
    (within : newBodyStart ≤ chunk.payload.length) (filled : Filled rest) :
    ∃ later, handleFrom platform chunk rest (.ok (next, Option.some newBodyStart)) =
        handleChunks platform next later ∧
      payloads later = resume (chunk.payload.drop newBodyStart) (payloads rest) ∧ Filled later := by
  simp only [handleFrom]
  by_cases more : newBodyStart < chunk.payload.length
  · have left : (subchunk chunk newBodyStart (chunk.payload.length - newBodyStart)).payload =
        chunk.payload.drop newBodyStart := by
      rw [subchunk, ← List.length_drop, List.take_length]
    have nonempty : chunk.payload.drop newBodyStart ≠ [] := by
      intro empty
      simp at empty
      omega
    rw [if_pos ⟨some, more⟩]
    refine ⟨_, rfl, ?_, ?_⟩
    · rw [Pieces.resume_some _ _ nonempty, payloads, List.map_cons, left]
      rfl
    · intro other member
      rcases List.mem_cons.mp member with rfl | member
      · rwa [left]
      · exact filled other member
  · rw [if_neg fun both => more both.2]
    have empty : chunk.payload.drop newBodyStart = [] := List.drop_of_length_le (by omega)
    exact ⟨rest, rfl, by rw [empty]; rfl, filled⟩

theorem handlePart_body (platform : Platform) {state : HTTPReassembly} {head body : List UInt8}
    {length : Int} {chunked named : Bool} {done : List (List UInt8)} (chunk : PayloadChunk)
    (inBody : InBody state head body length chunked true named done) (bounds : 0 ≤ length ∨ chunked = true) :
    handlePart platform state chunk = handleBody platform state chunk 0 := by
  have lengths := congrArg Framing.length inBody.framed
  have enabled := congrArg Framing.enabled inBody.framed
  have coding := congrArg Framing.chunked inBody.framed
  dsimp only [framing] at lengths enabled coding
  have ready : checkBounds state = state := by
    rcases bounds with known | rfl
    · simp [checkBounds, enabled, lengths, not_lt.mpr known]
    · simp [checkBounds, enabled, coding]
  simp only [handlePart, inBody.reading, Bool.false_eq_true, ↓reduceIte, ready]

end Continuation

section Phases

variable {platform : Platform} {state : HTTPReassembly} {head body : List UInt8}
  {enabled named : Bool} {done : List (List UInt8)}

/-- The headers are read up to their blank line; `more` is what they still lack. -/
theorem headers_read (chunks : List PayloadChunk) (more after : List UInt8)
    (seen : List (List UInt8)) (length : Int) (chunked still : Bool)
    (reading : Reading platform state enabled seen done)
    (block : HeaderBlock (seen.flatten ++ more))
    (short : (seen.flatten ++ more).length ≤ MAX_HEADERS_SIZE)
    (lacking : more ≠ []) (filled : Filled chunks) (stream : (payloads chunks).flatten = more ++ after)
    (blank : ∃ last ∈ (cutAt (payloads chunks) more.length).1.getLast?, 4 ≤ last.length)
    (waits : (cutAt (payloads chunks) more.length).1.length = 1 ∨
      (shownFraming platform enabled
        (seen ++ (cutAt (payloads chunks) more.length).1.dropLast)).enabled = true)
    (framed : (shownFraming platform enabled
        (seen ++ (cutAt (payloads chunks) more.length).1)).bounded =
      ⟨length, chunked, .unknown, still⟩) :
    ∃ next chunk piece left rest,
      handleChunks platform state chunks =
        handleFrom platform chunk rest (handleBody platform next chunk piece.length) ∧
      InBody next (seen.flatten ++ more) [] length chunked still
        (Named platform (seen ++ (cutAt (payloads chunks) more.length).1)) done ∧
      chunk.payload = piece ++ left ∧ left = leftAt (payloads chunks) more.length ∧
      resume left (payloads rest) = (cutAt (payloads chunks) more.length).2 ∧ Filled rest := by
  induction chunks generalizing state more seen with
  | nil => simp [payloads, lacking] at stream
  | cons chunk rest ih =>
      have nonempty := filled chunk List.mem_cons_self
      have filledRest : Filled rest := fun other member => filled other (List.mem_cons_of_mem _ member)
      have whole : chunk.payload ++ (payloads rest).flatten = more ++ after := stream
      have first : payloads (chunk :: rest) = chunk.payload :: payloads rest := rfl
      have flat (piece : List UInt8) : (seen ++ [piece]).flatten = seen.flatten ++ piece := by simp
      rcases Nat.lt_or_ge chunk.payload.length more.length with within | beyond
      · -- The chunk is within the headers.
        have behind : leftAt (payloads (chunk :: rest)) more.length =
            leftAt (payloads rest) (more.length - chunk.payload.length) := by
          rw [first, leftAt, if_pos within]
        obtain ⟨more', rfl⟩ := prefix_shared whole within.le
        have lacking' : more' ≠ [] := by
          rintro rfl
          simp at within
        have streamRest : (payloads rest).flatten = more' ++ after := by
          simpa [List.append_assoc] using whole
        have left : (chunk.payload ++ more').length - chunk.payload.length = more'.length := by simp
        have cut := cutAt_cons chunk.payload (payloads rest) _ within
        have cutRest := cutAt_beyond chunk.payload (payloads rest) _ within
        rw [Pieces.resume_some _ _ nonempty] at cutRest
        rw [left] at cut cutRest behind
        have filledCut : (cutAt (payloads rest) more'.length).1 ≠ [] := by
          intro none
          have flat := (cutAt_flatten (payloads rest) more'.length).1
          rw [none, streamRest] at flat
          simp at flat
          exact lacking' flat
        have unended := getEndOfHTTPHeaders_none seen.flatten chunk.payload more'
          (by simpa [List.append_assoc] using block) lacking'
        rw [first, cut] at framed blank waits
        -- Nothing is passed on before the last piece, so reassembly is still enabled.
        have later : (shownFraming platform enabled ((seen ++ [chunk.payload]) ++
            (cutAt (payloads rest) more'.length).1.dropLast)).enabled = true := by
          rcases waits with one | still'
          · exact absurd (List.length_eq_zero_iff.mp (Nat.succ.inj one)) filledCut
          · rwa [List.dropLast_cons_of_ne_nil filledCut, List.append_cons] at still'
        obtain ⟨next, part, reading'⟩ := reading_piece chunk reading nonempty unended
          (by
            rw [flat]
            simp only [List.length_append] at short ⊢
            omega)
          (shownFraming_enabled platform enabled _ _ later)
        obtain ⟨then', last, piece, after', remaining, handled, inBody, payload, leftover, resumed,
            kept⟩ :=
          ih more' (seen ++ [chunk.payload]) reading'
            (by rw [flat, List.append_assoc]; exact block)
            (by rw [flat, List.append_assoc]; exact short)
            lacking' filledRest streamRest
            (by rwa [List.getLast?_cons_of_ne_nil filledCut] at blank) (Or.inr later)
            (by rwa [List.append_cons] at framed)
        rw [flat, List.append_assoc, ← List.append_cons, ← cut, ← first] at inBody
        refine ⟨then', last, piece, after', remaining, ?_, inBody, payload, ?_, ?_, kept⟩
        · rw [handleChunks_cons, part]
          exact handled
        · rw [leftover, behind]
        · rw [resumed, first, cutRest]
      · -- The chunk has the end of the headers.
        obtain ⟨left, payload⟩ := prefix_shared whole.symm beyond
        have positive := List.length_pos_of_ne_nil lacking
        have taken : chunk.payload.take more.length = more := by simp [payload]
        have single := cutAt_single chunk.payload (payloads rest) more.length positive beyond
        have resumed := cutAt_within chunk.payload (payloads rest) more.length beyond
        rw [Pieces.resume_some _ _ nonempty, ← first] at single resumed
        rw [taken] at single
        have dropped : chunk.payload.drop more.length = left := by simp [payload]
        rw [dropped] at resumed
        rw [single] at framed blank
        obtain ⟨last, isLast, long⟩ := blank
        obtain rfl : more = last := by simpa using isLast
        have ended := getEndOfHTTPHeaders_end seen.flatten more left block long
        rw [← payload] at ended
        obtain ⟨next, part, inBody⟩ := reading_end chunk more left length chunked still reading
          payload lacking ended framed
        rw [flat, ← single] at inBody
        refine ⟨next, chunk, more, left, rest, ?_, inBody, payload, ?_, resumed.symm, filledRest⟩
        · rw [handleChunks_cons, part]
        · rw [first, leftAt, if_neg (not_lt.mpr beyond), dropped]

section Parts

variable {chunk : PayloadChunk} {start : Nat} {rest : List PayloadChunk} {part after : List UInt8}

theorem part_continues
    (stream : (resume (chunk.payload.drop start) (payloads rest)).flatten = part ++ after)
    (short : (chunk.payload.drop start).length < part.length) :
    ∃ later, part = chunk.payload.drop start ++ later ∧ later ≠ [] ∧
      (payloads rest).flatten = later ++ after ∧
      ∃ following others, rest = following :: others := by
  rw [Pieces.resume_flatten] at stream
  obtain ⟨later, rfl⟩ := prefix_shared stream short.le
  have lacking : later ≠ [] := by
    rintro rfl
    simp at short
  have streamRest : (payloads rest).flatten = later ++ after := by
    simpa [List.append_assoc] using stream
  refine ⟨later, rfl, lacking, streamRest, ?_⟩
  cases rest with
  | nil => simp [payloads, lacking] at streamRest
  | cons following others => exact ⟨following, others, rfl⟩

theorem part_ends
    (stream : (resume (chunk.payload.drop start) (payloads rest)).flatten = part ++ after)
    (long : part.length ≤ (chunk.payload.drop start).length) :
    (chunk.payload.drop start).take part.length = part := by
  rw [Pieces.resume_flatten] at stream
  have taken := congrArg (List.take part.length) stream
  rwa [List.take_append_of_le_length long, List.take_left] at taken

end Parts

theorem body_ended (rest : List PayloadChunk) (chunk : PayloadChunk)
    (start : Nat) (part after : List UInt8)
    (inBody : InBody state head body part.length false enabled named done) (lacking : part ≠ [])
    (within : start ≤ chunk.payload.length) (filled : Filled rest)
    (stream : (resume (chunk.payload.drop start) (payloads rest)).flatten = part ++ after)
    (long : part.length ≤ (chunk.payload.drop start).length) :
    (∃ exception, handleFrom platform chunk rest (handleBody platform state chunk start) =
        .error exception) ∨
      named = true ∧
        ∃ next later, handleFrom platform chunk rest (handleBody platform state chunk start) =
            handleChunks platform next later ∧
          Reading platform next enabled [] (done ++ [head ++ (body ++ part)]) ∧ Filled later ∧
          payloads later =
            (cutAt (resume (chunk.payload.drop start) (payloads rest)) part.length).2 := by
  have positive := List.length_pos_of_ne_nil lacking
  rcases handleBody_end platform chunk start inBody within positive long with
    ⟨exception, failed⟩ | ⟨known, next, ended, reading⟩
  · exact Or.inl ⟨exception, by rw [failed]; rfl⟩
  · rw [part_ends stream long] at reading
    rw [List.length_drop] at long
    obtain ⟨later, handled, left, kept⟩ := handleFrom_next platform next chunk rest
      (start + part.length) (by omega) (by omega) filled
    refine Or.inr ⟨known, next, later, by rw [ended, handled], reading, kept, ?_⟩
    rw [cutAt_within _ _ _ (by rw [List.length_drop]; omega), left, List.drop_drop]

theorem body_read (rest : List PayloadChunk) (chunk : PayloadChunk)
    (start : Nat) (part after : List UInt8)
    (inBody : InBody state head body part.length false true named done) (lacking : part ≠ [])
    (within : start ≤ chunk.payload.length) (filled : Filled rest)
    (stream : (resume (chunk.payload.drop start) (payloads rest)).flatten = part ++ after) :
    (∃ exception, handleFrom platform chunk rest (handleBody platform state chunk start) =
        .error exception) ∨
      named = true ∧
        ∃ next later, handleFrom platform chunk rest (handleBody platform state chunk start) =
            handleChunks platform next later ∧
          Reading platform next true [] (done ++ [head ++ (body ++ part)]) ∧ Filled later ∧
          payloads later =
            (cutAt (resume (chunk.payload.drop start) (payloads rest)) part.length).2 := by
  induction rest generalizing state chunk start body part with
  | nil =>
      rcases Nat.lt_or_ge (chunk.payload.drop start).length part.length with short | long
      · obtain ⟨_, _, _, _, _, _, none⟩ := part_continues stream short
        cases none
      · exact body_ended [] chunk start part after inBody lacking within filled stream long
  | cons following others ih =>
      rcases Nat.lt_or_ge (chunk.payload.drop start).length part.length with short | long
      · obtain ⟨later, same, lacking', streamRest, -⟩ := part_continues stream short
        obtain ⟨next, waits, inBody'⟩ := handleBody_part platform chunk start inBody within short
        have left : part.length - (chunk.payload.drop start).length = later.length := by
          rw [same, List.length_append]
          omega
        rw [left] at inBody'
        have nonempty := filled following List.mem_cons_self
        have filledRest : Filled others := fun other member =>
          filled other (List.mem_cons_of_mem following member)
        have beyond := cutAt_beyond (chunk.payload.drop start) (payloads (following :: others)) _ short
        have resumed : resume (following.payload.drop 0) (payloads others) =
            payloads (following :: others) := by
          rw [List.drop_zero, Pieces.resume_some _ _ nonempty]
          rfl
        have final := ih following 0 later inBody' lacking' (Nat.zero_le _) filledRest
          (by rw [resumed]; exact streamRest)
        rw [resumed, ← left, ← beyond, List.append_assoc, ← same] at final
        rw [waits, handleFrom, handleChunks_cons,
          handlePart_body platform following inBody' (Or.inl (by omega))]
        exact final
      · exact body_ended _ chunk start part after inBody lacking within filled stream long

theorem resume_whole (chunk : PayloadChunk) (rest : List PayloadChunk)
    (nonempty : chunk.payload ≠ []) :
    resume (chunk.payload.drop 0) (payloads rest) = payloads (chunk :: rest) := by
  rw [List.drop_zero, Pieces.resume_some _ _ nonempty]
  rfl

def afterData (pieces : List (List UInt8)) (size : Nat) : List (List UInt8) × List (List UInt8) :=
  cutAt (cutAt pieces (size - 1)).2 3

theorem data_ended (rest : List PayloadChunk) (chunk : PayloadChunk)
    (start : Nat) (part after : List UInt8)
    (inBody : InBody state head body part.length true true named done) (lacking : part ≠ [])
    (within : start ≤ chunk.payload.length) (filled : Filled rest)
    (stream : (resume (chunk.payload.drop start) (payloads rest)).flatten = part ++ (crlf ++ after))
    (whole : (afterData (resume (chunk.payload.drop start) (payloads rest)) part.length).1.length = 1)
    (long : part.length ≤ (chunk.payload.drop start).length) :
    ∃ next later, handleFrom platform chunk rest (handleBody platform state chunk start) =
        handleChunks platform next later ∧
      InBody next head (body ++ part) (-1) true true named done ∧ Filled later ∧
      payloads later =
        (afterData (resume (chunk.payload.drop start) (payloads rest)) part.length).2 := by
  have positive := List.length_pos_of_ne_nil lacking
  obtain ⟨next, ended, inBody'⟩ := handleBody_chunkEnd platform chunk start inBody within positive long
  rw [part_ends stream long] at inBody'
  have total := congrArg List.length stream
  rw [Pieces.resume_flatten] at total
  simp only [List.length_append, crlf, List.length_cons, List.length_nil] at total
  have lastByte : (chunk.payload.drop start).drop (part.length - 1) ≠ [] := by
    intro empty
    have none := congrArg List.length empty
    rw [List.length_drop, List.length_nil] at none
    omega
  have single := cutAt_one ((chunk.payload.drop start).drop (part.length - 1)) (payloads rest) 3
    (by rwa [afterData, cutAt_within _ _ _ (by omega), Pieces.resume_some _ _ lastByte] at whole)
    (by rw [List.length_drop]; omega)
  have lineEnd : part.length + 2 ≤ (chunk.payload.drop start).length := by
    rw [List.length_drop (l := chunk.payload.drop start)] at single
    omega
  rw [List.length_drop] at lineEnd
  obtain ⟨later, handled, left, kept⟩ := handleFrom_next platform next chunk rest
    (start + part.length + 2) (by omega) (by omega) filled
  refine ⟨next, later, by rw [ended, handled], inBody', kept, ?_⟩
  rw [afterData, cutAt_within _ _ _ (by omega), cutAt_within _ _ _ single, left, List.drop_drop,
    List.drop_drop]
  congr 2
  omega

/-- The data of an HTTP chunk is read, and the line end behind it skipped. -/
theorem data_read (rest : List PayloadChunk) (chunk : PayloadChunk)
    (start : Nat) (part after : List UInt8)
    (inBody : InBody state head body part.length true true named done) (lacking : part ≠ [])
    (within : start ≤ chunk.payload.length) (filled : Filled rest)
    (stream : (resume (chunk.payload.drop start) (payloads rest)).flatten = part ++ (crlf ++ after))
    (whole : (afterData (resume (chunk.payload.drop start) (payloads rest)) part.length).1.length = 1) :
    ∃ next later, handleFrom platform chunk rest (handleBody platform state chunk start) =
        handleChunks platform next later ∧
      InBody next head (body ++ part) (-1) true true named done ∧ Filled later ∧
      payloads later =
        (afterData (resume (chunk.payload.drop start) (payloads rest)) part.length).2 := by
  induction rest generalizing state chunk start body part with
  | nil =>
      rcases Nat.lt_or_ge (chunk.payload.drop start).length part.length with short | long
      · obtain ⟨_, _, _, _, _, _, none⟩ := part_continues stream short
        cases none
      · exact data_ended [] chunk start part after inBody lacking within filled stream whole
          long
  | cons following others ih =>
      rcases Nat.lt_or_ge (chunk.payload.drop start).length part.length with short | long
      · obtain ⟨later, same, lacking', streamRest, -⟩ := part_continues stream short
        obtain ⟨next, waits, inBody'⟩ := handleBody_part platform chunk start inBody within short
        have positive := List.length_pos_of_ne_nil lacking'
        have length : part.length = (chunk.payload.drop start).length + later.length := by
          rw [← List.length_append, ← same]
        rw [show part.length - (chunk.payload.drop start).length = later.length by omega] at inBody'
        have nonempty := filled following List.mem_cons_self
        have filledRest : Filled others := fun other member =>
          filled other (List.mem_cons_of_mem following member)
        have past : afterData (resume (chunk.payload.drop start) (payloads (following :: others)))
            part.length = afterData (payloads (following :: others)) later.length := by
          rw [afterData, cutAt_past _ _ _ (by omega), afterData]
          congr 3
          omega
        have resumed := resume_whole following others nonempty
        have final := ih following 0 later inBody' lacking' (Nat.zero_le _) filledRest
          (by rw [resumed]; exact streamRest) (by rw [resumed, ← past]; exact whole)
        rw [resumed, ← past, List.append_assoc, ← same] at final
        rw [waits, handleFrom, handleChunks_cons,
          handlePart_body platform following inBody' (Or.inl (by omega))]
        exact final
      · exact data_ended _ chunk start part after inBody lacking within filled stream whole
          long

theorem afterData_flatten (pieces : List (List UInt8)) (part after : List UInt8)
    (lacking : part ≠ []) (stream : pieces.flatten = part ++ (crlf ++ after)) :
    (afterData pieces part.length).2.flatten = after := by
  have positive := List.length_pos_of_ne_nil lacking
  rw [afterData, (cutAt_flatten _ 3).2, (cutAt_flatten pieces _).2, List.drop_drop, stream,
    show part.length - 1 + 3 = (part ++ crlf).length by simp [crlf]; omega, ← List.append_assoc,
    List.drop_left]

/-- A chunked body is read to the line of its last chunk. -/
theorem chunks_read (chunks : List HttpChunk) (last : List UInt8)
    (chunk : PayloadChunk) (start : Nat) (rest : List PayloadChunk) (after : List UInt8)
    (inBody : InBody state head body (-1) true true named done) (filled : Filled rest)
    (present : chunk.payload.drop start ≠ [])
    (proper : ∀ part ∈ chunks, IsLine part.line ∧ part.data ≠ []) (lastLine : IsLine last)
    (stream : (resume (chunk.payload.drop start) (payloads rest)).flatten =
      (chunks.flatMap fun part => part.line ++ crlf ++ part.data ++ crlf) ++ (last ++ (crlf ++ after)))
    (cut : ChunksCut platform last chunks (resume (chunk.payload.drop start) (payloads rest))) :
    (∃ exception, handleFrom platform chunk rest (handleBody platform state chunk start) =
        .error exception) ∨
      named = true ∧
        ∃ next later, handleFrom platform chunk rest (handleBody platform state chunk start) =
            handleChunks platform next later ∧
          Reading platform next true [] (done ++ [head ++ (body ++ chunks.flatMap (·.data))]) ∧
          Filled later ∧ ∃ ending, (ending = [] ∨ ending = [CR] ∨ ending = crlf) ∧
            ending ++ (payloads later).flatten = crlf ++ after := by
  induction chunks generalizing state chunk start rest body with
  -- The last size line reads as 0, whether or not its line end is here.
  | nil =>
      obtain ⟨read, first⟩ := cut
      rw [Pieces.resume_some _ _ present] at first
      obtain ⟨ending, line, ends⟩ : ∃ ending, chunk.payload.drop start = last ++ ending ∧
          (ending = [] ∨ ending = [CR] ∨ ending = crlf) := by
        rcases first with same | same | same
        · exact ⟨[], by simpa using Option.some.inj same, Or.inl rfl⟩
        · exact ⟨[CR], Option.some.inj same, Or.inr (Or.inl rfl)⟩
        · exact ⟨crlf, Option.some.inj same, Or.inr (Or.inr rfl)⟩
      rw [Pieces.resume_flatten, line] at stream
      rcases handleBody_last platform chunk start last ending inBody line lastLine ends read with
        ⟨exception, failed⟩ | ⟨known, next, ended, reading⟩
      · exact Or.inl ⟨exception, by rw [failed]; rfl⟩
      · refine Or.inr ⟨known, next, rest, by rw [ended]; rfl, by simpa using reading, filled,
          ending, ends, ?_⟩
        simpa using stream
  | cons part parts ih =>
      obtain ⟨partLine, partData⟩ := proper part List.mem_cons_self
      obtain ⟨read, lineWhole, endWhole, later⟩ := cut
      have total := congrArg List.length stream
      rw [Pieces.resume_flatten] at total
      simp only [List.flatMap_cons, List.length_append, crlf, List.length_cons, List.length_nil] at total
      have within := cutAt_one (chunk.payload.drop start) (payloads rest) (part.line.length + 2)
        (by rwa [Pieces.resume_some _ _ present] at lineWhole) (by omega)
      rw [cutAt_within _ _ _ within] at endWhole later
      -- The size line, then the data behind it.
      obtain ⟨left, shape⟩ : ∃ left, chunk.payload.drop start = part.line ++ crlf ++ left := by
        have whole : (chunk.payload.drop start) ++ (payloads rest).flatten =
            (part.line ++ crlf) ++ (part.data ++ crlf ++ ((parts.flatMap fun part =>
              part.line ++ crlf ++ part.data ++ crlf) ++ (last ++ (crlf ++ after)))) := by
          rw [← Pieces.resume_flatten, stream]
          simp [List.append_assoc]
        exact (List.prefix_of_prefix_length_le (List.prefix_append _ _)
          ⟨(payloads rest).flatten, whole⟩ (by simpa [crlf] using within)).imp fun _ same => same.symm
      obtain ⟨next, inData, sized⟩ := handleBody_line platform chunk start part.data.length part.line
        left inBody shape partLine read (List.length_pos_of_ne_nil partData)
      have dropped : chunk.payload.drop (start + part.line.length + 2) =
          (chunk.payload.drop start).drop (part.line.length + 2) := by
        rw [List.drop_drop]
        congr 1
      have streamData : (resume (chunk.payload.drop (start + part.line.length + 2))
          (payloads rest)).flatten = part.data ++ (crlf ++ ((parts.flatMap fun part =>
            part.line ++ crlf ++ part.data ++ crlf) ++ (last ++ (crlf ++ after)))) := by
        have skipped : part.line.length + 2 = (part.line ++ crlf).length := by simp [crlf]
        rw [Pieces.resume_flatten, shape] at stream
        rw [Pieces.resume_flatten, dropped, shape, skipped, List.drop_left]
        simpa [List.append_assoc] using stream
      rw [List.length_drop] at within
      rw [← dropped] at endWhole later
      obtain ⟨then', others, handled, inBody', filled', left'⟩ := data_read rest chunk
        (start + part.line.length + 2) part.data _ inData partData (by omega) filled streamData endWhole
      have streamRest := afterData_flatten _ part.data _ partData streamData
      rw [← left'] at streamRest
      cases others with
      | nil =>
          have lengths := congrArg List.length streamRest
          simp [payloads, crlf] at lengths
      -- What is left begins with the line of the next chunk.
      | cons following others =>
          have nonempty := filled' following List.mem_cons_self
          have resumed := resume_whole following others nonempty
          have final := ih following 0 others inBody'
            (fun other member => filled' other (List.mem_cons_of_mem following member))
            (by rwa [List.drop_zero])
            (fun other member => proper other (List.mem_cons_of_mem part member))
            (by rw [resumed]; exact streamRest) (by rw [resumed, left']; exact later)
          rw [sized, handled, handleChunks_cons,
            handlePart_body platform following inBody' (Or.inr rfl)]
          simpa [List.append_assoc] using final

/-- A piece of a blank line shows no field, and no end of headers unless it is all of it. -/
theorem blank_piece (platform : Platform) (piece : List UInt8) (within : piece <:+: blankLine)
    (filled : piece ≠ []) :
    fields platform piece = [] ∧ (getEndOfHTTPHeaders piece = 0 ∨ piece = blankLine) := by
  obtain ⟨tail, starts, ends⟩ := List.infix_iff_prefix_suffix.mp within
  have members := List.mem_flatMap.mpr
    ⟨tail, (List.mem_tails tail blankLine).mpr ends, (List.mem_inits piece tail).mpr starts⟩
  simp only [blankLine, List.tails, List.flatMap_cons, List.flatMap_nil, List.inits, List.map_cons,
    List.map_nil, List.append_nil, List.mem_append, List.mem_cons, List.not_mem_nil,
    or_false, filled, false_or] at members
  rcases members with (rfl | rfl | rfl | rfl) | (rfl | rfl | rfl) | (rfl | rfl) | rfl
  all_goals exact ⟨rfl, by decide⟩

/-- The line ends behind the last chunk stay with the headers of a message that never comes,
    or are those of a message without a type. -/
theorem lineEnd_read (chunks : List PayloadChunk) (seen : List (List UInt8))
    (reading : Reading platform state true seen done) (filled : Filled chunks)
    (blank : seen.flatten ++ (payloads chunks).flatten <:+: blankLine)
    (silent : seen.flatMap (fields platform) = []) :
    (∃ exception, handleChunks platform state chunks = .error exception) ∨
      ∃ final, handleChunks platform state chunks = .ok final ∧
        final.reassembled.map (·.chunk.payload) = done := by
  induction chunks generalizing state seen with
  | nil => exact Or.inr ⟨state, rfl, reading.received⟩
  | cons chunk rest ih =>
      have nonempty := filled chunk List.mem_cons_self
      have filledRest : Filled rest := fun other member =>
        filled other (List.mem_cons_of_mem chunk member)
      have whole : (seen ++ [chunk.payload]).flatten ++ (payloads rest).flatten <:+: blankLine := by
        simpa [payloads, List.append_assoc] using blank
      have inside : chunk.payload <:+: blankLine :=
        List.IsInfix.trans ⟨seen.flatten, (payloads rest).flatten, by simp⟩ whole
      obtain ⟨none, ends⟩ := blank_piece platform chunk.payload inside nonempty
      have silent' : (seen ++ [chunk.payload]).flatMap (fields platform) = [] := by
        simp [silent, none]
      have framed : shownFraming platform true (seen ++ [chunk.payload]) = unframed true := by
        rw [shownFraming, silent']
        rfl
      rcases ends with unended | same
      · have short := whole.length_le
        rw [List.length_append] at short
        obtain ⟨next, part, reading'⟩ := reading_piece chunk reading nonempty unended
          (by
            simp only [blankLine, List.length_cons, List.length_nil] at short
            simp only [MAX_HEADERS_SIZE]
            omega)
          (by rw [framed]; rfl)
        rw [handleChunks_cons, part]
        exact ih _ reading' filledRest whole silent'
      · obtain ⟨next, part, inBody⟩ := reading_end chunk chunk.payload [] (-1) false false reading
          (by simp) nonempty (by rw [same]; decide) (by rw [framed]; rfl)
        have unnamed : Named platform (seen ++ [chunk.payload]) = false := by
          rw [Named, silent']
          rfl
        rw [unnamed] at inBody
        rcases handleBody_rest platform chunk chunk.payload.length inBody (Nat.le_refl _)
            (Or.inl (by omega)) with ⟨exception, failed⟩ | ⟨known, -⟩
        · exact Or.inl ⟨exception, by rw [handleChunks_cons, part, failed]; rfl⟩
        · cases known

end Phases

end Ptnet.HttpReassembly
