import Ptnet.HttpMessages

/-!
The reassembly on a well cut stream. A header block is read piece by piece up to its blank
line, a body up to its length, and what is left of a payload chunk is handled as a chunk of
its own, so a message leaves the state it started from.
-/

namespace Ptnet.HttpReassembly

open Connection (PayloadChunk)
open Pieces (cutAt resume cutAt_flatten)

section HeaderEnd

def blankLine : List UInt8 := [CR, LF, CR, LF]

theorem endOfHeaders_spec (buf : List UInt8) (index : Nat) :
    (endOfHeaders buf index = 0 ∧ ∀ first last, buf ≠ first ++ blankLine ++ last) ∨
      ∃ first last, buf = first ++ blankLine ++ last ∧
        endOfHeaders buf index = index + first.length + 4 ∧
        ∀ other rest, buf = other ++ blankLine ++ rest → first.length ≤ other.length := by
  induction buf generalizing index with
  | nil =>
      refine Or.inl ⟨rfl, fun first last same => ?_⟩
      have lengths := congrArg List.length same
      simp [blankLine] at lengths
  | cons byte rest ih =>
      by_cases found : byte = CR ∧ rest.take 3 = [LF, CR, LF]
      · refine Or.inr ⟨[], rest.drop 3, ?_, by simp [endOfHeaders, found], fun _ _ _ => Nat.zero_le _⟩
        obtain ⟨rfl, following⟩ := found
        have whole := List.take_append_drop 3 rest
        rw [following] at whole
        exact congrArg (List.cons CR) whole.symm
      · have absent : ∀ last, byte :: rest ≠ [] ++ blankLine ++ last := by
          intro last same
          apply found
          simp only [blankLine, List.nil_append, List.cons_append, List.cons.injEq] at same
          obtain ⟨rfl, rfl⟩ := same
          exact ⟨rfl, rfl⟩
        rw [endOfHeaders, if_neg found]
        rcases ih (index + 1) with ⟨zero, none⟩ | ⟨first, last, same, position, least⟩
        · refine Or.inl ⟨zero, fun first last same => ?_⟩
          cases first with
          | nil => exact absent last same
          | cons head tail => exact none tail last (List.cons.inj same).2
        · refine Or.inr ⟨byte :: first, last, by rw [same]; rfl, ?_, fun other rest' same' => ?_⟩
          · rw [position, List.length_cons]
            omega
          · cases other with
            | nil => exact absurd same' (absent rest')
            | cons head tail =>
                have within := least tail rest' (List.cons.inj same').2
                simpa using within

structure HeaderBlock (header : List UInt8) : Prop where
  ends : ∃ first, header = first ++ blankLine
  once : ∀ first last, header = first ++ blankLine ++ last → last = []

theorem block_once (lines : List (List UInt8)) (proper : ∀ line ∈ lines, IsLine line)
    (first last : List UInt8)
    (same : (lines.flatMap (· ++ crlf)) ++ crlf = first ++ blankLine ++ last) : last = [] := by
  induction lines generalizing first with
  | nil =>
      have lengths := congrArg List.length same
      simp [blankLine, crlf] at lengths
      omega
  | cons line rest ih =>
      obtain ⟨_, noCr, _⟩ := proper line List.mem_cons_self
      have later := fun inner member => proper inner (List.mem_cons_of_mem line member)
      have split : line ++ (crlf ++ ((rest.flatMap (· ++ crlf)) ++ crlf)) =
          first ++ (blankLine ++ last) := by
        simpa [List.append_assoc] using same
      have afterLine : ∀ between, crlf ++ ((rest.flatMap (· ++ crlf)) ++ crlf) =
          between ++ (blankLine ++ last) → last = [] := by
        intro between same
        rcases between with _ | ⟨one, _ | ⟨two, between⟩⟩
        · cases rest with
          | nil => simpa [crlf, blankLine] using same
          | cons next more =>
              obtain ⟨filled, noCr, _⟩ := later next List.mem_cons_self
              obtain ⟨head, tail, rfl⟩ := List.exists_cons_of_ne_nil filled
              simp [crlf, blankLine] at same
              simp [same.1] at noCr
        · simp [crlf, blankLine, CR, LF] at same
        · apply ih later between
          simpa [crlf] using (List.cons.inj (List.cons.inj same).2).2
      rcases List.append_eq_append_iff.mp split with ⟨between, -, same⟩ | ⟨between, within, same⟩
      · exact afterLine between same
      · cases between with
        | nil => exact afterLine [] same.symm
        | cons head tail =>
            simp [blankLine] at same
            simp [within, ← same.1] at noCr

theorem header_block (message : Message) (wellFormed : WellFormed message) :
    HeaderBlock message.header := by
  refine ⟨?_, fun first last => block_once _ wellFormed.lines first last⟩
  rcases List.eq_nil_or_concat (message.start :: message.headers) with none | ⟨initial, final, same⟩
  · cases none
  · refine ⟨(initial.flatMap (· ++ crlf)) ++ final, ?_⟩
    rw [Message.header, same]
    simp [crlf, blankLine]

theorem getEndOfHTTPHeaders_none (before piece after : List UInt8)
    (block : HeaderBlock (before ++ piece ++ after)) (more : after ≠ []) :
    getEndOfHTTPHeaders piece = 0 := by
  rcases endOfHeaders_spec piece 0 with ⟨zero, -⟩ | ⟨first, last, same, -, -⟩
  · exact zero
  · have none := block.once (before ++ first) (last ++ after) (by simp [same])
    exact absurd (List.append_eq_nil_iff.mp none).2 more

/-- The piece which the blank line arrives with shows where the block ends. -/
theorem getEndOfHTTPHeaders_end (before piece after : List UInt8)
    (block : HeaderBlock (before ++ piece)) (long : 4 ≤ piece.length) :
    getEndOfHTTPHeaders (piece ++ after) = piece.length := by
  obtain ⟨initial, ends⟩ := block.ends
  have suffix : blankLine <:+ piece := by
    have whole : blankLine <:+ before ++ piece := ⟨initial, ends.symm⟩
    exact List.suffix_of_suffix_length_le whole (List.suffix_append before piece) long
  obtain ⟨first, rfl⟩ := suffix
  rcases endOfHeaders_spec (first ++ blankLine ++ after) 0 with ⟨-, none⟩ | ⟨other, rest, same, found, least⟩
  · exact absurd rfl (none first after)
  · have within := least first after rfl
    -- An earlier blank line would be inside the block.
    have prefixed : other ++ blankLine <+: first ++ blankLine := by
      have early : other ++ blankLine <+: first ++ blankLine ++ after := ⟨rest, same.symm⟩
      exact List.prefix_of_prefix_length_le early (List.prefix_append _ after) (by simpa using within)
    obtain ⟨tail, joined⟩ := prefixed
    have none := block.once (before ++ other) tail (by rw [← joined]; simp)
    have lengths := congrArg List.length joined
    rw [none] at lengths
    simp only [List.append_nil, List.length_append] at lengths
    rw [getEndOfHTTPHeaders, found, List.length_append]
    simp only [blankLine, List.length_cons, List.length_nil] at lengths ⊢
    omega

end HeaderEnd

open HTTPReassembly

def framing (state : HTTPReassembly) : Framing :=
  ⟨state.mContentLength, state.mChunkedEncoding, state.mContentEncoding, state.mReassembleChunks⟩

structure SameParts (before after : HTTPReassembly) : Prop where
  mReadingHeaders : after.mReadingHeaders = before.mReadingHeaders
  mHeaders : after.mHeaders = before.mHeaders
  mHeadersSize : after.mHeadersSize = before.mHeadersSize
  mBody : after.mBody = before.mBody
  mInvalidHttp : after.mInvalidHttp = before.mInvalidHttp
  reassembled : after.reassembled = before.reassembled

section Lines

theorem readField_framing (state : HTTPReassembly) (field : Field) :
    framing (readField state field) = (framing state).read field := by
  cases field <;> rfl

theorem readField_parts (state : HTTPReassembly) (field : Field) :
    SameParts state (readField state field) := by
  cases field <;> exact ⟨rfl, rfl, rfl, rfl, rfl, rfl⟩

theorem readFields_parts (fields : List Field) (state : HTTPReassembly) :
    SameParts state (fields.foldl readField state) := by
  induction fields generalizing state with
  | nil => exact ⟨rfl, rfl, rfl, rfl, rfl, rfl⟩
  | cons field rest ih =>
      have first := readField_parts state field
      have later := ih (readField state field)
      exact ⟨later.mReadingHeaders.trans first.mReadingHeaders, later.mHeaders.trans first.mHeaders,
        later.mHeadersSize.trans first.mHeadersSize, later.mBody.trans first.mBody,
        later.mInvalidHttp.trans first.mInvalidHttp, later.reassembled.trans first.reassembled⟩

theorem readFields_framing (fields : List Field) (state : HTTPReassembly) :
    framing (fields.foldl readField state) = fields.foldl Framing.read (framing state) := by
  induction fields generalizing state with
  | nil => rfl
  | cons field rest ih => rw [List.foldl_cons, ih, readField_framing, List.foldl_cons]

theorem readFields_type (fields : List Field) (state : HTTPReassembly) :
    (fields.foldl readField state).mContentType.isSome =
      (state.mContentType.isSome || fields.any Field.isType) := by
  induction fields generalizing state with
  | nil => simp
  | cons field rest ih =>
      rw [List.foldl_cons, ih, List.any_cons]
      cases field <;> simp [readField, Field.isType]

theorem readFields_path (fields : List Field) (state : HTTPReassembly) :
    (fields.foldl readField state).mPath = state.mPath := by
  induction fields generalizing state with
  | nil => rfl
  | cons field rest ih =>
      rw [List.foldl_cons, ih]
      cases field <;> rfl

theorem read_enabled (fields : List Field) (framing : Framing)
    (enabled : (fields.foldl Framing.read framing).enabled = true) : framing.enabled = true := by
  induction fields generalizing framing with
  | nil => exact enabled
  | cons field rest ih =>
      have first := ih _ enabled
      cases field with
      | upgrade => cases first
      | _ => exact first

theorem readLinesOf_spec (platform : Platform) (state : HTTPReassembly) (payload : List UInt8)
    (headersSize : Nat) :
    let piece := payload.take headersSize
    let scanned := readLinesOf platform state payload headersSize
    SameParts { state with mHeadersSize := state.mHeadersSize + headersSize } scanned ∧
      framing scanned = (fields platform piece).foldl Framing.read (framing state) ∧
      scanned.mContentType.isSome =
        (state.mContentType.isSome || (fields platform piece).any Field.isType) ∧
      scanned.mPath =
        if state.mHeadersSize = 0 then (shownPath platform [piece]).or state.mPath
        else state.mPath := by
  intro piece scanned
  let counted := { state with mHeadersSize := state.mHeadersSize + headersSize }
  have read : ∀ path, scanned = (fields platform piece).foldl readField
        { counted with mPath := path } →
      SameParts counted scanned ∧
      framing scanned = (fields platform piece).foldl Framing.read (framing state) ∧
      scanned.mContentType.isSome =
        (state.mContentType.isSome || (fields platform piece).any Field.isType) ∧
      scanned.mPath = path := by
    rintro path same
    have parts := readFields_parts (fields platform piece) { counted with mPath := path }
    rw [same]
    exact ⟨⟨parts.1, parts.2, parts.3, parts.4, parts.5, parts.6⟩, readFields_framing _ _,
      readFields_type _ _, readFields_path _ _⟩
  by_cases first : state.mHeadersSize = 0
  · rw [if_pos first]
    apply read
    have shown : shownPath platform [piece] =
        (readLines (payload.take headersSize)).head?.bind fun line =>
          requestPath (platform.decode line) := rfl
    simp only [shown, scanned, readLinesOf, if_pos first]
    cases (readLines (payload.take headersSize)).head?.bind fun line =>
        requestPath (platform.decode line) with
    | none => rfl
    | some path => rfl
  · rw [if_neg first]
    apply read
    simp only [scanned, readLinesOf, if_neg first]
    rfl

end Lines

section Shown

variable (platform : Platform) (enabled : Bool) (seen : List (List UInt8)) (piece : List UInt8)

theorem shownFraming_concat :
    shownFraming platform enabled (seen ++ [piece]) =
      (fields platform piece).foldl Framing.read (shownFraming platform enabled seen) := by
  simp [shownFraming]

theorem shownPath_concat (filled : seen ≠ []) :
    shownPath platform (seen ++ [piece]) = shownPath platform seen := by
  cases seen with
  | nil => exact absurd rfl filled
  | cons first rest => rfl

theorem shownFraming_enabled (later : List (List UInt8))
    (still : (shownFraming platform enabled (seen ++ later)).enabled = true) :
    (shownFraming platform enabled seen).enabled = true := by
  rw [shownFraming, List.flatMap_append, List.foldl_append] at still
  exact read_enabled _ _ still

end Shown

/-- The state while the headers of a message are read: `seen` are the pieces of them that
    have arrived, `done` the messages before. -/
structure Reading (platform : Platform) (state : HTTPReassembly) (enabled : Bool)
    (seen : List (List UInt8)) (done : List (List UInt8)) : Prop where
  reading : state.mReadingHeaders = true
  headers : state.mHeaders.map (·.payload) = seen
  size : state.mHeadersSize = seen.flatten.length
  filled : [] ∉ seen
  body : state.mBody = []
  valid : state.mInvalidHttp = false
  framed : framing state = shownFraming platform enabled seen
  typed : state.mContentType.isSome =
    (seen.flatMap (fields platform)).any Field.isType
  path : state.mPath = shownPath platform seen
  received : state.reassembled.map (·.chunk.payload) = done

/-- The state while a body is read; a message that is not `named` cannot be passed on. -/
structure InBody (state : HTTPReassembly) (head body : List UInt8) (length : Int)
    (chunked enabled named : Bool) (done : List (List UInt8)) : Prop where
  reading : state.mReadingHeaders = false
  headers : state.mHeaders.flatMap (·.payload) = head
  body : state.mBody.flatMap (·.payload) = body
  valid : state.mInvalidHttp = false
  framed : framing state = ⟨length, chunked, .unknown, enabled⟩
  named : (state.mContentType.isSome && state.mPath.isSome) = named
  received : state.reassembled.map (·.chunk.payload) = done

theorem started_reading (platform : Platform) : Reading platform started true [] [] :=
  ⟨rfl, rfl, rfl, List.not_mem_nil, rfl, rfl, rfl, rfl, rfl, rfl⟩

section Headers

variable {platform : Platform} {state : HTTPReassembly} {enabled : Bool}
  {seen : List (List UInt8)} {done : List (List UInt8)}

theorem reading_lines (reading : Reading platform state enabled seen done) (payload : List UInt8)
    (size : Nat) (within : size ≤ payload.length) :
    let piece := payload.take size
    let scanned := readLinesOf platform state payload size
    SameParts { state with mHeadersSize := (seen ++ [piece]).flatten.length } scanned ∧
      framing scanned = shownFraming platform enabled (seen ++ [piece]) ∧
      (scanned.mContentType.isSome && scanned.mPath.isSome) =
        Named platform (seen ++ [piece]) ∧
      scanned.mContentType.isSome =
        ((seen ++ [piece]).flatMap (fields platform)).any Field.isType ∧
      scanned.mPath = shownPath platform (seen ++ [piece]) := by
  intro piece scanned
  obtain ⟨parts, framed, typed, path⟩ := readLinesOf_spec platform state payload size
  have total : state.mHeadersSize + size = (seen ++ [piece]).flatten.length := by
    simp [reading.size, piece, within]
  have shownType : scanned.mContentType.isSome =
      ((seen ++ [piece]).flatMap (fields platform)).any Field.isType := by
    simpa [reading.typed] using typed
  have shown : scanned.mPath = shownPath platform (seen ++ [piece]) := by
    rw [show scanned.mPath = _ from path, reading.path, reading.size]
    cases seen with
    | nil => simp [shownPath, piece]
    | cons first rest =>
        have some : first ≠ [] := fun empty => reading.filled (by simp [empty])
        rw [if_neg (by simp [some]), shownPath_concat platform _ piece (List.cons_ne_nil _ _)]
  refine ⟨by rwa [total] at parts, ?_, ?_, shownType, shown⟩
  · rw [shownFraming_concat, ← reading.framed]
    exact framed
  · rw [shownType, shown, Named]

theorem reading_piece (chunk : PayloadChunk) (reading : Reading platform state enabled seen done)
    (filled : chunk.payload ≠ []) (unended : getEndOfHTTPHeaders chunk.payload = 0)
    (short : (seen ++ [chunk.payload]).flatten.length ≤ MAX_HEADERS_SIZE)
    (still : (shownFraming platform enabled (seen ++ [chunk.payload])).enabled = true) :
    ∃ next, handlePart platform state chunk = .ok (next, none) ∧
      Reading platform next enabled (seen ++ [chunk.payload]) done := by
  obtain ⟨parts, framed, -, typed, path⟩ := reading_lines reading chunk.payload
    chunk.payload.length (Nat.le_refl _)
  rw [List.take_length] at parts framed typed path
  let scanned := readLinesOf platform state chunk.payload chunk.payload.length
  let next := { scanned with mHeaders := scanned.mHeaders ++ [chunk] }
  have bounded : ¬ MAX_HEADERS_SIZE < scanned.mHeadersSize := by
    rw [parts.mHeadersSize]
    exact not_lt.mpr short
  have stillEnabled : next.mReassembleChunks = true := by
    rw [← framed] at still
    exact still
  have stillReading : next.mReadingHeaders = true := parts.mReadingHeaders.trans reading.reading
  have read : readHeaders platform state chunk = (next, chunk.payload.length) := by
    simp only [readHeaders, unended, lt_irrefl, ↓reduceIte, bounded, scanned, next]
  have ready : checkBounds next = next := by
    simp [checkBounds, stillReading, stillEnabled]
  refine ⟨next, ?_, stillReading, ?_, parts.mHeadersSize, ?_, parts.mBody.trans reading.body,
    parts.mInvalidHttp.trans reading.valid, framed, typed, path, ?_⟩
  · simp only [handlePart, reading.reading, ↓reduceIte, read, ready, stillReading]
  · simp [next, scanned, parts.mHeaders, reading.headers]
  · simpa using ⟨reading.filled, filled⟩
  · simpa [next, scanned, parts.reassembled] using reading.received

theorem checkBounds_framing (state : HTTPReassembly) (closed : state.mReadingHeaders = false) :
    framing (checkBounds state) = (framing state).bounded ∧
      SameParts state (checkBounds state) ∧
      (checkBounds state).mContentType = state.mContentType ∧
      (checkBounds state).mPath = state.mPath := by
  unfold checkBounds
  rcases flag : state.mReassembleChunks with _ | _
  · simp [flag, closed, framing, Framing.bounded]
    exact ⟨closed.symm, rfl, rfl, rfl, rfl, rfl⟩
  · by_cases unknown : state.mContentLength < 0 ∧ state.mChunkedEncoding = false
    · simp [flag, closed, unknown, framing, Framing.bounded]
      exact ⟨closed.symm, rfl, rfl, rfl, rfl, rfl⟩
    · have known : 0 ≤ state.mContentLength ∨ state.mChunkedEncoding = true := by
        by_contra none
        simp only [not_or, not_le, Bool.not_eq_true] at none
        exact unknown none
      rcases known with known | known
      · simp [flag, closed, known, not_lt.mpr known, framing, Framing.bounded]
        exact ⟨rfl, rfl, rfl, rfl, rfl, rfl⟩
      · simp [flag, closed, known, framing, Framing.bounded]
        exact ⟨rfl, rfl, rfl, rfl, rfl, rfl⟩

/-- The piece with the end of the headers leads over to the body. -/
theorem reading_end (chunk : PayloadChunk) (piece after : List UInt8) (length : Int)
    (chunked still : Bool) (reading : Reading platform state enabled seen done)
    (payload : chunk.payload = piece ++ after) (filled : piece ≠ [])
    (ended : getEndOfHTTPHeaders chunk.payload = piece.length)
    (framed : (shownFraming platform enabled (seen ++ [piece])).bounded =
      ⟨length, chunked, .unknown, still⟩) :
    ∃ next, handlePart platform state chunk = handleBody platform next chunk piece.length ∧
      InBody next (seen ++ [piece]).flatten [] length chunked still
        (Named platform (seen ++ [piece])) done := by
  have taken : chunk.payload.take piece.length = piece := by simp [payload]
  obtain ⟨parts, shown, named, -, -⟩ := reading_lines reading chunk.payload piece.length
    (by simp [payload])
  rw [taken] at parts shown named
  let scanned := readLinesOf platform state chunk.payload piece.length
  let closed := { scanned with
    mReadingHeaders := false
    mHeaders := scanned.mHeaders ++ [subchunk chunk 0 piece.length] }
  obtain ⟨bounds, kept, type, path⟩ := checkBounds_framing closed rfl
  have positive : 0 < piece.length := List.length_pos_of_ne_nil filled
  have read : readHeaders platform state chunk = (closed, piece.length) := by
    simp only [readHeaders, ended, positive, ↓reduceIte, scanned, closed]
  refine ⟨checkBounds closed, ?_, kept.mReadingHeaders, ?_, ?_,
    kept.mInvalidHttp.trans (parts.mInvalidHttp.trans reading.valid), ?_, ?_, ?_⟩
  · simp only [handlePart, reading.reading, ↓reduceIte, read, kept.mReadingHeaders]
    rfl
  · rw [kept.mHeaders]
    have before : state.mHeaders.flatMap (·.payload) = seen.flatten := by
      rw [List.flatMap_def, reading.headers]
    simp [closed, scanned, parts.mHeaders, subchunk, taken, before]
  · rw [kept.mBody]
    simp [closed, scanned, parts.mBody, reading.body]
  · rw [bounds, ← framed, ← shown]
    rfl
  · rw [type, path]
    exact named
  · rw [kept.reassembled]
    simpa [closed, scanned, parts.reassembled] using reading.received

end Headers

section Bodies

variable {state : HTTPReassembly} {head body : List UInt8} {enabled named : Bool}
  {done : List (List UInt8)}

theorem reassembleChunks_payload (chunks : List PayloadChunk) :
    ((reassembleChunks chunks).map (·.payload)).getD [] = chunks.flatMap (·.payload) := by
  cases chunks <;> rfl

/-- The message is passed on, if its type and its path are known. -/
theorem emit_message (platform : Platform) {length : Int} {chunked : Bool}
    (inBody : InBody state head body length chunked enabled named done) :
    (∃ exception, emit platform state = .error exception) ∨
      named = true ∧ ∃ next, emit platform state = .ok next ∧
        Reading platform next enabled [] (done ++ [head ++ body]) := by
  have plain : state.mContentEncoding = .unknown := congrArg Framing.encoding inBody.framed
  have flag : state.mReassembleChunks = enabled := congrArg Framing.enabled inBody.framed
  have name := inBody.named
  unfold emit
  rcases collected : reassembleChunks state.mHeaders with _ | headers
  · exact Or.inl ⟨.indexOutOfBounds, rfl⟩
  · have first : headers.payload = head := by
      have payload := reassembleChunks_payload state.mHeaders
      rwa [collected, inBody.headers] at payload
    have second := reassembleChunks_payload state.mBody
    rw [inBody.body] at second
    rcases type : state.mContentType with _ | type'
    · exact Or.inl ⟨.nullPointer, rfl⟩
    · rcases path : state.mPath with _ | path'
      · exact Or.inl ⟨.nullPointer, rfl⟩
      · refine Or.inr ⟨by rw [← name, type, path]; rfl, _, rfl, rfl, rfl, rfl,
          List.not_mem_nil, rfl, inBody.valid, ?_, rfl, rfl, ?_⟩
        · simp [framing, reset, shownFraming, unframed, flag]
        · rcases joined : reassembleChunks state.mBody with _ | last
          · rw [joined] at second
            simp only [Option.map_none, Option.getD_none] at second
            simp [reset, inBody.valid, inBody.received, first, ← second]
          · rw [joined] at second
            simp only [Option.map_some, Option.getD_some] at second
            simp [reset, inBody.valid, inBody.received, first, ← second, decodeBody, plain]

theorem readChunkSize_none (platform : Platform) {length : Int} {chunked : Bool}
    (inBody : InBody state head body length chunked enabled named done)
    (known : chunked = false ∨ 0 ≤ length) (payload : List UInt8) (start : Nat) :
    readChunkSize platform state payload start = (state, ⟨start, payload.length - start, false⟩) := by
  have lengths : state.mContentLength = length := congrArg Framing.length inBody.framed
  have coding : state.mChunkedEncoding = chunked := congrArg Framing.chunked inBody.framed
  rcases known with rfl | known
  · simp [readChunkSize, coding]
  · simp [readChunkSize, lengths, not_lt.mpr known]

/-- What is added to the body for a part of a chunk. -/
def addedPart (chunk : PayloadChunk) (start : Nat) (size : Int) : PayloadChunk :=
  if start = 0 ∧ size = chunk.payload.length then chunk else subchunk chunk start size.toNat

theorem addedPart_payload (chunk : PayloadChunk) (start : Nat) (size : Nat) :
    (addedPart chunk start size).payload = (chunk.payload.drop start).take size := by
  unfold addedPart
  split
  · next whole =>
      obtain ⟨rfl, same⟩ := whole
      obtain rfl : size = chunk.payload.length := by omega
      simp
  · simp [subchunk]

theorem collectBody_part (chunk : PayloadChunk) (start size : Nat) {missing : Nat} {chunked : Bool}
    (inBody : InBody state head body missing chunked enabled named done)
    (part : (chunk.payload.drop start).length = size) (short : size < missing) :
    ∃ next, collectBody state chunk ⟨start, size, false⟩ = (next, none) ∧
      InBody next head (body ++ chunk.payload.drop start) (missing - size : Nat) chunked enabled
        named done := by
  have lengths : state.mContentLength = missing := congrArg Framing.length inBody.framed
  have rest : ((missing - size : Nat) : Int) = missing - size := by omega
  by_cases none : size = 0
  · have empty : chunk.payload.drop start = [] := List.eq_nil_of_length_eq_zero (part.trans none)
    refine ⟨state, by simp [collectBody, none], ?_⟩
    simpa [none, empty] using inBody
  · have positive : (0 : Int) < size := by omega
    have wanted : 0 < state.mContentLength := by omega
    have fewer : (size : Int) < state.mContentLength := by omega
    let next := { state with
      mContentLength := state.mContentLength - size
      mBody := state.mBody ++ [addedPart chunk start size] }
    refine ⟨next, by simp only [collectBody, positive, wanted, fewer, ↓reduceIte]; rfl,
      inBody.reading, inBody.headers, ?_, inBody.valid, ?_, inBody.named, inBody.received⟩
    · simp only [next, List.flatMap_append, inBody.body, List.flatMap_singleton]
      rw [addedPart_payload, ← part, List.take_length]
    · rw [rest, ← lengths]
      exact congrArg (fun framing : Framing => { framing with length := state.mContentLength - size })
        inBody.framed

theorem collectBody_end (chunk : PayloadChunk) (start size : Nat) {missing : Nat} {chunked : Bool}
    (inBody : InBody state head body missing chunked enabled named done) (some : 0 < missing)
    (long : missing ≤ size) :
    ∃ next, collectBody state chunk ⟨start, size, false⟩ =
        (next, Option.some (start + missing + if chunked then 2 else 0)) ∧
      InBody next head (body ++ (chunk.payload.drop start).take missing) (-1) chunked enabled named
        done := by
  have lengths : state.mContentLength = missing := congrArg Framing.length inBody.framed
  have coding : state.mChunkedEncoding = chunked := congrArg Framing.chunked inBody.framed
  have positive : (0 : Int) < size := by omega
  have wanted : (0 : Int) < missing := by omega
  have enough : ¬ (size : Int) < missing := by omega
  let next := { state with
    mContentLength := -1, mBody := state.mBody ++ [addedPart chunk start missing] }
  refine ⟨next, ?_, inBody.reading, inBody.headers, ?_, inBody.valid, ?_, inBody.named,
    inBody.received⟩
  · simp only [collectBody, positive, lengths, wanted, enough, ↓reduceIte, coding,
      Int.toNat_natCast, next, addedPart]
  · simp only [next, List.flatMap_append, inBody.body, List.flatMap_singleton]
    rw [addedPart_payload]
  · exact congrArg (fun framing : Framing => { framing with length := -1 }) inBody.framed

/-- A body without a known end takes the rest of a chunk. -/
theorem collectBody_rest (chunk : PayloadChunk) (start size : Nat) {length : Int} {chunked : Bool}
    (inBody : InBody state head body length chunked enabled named done)
    (part : (chunk.payload.drop start).length = size) (unknown : length ≤ 0) :
    ∃ next, collectBody state chunk ⟨start, size, false⟩ = (next, none) ∧
      InBody next head (body ++ chunk.payload.drop start) length chunked enabled named done := by
  have lengths : state.mContentLength = length := congrArg Framing.length inBody.framed
  by_cases none : size = 0
  · have empty : chunk.payload.drop start = [] := List.eq_nil_of_length_eq_zero (part.trans none)
    exact ⟨state, by simp [collectBody, none], by simpa [empty] using inBody⟩
  · have positive : (0 : Int) < size := by omega
    refine ⟨{ state with mBody := state.mBody ++ [addedPart chunk start size] }, ?_,
      inBody.reading, inBody.headers, ?_, inBody.valid, inBody.framed, inBody.named,
      inBody.received⟩
    · simp only [collectBody, positive, lengths, not_lt.mpr unknown, ↓reduceIte]
      rfl
    · simp only [List.flatMap_append, inBody.body, List.flatMap_singleton]
      rw [addedPart_payload, ← part, List.take_length]

theorem handleBody_waits (platform : Platform) (chunk : PayloadChunk) (start : Nat)
    (sized next : HTTPReassembly) (part : BodyPart) (newBodyStart : Option Nat)
    (read : readChunkSize platform state chunk.payload start = (sized, part))
    (collected : collectBody sized chunk part = (next, newBodyStart))
    (incomplete : part.complete = false) (enabled : next.mReassembleChunks = true)
    (waits : 0 < next.mContentLength ∨ next.mChunkedEncoding = true) :
    handleBody platform state chunk start = .ok (next, newBodyStart) := by
  simp only [handleBody, read, collected, incomplete, enabled]
  rcases waits with missing | chunked
  · simp [enabled, not_le.mpr missing]
  · simp [chunked]

theorem handleBody_emits (platform : Platform) (chunk : PayloadChunk) (start : Nat)
    (sized next : HTTPReassembly) (part : BodyPart) (newBodyStart : Option Nat)
    (read : readChunkSize platform state chunk.payload start = (sized, part))
    (collected : collectBody sized chunk part = (next, newBodyStart))
    (length : Int) (ended : length ≤ 0 ∨ enabled = false)
    (inBody : InBody next head body length false enabled named done) :
    (∃ exception, handleBody platform state chunk start = .error exception) ∨
      named = true ∧ ∃ sent, handleBody platform state chunk start = .ok (sent, newBodyStart) ∧
        Reading platform sent enabled [] (done ++ [head ++ body]) := by
  have lengths : next.mContentLength = length := congrArg Framing.length inBody.framed
  have flag : next.mReassembleChunks = enabled := congrArg Framing.enabled inBody.framed
  have coding : next.mChunkedEncoding = false := congrArg Framing.chunked inBody.framed
  have closed : (if part.complete || !next.mReassembleChunks then
      { next with mChunkedEncoding := false } else next) = next := by
    split
    · rw [← coding]
    · rfl
  have due : ((next.mContentLength ≤ 0 || !next.mReassembleChunks) && !next.mChunkedEncoding) =
      true := by
    rcases ended with none | rfl
    · simp [lengths, none, coding]
    · simp [flag, coding]
  have emitted : handleBody platform state chunk start =
      (emit platform next).bind fun later => .ok (later, newBodyStart) := by
    simp only [handleBody, read, collected, closed, due, ↓reduceIte]
    cases emit platform next with
    | error exception => rfl
    | ok later => rfl
  rw [emitted]
  rcases emit_message platform inBody with ⟨exception, failed⟩ | ⟨known, sent, passed, reading⟩
  · exact Or.inl ⟨exception, by rw [failed]; rfl⟩
  · exact Or.inr ⟨known, sent, by rw [passed]; rfl, reading⟩

theorem part_size (chunk : PayloadChunk) (start : Nat) (within : start ≤ chunk.payload.length) :
    ((chunk.payload.length : Int) - start) = ((chunk.payload.drop start).length : Nat) := by
  rw [List.length_drop]
  omega

theorem handleBody_part (platform : Platform) (chunk : PayloadChunk) (start : Nat) {missing : Nat}
    {chunked : Bool} (inBody : InBody state head body missing chunked true named done)
    (within : start ≤ chunk.payload.length) (short : (chunk.payload.drop start).length < missing) :
    ∃ next, handleBody platform state chunk start = .ok (next, none) ∧
      InBody next head (body ++ chunk.payload.drop start)
        (missing - (chunk.payload.drop start).length : Nat) chunked true named done := by
  obtain ⟨next, collected, later⟩ := collectBody_part chunk start _ inBody rfl short
  have read := readChunkSize_none platform inBody (Or.inr (by omega)) chunk.payload start
  rw [part_size chunk start within] at read
  have lengths := congrArg Framing.length later.framed
  have enabled := congrArg Framing.enabled later.framed
  dsimp only [framing] at lengths enabled
  exact ⟨next, handleBody_waits platform chunk start state next _ none read collected rfl enabled
    (Or.inl (by omega)), later⟩

theorem handleBody_end (platform : Platform) (chunk : PayloadChunk) (start : Nat) {missing : Nat}
    (inBody : InBody state head body missing false enabled named done)
    (within : start ≤ chunk.payload.length) (some : 0 < missing)
    (long : missing ≤ (chunk.payload.drop start).length) :
    (∃ exception, handleBody platform state chunk start = .error exception) ∨
      named = true ∧
        ∃ next, handleBody platform state chunk start = .ok (next, Option.some (start + missing)) ∧
          Reading platform next enabled []
            (done ++ [head ++ (body ++ (chunk.payload.drop start).take missing)]) := by
  obtain ⟨next, collected, later⟩ := collectBody_end chunk start _ inBody some long
  have read := readChunkSize_none platform inBody (Or.inl rfl) chunk.payload start
  rw [part_size chunk start within] at read
  exact handleBody_emits platform chunk start state next _ _ read collected (-1)
    (Or.inl (by omega)) later

/-- The message ends with the chunk, as its length is not known or the reassembly disabled. -/
theorem handleBody_rest (platform : Platform) (chunk : PayloadChunk) (start : Nat) {length : Int}
    (inBody : InBody state head body length false enabled named done)
    (within : start ≤ chunk.payload.length)
    (unknown : length ≤ 0 ∨
      enabled = false ∧ ((chunk.payload.drop start).length : Int) < length) :
    (∃ exception, handleBody platform state chunk start = .error exception) ∨
      named = true ∧ ∃ next, handleBody platform state chunk start = .ok (next, none) ∧
        Reading platform next enabled []
          (done ++ [head ++ (body ++ chunk.payload.drop start)]) := by
  have read := readChunkSize_none platform inBody (Or.inl rfl) chunk.payload start
  rw [part_size chunk start within] at read
  rcases unknown with none | ⟨disabled, short⟩
  · obtain ⟨next, collected, later⟩ := collectBody_rest chunk start _ inBody rfl none
    exact handleBody_emits platform chunk start state next _ _ read collected length
      (Or.inl none) later
  · obtain ⟨missing, rfl⟩ := Int.eq_ofNat_of_zero_le (show 0 ≤ length by omega)
    obtain ⟨next, collected, later⟩ := collectBody_part chunk start _ inBody rfl (by omega)
    exact handleBody_emits platform chunk start state next _ _ read collected _
      (Or.inr disabled) later

theorem handleBody_chunkEnd (platform : Platform) (chunk : PayloadChunk) (start : Nat)
    {missing : Nat} (inBody : InBody state head body missing true true named done)
    (within : start ≤ chunk.payload.length) (some : 0 < missing)
    (long : missing ≤ (chunk.payload.drop start).length) :
    ∃ next, handleBody platform state chunk start = .ok (next, Option.some (start + missing + 2)) ∧
      InBody next head (body ++ (chunk.payload.drop start).take missing) (-1) true true named
        done := by
  obtain ⟨next, collected, later⟩ := collectBody_end chunk start _ inBody some long
  have read := readChunkSize_none platform inBody (Or.inr (by omega)) chunk.payload start
  rw [part_size chunk start within] at read
  have enabled := congrArg Framing.enabled later.framed
  have coding := congrArg Framing.chunked later.framed
  exact ⟨next, handleBody_waits platform chunk start state next _ _ read collected rfl enabled
    (Or.inr coding), later⟩

theorem handleBody_due (platform : Platform) (chunk : PayloadChunk)
    (inBody : InBody state head body (-1) true true named done) :
    handleBody platform state chunk chunk.payload.length = .ok (state, none) :=
  handleBody_waits platform chunk _ state state ⟨chunk.payload.length, 0, false⟩ none
    (by simp [readChunkSize]) (by simp [collectBody]) rfl
    (congrArg Framing.enabled inBody.framed) (Or.inr (congrArg Framing.chunked inBody.framed))

/-- A line is read to its end, which may be the end of the input. -/
theorem readLines_line (line after : List UInt8) (proper : IsLine line)
    (ends : after = [] ∨ ∃ rest, after = CR :: rest) :
    (readLines (line ++ after)).head? = Option.some line := by
  obtain ⟨nonempty, noCr, noLf⟩ := proper
  induction line with
  | nil => exact absurd rfl nonempty
  | cons byte line ih =>
      simp only [List.mem_cons, not_or] at noCr noLf
      have plain : ¬ (byte = CR ∨ byte = LF) := by
        simp [Ne.symm noCr.1, Ne.symm noLf.1]
      rcases joined : line ++ after with _ | ⟨next, more⟩
      · obtain ⟨rfl, -⟩ := List.append_eq_nil_iff.mp joined
        rw [List.cons_append, joined, readLines, if_neg plain]
        rfl
      · have later : (readLines (next :: more)).head?.getD [] = line := by
          by_cases none : line = []
          · subst none
            rcases ends with rfl | ⟨rest, rfl⟩
            · simp at joined
            · obtain ⟨rfl, rfl⟩ := List.cons.inj joined
              cases rest with
              | nil => rfl
              | cons second rest =>
                rw [readLines]
                split
                · rfl
                · rw [if_pos (Or.inl rfl)]
                  rfl
          · have found := ih none noCr.2 noLf.2
            rw [joined] at found
            rw [found]
            rfl
        rw [List.cons_append, joined, readLines, if_neg fun both => plain (Or.inl both.1),
          if_neg plain]
        rcases lines : readLines (next :: more) with _ | ⟨first, others⟩
        · rw [lines] at later
          rw [← later]
          rfl
        · rw [lines] at later
          rw [← later]
          rfl

/-- The size line of an HTTP chunk; its line end may be missing. -/
theorem readChunkSize_line (platform : Platform) (chunk : PayloadChunk) (start size : Nat)
    (line after : List UInt8)
    (inBody : InBody state head body (-1) true enabled named done)
    (rest : chunk.payload.drop start = line ++ after) (proper : IsLine line)
    (ends : after = [] ∨ ∃ rest, after = CR :: rest) (read : SizeRead platform line size) :
    readChunkSize platform state chunk.payload start =
      ({ state with mContentLength := size },
        ⟨start + line.length + 2, (after.length : Int) - 2, size = 0⟩) := by
  have lengths := congrArg Framing.length inBody.framed
  have coding := congrArg Framing.chunked inBody.framed
  dsimp only [framing] at lengths coding
  have total := congrArg List.length rest
  rw [List.length_drop, List.length_append] at total
  have some := List.length_pos_of_ne_nil proper.1
  have left : (chunk.payload.length : Int) - start = line.length + after.length := by omega
  have first : (readLines (chunk.payload.drop start)).head? = Option.some line := by
    rw [rest]
    exact readLines_line line after proper ends
  have positive : (0 : Int) < line.length + after.length := by omega
  have size' : (line.length : Int) + after.length - (line.length + 2) = after.length - 2 := by omega
  simp only [readChunkSize, coding, lengths, left, first, read.1, read.2, positive]
  simp [size']

/-- After the size line the data follows like a body with that length. -/
theorem handleBody_line (platform : Platform) (chunk : PayloadChunk) (start size : Nat)
    (line after : List UInt8) (inBody : InBody state head body (-1) true enabled named done)
    (rest : chunk.payload.drop start = line ++ crlf ++ after) (proper : IsLine line)
    (read : SizeRead platform line size) (some : 0 < size) :
    ∃ next, InBody next head body size true enabled named done ∧
      handleBody platform state chunk start =
        handleBody platform next chunk (start + line.length + 2) := by
  have sized := readChunkSize_line platform chunk start size line (crlf ++ after) inBody
    (by rw [rest, List.append_assoc]) proper (Or.inr ⟨LF :: after, rfl⟩) read
  have behind : (((crlf ++ after).length : Nat) : Int) - 2 = after.length := by
    simp [crlf]
    omega
  rw [behind] at sized
  let next := { state with mContentLength := (size : Int) }
  have later : InBody next head body size true enabled named done :=
    ⟨inBody.reading, inBody.headers, inBody.body, inBody.valid,
      congrArg (fun framing : Framing => { framing with length := (size : Int) }) inBody.framed,
      inBody.named, inBody.received⟩
  have total := congrArg List.length rest
  simp only [List.length_drop, List.length_append, crlf, List.length_cons, List.length_nil] at total
  have left : (chunk.payload.length : Int) - (start + line.length + 2 : Nat) = after.length := by omega
  refine ⟨next, later, ?_⟩
  have unsized := readChunkSize_none platform later (Or.inr (by omega)) chunk.payload
    (start + line.length + 2)
  rw [left] at unsized
  have positive : ¬ size = 0 := by omega
  simp only [handleBody, sized, unsized, positive, decide_false, next]

/-- The line of the last HTTP chunk ends the message, if nothing follows in the chunk. -/
theorem handleBody_last (platform : Platform) (chunk : PayloadChunk) (start : Nat)
    (line after : List UInt8) (inBody : InBody state head body (-1) true enabled named done)
    (rest : chunk.payload.drop start = line ++ after) (proper : IsLine line)
    (ends : after = [] ∨ after = [CR] ∨ after = crlf) (read : SizeRead platform line 0) :
    (∃ exception, handleBody platform state chunk start = .error exception) ∨
      named = true ∧ ∃ next, handleBody platform state chunk start = .ok (next, none) ∧
        Reading platform next enabled [] (done ++ [head ++ body]) := by
  have starts : after = [] ∨ ∃ rest, after = CR :: rest := by
    rcases ends with same | same | same
    · exact Or.inl same
    · exact Or.inr ⟨[], same⟩
    · exact Or.inr ⟨[LF], same⟩
  have nothing : ¬ 2 < after.length := by
    rcases ends with same | same | same <;> simp [same, crlf]
  have sized := readChunkSize_line platform chunk start 0 line after inBody rest proper starts read
  let closed := { state with mContentLength := 0, mChunkedEncoding := false }
  have later : InBody closed head body 0 false enabled named done :=
    ⟨inBody.reading, inBody.headers, inBody.body, inBody.valid,
      congrArg (fun framing : Framing => { framing with length := 0, chunked := false }) inBody.framed,
      inBody.named, inBody.received⟩
  rcases emit_message platform later with ⟨exception, failed⟩ | ⟨known, sent, emitted, reading⟩
  · exact Or.inl ⟨exception, by simp [handleBody, sized, collectBody, nothing, failed, closed]⟩
  · exact Or.inr ⟨known, sent,
      by simp [handleBody, sized, collectBody, nothing, emitted, closed], reading⟩

end Bodies

end Ptnet.HttpReassembly
