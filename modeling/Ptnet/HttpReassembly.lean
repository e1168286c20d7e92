import Mathlib
import Ptnet.Connection

/-!
`HTTPReassembly`: puts the payload chunks of one direction of a connection together to HTTP
messages. Lines are split on the bytes, as line ends are single bytes of UTF-8; decoding a
line, the locale of `lowercase`, the digits of `toInt` and the decoders of bodies are the
platform's.
-/

namespace Ptnet.HttpReassembly

open Connection (PayloadChunk)

def CR : UInt8 := 13
def LF : UInt8 := 10

def MAX_HEADERS_SIZE : Nat := 1024

inductive ContentEncoding where
  | unknown
  | gzip
  | deflate
  | brotli
  deriving DecidableEq, Repr

structure Platform where
  decode : List UInt8 → String
  lowercase : String → String
  toInt : String → Nat → Option Int
  /-- `none` is an `IOException` of the decoder. -/
  decodeBody : ContentEncoding → List UInt8 → Option (List UInt8)

/-- `Utils.getEndOfHTTPHeaders`, for a buffer that starts at `index`. -/
def endOfHeaders : List UInt8 → Nat → Nat
  | [], _ => 0
  | byte :: rest, index =>
      if byte = CR ∧ rest.take 3 = [LF, CR, LF] then index + 4 else endOfHeaders rest (index + 1)

def getEndOfHTTPHeaders (buf : List UInt8) : Nat := endOfHeaders buf 0

/-- The lines `BufferedReader.readLine` returns: each ends with CR, LF, both or the input. -/
def readLines : List UInt8 → List (List UInt8)
  | [] => []
  | [byte] => if byte = CR ∨ byte = LF then [[]] else [[byte]]
  | byte :: next :: rest =>
      if byte = CR ∧ next = LF then [] :: readLines rest
      else if byte = CR ∨ byte = LF then [] :: readLines (next :: rest)
      else
        match readLines (next :: rest) with
        | [] => [[byte]]
        | line :: lines => (byte :: line) :: lines

def startsWith (text start : String) : Bool := start.toList.isPrefixOf text.toList

def substring (text : String) (start : Nat) : String := String.ofList (text.toList.drop start)

def requestPath (line : String) : Option String :=
  if startsWith line "GET " || startsWith line "POST " || startsWith line "HEAD " ||
      startsWith line "PUT " then
    let target := (line.toList.dropWhile (· ≠ ' ')).drop 1
    if ' ' ∈ target then
      some (String.ofList ((target.takeWhile (· ≠ ' ')).takeWhile (· ≠ '?')))
    else none
  else none

inductive Field where
  | contentEncoding (encoding : ContentEncoding)
  | contentType (value : String)
  | contentLength (value : Int)
  | upgrade
  | chunked
  | other
  deriving DecidableEq, Repr

def contentType (text : String) : String :=
  String.ofList ((text.toList.drop 14).takeWhile (· ≠ ';'))

def field (platform : Platform) (line : List UInt8) : Field :=
  let text := platform.lowercase (platform.decode line)
  if startsWith text "content-encoding: " then
    if substring text 18 = "gzip" then .contentEncoding .gzip
    else if substring text 18 = "deflate" then .contentEncoding .deflate
    else if substring text 18 = "br" then .contentEncoding .brotli
    else .other
  else if startsWith text "content-type: " then .contentType (contentType text)
  else if startsWith text "content-length: " then
    match platform.toInt (substring text 16) 10 with
    | some length => .contentLength length
    | none => .other
  else if startsWith text "upgrade: " then .upgrade
  else if text = "transfer-encoding: chunked" then .chunked
  else .other

/-- An argument of `onChunkReassembled`. -/
structure Reassembled where
  chunk : PayloadChunk
  contentType : String
  path : String
  deriving DecidableEq, Repr

structure HTTPReassembly where
  mReadingHeaders : Bool := false
  mChunkedEncoding : Bool := false
  mContentEncoding : ContentEncoding := .unknown
  mContentType : Option String := none
  mPath : Option String := none
  mContentLength : Int := 0
  mHeadersSize : Nat := 0
  mHeaders : List PayloadChunk := []
  mBody : List PayloadChunk := []
  mReassembleChunks : Bool
  mInvalidHttp : Bool := false
  /-- What the listener has received. -/
  reassembled : List Reassembled := []
  deriving DecidableEq, Repr

inductive Exception where
  | nullPointer
  | indexOutOfBounds
  deriving DecidableEq, Repr

def subchunk (chunk : PayloadChunk) (start size : Nat) : PayloadChunk :=
  { chunk with payload := (chunk.payload.drop start).take size }

def reassembleChunks (chunks : List PayloadChunk) : Option PayloadChunk :=
  match chunks with
  | [] => none
  | first :: _ => some { first with payload := chunks.flatMap (·.payload) }

namespace HTTPReassembly

def reset (state : HTTPReassembly) : HTTPReassembly :=
  { state with
    mReadingHeaders := true
    mContentEncoding := .unknown
    mChunkedEncoding := false
    mContentLength := -1
    mContentType := none
    mPath := none
    mHeadersSize := 0
    mHeaders := []
    mBody := [] }

def readField (state : HTTPReassembly) : Field → HTTPReassembly
  | .contentEncoding encoding => { state with mContentEncoding := encoding }
  | .contentType value => { state with mContentType := some value }
  | .contentLength value => { state with mContentLength := value }
  | .upgrade => { state with mReassembleChunks := false }
  | .chunked => { state with mChunkedEncoding := true }
  | .other => state

def fields (platform : Platform) (payload : List UInt8) : List Field :=
  ((readLines payload).takeWhile (· ≠ [])).map (field platform)

/-- The lines of a chunk, of which `headersSize` bytes belong to the headers. -/
def readLinesOf (platform : Platform) (state : HTTPReassembly) (payload : List UInt8)
    (headersSize : Nat) : HTTPReassembly :=
  let headers := payload.take headersSize
  let counted := { state with mHeadersSize := state.mHeadersSize + headersSize }
  let started :=
    if state.mHeadersSize = 0 then
      match (readLines headers).head?.bind fun line => requestPath (platform.decode line) with
      | some path => { counted with mPath := some path }
      | none => counted
    else counted
  (fields platform headers).foldl readField started

def readHeaders (platform : Platform) (state : HTTPReassembly) (chunk : PayloadChunk) :
    HTTPReassembly × Nat :=
  let headersEnd := getEndOfHTTPHeaders chunk.payload
  if 0 < headersEnd then
    let scanned := readLinesOf platform state chunk.payload headersEnd
    ({ scanned with
        mReadingHeaders := false
        mHeaders := scanned.mHeaders ++ [subchunk chunk 0 headersEnd] }, headersEnd)
  else
    let scanned := readLinesOf platform state chunk.payload chunk.payload.length
    let bounded :=
      if MAX_HEADERS_SIZE < scanned.mHeadersSize then
        { scanned with mReadingHeaders := false, mReassembleChunks := false, mInvalidHttp := true }
      else scanned
    ({ bounded with mHeaders := bounded.mHeaders ++ [chunk] }, chunk.payload.length)

/-- Reassembly is disabled when the end of the message is not known. -/
def checkBounds (state : HTTPReassembly) : HTTPReassembly :=
  let bounded :=
    if !state.mReadingHeaders && state.mContentLength < 0 && !state.mChunkedEncoding &&
        state.mReassembleChunks then
      { state with mReassembleChunks := false }
    else state
  if !bounded.mReassembleChunks then { bounded with mReadingHeaders := false } else bounded

/-- The part of a chunk that belongs to the body; `complete` after the last HTTP chunk. -/
structure BodyPart where
  start : Nat
  size : Int
  complete : Bool := false

def readChunkSize (platform : Platform) (state : HTTPReassembly) (payload : List UInt8)
    (bodyStart : Nat) : HTTPReassembly × BodyPart :=
  let bodySize : Int := payload.length - bodyStart
  if state.mChunkedEncoding && state.mContentLength < 0 && 0 < bodySize then
    match (readLines (payload.drop bodyStart)).head? with
    | none => (state, ⟨bodyStart, bodySize, false⟩)
    | some bytes =>
        let line := platform.decode bytes
        match platform.toInt line 16 with
        | none => (state, ⟨bodyStart, bodySize, false⟩)
        | some length =>
            ({ state with mContentLength := length },
              ⟨bodyStart + line.length + 2, bodySize - (line.length + 2), length = 0⟩)
  else (state, ⟨bodyStart, bodySize, false⟩)

/-- Takes the body in a chunk; the result is `newBodyStart`, when it is set. -/
def collectBody (state : HTTPReassembly) (chunk : PayloadChunk) (part : BodyPart) :
    HTTPReassembly × Option Nat :=
  let add (size : Int) :=
    state.mBody ++
      [if part.start = 0 ∧ size = chunk.payload.length then chunk
        else subchunk chunk part.start size.toNat]
  if 0 < part.size then
    if 0 < state.mContentLength then
      if part.size < state.mContentLength then
        ({ state with
            mContentLength := state.mContentLength - part.size
            mBody := add part.size }, none)
      else
        ({ state with mContentLength := -1, mBody := add state.mContentLength },
          some (part.start + state.mContentLength.toNat + if state.mChunkedEncoding then 2 else 0))
    else ({ state with mBody := add part.size }, none)
  else (state, none)

def decodeBody (platform : Platform) (encoding : ContentEncoding) (body : PayloadChunk) :
    PayloadChunk :=
  if encoding = .unknown then body
  else
    match platform.decodeBody encoding body.payload with
    | some decoded => { body with payload := decoded }
    | none => body

def emit (platform : Platform) (state : HTTPReassembly) : Except Exception HTTPReassembly :=
  match reassembleChunks state.mHeaders with
  | none => .error .indexOutOfBounds
  | some headers =>
      let joined :=
        match reassembleChunks state.mBody with
        | some body =>
            let decoded := decodeBody platform state.mContentEncoding body
            { decoded with payload := headers.payload ++ decoded.payload }
        | none => headers
      let toAdd := if state.mInvalidHttp then { joined with type := .raw } else joined
      match state.mContentType, state.mPath with
      | some contentType, some path =>
          let received := state.reassembled ++ [⟨toAdd, contentType, path⟩]
          .ok (reset { state with reassembled := received })
      | _, _ => .error .nullPointer

/-- The body in a chunk, from `bodyStart` on; the result has `newBodyStart`, when it is set. -/
def handleBody (platform : Platform) (state : HTTPReassembly) (chunk : PayloadChunk)
    (bodyStart : Nat) : Except Exception (HTTPReassembly × Option Nat) :=
  let sized := state.readChunkSize platform chunk.payload bodyStart
  let collected := sized.1.collectBody chunk sized.2
  let closed :=
    if sized.2.complete || !collected.1.mReassembleChunks then
      { collected.1 with mChunkedEncoding := false }
    else collected.1
  if (closed.mContentLength ≤ 0 || !closed.mReassembleChunks) && !closed.mChunkedEncoding then
    match closed.emit platform with
    | .error exception => .error exception
    | .ok next => .ok (next, collected.2)
  else .ok (closed, collected.2)

/-- `handleChunk` up to its recursive call. -/
def handlePart (platform : Platform) (state : HTTPReassembly) (chunk : PayloadChunk) :
    Except Exception (HTTPReassembly × Option Nat) :=
  let read := if state.mReadingHeaders then readHeaders platform state chunk else (state, 0)
  let ready := read.1.checkBounds
  if ready.mReadingHeaders then .ok (ready, none)
  else ready.handleBody platform chunk read.2

def handleChunk (platform : Platform) (state : HTTPReassembly) (chunk : PayloadChunk) :
    Except Exception HTTPReassembly :=
  match handlePart platform state chunk with
  | .error exception => .error exception
  | .ok (next, none) => .ok next
  | .ok (next, some newBodyStart) =>
      if 0 < newBodyStart ∧ newBodyStart < chunk.payload.length then
        handleChunk platform next
          (subchunk chunk newBodyStart (chunk.payload.length - newBodyStart))
      else .ok next
termination_by chunk.payload.length
decreasing_by
  simp only [subchunk, List.length_take, List.length_drop]
  omega

def handleChunks (platform : Platform) (state : HTTPReassembly) :
    List PayloadChunk → Except Exception HTTPReassembly
  | [] => .ok state
  | chunk :: rest =>
      match handleChunk platform state chunk with
      | .error exception => .error exception
      | .ok next => handleChunks platform next rest

/-- The instance as its constructor leaves it, on which `reset` has not been called. -/
def constructed (reassembleChunks : Bool) : HTTPReassembly :=
  { mReassembleChunks := reassembleChunks }

theorem emit_noHeaders (platform : Platform) (state : HTTPReassembly)
    (noHeaders : state.mHeaders = []) : state.emit platform = .error .indexOutOfBounds := by
  simp [emit, noHeaders, reassembleChunks]

theorem checkBounds_constructed (flag : Bool) : (constructed flag).checkBounds = constructed flag := by
  cases flag <;> rfl

theorem readChunkSize_unchunked (platform : Platform) (state : HTTPReassembly)
    (payload : List UInt8) (bodyStart : Nat) (unchunked : state.mChunkedEncoding = false) :
    state.readChunkSize platform payload bodyStart =
      (state, ⟨bodyStart, payload.length - bodyStart, false⟩) := by
  simp [readChunkSize, unchunked]

theorem collectBody_unsized (state : HTTPReassembly) (chunk : PayloadChunk) (part : BodyPart)
    (unsized : state.mContentLength = 0) :
    ∃ body, state.collectBody chunk part = ({ state with mBody := body }, none) := by
  by_cases some' : 0 < part.size
  · simp [collectBody, some', unsized]
  · exact ⟨state.mBody, by simp [collectBody, some']⟩

-- The body stage is reached with no headers collected, and `reassembleChunks` takes the first.
theorem handleBody_noHeaders (platform : Platform) (state : HTTPReassembly) (chunk : PayloadChunk)
    (bodyStart : Nat) (noHeaders : state.mHeaders = []) (unsized : state.mContentLength = 0)
    (unchunked : state.mChunkedEncoding = false) :
    state.handleBody platform chunk bodyStart = .error .indexOutOfBounds := by
  obtain ⟨body, collected⟩ := collectBody_unsized state chunk
    ⟨bodyStart, chunk.payload.length - bodyStart, false⟩ unsized
  have emitted := emit_noHeaders platform { state with mBody := body, mChunkedEncoding := false }
    noHeaders
  cases flag : state.mReassembleChunks <;>
    simp_all [handleBody, readChunkSize_unchunked]

theorem handleChunk_constructed (platform : Platform) (flag : Bool) (chunk : PayloadChunk) :
    handleChunk platform (constructed flag) chunk = .error .indexOutOfBounds := by
  have body := handleBody_noHeaders platform (constructed flag) chunk 0 rfl rfl rfl
  have part : handlePart platform (constructed flag) chunk = .error .indexOutOfBounds := by
    simpa [handlePart, constructed] using (checkBounds_constructed flag).symm ▸ body
  rw [handleChunk, part]

/-- No exception but one of the listener leaves the calls of `handleChunk`. -/
def NeverFails (platform : Platform) (flag : Bool) (chunks : List PayloadChunk) : Prop :=
  ∃ final, handleChunks platform (constructed flag) chunks = .ok final

/-- A constructed instance fails on the first chunk it is given, whatever the chunk is. -/
theorem constructed_neverFails_iff (platform : Platform) (flag : Bool)
    (chunks : List PayloadChunk) : NeverFails platform flag chunks ↔ chunks = [] := by
  constructor
  · rintro ⟨final, handled⟩
    cases chunks with
    | nil => rfl
    | cons chunk rest =>
      rw [handleChunks, handleChunk_constructed] at handled
      cases handled
  · rintro rfl
    exact ⟨constructed flag, rfl⟩

def latinPlatform : Platform where
  decode bytes := String.ofList (bytes.map fun byte => Char.ofNat byte.toNat)
  lowercase text := String.ofList (text.toList.map Char.toLower)
  toInt _ _ := none
  decodeBody _ _ := none

def requestChunk : PayloadChunk :=
  ⟨"GET / HTTP/1.1\r\n\r\n".toList.map fun char => UInt8.ofNat char.toNat, .http, true, 0⟩

theorem requestChunk_fails : ¬ NeverFails latinPlatform true [requestChunk] := by
  rintro ⟨final, handled⟩
  rw [handleChunks, handleChunk_constructed] at handled
  cases handled

end HTTPReassembly

end Ptnet.HttpReassembly
