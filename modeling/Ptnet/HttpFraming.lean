import Ptnet.HttpStreams

/-!
The messages of a well cut stream, one after the other. A stream that is cut inside the blank
line of a header block shows what becomes of the others.
-/

namespace Ptnet.HttpReassembly

open Connection (PayloadChunk)
open Pieces (cutAt leftAt resume cutAt_flatten cutAt_within)
open HTTPReassembly

section Messages

theorem header_filled (message : Message) : message.header ≠ [] := by
  simp [Message.header, crlf]

variable {platform : Platform} {state : HTTPReassembly} {enabled named : Bool}
  {done : List (List UInt8)}

theorem message_headers (message : Message) (chunks : List PayloadChunk) (after : List UInt8)
    (length : Int) (chunked still : Bool) (wellFormed : WellFormed message)
    (reading : Reading platform state enabled [] done) (filled : Filled chunks)
    (stream : (payloads chunks).flatten = message.header ++ after)
    (cut : HeaderCut platform enabled (cutAt (payloads chunks) message.header.length).1)
    (framed : (shownFraming platform enabled
        (cutAt (payloads chunks) message.header.length).1).bounded =
      ⟨length, chunked, .unknown, still⟩) :
    ∃ next chunk piece left rest,
      handleChunks platform state chunks =
        handleFrom platform chunk rest (handleBody platform next chunk piece.length) ∧
      InBody next message.header [] length chunked still
        (Named platform (cutAt (payloads chunks) message.header.length).1) done ∧
      chunk.payload = piece ++ left ∧ left = leftAt (payloads chunks) message.header.length ∧
      resume left (payloads rest) = (cutAt (payloads chunks) message.header.length).2 ∧
      Filled rest ∧ (resume left (payloads rest)).flatten = after := by
  obtain ⟨next, chunk, piece, left, rest, handled, inBody, payload, leftover, resumed, kept⟩ :=
    headers_read chunks message.header after [] length chunked still reading
      (header_block message wellFormed) wellFormed.short.le (header_filled message) filled stream
      cut.1 cut.2 framed
  refine ⟨next, chunk, piece, left, rest, handled, inBody, payload, leftover, resumed, kept, ?_⟩
  rw [resumed, (cutAt_flatten _ _).2, stream, List.drop_left]

/-- A body framed by its length, in the chunk that ends the headers and those behind it. -/
theorem sized_read (bytes : List UInt8) (chunk : PayloadChunk) (start : Nat)
    (rest : List PayloadChunk) (after : List UInt8) {head : List UInt8} {length : Int}
    (inBody : InBody state head [] length false enabled named done)
    (within : start ≤ chunk.payload.length) (filled : Filled rest)
    (stream : (resume (chunk.payload.drop start) (payloads rest)).flatten = bytes ++ after)
    (cut : SizedCut ⟨length, false, .unknown, enabled⟩ (chunk.payload.drop start) bytes) :
    (∃ exception, handleFrom platform chunk rest (handleBody platform state chunk start) =
        .error exception) ∨
      named = true ∧
        ∃ next later, handleFrom platform chunk rest (handleBody platform state chunk start) =
            handleChunks platform next later ∧
          Reading platform next enabled [] (done ++ [head ++ bytes]) ∧ Filled later ∧
          payloads later =
            (cutAt (resume (chunk.payload.drop start) (payloads rest)) bytes.length).2 := by
  obtain ⟨-, -, ⟨some, rfl, present⟩ | ⟨whole, unknown⟩⟩ := cut
  · rcases Nat.lt_or_ge (chunk.payload.drop start).length bytes.length with short | long
    · obtain rfl : enabled = true := present.resolve_right (not_le.mpr short)
      exact body_read rest chunk start bytes after inBody some within filled stream
    · exact body_ended rest chunk start bytes after inBody some within filled stream long
  · rw [← whole] at unknown
    rcases handleBody_rest platform chunk start inBody within unknown with
      ⟨exception, failed⟩ | ⟨known, next, ended, reading⟩
    · exact Or.inl ⟨exception, by rw [failed]; rfl⟩
    · rw [whole, List.nil_append] at reading
      refine Or.inr ⟨known, next, rest, by rw [ended]; rfl, reading, filled, ?_⟩
      rw [cutAt_within _ _ _ (by rw [whole]), whole, List.drop_length, Pieces.resume_nil]

/-- A chunked message, which only the end of the stream may follow. -/
theorem chunked_read (chunks : List HttpChunk) (last : List UInt8) (chunk : PayloadChunk)
    (start : Nat) (rest : List PayloadChunk) (after : List UInt8) {final : HTTPReassembly}
    {head : List UInt8} (inBody : InBody state head [] (-1) true true named done)
    (filled : Filled rest) (present : chunk.payload.drop start ≠ [])
    (proper : ∀ part ∈ chunks, IsLine part.line ∧ part.data ≠ []) (lastLine : IsLine last)
    (stream : (resume (chunk.payload.drop start) (payloads rest)).flatten =
      (chunks.flatMap fun part => part.line ++ crlf ++ part.data ++ crlf) ++
        (last ++ (crlf ++ after)))
    (cut : ChunksCut platform last chunks (resume (chunk.payload.drop start) (payloads rest)))
    (ends : named = true → after = crlf)
    (finished : handleFrom platform chunk rest (handleBody platform state chunk start) = .ok final) :
    named = true ∧
      final.reassembled.map (·.chunk.payload) = done ++ [head ++ chunks.flatMap (·.data)] := by
  rcases chunks_read chunks last chunk start rest after inBody filled present proper lastLine stream
    cut with ⟨exception, failed⟩ | ⟨known, next, later, handled, reading, kept, ending, -, left⟩
  · rw [failed] at finished
    cases finished
  · rw [ends known] at left
    rcases lineEnd_read later [] reading kept
        (List.IsSuffix.isInfix ⟨ending, left⟩) rfl with ⟨exception, failed⟩ | ⟨ended, closed, received⟩
    · rw [handled, failed] at finished
      cases finished
    · rw [handled, closed] at finished
      obtain rfl := Except.ok.inj finished
      exact ⟨known, received⟩

theorem messages_read (messages : List Message) (chunks : List PayloadChunk)
    (final : HTTPReassembly) (wellFormed : ∀ message ∈ messages, WellFormed message)
    (reading : Reading platform state enabled [] done) (filled : Filled chunks)
    (stream : (payloads chunks).flatten = messages.flatMap Message.bytes)
    (cut : WellCut platform enabled messages (payloads chunks))
    (finished : handleChunks platform state chunks = .ok final) :
    final.reassembled.map (·.chunk.payload) = done ++ messages.map Message.content := by
  induction messages generalizing state chunks enabled done with
  | nil =>
      cases chunks with
      | nil =>
          obtain rfl := Except.ok.inj finished
          simpa using reading.received
      | cons chunk rest =>
          have nonempty := filled chunk List.mem_cons_self
          simp [payloads, nonempty] at stream
  | cons message rest ih =>
      have own := wellFormed message List.mem_cons_self
      have later := fun other member => wellFormed other (List.mem_cons_of_mem message member)
      -- The head message is read to its end; the induction hypothesis starts behind its cut.
      obtain ⟨headerCut, bodyCut⟩ := cut
      have streamBody : (payloads chunks).flatten =
          message.header ++ (message.body.encoded ++ rest.flatMap Message.bytes) := by
        rw [stream]
        simp [Message.bytes, List.append_assoc]
      obtain ⟨start, headers, body⟩ := message
      cases body with
      | sized bytes =>
          obtain ⟨bytesCut, restCut⟩ := bodyCut
          obtain ⟨next, chunk, piece, left, others, handled, inBody, payload, leftover, resumed, kept,
            streamRest⟩ := message_headers _ chunks _ _ false _ own reading filled streamBody headerCut
              (by rw [← bytesCut.1, ← bytesCut.2.1])
          have dropped : chunk.payload.drop piece.length = left := by simp [payload]
          rw [handled] at finished
          rw [← leftover, ← dropped] at bytesCut
          rw [← dropped] at streamRest
          rcases sized_read bytes chunk piece.length others (rest.flatMap Message.bytes) inBody
              (by simp [payload]) kept streamRest ⟨rfl, rfl, bytesCut.2.2⟩ with
            ⟨exception, failed⟩ | ⟨known, sent, remaining, ended, reading', kept', left'⟩
          · rw [failed] at finished
            cases finished
          · rw [ended] at finished
            have outcome := ih remaining later reading' kept'
              (by
                rw [left', (cutAt_flatten _ _).2, streamRest]
                exact List.drop_left)
              (by rw [left', dropped, resumed]; exact restCut known) finished
            rw [outcome]
            simp [Message.content, Body.content]
      | chunked parts last trailer =>
          obtain ⟨framed, partsCut, lastMessage⟩ := bodyCut
          obtain ⟨next, chunk, piece, left, others, handled, inBody, payload, -, resumed, kept,
            streamRest⟩ := message_headers _ chunks _ (-1) true true own reading filled streamBody
              headerCut framed
          have dropped : chunk.payload.drop piece.length = left := by simp [payload]
          obtain ⟨-, -, proper, ⟨lastLine, -⟩, -⟩ := own.framed
          have lines : ∀ part ∈ parts, IsLine part.line ∧ part.data ≠ [] := fun part member =>
            ⟨(proper part member).1, (proper part member).2.1⟩
          rw [handled] at finished
          rw [← resumed] at partsCut
          let after := trailer.flatMap (· ++ crlf) ++ crlf ++ rest.flatMap Message.bytes
          have streamParts : (resume left (payloads others)).flatten =
              (parts.flatMap fun part => part.line ++ crlf ++ part.data ++ crlf) ++
                (last ++ (crlf ++ after)) := by
            rw [streamRest]
            simp [Body.encoded, after, List.append_assoc]
          have ends : Named platform (cutAt (payloads chunks)
              (Message.header ⟨start, headers, .chunked parts last trailer⟩).length).1 = true →
              after = crlf := by
            intro known
            obtain ⟨rfl, rfl⟩ := lastMessage known
            simp [after]
          obtain ⟨known, outcome⟩ : _ ∧ final.reassembled.map (·.chunk.payload) =
              done ++ [_ ++ parts.flatMap (·.data)] := by
            -- The header block may end with its piece; the first chunk size opens the next.
            by_cases none : left = []
            · subst none
              rw [show piece.length = chunk.payload.length by simp [payload],
                handleBody_due platform chunk inBody, handleFrom] at finished
              cases others with
              | nil =>
                  have lengths := congrArg List.length streamParts
                  simp [payloads, crlf] at lengths
              | cons following others =>
                  have nonempty := kept following List.mem_cons_self
                  rw [handleChunks_cons, handlePart_body platform following inBody (Or.inr rfl)]
                    at finished
                  rw [Pieces.resume_nil, ← resume_whole following others nonempty]
                    at streamParts partsCut
                  exact chunked_read parts last following 0 others after inBody
                    (fun other member => kept other (List.mem_cons_of_mem following member))
                    (by rwa [List.drop_zero]) lines lastLine streamParts partsCut ends finished
            · rw [← dropped] at streamParts partsCut
              exact chunked_read parts last chunk piece.length others after inBody kept
                (by rwa [dropped]) lines lastLine streamParts partsCut ends finished
          -- Only the last message of a stream that is cut well has a chunked body.
          obtain ⟨-, rfl⟩ := lastMessage known
          rw [outcome]
          simp [Message.content, Body.content]

end Messages

/-- On a well cut stream every message comes out as it was sent. -/
theorem wellCut_reassembles (platform : Platform) (messages : List Message)
    (chunks : List PayloadChunk) (wellFormed : ∀ message ∈ messages, WellFormed message)
    (splits : Splits messages chunks) (cut : WellCut platform true messages (payloads chunks)) :
    Reassembles platform messages chunks := by
  intro final finished
  have outcome := messages_read messages chunks final wellFormed (started_reading platform)
    splits.nonempty splits.stream cut finished
  simpa using outcome

section Runs

def asciiPlatform : Platform where
  decode bytes := String.ofList (bytes.map fun byte => Char.ofNat byte.toNat)
  lowercase text := String.ofList (text.toList.map Char.toLower)
  toInt text radix := (number radix (ascii text)).map Int.ofNat
  decodeBody _ _ := none

def sentChunk (text : String) : PayloadChunk := ⟨ascii text, .http, true, 0⟩

def sizedMessage : Message where
  start := ascii "POST /a HTTP/1.1"
  headers := [ascii "Content-Type: t", ascii "Content-Length: 5"]
  body := .sized (ascii "hello")

def chunkedMessage : Message where
  start := ascii "POST /b HTTP/1.1"
  headers := [ascii "Content-Type: t", ascii "Transfer-Encoding: chunked"]
  body := .chunked [⟨ascii "3", ascii "abc"⟩] (ascii "0") []

theorem sizedMessage_wellFormed : WellFormed sizedMessage where
  lines := by decide +kernel
  short := by decide +kernel
  framed := ⟨by decide +kernel, by decide +kernel⟩
  identity := by decide +kernel

theorem chunkedMessage_wellFormed : WellFormed chunkedMessage where
  lines := by decide +kernel
  short := by decide +kernel
  framed := ⟨by decide +kernel, by decide +kernel, by decide +kernel, by decide +kernel,
    by decide +kernel⟩
  identity := by decide +kernel

/-- The first body is cut, and the second message follows its end. -/
def pipelinedChunks : List PayloadChunk :=
  [sentChunk "POST /a HTTP/1.1\r\nContent-Type: t\r\nContent-Length: 5\r\n\r\nhe",
    sentChunk ("lloPOST /b HTTP/1.1\r\nContent-Type: t\r\nTransfer-Encoding: chunked\r\n\r\n" ++
      "3\r\nabc\r\n0\r\n"),
    sentChunk "\r\n"]

theorem pipelinedChunks_wellCut :
    WellCut asciiPlatform true [sizedMessage, chunkedMessage] (payloads pipelinedChunks) := by
  refine ⟨⟨⟨_, rfl, by decide +kernel⟩, by decide +kernel⟩, ⟨?_, fun _ =>
    ⟨⟨⟨_, rfl, by decide +kernel⟩, by decide +kernel⟩, by decide +kernel, ?_, fun _ => ⟨rfl, rfl⟩⟩⟩⟩
  · exact ⟨by decide +kernel, by decide +kernel, Or.inl ⟨by decide +kernel, by decide +kernel,
      Or.inl (by decide +kernel)⟩⟩
  · exact ⟨⟨by decide +kernel, by decide +kernel⟩, by decide +kernel, by decide +kernel,
      ⟨by decide +kernel, by decide +kernel⟩, by decide +kernel⟩

theorem pipelinedChunks_reassembles :
    Reassembles asciiPlatform [sizedMessage, chunkedMessage] pipelinedChunks :=
  wellCut_reassembles asciiPlatform _ _
    (by
      intro message member
      rcases List.mem_pair.mp member with rfl | rfl
      · exact sizedMessage_wellFormed
      · exact chunkedMessage_wellFormed)
    ⟨by decide +kernel, by decide +kernel⟩ pipelinedChunks_wellCut

def cutTerminator : List PayloadChunk :=
  [sentChunk "POST /a HTTP/1.1\r\nContent-Type: t\r\nContent-Length: 5\r\n\r", sentChunk "\nhello"]

def headersCollected (chunks : List PayloadChunk) : HTTPReassembly :=
  { started with
    mContentType := some "t"
    mPath := some "/a"
    mContentLength := 5
    mHeadersSize := (payloads chunks).flatten.length
    mHeaders := chunks }

theorem cutTerminator_kept :
    handleChunks asciiPlatform started cutTerminator = .ok (headersCollected cutTerminator) := by
  have first : handlePart asciiPlatform started cutTerminator[0] =
      .ok (headersCollected (cutTerminator.take 1), none) := by decide +kernel
  have second : handlePart asciiPlatform (headersCollected (cutTerminator.take 1))
      cutTerminator[1] = .ok (headersCollected cutTerminator, none) := by decide +kernel
  rw [show cutTerminator = [cutTerminator[0], cutTerminator[1]] from rfl, handleChunks_cons, first,
    handleFrom, handleChunks_cons, second, handleFrom, handleChunks]
  rfl

/-- No boundary is looked for across two chunks, so nothing is emitted. -/
theorem cutTerminator_lost :
    ¬ ∀ (platform : Platform) (messages : List Message) (chunks : List PayloadChunk),
      (∀ message ∈ messages, WellFormed message) → Splits messages chunks →
        Reassembles platform messages chunks := by
  intro reassembles
  have wellFormed : ∀ message ∈ [sizedMessage], WellFormed message := by
    intro message member
    obtain rfl := List.mem_singleton.mp member
    exact sizedMessage_wellFormed
  have outcome := reassembles asciiPlatform [sizedMessage] cutTerminator wellFormed
    ⟨by decide +kernel, by decide +kernel⟩ _ cutTerminator_kept
  simp [headersCollected, started, reset] at outcome

end Runs

end Ptnet.HttpReassembly
