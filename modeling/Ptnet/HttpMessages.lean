import Ptnet.HttpReassembly
import Ptnet.Pieces

/-!
HTTP/1.1 messages of one direction and the splits of their bytes. A message is framed by its
`Content-Length` or by the chunked coding; `WellCut` says which boundaries between payload
chunks the reassembly can take.
-/

namespace Ptnet.HttpReassembly

open Connection (PayloadChunk)
open Pieces (cutAt leftAt)

def ascii (text : String) : List UInt8 := text.toList.map fun char => char.toNat.toUInt8

def crlf : List UInt8 := [CR, LF]

/-- A chunk of the chunked coding: the line with its size and extensions, and its data. -/
structure HttpChunk where
  line : List UInt8
  data : List UInt8
  deriving DecidableEq, Repr

inductive Body where
  | sized (bytes : List UInt8)
  | chunked (chunks : List HttpChunk) (last : List UInt8) (trailer : List (List UInt8))
  deriving DecidableEq, Repr

namespace Body

def encoded : Body → List UInt8
  | .sized bytes => bytes
  | .chunked chunks last trailer =>
      (chunks.flatMap fun chunk => chunk.line ++ crlf ++ chunk.data ++ crlf) ++ last ++ crlf ++
        (trailer.flatMap (· ++ crlf)) ++ crlf

def content : Body → List UInt8
  | .sized bytes => bytes
  | .chunked chunks _ _ => chunks.flatMap (·.data)

end Body

structure Message where
  start : List UInt8
  headers : List (List UInt8)
  body : Body
  deriving DecidableEq, Repr

namespace Message

def header (message : Message) : List UInt8 :=
  ((message.start :: message.headers).flatMap (· ++ crlf)) ++ crlf

def bytes (message : Message) : List UInt8 := message.header ++ message.body.encoded

def content (message : Message) : List UInt8 := message.header ++ message.body.content

end Message

section Syntax

def toLower (byte : UInt8) : UInt8 := if 65 ≤ byte ∧ byte ≤ 90 then byte + 32 else byte

def isBlank (byte : UInt8) : Bool := byte = 32 || byte = 9

/-- The value of a header line with this name; blanks around the value are not part of it. -/
def fieldValue (name : String) (line : List UInt8) : Option (List UInt8) :=
  if (line.takeWhile (· ≠ 58)).map toLower = ascii name ∧ (58 : UInt8) ∈ line then
    some ((((line.dropWhile (· ≠ 58)).drop 1).dropWhile isBlank).rdropWhile isBlank)
  else none

def digitValue (byte : UInt8) : Option Nat :=
  if 48 ≤ byte ∧ byte ≤ 57 then some (byte.toNat - 48)
  else if 97 ≤ toLower byte ∧ toLower byte ≤ 102 then some ((toLower byte).toNat - 87)
  else none

def numberValue (radix : Nat) : List UInt8 → Nat → Option Nat
  | [], value => some value
  | byte :: rest, value =>
      match digitValue byte with
      | some digit => if digit < radix then numberValue radix rest (value * radix + digit) else none
      | none => none

def number (radix : Nat) (text : List UInt8) : Option Nat :=
  if text = [] then none else numberValue radix text 0

/-- The size in a chunk-size line: hexadecimal digits, then perhaps extensions. -/
def chunkSize (line : List UInt8) : Option Nat :=
  number 16 ((line.takeWhile (· ≠ 59)).rdropWhile isBlank)

def IsLine (line : List UInt8) : Prop := line ≠ [] ∧ CR ∉ line ∧ LF ∉ line

instance (line : List UInt8) : Decidable (IsLine line) :=
  inferInstanceAs (Decidable (line ≠ [] ∧ CR ∉ line ∧ LF ∉ line))

def Framed (headers : List (List UInt8)) : Body → Prop
  | .sized bytes =>
      (∃ line ∈ headers, (fieldValue "content-length" line).isSome) ∧
        ∀ line ∈ headers, fieldValue "transfer-encoding" line = none ∧
          ∀ value ∈ fieldValue "content-length" line, number 10 value = some bytes.length
  | .chunked chunks last trailer =>
      (∃ line ∈ headers, (fieldValue "transfer-encoding" line).map (·.map toLower) =
          some (ascii "chunked")) ∧
        (∀ line ∈ headers, fieldValue "content-length" line = none) ∧
        (∀ chunk ∈ chunks, IsLine chunk.line ∧ chunk.data ≠ [] ∧
          chunkSize chunk.line = some chunk.data.length) ∧
        (IsLine last ∧ chunkSize last = some 0) ∧ ∀ line ∈ trailer, IsLine line

/-- A message with a short header block and no content coding. -/
structure WellFormed (message : Message) : Prop where
  lines : ∀ line ∈ message.start :: message.headers, IsLine line
  short : message.header.length < MAX_HEADERS_SIZE
  framed : Framed message.headers message.body
  identity : ∀ line ∈ message.headers, ∀ value ∈ fieldValue "content-encoding" line,
    value.map toLower = ascii "identity"

end Syntax

structure Framing where
  length : Int
  chunked : Bool
  encoding : ContentEncoding
  enabled : Bool
  deriving DecidableEq, Repr

def Framing.read (framing : Framing) : Field → Framing
  | .contentEncoding encoding => { framing with encoding := encoding }
  | .contentLength length => { framing with length := length }
  | .upgrade => { framing with enabled := false }
  | .chunked => { framing with chunked := true }
  | .contentType _ | .other => framing

def unframed (enabled : Bool) : Framing := ⟨-1, false, .unknown, enabled⟩

def Framing.bounded (framing : Framing) : Framing :=
  { framing with enabled := framing.enabled && (0 ≤ framing.length || framing.chunked) }

/-- What the lines and parts of lines in the pieces of a header block say. -/
def shownFraming (platform : Platform) (enabled : Bool) (pieces : List (List UInt8)) : Framing :=
  (pieces.flatMap (HTTPReassembly.fields platform)).foldl Framing.read (unframed enabled)

def shownPath (platform : Platform) (pieces : List (List UInt8)) : Option String :=
  (pieces.head?.bind fun piece => (readLines piece).head?).bind fun line =>
    requestPath (platform.decode line)

def Field.isType : Field → Bool
  | .contentType _ => true
  | _ => false

/-- The pieces show a path and a content type, without which no message is passed on. -/
def Named (platform : Platform) (pieces : List (List UInt8)) : Bool :=
  (pieces.flatMap (HTTPReassembly.fields platform)).any Field.isType &&
    (shownPath platform pieces).isSome

/-- The blank line arrives with the end of the line before it, and nothing is passed on
    before it does. -/
def HeaderCut (platform : Platform) (enabled : Bool) (pieces : List (List UInt8)) : Prop :=
  (∃ last ∈ pieces.getLast?, 4 ≤ last.length) ∧
    (pieces.length = 1 ∨ (shownFraming platform enabled pieces.dropLast).enabled = true)

/-- The end of a body is found by its length, or it is the end of the payload chunk which
    brings `left` behind the headers. -/
def SizedCut (framing : Framing) (left bytes : List UInt8) : Prop :=
  framing.chunked = false ∧ framing.encoding = .unknown ∧
    (bytes ≠ [] ∧ framing.length = bytes.length ∧
        (framing.enabled = true ∨ bytes.length ≤ left.length) ∨
      left = bytes ∧
        (framing.length ≤ 0 ∨ framing.enabled = false ∧ (bytes.length : Int) < framing.length))

/-- A chunk-size line which is read as `size`. -/
def SizeRead (platform : Platform) (line : List UInt8) (size : Nat) : Prop :=
  platform.toInt (platform.decode line) 16 = some (size : Int) ∧
    (platform.decode line).length = line.length

/-- Every size line arrives with its line end, so does the last byte of every chunk, and a
    payload chunk ends with the line of the last chunk, or inside its line end. -/
def ChunksCut (platform : Platform) (last : List UInt8) :
    List HttpChunk → List (List UInt8) → Prop
  | [], pieces =>
      SizeRead platform last 0 ∧
        (pieces.head? = some last ∨ pieces.head? = some (last ++ [CR]) ∨
          pieces.head? = some (last ++ crlf))
  | chunk :: rest, pieces =>
      let line := cutAt pieces (chunk.line.length + 2)
      let data := cutAt line.2 (chunk.data.length - 1)
      let ending := cutAt data.2 3
      SizeRead platform chunk.line chunk.data.length ∧ line.1.length = 1 ∧ ending.1.length = 1 ∧
        ChunksCut platform last rest ending.2

/-- Where the reassembly, enabled or not, tells the messages apart. What follows a message
    without a name does not count, as an exception ends the run there. -/
def WellCut (platform : Platform) : Bool → List Message → List (List UInt8) → Prop
  | _, [], _ => True
  | enabled, message :: rest, pieces =>
      let header := cutAt pieces message.header.length
      let framing := (shownFraming platform enabled header.1).bounded
      HeaderCut platform enabled header.1 ∧
        match message.body with
        | .sized bytes =>
            SizedCut framing (leftAt pieces message.header.length) bytes ∧
              (Named platform header.1 = true →
                WellCut platform framing.enabled rest (cutAt header.2 bytes.length).2)
        | .chunked chunks last trailer =>
            framing = ⟨-1, true, .unknown, true⟩ ∧ ChunksCut platform last chunks header.2 ∧
              (Named platform header.1 = true → trailer = [] ∧ rest = [])

def payloads (chunks : List PayloadChunk) : List (List UInt8) := chunks.map (·.payload)

/-- The chunks bring the messages one after the other. -/
structure Splits (messages : List Message) (chunks : List PayloadChunk) : Prop where
  stream : (payloads chunks).flatten = messages.flatMap Message.bytes
  nonempty : ∀ chunk ∈ chunks, chunk.payload ≠ []

def started : HTTPReassembly := HTTPReassembly.reset { mReassembleChunks := true }

/-- If no exception is raised, one chunk is emitted for each message, with its content. -/
def Reassembles (platform : Platform) (messages : List Message) (chunks : List PayloadChunk) :
    Prop :=
  ∀ final, started.handleChunks platform chunks = .ok final →
    final.reassembled.map (·.chunk.payload) = messages.map Message.content

end Ptnet.HttpReassembly
