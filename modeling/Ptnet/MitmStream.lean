import Mathlib.Data.List.Basic

/-!
The framing of `MitmReceiver.run`: header lines come through a `BufferedReader`, payloads
from the socket stream below it. Every byte remembers its position in the stream, so that
equal values at different positions are told apart. A fill of the reader takes at least
one byte and may take any number more: the documentation of `InputStreamReader` promises
no bound on what it reads ahead. Handling of a decoded message is not part of this module.
-/

namespace Ptnet.MitmStream

/-- A byte of the stream, or a zero the receiver's array was created with. -/
structure Byte where
  value : UInt8
  origin : Option Nat
  deriving DecidableEq, Repr

def NEWLINE : UInt8 := 10
def CARRIAGE_RETURN : UInt8 := 13

def isEol (byte : Byte) : Bool := byte.value == NEWLINE || byte.value == CARRIAGE_RETURN

/-- The socket: `reads` is how many bytes the next reads are willing to return. -/
structure Source where
  unread : List Byte
  reads : List Nat
  deriving Repr

/-- `read(buf, off, count)`: no bytes only for no room or at the end of the stream. -/
def Source.read (source : Source) (count : Nat) : List Byte × Source :=
  match source.reads with
  | [] => (source.unread.take count, { source with unread := source.unread.drop count })
  | size :: rest =>
      let returned := min (max size 1) count
      (source.unread.take returned, ⟨source.unread.drop returned, rest⟩)

structure Reader where
  buffer : List Byte
  skipLF : Bool
  source : Source
  deriving Repr

namespace Reader

def fill (reader : Reader) : Reader :=
  match reader.buffer with
  | [] =>
      let (bytes, source) := reader.source.read reader.source.unread.length
      { reader with buffer := bytes, source := source }
  | _ :: _ => reader

/-- Drops the line feed of a pending `\r\n`. -/
def skipLeftover (reader : Reader) : Reader :=
  match reader.buffer with
  | first :: rest =>
      if reader.skipLF ∧ first.value = NEWLINE then { reader with buffer := rest, skipLF := false }
      else { reader with skipLF := false }
  | [] => reader

/-- The loop of `readLine`, with the characters read so far. -/
def readLineLoop : Nat → List Byte → Reader → Option (List Byte) × Reader
  | 0, line, reader => (some line, reader)
  | fuel + 1, line, reader =>
      let filled := reader.fill
      if filled.buffer.isEmpty then (if line.isEmpty then none else some line, filled)
      else
        let current := filled.skipLeftover
        let text := line ++ current.buffer.takeWhile fun byte => !isEol byte
        match current.buffer.dropWhile fun byte => !isEol byte with
        | [] => readLineLoop fuel text { current with buffer := [] }
        | eol :: rest =>
            (some text, { current with buffer := rest, skipLF := eol.value == CARRIAGE_RETURN })

def readLine (reader : Reader) : Option (List Byte) × Reader :=
  readLineLoop (reader.source.unread.length + 2) [] reader

end Reader

/-- Decoding of non-ASCII text, which no encoded header contains. -/
structure Charset where
  nonAscii : List UInt8 → List Char
  unicodeDigit : Char → Option Nat
  charCount : List UInt8 → Nat
  charBytes : Nat → List UInt8 → Nat

def isAscii (bytes : List UInt8) : Bool := bytes.all fun byte => byte.toNat < 128

def decodeText (charset : Charset) (bytes : List UInt8) : List Char :=
  if isAscii bytes then bytes.map fun byte => Char.ofNat byte.toNat else charset.nonAscii bytes

/-- `reader.skip`, in the characters the buffered bytes stand for. -/
def skipLoop (charset : Charset) : Nat → Nat → Reader → Reader
  | 0, _, reader => reader
  | fuel + 1, count, reader =>
      if count = 0 then reader
      else
        let filled := reader.fill
        if filled.buffer.isEmpty then filled
        else
          let current := filled.skipLeftover
          let values := current.buffer.map (·.value)
          if count ≤ charset.charCount values then
            { current with buffer := current.buffer.drop (charset.charBytes count values) }
          else skipLoop charset fuel (count - charset.charCount values) { current with buffer := [] }

def characterDigit (charset : Charset) (char : Char) : Option Nat :=
  if char.toNat < 128 then (if char.isDigit then some (char.toNat - '0'.toNat) else none)
  else charset.unicodeDigit char

def parseDigits (charset : Charset) : List Char → Nat → Option Nat
  | [], value => some value
  | char :: rest, value =>
      match characterDigit charset char with
      | some digit => parseDigits charset rest (10 * value + digit)
      | none => none

/-- The values of a Kotlin integer type. -/
structure IntType where
  least : Int
  greatest : Int

def INT : IntType := ⟨-2147483648, 2147483647⟩
def LONG : IntType := ⟨-9223372036854775808, 9223372036854775807⟩

def IntType.check (type : IntType) (value : Int) : Option Int :=
  if type.least ≤ value ∧ value ≤ type.greatest then some value else none

/-- `String.toInt()` and `String.toLong()`; `none` is a `NumberFormatException`. -/
def parseInteger (charset : Charset) (type : IntType) : List Char → Option Int
  | [] => none
  | first :: rest =>
      if first = '-' then
        if rest = [] then none
        else (parseDigits charset rest 0).bind fun value => type.check (-(value : Int))
      else if first = '+' then
        if rest = [] then none
        else (parseDigits charset rest 0).bind fun value => type.check value
      else (parseDigits charset (first :: rest) 0).bind fun value => type.check value

inductive MsgType where
  | UNKNOWN
  | RUNNING
  | TLS_ERROR
  | HTTP_ERROR
  | HTTP_REQUEST
  | HTTP_REPLY
  | TCP_CLIENT_MSG
  | TCP_SERVER_MSG
  | TCP_ERROR
  | WEBSOCKET_CLIENT_MSG
  | WEBSOCKET_SERVER_MSG
  | DATA_TRUNCATED
  | MASTER_SECRET
  | LOG
  | JS_INJECTED
  deriving DecidableEq, Repr

def parseMsgType (str : String) : MsgType :=
  match str with
  | "running" => .RUNNING
  | "tls_err" => .TLS_ERROR
  | "http_err" => .HTTP_ERROR
  | "http_req" => .HTTP_REQUEST
  | "http_rep" => .HTTP_REPLY
  | "tcp_climsg" => .TCP_CLIENT_MSG
  | "tcp_srvmsg" => .TCP_SERVER_MSG
  | "tcp_err" => .TCP_ERROR
  | "ws_climsg" => .WEBSOCKET_CLIENT_MSG
  | "ws_srvmsg" => .WEBSOCKET_SERVER_MSG
  | "trunc" => .DATA_TRUNCATED
  | "secret" => .MASTER_SECRET
  | "log" => .LOG
  | "js_inject" => .JS_INJECTED
  | _ => .UNKNOWN

structure Header where
  tstamp : Int
  port : Int
  msgType : String
  msgLen : Int
  deriving DecidableEq, Repr

/-- The tokens of a `StringTokenizer(header, ":")`. -/
def tokens (header : List Char) : List (List Char) :=
  (header.splitOn ':').filter fun token => !token.isEmpty

/-- `none` is a missing token or a number in the wrong format: both end the receiver. -/
def parseHeader (charset : Charset) (header : List Char) : Option Header :=
  match tokens header with
  | tkTStamp :: tkPort :: msgType :: tkLen :: _ =>
      (parseInteger charset LONG tkTStamp).bind fun tstamp =>
        (parseInteger charset INT tkPort).bind fun port =>
          (parseInteger charset INT tkLen).map fun msgLen =>
            ⟨tstamp, port, String.ofList msgType, msgLen⟩
  | _ => none

/-- The loop that fills the array of a message from the socket. -/
def readPayload : Nat → Nat → Source → List Byte × Source
  | 0, count, source => (List.replicate count ⟨0, none⟩, source)
  | fuel + 1, count, source =>
      if count = 0 then ([], source)
      else
        match source.read count with
        | ([], closed) => (List.replicate count ⟨0, none⟩, closed)
        | (first :: bytes, next) =>
            let (rest, last) := readPayload fuel (count - (bytes.length + 1)) next
            (first :: bytes ++ rest, last)

structure Decoded where
  tstamp : Int
  port : Int
  type : MsgType
  payload : List Byte
  deriving DecidableEq, Repr

inductive Outcome where
  | endOfStream
  | invalidHeader
  | illegalSkip
  | outOfFuel
  deriving DecidableEq, Repr

def MAX_MESSAGE : Int := 67108864

/-- The loop of `run` while the addon is connected, one message per iteration. -/
def run (charset : Charset) : Nat → Reader → List Decoded × Outcome
  | 0, _ => ([], .outOfFuel)
  | fuel + 1, reader =>
      match reader.readLine with
      | (none, _) => ([], .endOfStream)
      | (some line, after) =>
          match parseHeader charset (decodeText charset (line.map (·.value))) with
          | none => ([], .invalidHeader)
          | some header =>
              if header.msgLen < 0 then ([], .illegalSkip)
              else if MAX_MESSAGE < header.msgLen then
                run charset fuel
                  (skipLoop charset (after.source.unread.length + 2) header.msgLen.toNat after)
              else
                let count := header.msgLen.toNat
                let (msg, source) := readPayload count count after.source
                let (rest, outcome) := run charset fuel { after with source := source }
                (⟨header.tstamp, header.port, parseMsgType header.msgType, msg⟩ :: rest, outcome)

end Ptnet.MitmStream
