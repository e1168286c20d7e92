import Ptnet.CStrings
import Ptnet.HttpMessages
import Ptnet.Machine

/-!
The clients of the HTTP dumper. A client's runnable reads the request and sends the start of
the response; from then on the dumper sends it the chunks, until the client is closed. The
responses are compared with the grammar of HTTP/1.1.
-/

namespace Ptnet.HttpClient

open CStrings (isDigit)
open HttpReassembly (CR LF ascii crlf Body Message IsLine Framed fieldValue digitValue numberValue
  chunkSize getEndOfHTTPHeaders readLines)

/-- The bytes which the socket has taken. `room` is what it still takes before a write fails,
    if the connection is lost, and `error` the message of the exception it then raises. -/
structure OutputStream where
  written : List UInt8 := []
  closed : Bool := false
  room : Option Nat := none
  error : Option String := none
  deriving DecidableEq, Repr

abbrev Written := Except (OutputStream × Option String) OutputStream

namespace OutputStream

def write (out : OutputStream) (data : List UInt8) : Written :=
  if out.closed then .error (out, some "Socket closed")
  else match out.room with
    | none => .ok { out with written := out.written ++ data }
    | some room =>
        if data.length ≤ room then
          .ok { out with written := out.written ++ data, room := some (room - data.length) }
        else
          .error ({ out with written := out.written ++ data.take room, room := some 0 }, out.error)

end OutputStream

namespace ChunkedOutputStream

/-- The format `%x`. -/
def hexText (size : Nat) : List UInt8 := (Nat.toDigits 16 size).map fun char => char.toNat.toUInt8

def write (out : OutputStream) (data : List UInt8) : Written := do
  let out ← out.write (hexText data.length ++ crlf)
  let out ← out.write data
  out.write crlf

def finish (out : OutputStream) : Written := out.write (ascii "0\r\n\r\n")

end ChunkedOutputStream

open ChunkedOutputStream (hexText)

/-- Where the runnable of the client is. An exception which it does not catch ends it. -/
inductive Progress where
  | reading
  | finished
  | died
  deriving DecidableEq, Repr

inductive Read where
  | data (bytes : List UInt8)
  | endOfStream
  | ioException (message : Option String)
  deriving DecidableEq, Repr

def INPUT_BUFSIZE : Nat := 1024

structure ClientHandler where
  mFname : List UInt8
  mMimeType : List UInt8
  out : OutputStream := {}
  buf : List UInt8 := List.replicate INPUT_BUFSIZE 0
  sofar : Int := 0
  progress : Progress := .reading
  mHasError : Bool := false
  mReadyForData : Bool := false
  mHeaderSent : Bool := false
  mIsClosed : Bool := false
  deriving DecidableEq, Repr

def okText (mimeType : List UInt8) : List UInt8 :=
  ascii "HTTP/1.1 200 OK\n" ++ ascii "Content-Type: " ++ mimeType ++
    ascii "\nConnection: close\nTransfer-Encoding: chunked\n\n"

def foundText (fname : List UInt8) : List UInt8 :=
  ascii "HTTP/1.1 302 Found\n" ++ ascii "    Location: /" ++ fname ++ ascii "\n    \n    "

/-- The tokens of `StringTokenizer`; a line has no other delimiter in it. -/
def tokens (line : List UInt8) : List (List UInt8) :=
  (line.splitOnP fun byte => byte = 32 || byte = 9 || byte = 12).filter (· ≠ [])

namespace ClientHandler

def close (client : ClientHandler) (error : Option String) : ClientHandler :=
  if client.mIsClosed then client
  else
    let client := match error with
      | some _ => { client with mHasError := true }
      | none =>
          if client.mReadyForData then
            -- An exception of the last write is ignored.
            match ChunkedOutputStream.finish client.out with
            | .ok out => { client with out }
            | .error (out, _) => { client with out }
          else client
    { client with out := { client.out with closed := true }, mIsClosed := true }

/-- The runnable is blocked on its read when this is called: the read raises an exception. -/
def stop (client : ClientHandler) : ClientHandler :=
  { client with out := { client.out with closed := true } }

def redirectToPcap (client : ClientHandler) : Written := client.out.write (foundText client.mFname)

def serve (client : ClientHandler) (line : List UInt8) : ClientHandler :=
  match tokens line with
  | method :: url :: _ =>
      if method ≠ ascii "GET" then client.close (some "Bad request method")
      else if url = ascii "/" then
        match client.redirectToPcap with
        | .ok out => { client with out }.close none
        | .error (out, message) => { client with out }.close message
      else
        match client.out.write (okText client.mMimeType) with
        | .ok out => { client with out, mReadyForData := true }
        | .error (out, message) => { client with out }.close message
  -- The exception of the tokenizer has no message.
  | _ => client.close none

def answer (client : ClientHandler) (reqSize : Nat) : ClientHandler :=
  match (readLines (client.buf.take reqSize)).head? with
  | some line => client.serve line
  | none => client.close (some "Bad request")

/-- The loop of the runnable after the read has put the buffer and the count in place. -/
def parse (client : ClientHandler) : ClientHandler :=
  let reqSize := getEndOfHTTPHeaders client.buf
  if reqSize = 0 then client else { client with progress := .finished }.answer reqSize

def run (client : ClientHandler) : Read → ClientHandler
  | .data bytes =>
      if 0 ≤ client.sofar ∧ client.sofar ≤ client.buf.length then
        let start := client.sofar.toNat
        let taken := bytes.take (client.buf.length - start)
        parse { client with
          buf := client.buf.take start ++ taken ++ client.buf.drop (start + taken.length)
          sofar := client.sofar + taken.length }
      else { client with progress := .died }
  -- The runnable adds the result of the read, which is -1, to the count.
  | .endOfStream => parse { client with sofar := client.sofar - 1 }
  | .ioException message => { client with progress := .finished }.close message

def sendHeader (client : ClientHandler) (header : List UInt8) :
    Except (ClientHandler × Option String) ClientHandler :=
  if client.mHeaderSent then .ok client
  else match ChunkedOutputStream.write client.out header with
    | .ok out => .ok { client with out, mHeaderSent := true }
    | .error (out, message) => .error ({ client with out }, message)

def sendData (client : ClientHandler) (data : List UInt8) : ClientHandler :=
  match ChunkedOutputStream.write client.out data with
  | .ok out => { client with out }
  | .error (out, message) => { client with out }.close message

def sendChunk (client : ClientHandler) (header data : List UInt8) : ClientHandler :=
  match client.sendHeader header with
  | .ok client => client.sendData data
  | .error (client, message) => client.close message

end ClientHandler

/-- What can happen to a client: its read returns, the dumper has data or closes the client,
    the dumper ends while the request is read, or the peer goes away. -/
inductive Event where
  | read (outcome : Read)
  | dumpData (data : List UInt8)
  | close
  | stop
  | lost (room : Nat) (error : Option String)
  deriving DecidableEq, Repr

def step (header : List UInt8) (client : ClientHandler) : Event → ClientHandler
  | .read outcome => if client.progress = .reading then client.run outcome else client
  | .dumpData data => if client.mReadyForData then client.sendChunk header data else client
  | .close => client.close none
  | .stop => if client.mReadyForData then client else client.stop
  | .lost room error => { client with out := { client.out with room := some room, error } }

section Grammar

def isTokenByte (byte : UInt8) : Bool :=
  isDigit byte || (65 ≤ byte && byte ≤ 90) || (97 ≤ byte && byte ≤ 122) ||
    (ascii "!#$%&'*+-.^_|~").contains byte || byte = 96

def IsStatusLine (code line : List UInt8) : Prop :=
  code.length = 3 ∧ (∀ byte ∈ code, isDigit byte) ∧
    ∃ reason, line = ascii "HTTP/1.1 " ++ code ++ ascii " " ++ reason ∧ CR ∉ reason ∧ LF ∉ reason

/-- A field name, from the start of the line on, then the colon and the value. -/
def IsField (line : List UInt8) : Prop :=
  ∃ name value, line = name ++ ascii ":" ++ value ∧ name ≠ [] ∧ (∀ byte ∈ name, isTokenByte byte) ∧
    CR ∉ value ∧ LF ∉ value

/-- The header block says how long the body is, or it says nothing and the body goes on until
    the connection is closed. -/
def Delimited (headers : List (List UInt8)) (body : Body) : Prop :=
  Framed headers body ∨
    (∃ bytes, body = .sized bytes) ∧ ∀ line ∈ headers,
      fieldValue "content-length" line = none ∧ fieldValue "transfer-encoding" line = none

structure IsResponse (code : List UInt8) (message : Message) : Prop where
  status : IsStatusLine code message.start
  fields : ∀ line ∈ message.headers, IsField line
  delimited : Delimited message.headers message.body

/-- The bytes are one response with this decoded body. -/
def Responds (written content : List UInt8) : Prop :=
  ∃ code message, IsResponse code message ∧ message.bytes = written ∧
    message.body.content = content

/-- The bytes are one redirect to the location. -/
def Redirects (written location : List UInt8) : Prop :=
  ∃ message, IsResponse (ascii "302") message ∧ message.bytes = written ∧
    ∃ line ∈ message.headers, fieldValue "location" line = some location

end Grammar

section FirstLine

def firstLine (bytes : List UInt8) : List UInt8 := bytes.takeWhile (· ≠ LF)

theorem firstLine_append (before after : List UInt8) (ended : LF ∈ before) :
    firstLine (before ++ after) = firstLine before := by
  induction before with
  | nil => cases ended
  | cons byte rest ih =>
      by_cases last : byte = LF
      · simp [firstLine, last]
      · have later : LF ∈ rest := by
          rcases List.mem_cons.mp ended with same | later
          · exact absurd same.symm last
          · exact later
        simpa [firstLine, last] using ih later

theorem firstLine_line (line rest : List UInt8) (proper : LF ∉ line) :
    firstLine (line ++ LF :: rest) = line := by
  rw [firstLine, List.takeWhile_append_of_pos]
  · simp
  · intro byte member
    simpa using fun (same : byte = LF) => proper (same ▸ member)

theorem firstLine_member {before after : List UInt8} (start : before <+: after) (byte : UInt8)
    (member : byte ∈ firstLine before) : byte ∈ firstLine after := by
  by_cases ended : LF ∈ before
  · obtain ⟨rest, rfl⟩ := start
    rwa [firstLine_append before rest ended]
  · obtain ⟨rest, rfl⟩ := start
    have whole : firstLine before = before := by
      rw [firstLine, List.takeWhile_eq_self_iff]
      intro other present
      simpa using fun (same : other = LF) => ended (same ▸ present)
    rw [whole] at member
    rw [firstLine, List.takeWhile_append_of_pos]
    · exact List.mem_append_left _ member
    · intro other present
      simpa using fun (same : other = LF) => ended (same ▸ present)

theorem statusLine_proper (code line : List UInt8) (status : IsStatusLine code line) :
    CR ∉ line ∧ LF ∉ line := by
  obtain ⟨_, digits, reason, rfl, noCr, noLf⟩ := status
  have crCode : CR ∉ code := fun member => absurd (digits CR member) (by decide)
  have lfCode : LF ∉ code := fun member => absurd (digits LF member) (by decide)
  have fixed : CR ∉ ascii "HTTP/1.1 " ∧ LF ∉ ascii "HTTP/1.1 " ∧ CR ∉ ascii " " ∧
      LF ∉ ascii " " := by decide
  simp [noCr, noLf, crCode, lfCode, fixed]

theorem response_firstLine (code : List UInt8) (message : Message)
    (response : IsResponse code message) : CR ∈ firstLine message.bytes := by
  obtain ⟨noCr, noLf⟩ := statusLine_proper code message.start response.status
  have shape : ∃ rest, message.bytes = (message.start ++ [CR]) ++ LF :: rest := by
    refine ⟨message.headers.flatMap (· ++ crlf) ++ crlf ++ message.body.encoded, ?_⟩
    simp [Message.bytes, Message.header, crlf]
  obtain ⟨rest, same⟩ := shape
  rw [same, firstLine_line]
  · simp
  · have differs : LF ≠ CR := by decide
    simp [noLf, differs]

end FirstLine

section Writes

/-- The stream after a write, whether it raised an exception or not. -/
def after : Written → OutputStream
  | .ok out => out
  | .error (out, _) => out

theorem write_ok (out next : OutputStream) (data : List UInt8)
    (done : out.write data = .ok next) : next.written = out.written ++ data := by
  simp only [OutputStream.write] at done
  split at done
  · cases done
  · split at done
    · cases done
      rfl
    · split at done
      · cases done
        rfl
      · cases done

theorem write_prefix (out : OutputStream) (data : List UInt8) :
    ∃ sent, sent <+: data ∧ (after (out.write data)).written = out.written ++ sent := by
  simp only [OutputStream.write]
  split
  · exact ⟨[], List.nil_prefix, by simp [after]⟩
  · split
    · exact ⟨data, List.prefix_rfl, rfl⟩
    · split
      · exact ⟨data, List.prefix_rfl, rfl⟩
      · next room _ _ => exact ⟨data.take room, List.take_prefix room data, rfl⟩

theorem write_extends (out : OutputStream) (data : List UInt8) :
    out.written <+: (after (out.write data)).written := by
  obtain ⟨sent, _, same⟩ := write_prefix out data
  exact same ▸ List.prefix_append out.written sent

theorem bind_extends (out : OutputStream) (first : Written) (next : OutputStream → Written)
    (kept : out.written <+: (after first).written)
    (extends' : ∀ out, out.written <+: (after (next out)).written) :
    out.written <+: (after (first >>= next)).written := by
  cases first with
  | error failed => exact kept
  | ok reached => exact kept.trans (extends' reached)

theorem chunk_extends (out : OutputStream) (data : List UInt8) :
    out.written <+: (after (ChunkedOutputStream.write out data)).written := by
  apply bind_extends
  · exact write_extends out _
  · intro reached
    apply bind_extends
    · exact write_extends reached data
    · exact fun last => write_extends last crlf

theorem finish_extends (out : OutputStream) :
    out.written <+: (after (ChunkedOutputStream.finish out)).written :=
  write_extends out _

end Writes

section Responses

/-- The runnable is where it was, and only a client that is ready was sent something. -/
structure Extends (client next : ClientHandler) : Prop where
  progress : next.progress = client.progress
  ready : next.mReadyForData = client.mReadyForData
  silent : client.mReadyForData = false → next.out.written = client.out.written
  written : client.out.written <+: next.out.written

theorem extends_trans {client next last : ClientHandler} (first : Extends client next)
    (second : Extends next last) : Extends client last where
  progress := second.progress.trans first.progress
  ready := second.ready.trans first.ready
  silent := fun waits => (second.silent (first.ready.trans waits)).trans (first.silent waits)
  written := first.written.trans second.written

theorem extends_out (client : ClientHandler) (out : OutputStream) (ready : client.mReadyForData)
    (more : client.out.written <+: out.written) : Extends client { client with out } where
  progress := rfl
  ready := rfl
  silent := fun waits => by simp [ready] at waits
  written := more

theorem close_extends (client : ClientHandler) (error : Option String) :
    Extends client (client.close error) := by
  have ends : ∀ next, Extends client next → Extends client
      { next with out := { next.out with closed := true }, mIsClosed := true } :=
    fun next same => ⟨same.progress, same.ready, same.silent, same.written⟩
  simp only [ClientHandler.close]
  split
  · exact ⟨rfl, rfl, fun _ => rfl, List.prefix_rfl⟩
  · apply ends
    cases error with
    | some message => exact ⟨rfl, rfl, fun _ => rfl, List.prefix_rfl⟩
    | none =>
        by_cases ready : client.mReadyForData
        · have more := finish_extends client.out
          simp only [if_pos ready]
          cases finished : ChunkedOutputStream.finish client.out with
          | ok out =>
              rw [finished] at more
              exact extends_out client out ready more
          | error failed =>
              rw [finished] at more
              exact extends_out client failed.1 ready more
        · simp only [if_neg ready]
          exact ⟨rfl, rfl, fun _ => rfl, List.prefix_rfl⟩

theorem sendData_extends (client : ClientHandler) (data : List UInt8)
    (ready : client.mReadyForData) :
    Extends client (client.sendData data) := by
  have more := chunk_extends client.out data
  rw [ClientHandler.sendData]
  cases written : ChunkedOutputStream.write client.out data with
  | ok out =>
      rw [written] at more
      exact extends_out client out ready more
  | error failed =>
      rw [written] at more
      exact extends_trans (extends_out client failed.1 ready more) (close_extends _ _)

theorem sendChunk_extends (client : ClientHandler) (header data : List UInt8)
    (ready : client.mReadyForData) : Extends client (client.sendChunk header data) := by
  simp only [ClientHandler.sendChunk, ClientHandler.sendHeader]
  by_cases sent : client.mHeaderSent
  · simp only [if_pos sent]
    exact sendData_extends client data ready
  · have more := chunk_extends client.out header
    simp only [if_neg sent]
    cases written : ChunkedOutputStream.write client.out header with
    | ok out =>
        rw [written] at more
        have header : Extends client { client with out, mHeaderSent := true } :=
          ⟨rfl, rfl, fun waits => by simp [ready] at waits, more⟩
        exact extends_trans header (sendData_extends _ data ready)
    | error failed =>
        rw [written] at more
        exact extends_trans (extends_out client failed.1 ready more) (close_extends _ failed.2)

/-- The first line of what the client was sent ends without CR, and it is complete when the
    client is ready. -/
structure Plain (client : ClientHandler) : Prop where
  line : CR ∉ firstLine client.out.written
  ready : client.mReadyForData → LF ∈ client.out.written
  reading : client.progress = .reading → client.out.written = []

theorem plain_extends (client next : ClientHandler) (plain : Plain client)
    (more : Extends client next) : Plain next := by
  by_cases ready : client.mReadyForData
  · obtain ⟨rest, same⟩ := more.written
    have ended := plain.ready ready
    exact {
      line := by rw [← same, firstLine_append _ _ ended]; exact plain.line
      ready := fun _ => more.written.subset ended
      reading := fun reads => by
        rw [plain.reading (more.progress ▸ reads)] at ended
        cases ended }
  · have silent := more.silent (by simpa using ready)
    exact {
      line := silent ▸ plain.line
      ready := fun later => absurd (more.ready ▸ later) ready
      reading := fun reads => silent ▸ plain.reading (more.progress ▸ reads) }

/-- A client whose request was read is sent a part of a text with plain line ends. -/
theorem plain_part (client : ClientHandler) (text : List UInt8) (out : OutputStream)
    (finished : client.progress = .finished) (waits : client.mReadyForData = false)
    (part : out.written <+: text) (bare : CR ∉ firstLine text) : Plain { client with out } where
  line := fun member => bare (firstLine_member part CR member)
  ready := fun ready => by simp [waits] at ready
  reading := fun reads => by simp [finished] at reads

theorem okText_bare (mimeType : List UInt8) :
    CR ∉ firstLine (okText mimeType) ∧ LF ∈ okText mimeType := by
  have line : LF ∈ ascii "HTTP/1.1 200 OK\n" ∧ CR ∉ firstLine (ascii "HTTP/1.1 200 OK\n") := by
    decide
  rw [okText, List.append_assoc, List.append_assoc, firstLine_append _ _ line.1]
  exact ⟨line.2, List.mem_append_left _ line.1⟩

theorem foundText_bare (fname : List UInt8) : CR ∉ firstLine (foundText fname) := by
  have line : LF ∈ ascii "HTTP/1.1 302 Found\n" ∧
      CR ∉ firstLine (ascii "HTTP/1.1 302 Found\n") := by decide
  rw [foundText, List.append_assoc, List.append_assoc, firstLine_append _ _ line.1]
  exact line.2

theorem serve_plain (client : ClientHandler) (line : List UInt8)
    (finished : client.progress = .finished) (waits : client.mReadyForData = false)
    (unsent : client.out.written = []) : Plain (client.serve line) := by
  have silent : Plain client :=
    plain_part client [] client.out finished waits (by simp [unsent]) (by simp [firstLine])
  rw [ClientHandler.serve]
  split
  · split
    · exact plain_extends _ _ silent (close_extends client _)
    · split
      · obtain ⟨sent, part, same⟩ := write_prefix client.out (foundText client.mFname)
        rw [unsent, List.nil_append] at same
        simp only [ClientHandler.redirectToPcap]
        cases written : client.out.write (foundText client.mFname) with
        | ok out =>
            rw [written] at same
            exact plain_extends _ _ (plain_part client _ out finished waits
              (same ▸ part) (foundText_bare _)) (close_extends _ _)
        | error failed =>
            rw [written] at same
            exact plain_extends _ _ (plain_part client _ failed.1 finished waits
              (same ▸ part) (foundText_bare _)) (close_extends _ _)
      · obtain ⟨bare, ended⟩ := okText_bare client.mMimeType
        cases written : client.out.write (okText client.mMimeType) with
        | ok out =>
            have whole := write_ok client.out out _ written
            rw [unsent, List.nil_append] at whole
            exact {
              line := whole ▸ bare
              ready := fun _ => whole ▸ ended
              reading := fun reads => by simp [finished] at reads }
        | error failed =>
            obtain ⟨sent, part, same⟩ := write_prefix client.out (okText client.mMimeType)
            rw [unsent, List.nil_append, written] at same
            exact plain_extends _ _ (plain_part client _ failed.1 finished waits
              (same ▸ part) bare) (close_extends _ _)
  · exact plain_extends _ _ silent (close_extends client _)

end Responses

section Chunks

theorem digit_value (digit : Nat) (small : digit < 16) :
    digitValue (Nat.digitChar digit).toNat.toUInt8 = some digit := by
  have each : ∀ digit : Fin 16,
      digitValue (Nat.digitChar digit.val).toNat.toUInt8 = some digit.val := by decide
  exact each ⟨digit, small⟩

theorem numberValue_append (radix : Nat) (first last : List UInt8) (value middle : Nat)
    (read : numberValue radix first value = some middle) :
    numberValue radix (first ++ last) value = numberValue radix last middle := by
  induction first generalizing value with
  | nil =>
      cases read
      rfl
  | cons byte rest ih =>
      rw [List.cons_append, numberValue]
      rw [numberValue] at read
      split at read
      · split at read
        · next below => simpa [below] using ih _ read
        · cases read
      · cases read

theorem hexText_split (size : Nat) :
    hexText size = if size < 16 then [(Nat.digitChar size).toNat.toUInt8]
      else hexText (size / 16) ++ [(Nat.digitChar (size % 16)).toNat.toUInt8] := by
  simp only [hexText]
  rw [Nat.toDigits_eq_if (by decide)]
  split <;> simp

theorem hexText_value (size : Nat) : numberValue 16 (hexText size) 0 = some size := by
  induction size using Nat.strongRecOn with
  | ind size ih =>
      rw [hexText_split]
      split
      · next small => simp [numberValue, digit_value size small, small]
      · have below : size % 16 < 16 := Nat.mod_lt _ (by decide)
        have front := ih (size / 16) (by omega)
        rw [numberValue_append 16 _ _ 0 (size / 16) front]
        simp only [numberValue, digit_value _ below, below, if_true]
        congr 1
        omega

theorem hexText_digit (size : Nat) (byte : UInt8) (member : byte ∈ hexText size) :
    ∃ digit < 16, byte = (Nat.digitChar digit).toNat.toUInt8 := by
  induction size using Nat.strongRecOn with
  | ind size ih =>
      rw [hexText_split] at member
      split at member
      · next small => exact ⟨size, small, by simpa using member⟩
      · rw [List.mem_append] at member
        rcases member with front | last
        · exact ih (size / 16) (by omega) front
        · exact ⟨size % 16, Nat.mod_lt _ (by decide), by simpa using last⟩

/-- The text of a size has nothing in it that would end the line or the size. -/
theorem hexText_plain (size : Nat) (byte : UInt8) (member : byte ∈ hexText size) :
    byte ≠ CR ∧ byte ≠ LF ∧ byte ≠ 59 ∧ HttpReassembly.isBlank byte = false := by
  obtain ⟨digit, small, rfl⟩ := hexText_digit size byte member
  have each : ∀ digit : Fin 16, (Nat.digitChar digit.val).toNat.toUInt8 ≠ CR ∧
      (Nat.digitChar digit.val).toNat.toUInt8 ≠ LF ∧
      (Nat.digitChar digit.val).toNat.toUInt8 ≠ 59 ∧
      HttpReassembly.isBlank (Nat.digitChar digit.val).toNat.toUInt8 = false := by decide
  exact each ⟨digit, small⟩

theorem hexText_line (size : Nat) : IsLine (hexText size) :=
  ⟨by simp [hexText], fun member => (hexText_plain size CR member).1 rfl,
    fun member => (hexText_plain size LF member).2.1 rfl⟩

theorem hexText_size (size : Nat) : chunkSize (hexText size) = some size := by
  have whole : (hexText size).takeWhile (· ≠ 59) = hexText size := by
    rw [List.takeWhile_eq_self_iff]
    intro byte member
    simpa using (hexText_plain size byte member).2.2.1
  have unblank : (hexText size).rdropWhile HttpReassembly.isBlank = hexText size := by
    rw [List.rdropWhile_eq_self_iff]
    intro nonempty
    simp [(hexText_plain size _ (List.getLast_mem nonempty)).2.2.2]
  rw [chunkSize, whole, unblank, HttpReassembly.number, if_neg (hexText_line size).1,
    hexText_value]

/-- What is sent after the start of the response, if nothing goes wrong. -/
def dumped (header : List UInt8) (buffers : List (List UInt8)) : Body :=
  .chunked ((if buffers = [] then [] else header :: buffers).map fun data =>
    { line := hexText data.length, data }) (ascii "0") []

/-- With line ends of its own, the body would be in order. -/
theorem dumped_framed (header : List UInt8) (buffers : List (List UInt8)) (some' : header ≠ [])
    (nonempty : ∀ buffer ∈ buffers, buffer ≠ []) :
    Framed [ascii "Transfer-Encoding: chunked"] (dumped header buffers) := by
  refine ⟨⟨_, List.mem_singleton.mpr rfl, by decide⟩, ?_, ?_, ⟨by decide, by decide⟩, by simp⟩
  · rintro line member
    rw [List.mem_singleton.mp member]
    decide
  · intro chunk member
    obtain ⟨data, source, rfl⟩ := List.mem_map.mp member
    refine ⟨hexText_line _, ?_, hexText_size _⟩
    split at source
    · cases source
    · rcases List.mem_cons.mp source with rfl | buffer
      · exact some'
      · exact nonempty data buffer

theorem dumped_content (header : List UInt8) (buffers : List (List UInt8))
    (some' : buffers ≠ []) : (dumped header buffers).content = header ++ buffers.flatten := by
  simp [dumped, some', Body.content, List.flatMap_map]

/-- The connection is up, and the client was sent nothing but `written`. -/
structure Opened (client : ClientHandler) (written : List UInt8) : Prop where
  out : client.out = { written }
  headerSent : client.mHeaderSent = false
  isClosed : client.mIsClosed = false

/-- A client whose request is read was sent nothing; when it is ready, just the start. -/
structure Asking (mimeType : List UInt8) (client : ClientHandler) : Prop where
  mime : client.mMimeType = mimeType
  reading : client.progress = .reading → Opened client [] ∧ client.mReadyForData = false
  ready : client.mReadyForData → Opened client (okText mimeType)

theorem close_waiting (mimeType : List UInt8) (client : ClientHandler) (error : Option String)
    (mime : client.mMimeType = mimeType) (finished : client.progress ≠ .reading)
    (waits : client.mReadyForData = false) : Asking mimeType (client.close error) := by
  have more := close_extends client error
  refine ⟨?_, fun reads => absurd (more.progress ▸ reads) finished, fun ready => ?_⟩
  · simp only [ClientHandler.close]
    split
    · exact mime
    · cases error <;> simp [waits, mime]
  · rw [more.ready, waits] at ready
    cases ready

theorem serve_asking (mimeType : List UInt8) (client : ClientHandler) (line : List UInt8)
    (mime : client.mMimeType = mimeType) (finished : client.progress = .finished)
    (opened : Opened client []) (waits : client.mReadyForData = false) :
    Asking mimeType (client.serve line) := by
  have ended : client.progress ≠ .reading := by simp [finished]
  have closes := fun error => close_waiting mimeType client error mime ended waits
  have sends : ∀ data, client.out.write data = .ok { written := data } := by
    simp [OutputStream.write, opened.out]
  rw [ClientHandler.serve]
  split
  · split
    · exact closes _
    · split
      · simp only [ClientHandler.redirectToPcap, sends]
        exact close_waiting mimeType _ none mime ended waits
      · simp only [sends, mime]
        exact ⟨rfl, fun reads => absurd reads ended,
          fun _ => ⟨rfl, opened.headerSent, opened.isClosed⟩⟩
  · exact closes none

theorem parse_asking (mimeType : List UInt8) (client : ClientHandler)
    (asking : Asking mimeType client) (reading : client.progress = .reading) :
    Asking mimeType client.parse := by
  obtain ⟨opened, waits⟩ := asking.reading reading
  rw [ClientHandler.parse]
  split
  · exact asking
  · rw [ClientHandler.answer]
    split
    · exact serve_asking mimeType _ _ asking.mime rfl
        ⟨opened.out, opened.headerSent, opened.isClosed⟩ waits
    · exact close_waiting mimeType _ _ asking.mime (by simp) waits

theorem read_asking (header mimeType : List UInt8) (client : ClientHandler) (outcome : Read)
    (asking : Asking mimeType client) :
    Asking mimeType (step header client (.read outcome)) := by
  rw [step]
  split
  · next reading =>
      obtain ⟨opened, waits⟩ := asking.reading reading
      have kept : Opened client [] ∧ client.mReadyForData = false := ⟨opened, waits⟩
      cases outcome with
      | data bytes =>
          rw [ClientHandler.run]
          split
          · apply parse_asking
            · exact ⟨asking.mime,
                fun _ => ⟨⟨opened.out, opened.headerSent, opened.isClosed⟩, waits⟩,
                fun ready => absurd ready (by simp [waits])⟩
            · exact reading
          · exact ⟨asking.mime, fun reads => Progress.noConfusion reads,
              fun ready => absurd ready (by simp [waits])⟩
      | endOfStream =>
          apply parse_asking
          · exact ⟨asking.mime,
              fun _ => ⟨⟨opened.out, opened.headerSent, opened.isClosed⟩, waits⟩,
              fun ready => absurd ready (by simp [waits])⟩
          · exact reading
      | ioException message => exact close_waiting mimeType _ message asking.mime (by simp) waits
  · exact asking

theorem reads_asking (header mimeType : List UInt8) (reads : List Read)
    (client : ClientHandler) (asking : Asking mimeType client) :
    Asking mimeType (Machine.run (step header) client (reads.map .read)) := by
  induction reads generalizing client with
  | nil => exact asking
  | cons outcome rest ih => exact ih _ (read_asking header mimeType client outcome asking)

def chunkText (data : List UInt8) : List UInt8 := hexText data.length ++ crlf ++ data ++ crlf

theorem chunk_sent (written data : List UInt8) :
    ChunkedOutputStream.write { written } data = .ok { written := written ++ chunkText data } := by
  simp [ChunkedOutputStream.write, OutputStream.write, chunkText, bind, Except.bind]

/-- What a client that is ready is sent, after its header was sent. -/
theorem buffers_sent (header : List UInt8) (buffers : List (List UInt8)) (client : ClientHandler)
    (ready : client.mReadyForData) (sent : client.mHeaderSent) :
    ∀ written, client.out = { written } →
      Machine.run (step header) client (buffers.map .dumpData) =
        { client with out := { written := written ++ buffers.flatMap chunkText } } := by
  induction buffers generalizing client with
  | nil =>
      intro written same
      simp [Machine.run, ← same]
  | cons data rest ih =>
      intro written same
      have first : step header client (.dumpData data) =
          { client with out := { written := written ++ chunkText data } } := by
        simp [step, ready, ClientHandler.sendChunk, ClientHandler.sendHeader, sent,
          ClientHandler.sendData, same, chunk_sent]
      have later := ih { client with out := { written := written ++ chunkText data } } ready sent
        _ rfl
      rw [List.map_cons, Machine.run, List.foldl_cons, first]
      simpa [Machine.run] using later

theorem dumps_sent (header : List UInt8) (buffers : List (List UInt8)) (client : ClientHandler)
    (written : List UInt8) (ready : client.mReadyForData) (opened : Opened client written) :
    ∃ sent, Machine.run (step header) client (buffers.map .dumpData) =
      { client with
        out := { written := written ++
          (if buffers = [] then [] else header :: buffers).flatMap chunkText }
        mHeaderSent := sent } := by
  cases buffers with
  | nil => exact ⟨client.mHeaderSent, by simp [Machine.run, ← opened.out]⟩
  | cons data rest =>
      have first : step header client (.dumpData data) =
          { client with
            out := { written := written ++ (chunkText header ++ chunkText data) }
            mHeaderSent := true } := by
        simp [step, ready, ClientHandler.sendChunk, ClientHandler.sendHeader, opened.headerSent,
          ClientHandler.sendData, opened.out, chunk_sent]
      have later := buffers_sent header rest
        { client with
          out := { written := written ++ (chunkText header ++ chunkText data) }
          mHeaderSent := true } ready rfl _ rfl
      refine ⟨true, ?_⟩
      rw [List.map_cons, Machine.run, List.foldl_cons, first]
      simpa [Machine.run] using later

theorem close_sent (client : ClientHandler) (written : List UInt8) (ready : client.mReadyForData)
    (same : client.out = { written }) (opened : client.mIsClosed = false) :
    (client.close none).out.written = written ++ ascii "0\r\n\r\n" := by
  simp [ClientHandler.close, opened, ready, ChunkedOutputStream.finish, OutputStream.write, same]

theorem dumped_encoded (header : List UInt8) (buffers : List (List UInt8)) :
    (dumped header buffers).encoded =
      (if buffers = [] then [] else header :: buffers).flatMap chunkText ++
        ascii "0\r\n\r\n" := by
  have last : ascii "0" ++ crlf ++ crlf = ascii "0\r\n\r\n" := by decide
  have each : (fun data : List UInt8 => hexText data.length ++ crlf ++ data ++ crlf) = chunkText :=
    rfl
  rw [dumped, Body.encoded, List.flatMap_map, ← last, each]
  simp

/-- A client that gets ready and loses no connection is sent the start of the response, and then
    the header and the buffers in the chunked coding. -/
theorem session_written (header mimeType fname : List UInt8) (reads : List Read)
    (buffers : List (List UInt8))
    (ready : (Machine.run (step header) { mFname := fname, mMimeType := mimeType }
      (reads.map .read)).mReadyForData) :
    (Machine.run (step header) { mFname := fname, mMimeType := mimeType }
      (reads.map .read ++ (buffers.map .dumpData ++ [.close]))).out.written =
      okText mimeType ++ (dumped header buffers).encoded := by
  have asking := reads_asking header mimeType reads { mFname := fname, mMimeType := mimeType }
    ⟨rfl, fun _ => ⟨⟨rfl, rfl, rfl⟩, rfl⟩, fun ready => Bool.noConfusion ready⟩
  have opened := asking.ready ready
  obtain ⟨sent, same⟩ := dumps_sent header buffers _ _ ready opened
  rw [Machine.run_append, Machine.run_append, same, dumped_encoded, ← List.append_assoc]
  exact close_sent _ _ ready rfl opened.isClosed

end Chunks

section Sessions

theorem parse_plain (client : ClientHandler) (plain : Plain client)
    (reading : client.progress = .reading) : Plain client.parse := by
  rw [ClientHandler.parse]
  have unsent := plain.reading reading
  have waits : client.mReadyForData = false := by
    by_contra ready
    have ended := plain.ready (by simpa using ready)
    rw [unsent] at ended
    cases ended
  split
  · exact plain
  · rw [ClientHandler.answer]
    split
    · exact serve_plain _ _ rfl waits unsent
    · exact plain_extends _ _ (plain_part { client with progress := .finished } [] client.out rfl
        waits (by simp [unsent]) (by simp [firstLine])) (close_extends _ _)

theorem run_plain (client : ClientHandler) (plain : Plain client)
    (reading : client.progress = .reading) (outcome : Read) : Plain (client.run outcome) := by
  cases outcome with
  | data bytes =>
      rw [ClientHandler.run]
      split
      · exact parse_plain _ ⟨plain.line, plain.ready, plain.reading⟩ reading
      · exact ⟨plain.line, plain.ready, fun reads => by cases reads⟩
  | endOfStream => exact parse_plain _ ⟨plain.line, plain.ready, plain.reading⟩ reading
  | ioException message =>
      exact plain_extends { client with progress := .finished } _
        ⟨plain.line, plain.ready, fun reads => by cases reads⟩ (close_extends _ message)

theorem step_plain (header : List UInt8) (client : ClientHandler) (event : Event)
    (plain : Plain client) : Plain (step header client event) := by
  cases event with
  | read outcome =>
      rw [step]
      split
      · next reading => exact run_plain client plain reading outcome
      · exact plain
  | dumpData data =>
      rw [step]
      split
      · next ready => exact plain_extends _ _ plain (sendChunk_extends client header data ready)
      · exact plain
  | close => exact plain_extends _ _ plain (close_extends client none)
  | stop =>
      rw [step]
      split
      · exact plain
      · exact ⟨plain.line, plain.ready, plain.reading⟩
  | lost room error => exact ⟨plain.line, plain.ready, plain.reading⟩

theorem session_plain (header mimeType fname : List UInt8) (events : List Event) :
    Plain (Machine.run (step header) { mFname := fname, mMimeType := mimeType } events) :=
  Machine.run_invariant_always (step header) Plain (step_plain header) _ events
    ⟨by simp [firstLine], fun ready => Bool.noConfusion ready, fun _ => rfl⟩

def session (request : List UInt8) (buffers : List (List UInt8)) : List Event :=
  .read (.data request) :: (buffers.map .dumpData ++ [.close])

/-- No client is sent a response of HTTP/1.1: the status line ends without CR. -/
theorem never_responds (header mimeType fname : List UInt8) (events : List Event)
    (content location : List UInt8) :
    let client := Machine.run (step header) { mFname := fname, mMimeType := mimeType } events
    ¬ Responds client.out.written content ∧ ¬ Redirects client.out.written location := by
  have plain := session_plain header mimeType fname events
  constructor
  · rintro ⟨code, message, response, same, _⟩
    exact plain.line (same ▸ response_firstLine code message response)
  · rintro ⟨message, response, same, _⟩
    exact plain.line (same ▸ response_firstLine _ message response)

theorem getX_unanswered :
    let client := Machine.run (step [1, 2]) { mFname := ascii "x.pcap", mMimeType := ascii "a/b" }
      (session (ascii "GET /x HTTP/1.1\r\n\r\n") [[3]])
    client.mReadyForData ∧ client.mIsClosed ∧ client.mHasError = false ∧
      client.out.error = none ∧ ¬ Responds client.out.written [1, 2, 3] := by
  refine ⟨by decide +kernel, by decide +kernel, by decide +kernel, by decide +kernel, ?_⟩
  rintro ⟨code, message, response, same, _⟩
  have plain := session_plain [1, 2] (ascii "a/b") (ascii "x.pcap")
    (session (ascii "GET /x HTTP/1.1\r\n\r\n") [[3]])
  exact plain.line (same ▸ response_firstLine code message response)

end Sessions

end Ptnet.HttpClient
