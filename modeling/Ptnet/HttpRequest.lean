import Ptnet.HttpClient

/-!
The loop that reads the request of a client of the HTTP dumper. Each turn calls `read` for the room
that is left in the buffer and looks for the end of the headers; what the calls return is decided
by the bytes the peer sends, by the end of its stream and by the failures of the socket.
-/

namespace Ptnet.HttpRequest

open HttpReassembly (CR LF endOfHeaders getEndOfHTTPHeaders)
open HttpClient (ClientHandler INPUT_BUFSIZE)

/-- What there is for a `read` that has room. -/
inductive Arrival where
  | bytes (first : UInt8) (rest : List UInt8)
  | endOfStream
  | ioException (message : Option String)

namespace Arrival

def data : Arrival → List UInt8
  | bytes first rest => first :: rest
  | _ => []

def carries : Arrival → Bool
  | bytes _ _ => true
  | _ => false

end Arrival

/-- The runnable while it reads, with its place in the stream; `ended` is set once a `read` has
    reported the end of the stream. -/
structure Reader where
  client : ClientHandler
  position : Nat := 0
  ended : Bool := false

section Code

variable (checksBounds : Bool) (stream : Nat → Arrival)

/-- The result of `read`. A call without room returns 0. After the end of the stream the socket
    reports it again, or it looks at the bounds first: a negative offset raises an exception. -/
def nextRead (reader : Reader) : HttpClient.Read :=
  if reader.ended then
    if checksBounds && reader.client.sofar < 0 then .data [] else .endOfStream
  else if reader.client.sofar = INPUT_BUFSIZE then .data []
  else
    match stream reader.position with
    | .bytes first rest => .data (first :: rest)
    | .endOfStream => .endOfStream
    | .ioException message => .ioException message

def consumes (reader : Reader) : Bool :=
  !reader.ended && reader.client.sofar ≠ INPUT_BUFSIZE

/-- One turn of the loop. -/
def turn (reader : Reader) : Reader :=
  if reader.client.progress = .reading then
    { client := reader.client.run (nextRead checksBounds stream reader)
      position := if consumes reader then reader.position + 1 else reader.position
      ended := reader.ended ||
        (consumes reader && match stream reader.position with
          | .endOfStream => true
          | _ => false) }
  else reader

def sent (count : Nat) : List UInt8 := (List.range count).flatMap fun index => (stream index).data

/-- A complete header block arrives within the buffer. -/
def Arrives : Prop :=
  ∃ count, (∀ index < count, (stream index).carries = true) ∧
    getEndOfHTTPHeaders ((sent stream count).take INPUT_BUFSIZE) ≠ 0

/-- A call fails before the buffer is full and before the end of the stream. -/
def Breaks : Prop :=
  ∃ count, (∀ index < count, (stream index).carries = true) ∧
    (sent stream count).length < INPUT_BUFSIZE ∧ ∃ message, stream count = .ioException message

end Code

def filled (client : ClientHandler) (bytes : List UInt8) : ClientHandler :=
  { client with
    buf := bytes.take INPUT_BUFSIZE ++ List.replicate (INPUT_BUFSIZE - bytes.length) 0
    sofar := (min bytes.length INPUT_BUFSIZE : Nat) }

/-- The loop ends after finitely many calls: the request is answered if its headers arrive, and
    the client is closed if they do not. -/
def Ends (checksBounds : Bool) (stream : Nat → Arrival) (client : ClientHandler) : Prop :=
  ∃ turns,
    let last := ((turn checksBounds stream)^[turns] { client := client }).client
    last.progress = .finished ∧ (¬ Arrives stream → last.mIsClosed = true) ∧
      (Arrives stream → ∃ count,
        getEndOfHTTPHeaders ((sent stream count).take INPUT_BUFSIZE) ≠ 0 ∧
        last = { filled client (sent stream count) with progress := .finished }.answer
          (getEndOfHTTPHeaders ((sent stream count).take INPUT_BUFSIZE)))

section Buffer

theorem endOfHeaders_zeros (count index : Nat) : endOfHeaders (List.replicate count 0) index = 0 := by
  induction count generalizing index with
  | zero => rfl
  | succ count ih =>
      have zero : (0 : UInt8) ≠ CR := by decide
      rw [List.replicate_succ, endOfHeaders, if_neg fun found => zero found.1, ih]

/-- The zeros behind the bytes do not complete a blank line. -/
theorem endOfHeaders_padded (bytes : List UInt8) (count index : Nat) :
    endOfHeaders (bytes ++ List.replicate count 0) index = endOfHeaders bytes index := by
  induction bytes generalizing index with
  | nil => exact endOfHeaders_zeros count index
  | cons byte rest ih =>
      have same : (rest ++ List.replicate count 0).take 3 = [LF, CR, LF] ↔
          rest.take 3 = [LF, CR, LF] := by
        by_cases long : 3 ≤ rest.length
        · rw [List.take_append_of_le_length long]
        · have few : rest.take 3 ≠ [LF, CR, LF] := by
            intro equal
            have lengths := congrArg List.length equal
            simp only [List.length_take, List.length_cons, List.length_nil] at lengths
            omega
          refine iff_of_false (fun equal => ?_) few
          have zero : (0 : UInt8) ∉ [LF, CR, LF] := by decide
          cases count with
          | zero => exact few (by simpa using equal)
          | succ count =>
              refine zero (equal ▸ ?_)
              rw [List.replicate_succ, List.take_append, List.mem_append]
              refine Or.inr ?_
              obtain ⟨room, fits⟩ : ∃ room, 3 - rest.length = room + 1 := ⟨2 - rest.length, by omega⟩
              rw [fits, List.take_succ_cons]
              exact List.mem_cons_self
      rw [List.cons_append, endOfHeaders, endOfHeaders, ih]
      simp only [same]

theorem filled_end (client : ClientHandler) (bytes : List UInt8) :
    getEndOfHTTPHeaders (filled client bytes).buf =
      getEndOfHTTPHeaders (bytes.take INPUT_BUFSIZE) :=
  endOfHeaders_padded _ _ 0

theorem filled_length (client : ClientHandler) (bytes : List UInt8) :
    (filled client bytes).buf.length = INPUT_BUFSIZE := by
  simp only [filled, List.length_append, List.length_take, List.length_replicate]
  omega

theorem filled_run (client : ClientHandler) (bytes chunk : List UInt8)
    (room : bytes.length ≤ INPUT_BUFSIZE) :
    (filled client bytes).run (.data chunk) = (filled client (bytes ++ chunk)).parse := by
  have buf : (filled client bytes).buf = bytes ++ List.replicate (INPUT_BUFSIZE - bytes.length) 0 := by
    rw [filled, List.take_of_length_le room]
  have sofar : (filled client bytes).sofar = (bytes.length : Int) := by
    rw [filled, Nat.min_eq_left room]
  have long := filled_length client bytes
  have taken : (chunk.take (INPUT_BUFSIZE - bytes.length)).length =
      min chunk.length (INPUT_BUFSIZE - bytes.length) := by rw [List.length_take, Nat.min_comm]
  rw [ClientHandler.run, if_pos ⟨by omega, by omega⟩]
  dsimp only
  rw [long, sofar, buf, Int.toNat_natCast, taken]
  congr 1
  simp only [filled, ClientHandler.mk.injEq, true_and, and_true]
  constructor
  · rw [List.take_left', List.take_append, List.take_of_length_le room, List.append_assoc,
      List.append_assoc]
    · congr 2
      rw [List.drop_append, List.drop_of_length_le (by omega), List.nil_append, List.drop_replicate,
        List.length_append]
      congr 1
      omega
    · rfl
  · rw [List.length_append]
    omega

theorem filled_take (client : ClientHandler) (bytes : List UInt8) :
    filled client (bytes.take INPUT_BUFSIZE) = filled client bytes := by
  by_cases short : bytes.length ≤ INPUT_BUFSIZE
  · rw [List.take_of_length_le short]
  · have long : (bytes.take INPUT_BUFSIZE).length = INPUT_BUFSIZE := by
      rw [List.length_take]
      omega
    simp only [filled, long, List.take_take, min_self, Nat.min_eq_right (not_le.mp short).le,
      Nat.sub_self, Nat.sub_eq_zero_of_le (not_le.mp short).le]

/-- Without a complete header block the loop goes on. -/
theorem filled_parse (client : ClientHandler) (bytes : List UInt8)
    (quiet : getEndOfHTTPHeaders (bytes.take INPUT_BUFSIZE) = 0) :
    (filled client bytes).parse = filled client bytes := by
  rw [ClientHandler.parse, filled_end, if_pos quiet]

theorem filled_parse_complete (client : ClientHandler) (bytes : List UInt8)
    (complete : getEndOfHTTPHeaders (bytes.take INPUT_BUFSIZE) ≠ 0) :
    (filled client bytes).parse = { filled client bytes with progress := .finished }.answer
      (getEndOfHTTPHeaders (bytes.take INPUT_BUFSIZE)) := by
  rw [ClientHandler.parse, filled_end, if_neg complete]

end Buffer

section Loop

theorem close_closed (client : ClientHandler) (error : Option String) :
    (client.close error).mIsClosed = true := by
  unfold ClientHandler.close
  split
  · assumption
  · rfl

theorem close_progress (client : ClientHandler) (error : Option String) :
    (client.close error).progress = client.progress := by
  unfold ClientHandler.close
  split
  · rfl
  · cases error with
    | some message => rfl
    | none =>
        dsimp only
        split
        · split <;> rfl
        · rfl

theorem serve_progress (client : ClientHandler) (line : List UInt8) :
    (client.serve line).progress = client.progress := by
  rw [ClientHandler.serve]
  split
  · split
    · exact close_progress _ _
    · split
      · split <;> exact close_progress _ _
      · split
        · rfl
        · exact close_progress _ _
  · exact close_progress _ _

theorem answer_progress (client : ClientHandler) (reqSize : Nat) :
    (client.answer reqSize).progress = client.progress := by
  rw [ClientHandler.answer]
  split
  · exact serve_progress _ _
  · exact close_progress _ _

theorem sent_succ (stream : Nat → Arrival) (count : Nat) :
    sent stream (count + 1) = sent stream count ++ (stream count).data := by
  rw [sent, List.range_succ, List.flatMap_append, List.flatMap_singleton, sent]

theorem sent_later (stream : Nat → Arrival) (count more : Nat) :
    ∃ rest, sent stream (count + more) = sent stream count ++ rest := by
  induction more with
  | zero => exact ⟨[], (List.append_nil _).symm⟩
  | succ more ih =>
      obtain ⟨rest, equal⟩ := ih
      exact ⟨rest ++ (stream (count + more)).data, by
        rw [← Nat.add_assoc, sent_succ, equal, List.append_assoc]⟩

variable (checksBounds : Bool) (stream : Nat → Arrival) (start : ClientHandler)

/-- The loop has put what has arrived into the buffer, and the headers are not complete. -/
structure Filling (reader : Reader) : Prop where
  carried : ∀ index < reader.position, (stream index).carries = true
  quiet : getEndOfHTTPHeaders ((sent stream reader.position).take INPUT_BUFSIZE) = 0
  client : reader.client = filled start (sent stream reader.position)
  notEnded : reader.ended = false

/-- The end of the stream has been reported, and the headers are not complete. -/
structure Stuck (reader : Reader) : Prop where
  ended : reader.ended = true
  quiet : getEndOfHTTPHeaders reader.client.buf = 0
  unfinished : reader.client.progress ≠ .finished

variable {stream start}

theorem turn_full (reading : start.progress = .reading) (reader : Reader)
    (filling : Filling stream start reader)
    (full : INPUT_BUFSIZE ≤ (sent stream reader.position).length) :
    turn checksBounds stream reader = reader := by
  obtain ⟨client, position, ended⟩ := reader
  obtain ⟨-, quiet, equal, notEnded⟩ := filling
  dsimp only at full quiet equal notEnded
  subst equal notEnded
  have sofar : (filled start (sent stream position)).sofar = INPUT_BUFSIZE := by
    rw [filled, Nat.min_eq_right full]
  have stays : (filled start (sent stream position)).run (.data []) =
      filled start (sent stream position) := by
    rw [← filled_take, filled_run _ _ _ (by rw [List.length_take]; omega), List.append_nil,
      filled_take, filled_parse _ _ quiet]
  have idle : consumes ⟨filled start (sent stream position), position, false⟩ = false := by
    simp only [consumes, sofar, ne_eq, not_true_eq_false, decide_false, Bool.and_false]
  have empty : nextRead checksBounds stream ⟨filled start (sent stream position), position, false⟩ =
      .data [] := by
    rw [nextRead, if_neg Bool.false_ne_true, if_pos sofar]
  have running : (filled start (sent stream position)).progress = .reading := reading
  rw [turn, if_pos running, empty, idle]
  simp only [stays, Bool.false_eq_true, if_false, Bool.false_and, Bool.or_false]

theorem consumes_filling (reader : Reader) (filling : Filling stream start reader)
    (room : (sent stream reader.position).length < INPUT_BUFSIZE) :
    reader.client.sofar ≠ INPUT_BUFSIZE ∧ consumes reader = true := by
  have sofar : reader.client.sofar ≠ INPUT_BUFSIZE := by
    rw [filling.client, filled, Nat.min_eq_left room.le]
    exact fun equal => room.ne (Int.ofNat_inj.mp equal)
  refine ⟨sofar, ?_⟩
  simp only [consumes, filling.notEnded, sofar, ne_eq, not_false_eq_true, decide_true, Bool.not_false,
    Bool.and_self]

theorem turn_bytes (reading : start.progress = .reading) (reader : Reader)
    (filling : Filling stream start reader)
    (room : (sent stream reader.position).length < INPUT_BUFSIZE)
    (carries : (stream reader.position).carries = true) :
    turn checksBounds stream reader =
      { client := (filled start (sent stream (reader.position + 1))).parse
        position := reader.position + 1
        ended := false } := by
  obtain ⟨notFull, takes⟩ := consumes_filling reader filling room
  have running : reader.client.progress = .reading := by rw [filling.client]; exact reading
  cases arrival : stream reader.position with
  | endOfStream => rw [arrival] at carries; cases carries
  | ioException message => rw [arrival] at carries; cases carries
  | bytes first rest =>
      have next : nextRead checksBounds stream reader = .data (first :: rest) := by
        rw [nextRead, filling.notEnded, if_neg Bool.false_ne_true, if_neg notFull, arrival]
      rw [turn, if_pos running, next, takes, arrival, filling.notEnded, filling.client,
        filled_run _ _ _ room.le, sent_succ, arrival]
      rfl

theorem turn_endOfStream (reading : start.progress = .reading) (reader : Reader)
    (filling : Filling stream start reader)
    (room : (sent stream reader.position).length < INPUT_BUFSIZE)
    (finish : stream reader.position = .endOfStream) :
    Stuck (turn checksBounds stream reader) := by
  obtain ⟨notFull, takes⟩ := consumes_filling reader filling room
  have running : reader.client.progress = .reading := by rw [filling.client]; exact reading
  have quiet : getEndOfHTTPHeaders reader.client.buf = 0 := by
    rw [filling.client, filled_end, filling.quiet]
  have next : nextRead checksBounds stream reader = .endOfStream := by
    rw [nextRead, filling.notEnded, if_neg Bool.false_ne_true, if_neg notFull, finish]
  have client : reader.client.run .endOfStream =
      { reader.client with sofar := reader.client.sofar - 1 } := by
    rw [ClientHandler.run, ClientHandler.parse]
    exact if_pos quiet
  rw [turn, if_pos running, next, takes, finish, client]
  exact { ended := by simp, quiet, unfinished := by simp [running] }

theorem turn_ioException (reading : start.progress = .reading) (reader : Reader)
    (filling : Filling stream start reader)
    (room : (sent stream reader.position).length < INPUT_BUFSIZE) (message : Option String)
    (fails : stream reader.position = .ioException message) :
    (turn checksBounds stream reader).client.progress = .finished ∧
      (turn checksBounds stream reader).client.mIsClosed = true := by
  obtain ⟨notFull, -⟩ := consumes_filling reader filling room
  have running : reader.client.progress = .reading := by rw [filling.client]; exact reading
  have next : nextRead checksBounds stream reader = .ioException message := by
    rw [nextRead, filling.notEnded, if_neg Bool.false_ne_true, if_neg notFull, fails]
  rw [turn, if_pos running, next]
  exact ⟨close_progress _ _, close_closed _ _⟩

/-- The calls after the end of the stream do not end the loop, unless an exception ends it. -/
theorem turn_stuck (reader : Reader) (stuck : Stuck reader) :
    Stuck (turn checksBounds stream reader) := by
  rw [turn]
  split
  case isFalse => exact stuck
  case isTrue running =>
    have ended : (reader.ended || (consumes reader && match stream reader.position with
        | .endOfStream => true
        | _ => false)) = true := by rw [stuck.ended, Bool.true_or]
    rw [nextRead, if_pos stuck.ended]
    split
    case isTrue negative =>
      have before : ¬ 0 ≤ reader.client.sofar := by
        have below := (Bool.and_eq_true_iff.mp negative).2
        exact not_le.mpr (of_decide_eq_true below)
      have died : reader.client.run (.data []) = { reader.client with progress := .died } := by
        rw [ClientHandler.run, if_neg fun inside => before inside.1]
      rw [died]
      exact { ended, quiet := stuck.quiet, unfinished := by simp }
    case isFalse =>
      have again : reader.client.run .endOfStream =
          { reader.client with sofar := reader.client.sofar - 1 } := by
        rw [ClientHandler.run, ClientHandler.parse]
        exact if_pos stuck.quiet
      rw [again]
      exact { ended, quiet := stuck.quiet, unfinished := stuck.unfinished }

/-- While nothing completes the headers and there is room, each turn takes what arrives. -/
theorem turns_filling (reading : start.progress = .reading)
    (first : Filling stream start { client := start }) (count : Nat)
    (carried : ∀ index < count, (stream index).carries = true)
    (quiet : ∀ index < count, getEndOfHTTPHeaders ((sent stream index).take INPUT_BUFSIZE) = 0)
    (room : ∀ index < count, (sent stream index).length < INPUT_BUFSIZE)
    (last : getEndOfHTTPHeaders ((sent stream count).take INPUT_BUFSIZE) = 0) :
    ∃ reader, (turn checksBounds stream)^[count] { client := start } = reader ∧
      Filling stream start reader ∧ reader.position = count := by
  induction count with
  | zero => exact ⟨_, rfl, first, rfl⟩
  | succ count ih =>
      obtain ⟨reader, reached, filling, place⟩ := ih (fun index low => carried index (by omega))
        (fun index low => quiet index (by omega)) (fun index low => room index (by omega))
        (quiet count (by omega))
      subst place
      have next := turn_bytes checksBounds reading reader filling
        (room _ (Nat.lt_succ_self _)) (carried _ (Nat.lt_succ_self _))
      refine ⟨_, by rw [Function.iterate_succ_apply', reached, next], ?_, rfl⟩
      exact {
        carried
        quiet := last
        client := filled_parse _ _ last
        notEnded := rfl }

/-- If the headers do not arrive and no call fails in time, the loop never ends. -/
theorem turns_unfinished (reading : start.progress = .reading)
    (first : Filling stream start { client := start }) (absent : ¬ Arrives stream)
    (sound : ¬ Breaks stream) (turns : Nat) :
    Filling stream start ((turn checksBounds stream)^[turns] { client := start }) ∨
      Stuck ((turn checksBounds stream)^[turns] { client := start }) := by
  induction turns with
  | zero => exact Or.inl first
  | succ turns ih =>
      rw [Function.iterate_succ_apply']
      generalize (turn checksBounds stream)^[turns] { client := start } = reader at ih ⊢
      rcases ih with filling | stuck
      · by_cases room : (sent stream reader.position).length < INPUT_BUFSIZE
        · cases arrival : stream reader.position with
          | endOfStream => exact Or.inr (turn_endOfStream checksBounds reading reader filling room arrival)
          | ioException message =>
              exact absurd ⟨reader.position, filling.carried, room, message, arrival⟩ sound
          | bytes byte rest =>
              have carries : (stream reader.position).carries = true := by rw [arrival]; rfl
              have carried : ∀ index < reader.position + 1, (stream index).carries = true := by
                intro index low
                rcases Nat.lt_succ_iff_lt_or_eq.mp low with before | rfl
                · exact filling.carried index before
                · exact carries
              have quiet : getEndOfHTTPHeaders
                  ((sent stream (reader.position + 1)).take INPUT_BUFSIZE) = 0 := by
                by_contra complete
                exact absent ⟨_, carried, complete⟩
              rw [turn_bytes checksBounds reading reader filling room carries]
              exact Or.inl { carried, quiet, client := filled_parse _ _ quiet, notEnded := rfl }
        · rw [turn_full checksBounds reading reader filling (not_lt.mp room)]
          exact Or.inl filling
      · exact Or.inr (turn_stuck checksBounds reader stuck)

end Loop

section Accepted

variable (mFname mMimeType : List UInt8) (out : HttpClient.OutputStream)

def accepted : ClientHandler := { mFname, mMimeType, out }

theorem accepted_filling (stream : Nat → Arrival) :
    Filling stream (accepted mFname mMimeType out) { client := accepted mFname mMimeType out } where
  carried := fun _ low => absurd low (Nat.not_lt_zero _)
  quiet := rfl
  client := rfl
  notEnded := rfl

variable (checksBounds : Bool) (stream : Nat → Arrival)

theorem never_ends (absent : ¬ Arrives stream) (sound : ¬ Breaks stream) :
    ¬ Ends checksBounds stream (accepted mFname mMimeType out) := by
  rintro ⟨turns, finished, -⟩
  rcases turns_unfinished checksBounds rfl
    (accepted_filling mFname mMimeType out stream) absent sound turns with filling | stuck
  · have reading : ((turn checksBounds stream)^[turns]
        { client := accepted mFname mMimeType out }).client.progress = .reading := by
      rw [filling.client]
      rfl
    rw [reading] at finished
    cases finished
  · exact stuck.unfinished finished

theorem arrives_ends (arrives : Arrives stream) :
    Ends checksBounds stream (accepted mFname mMimeType out) := by
  classical
  -- The first call after which the headers are complete.
  let complete := fun count => (∀ index < count, (stream index).carries = true) ∧
    getEndOfHTTPHeaders ((sent stream count).take INPUT_BUFSIZE) ≠ 0
  have exists' : ∃ count, complete count := arrives
  obtain ⟨carried, found⟩ := Nat.find_spec exists'
  have least := fun index low => Nat.find_min (m := index) exists' low
  revert carried found least
  generalize Nat.find exists' = count
  intro carried found least
  have quiet : ∀ index < count, getEndOfHTTPHeaders ((sent stream index).take INPUT_BUFSIZE) = 0 := by
    intro index low
    by_contra before
    exact least index low ⟨fun earlier below => carried earlier (by omega), before⟩
  have room : ∀ index < count, (sent stream index).length < INPUT_BUFSIZE := by
    intro index low
    by_contra full
    obtain ⟨rest, equal⟩ := sent_later stream index (count - index)
    rw [Nat.add_sub_cancel' low.le] at equal
    rw [equal, List.take_append_of_le_length (not_lt.mp full)] at found
    exact found (quiet index low)
  cases count with
  | zero => exact absurd rfl found
  | succ count =>
      obtain ⟨reader, reached, filling, rfl⟩ := turns_filling checksBounds rfl
        (accepted_filling mFname mMimeType out stream) count (fun index low => carried index (by omega))
        (fun index low => quiet index (by omega)) (fun index low => room index (by omega))
        (quiet count (by omega))
      have next := turn_bytes checksBounds rfl reader filling
        (room _ (Nat.lt_succ_self _)) (carried _ (Nat.lt_succ_self _))
      have last : ((turn checksBounds stream)^[reader.position + 1]
          { client := accepted mFname mMimeType out }).client =
          { filled (accepted mFname mMimeType out) (sent stream (reader.position + 1)) with
            progress := .finished }.answer
              (getEndOfHTTPHeaders ((sent stream (reader.position + 1)).take INPUT_BUFSIZE)) := by
        rw [Function.iterate_succ_apply', reached, next]
        exact filled_parse_complete _ _ found
      refine ⟨reader.position + 1, ?_, fun absent => absurd arrives absent, fun _ => ?_⟩
      · rw [last, answer_progress]
      · exact ⟨_, found, last⟩

theorem breaks_ends (absent : ¬ Arrives stream) (breaks : Breaks stream) :
    Ends checksBounds stream (accepted mFname mMimeType out) := by
  obtain ⟨count, carried, room, message, fails⟩ := breaks
  have quiet : ∀ index ≤ count, getEndOfHTTPHeaders ((sent stream index).take INPUT_BUFSIZE) = 0 := by
    intro index low
    by_contra complete
    exact absent ⟨index, fun earlier below => carried earlier (by omega), complete⟩
  have short : ∀ index < count, (sent stream index).length < INPUT_BUFSIZE := by
    intro index low
    obtain ⟨rest, equal⟩ := sent_later stream index (count - index)
    rw [Nat.add_sub_cancel' low.le] at equal
    rw [equal, List.length_append] at room
    omega
  obtain ⟨reader, reached, filling, rfl⟩ := turns_filling checksBounds rfl
    (accepted_filling mFname mMimeType out stream) count carried (fun index low => quiet index low.le)
    short (quiet count le_rfl)
  obtain ⟨finished, closed⟩ := turn_ioException checksBounds rfl reader filling room
    message fails
  refine ⟨reader.position + 1, ?_, fun _ => ?_, fun arrives => absurd arrives absent⟩
  · rw [Function.iterate_succ_apply', reached, finished]
  · rw [Function.iterate_succ_apply', reached, closed]

/-- The loop ends as it should exactly if the headers arrive or a call fails in time. -/
theorem request_ends_iff :
    Ends checksBounds stream (accepted mFname mMimeType out) ↔ Arrives stream ∨ Breaks stream := by
  constructor
  · intro ends
    by_contra neither
    obtain ⟨absent, sound⟩ := not_or.mp neither
    exact never_ends mFname mMimeType out checksBounds stream absent sound ends
  · intro either
    by_cases arrives : Arrives stream
    · exact arrives_ends mFname mMimeType out checksBounds stream arrives
    · exact breaks_ends mFname mMimeType out checksBounds stream arrives
        (either.resolve_left arrives)

end Accepted

theorem sent_nothing (stream : Nat → Arrival) (count : Nat)
    (carried : ∀ index < count, (stream index).carries = true)
    (silent : (stream 0).carries = false) : count = 0 := by
  cases count with
  | zero => rfl
  | succ count =>
      have first := carried 0 (Nat.succ_pos _)
      rw [silent] at first
      cases first

/-- A peer which connects and closes its end keeps the runnable in its loop. -/
theorem silent_peer_spins :
    ¬ Ends false (fun _ => .endOfStream) (accepted [] [] {}) ∧
      ¬ Ends true (fun _ => .endOfStream) (accepted [] [] {}) := by
  have absent : ¬ Arrives fun _ => .endOfStream := by
    rintro ⟨count, carried, found⟩
    have zero := sent_nothing _ count carried rfl
    subst zero
    exact found rfl
  have sound : ¬ Breaks fun _ => .endOfStream := by
    rintro ⟨count, carried, -, message, fails⟩
    cases fails
  exact ⟨never_ends [] [] {} false _ absent sound, never_ends [] [] {} true _ absent sound⟩

end Ptnet.HttpRequest
