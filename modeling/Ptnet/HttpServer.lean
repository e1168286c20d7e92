import Ptnet.HttpRequest

/-!
The server of the HTTP dumper. Its thread accepts sockets and keeps the list of the clients, the
threads of a pool run the clients' runnables, the capture dumps its buffers, and another thread
stops the server. One lock protects the list; it is held in the synchronized blocks.
-/

namespace Ptnet.HttpServer

open HttpClient (ClientHandler OutputStream)
open Machine (run)

def MAX_CLIENTS : Nat := 8

structure Socket where
  number : Nat
  closed : Bool := false
  deriving DecidableEq, Repr

namespace Socket

def close (socket : Socket) : Socket := { socket with closed := true }

/-- A closed socket has no streams: the call raises an exception. -/
def getInputStream (socket : Socket) : Except String Nat :=
  if socket.closed then .error "Socket is closed" else .ok socket.number

end Socket

structure Handler where
  socket : Nat
  client : ClientHandler
  deriving DecidableEq, Repr

inductive Phase where
  | looping
  | accepting
  | checking (socket : Socket)
  | constructing (socket : Socket)
  | submitting (handler : Handler)
  | adding (ref : Nat)
  | leaving
  | waking (rest : List Nat)
  | stopping (ref : Nat) (rest : List Nat)
  | awaiting
  | closing
  | done
  deriving DecidableEq, Repr

/-- The socket the thread has accepted and not handed to the pool yet. -/
def Phase.socket : Phase → Option Nat
  | .checking socket | .constructing socket => some socket.number
  | .submitting handler => some handler.socket
  | _ => none

/-- A call of `dumpData`, with what its iterator has left. -/
structure Dump where
  data : List UInt8
  rest : List Nat
  deriving DecidableEq, Repr

/-- `handlers` are all runnables the pool has taken, by the numbers under which `mClients` has
    them; `sockets` counts the accepted sockets. -/
structure Server where
  mRunning : Bool := true
  listening : Bool := true
  phase : Phase := .looping
  sockets : Nat := 0
  handlers : List Handler := []
  mClients : List Nat := []
  dumping : Option Dump := none
  deriving DecidableEq, Repr

namespace Server

/-- The thread of the server holds the lock while it wakes the clients. -/
def Waking (server : Server) : Prop :=
  match server.phase with
  | .waking _ | .stopping _ _ => True
  | _ => False

instance (server : Server) : Decidable server.Waking := by
  unfold Waking
  split <;> infer_instance

def client (server : Server) (ref : Nat) : Option ClientHandler :=
  server.handlers[ref]?.map Handler.client

def isReadyForData (server : Server) (ref : Nat) : Bool :=
  (server.client ref).any fun client => client.mReadyForData

def isClosed (server : Server) (ref : Nat) : Bool :=
  (server.client ref).any fun client => client.mIsClosed

def update (server : Server) (ref : Nat) (change : ClientHandler → ClientHandler) : Server :=
  { server with
    handlers := server.handlers.modify ref fun handler =>
      { handler with client := change handler.client } }

end Server

/-- The steps of the threads. `server` is one of the server's own thread, and `answer` says
    whether the call it makes, `accept` or `submit`, succeeds. -/
inductive Event where
  | server (answer : Bool)
  | runs (ref : Nat) (outcome : HttpClient.Read)
  | lost (ref : Nat) (room : Nat) (error : Option String)
  | dumpData (data : List UInt8)
  | visit
  | stop
  deriving DecidableEq, Repr

section Code

variable (header mimeType : List UInt8) (fname : Nat → List UInt8)

def newClientHandler (socket : Socket) : Except String Handler := do
  let number ← socket.getInputStream
  return { socket := number, client := { mFname := fname number, mMimeType := mimeType } }

/-- The end of `run`: the clients that are not closed yet. -/
def closeClients (server : Server) : Server :=
  let closed := server.mClients.foldl
    (fun server ref => server.update ref fun client =>
      if client.mIsClosed then client else client.close none) server
  { closed with mClients := [] }

def serverStep (server : Server) (answer : Bool) : Server :=
  match server.phase with
  | .looping =>
      if server.mRunning then { server with phase := .accepting }
      else { server with phase := .leaving }
  | .accepting =>
      if server.listening && answer then
        { server with phase := .checking { number := server.sockets }, sockets := server.sockets + 1 }
      else { server with phase := .looping }
  | .checking socket =>
      if server.dumping.isSome then server
      else if MAX_CLIENTS ≤ server.mClients.length then
        -- Nothing leaves the loop here: the socket is closed, and the thread goes on with it.
        { server with phase := .constructing socket.close }
      else { server with phase := .constructing socket }
  | .constructing socket =>
      match newClientHandler mimeType fname socket with
      | .ok handler => { server with phase := .submitting handler }
      | .error _ => { server with phase := .looping }
  | .submitting handler =>
      if answer then
        { server with
          handlers := server.handlers ++ [handler], phase := .adding server.handlers.length }
      else { server with phase := .looping }
  | .adding ref =>
      if server.dumping.isSome then server
      else { server with mClients := server.mClients ++ [ref], phase := .looping }
  | .leaving =>
      if server.dumping.isSome then server
      else { server with listening := false, phase := .waking server.mClients }
  | .waking [] => { server with phase := .awaiting }
  | .waking (ref :: rest) =>
      if server.isReadyForData ref then { server with phase := .waking rest }
      else { server with phase := .stopping ref rest }
  -- The runnable may have become ready since the thread looked.
  | .stopping ref rest => { server.update ref ClientHandler.stop with phase := .waking rest }
  | .awaiting =>
      if server.handlers.all fun handler => handler.client.progress ≠ .reading then
        { server with phase := .closing }
      else server
  | .closing =>
      if server.dumping.isSome then server
      else { closeClients server with phase := .done }
  | .done => server

def offer (data : List UInt8) (client : ClientHandler) : ClientHandler :=
  if client.mReadyForData then client.sendChunk header data else client

/-- `dumpData` for the next client of its iterator. -/
def visit (server : Server) : Server :=
  match server.dumping with
  | none => server
  | some { data := _, rest := [] } => { server with dumping := none }
  | some { data, rest := ref :: rest } =>
      let sent := server.update ref (offer header data)
      { sent with
        mClients := if sent.isClosed ref then sent.mClients.erase ref else sent.mClients
        dumping := some { data, rest } }

def step (server : Server) : Event → Server
  | .server answer => serverStep mimeType fname server answer
  | .runs ref outcome =>
      server.update ref fun client =>
        if client.progress = .reading then client.run outcome else client
  | .lost ref room error =>
      server.update ref fun client =>
        { client with out := { client.out with room := some room, error } }
  | .dumpData data =>
      if server.dumping.isSome ∨ server.Waking then server
      else { server with dumping := some { data, rest := server.mClients } }
  | .visit => visit header server
  | .stop => { server with mRunning := false, listening := false }

end Code

section Clients

theorem serve_closed (client : ClientHandler) (line : List UInt8) (closed : client.mIsClosed = true) :
    (client.serve line).mIsClosed = true := by
  rw [ClientHandler.serve]
  split
  · split
    · exact HttpRequest.close_closed _ _
    · split
      · split <;> exact HttpRequest.close_closed _ _
      · split
        · exact closed
        · exact HttpRequest.close_closed _ _
  · exact HttpRequest.close_closed _ _

theorem parse_closed (client : ClientHandler) (closed : client.mIsClosed = true) :
    client.parse.mIsClosed = true := by
  rw [ClientHandler.parse]
  split
  · exact closed
  · rw [ClientHandler.answer]
    split
    · exact serve_closed _ _ closed
    · exact HttpRequest.close_closed _ _

theorem run_closed (client : ClientHandler) (outcome : HttpClient.Read)
    (closed : client.mIsClosed = true) : (client.run outcome).mIsClosed = true := by
  cases outcome with
  | data bytes =>
      rw [ClientHandler.run]
      split
      · exact parse_closed _ closed
      · exact closed
  | endOfStream => exact parse_closed _ closed
  | ioException message => exact HttpRequest.close_closed _ _

theorem sendData_closed (client : ClientHandler) (data : List UInt8)
    (closed : client.mIsClosed = true) : (client.sendData data).mIsClosed = true := by
  rw [ClientHandler.sendData]
  split
  · exact closed
  · exact HttpRequest.close_closed _ _

theorem sendChunk_closed (client : ClientHandler) (header data : List UInt8)
    (closed : client.mIsClosed = true) : (client.sendChunk header data).mIsClosed = true := by
  rw [ClientHandler.sendChunk, ClientHandler.sendHeader]
  by_cases sent : client.mHeaderSent = true
  · rw [if_pos sent]
    exact sendData_closed client data closed
  · rw [if_neg sent]
    cases HttpClient.ChunkedOutputStream.write client.out header with
    | ok out => exact sendData_closed _ data closed
    | error failed => exact HttpRequest.close_closed _ _

theorem offer_closed (header data : List UInt8) (client : ClientHandler)
    (closed : client.mIsClosed = true) : (offer header data client).mIsClosed = true := by
  rw [offer]
  split
  · exact sendChunk_closed client header data closed
  · exact closed

end Clients

section Updates

structure Later (before after : Server) : Prop where
  longer : before.handlers.length ≤ after.handlers.length
  closed : ∀ ref, before.isClosed ref = true → after.isClosed ref = true

theorem later_refl (server : Server) : Later server server := ⟨le_rfl, fun _ closed => closed⟩

theorem later_trans {first middle last : Server} (former : Later first middle)
    (latter : Later middle last) : Later first last :=
  ⟨former.longer.trans latter.longer, fun ref closed => latter.closed ref (former.closed ref closed)⟩

theorem later_handlers {before after : Server} (same : after.handlers = before.handlers) :
    Later before after where
  longer := by rw [same]
  closed := fun ref closed => by rwa [Server.isClosed, Server.client, same]

theorem update_client (server : Server) (ref other : Nat) (change : ClientHandler → ClientHandler) :
    (server.update ref change).client other =
      if ref = other then (server.client other).map change else server.client other := by
  rw [Server.client, Server.update, List.getElem?_modify, Server.client]
  by_cases same : ref = other
  · simp [same, Function.comp_def]
  · simp [same]

theorem update_length (server : Server) (ref : Nat) (change : ClientHandler → ClientHandler) :
    (server.update ref change).handlers.length = server.handlers.length := List.length_modify _ _ _

theorem update_sockets (server : Server) (ref : Nat) (change : ClientHandler → ClientHandler) :
    (server.update ref change).handlers.map Handler.socket = server.handlers.map Handler.socket := by
  refine List.ext_getElem? fun index => ?_
  rw [List.getElem?_map, List.getElem?_map, Server.update, List.getElem?_modify]
  by_cases same : ref = index
  · simp [same, Function.comp_def]
  · simp [same]

theorem update_later (server : Server) (ref : Nat) (change : ClientHandler → ClientHandler)
    (kept : ∀ client : ClientHandler, client.mIsClosed = true → (change client).mIsClosed = true) :
    Later server (server.update ref change) where
  longer := (update_length server ref change).ge
  closed := fun other closed => by
    rw [Server.isClosed, update_client]
    rw [Server.isClosed] at closed
    by_cases same : ref = other
    · rw [if_pos same]
      cases found : server.client other with
      | none => rw [found] at closed; cases closed
      | some client =>
          rw [found] at closed
          exact kept client closed
    · rw [if_neg same, closed]

theorem closeClients_spec (refs : List Nat) (server : Server) :
    let closed := refs.foldl (fun server ref => server.update ref fun client =>
      if client.mIsClosed then client else client.close none) server
    Later server closed ∧ closed.handlers.map Handler.socket = server.handlers.map Handler.socket ∧
      ∀ ref ∈ refs, ref < server.handlers.length → closed.isClosed ref = true := by
  induction refs generalizing server with
  | nil => exact ⟨later_refl server, rfl, fun ref member => by cases member⟩
  | cons ref refs ih =>
      have closes : ∀ client : ClientHandler,
          (if client.mIsClosed then client else client.close none).mIsClosed = true := by
        intro client
        split
        · assumption
        · exact HttpRequest.close_closed client none
      have first := update_later server ref _ fun client _ => closes client
      obtain ⟨later, sockets, each⟩ := ih (server.update ref _)
      refine ⟨later_trans first later, sockets.trans (update_sockets server ref _), ?_⟩
      intro other member within
      rcases List.mem_cons.mp member with rfl | rest
      · refine later.closed other ?_
        rw [Server.isClosed, update_client, if_pos rfl, Server.client,
          List.getElem?_eq_getElem within]
        exact closes _
      · exact each other rest ((update_length server ref _).symm ▸ within)

theorem closeClients_frame (refs : List Nat) (server : Server) :
    (refs.foldl (fun server ref => server.update ref fun client =>
      if client.mIsClosed then client else client.close none) server).sockets = server.sockets := by
  induction refs generalizing server with
  | nil => rfl
  | cons ref refs ih => exact ih _

end Updates

section Steps

variable (header mimeType : List UInt8) (fname : Nat → List UInt8)

theorem serverStep_later (server : Server) (answer : Bool) :
    Later server (serverStep mimeType fname server answer) := by
  unfold serverStep
  split
  case h_5 handler _ =>
    split
    · refine ⟨by simp, fun ref closed => ?_⟩
      rw [Server.isClosed, Server.client] at closed ⊢
      cases found : server.handlers[ref]? with
      | none => rw [found] at closed; cases closed
      | some handler =>
          rw [found] at closed
          rwa [List.getElem?_append_left (List.getElem?_eq_some_iff.mp found).1, found]
    · exact later_handlers rfl
  case h_10 ref rest _ =>
    exact later_trans (update_later server ref ClientHandler.stop fun client closed => closed)
      (later_handlers rfl)
  case h_12 =>
    split
    · exact later_refl server
    · exact later_trans (closeClients_spec server.mClients server).1 (later_handlers rfl)
  all_goals
    first
    | exact later_handlers rfl
    | (split <;> exact later_handlers rfl)
    | (split <;> try split) <;> exact later_handlers rfl

theorem step_later (server : Server) (event : Event) :
    Later server (step header mimeType fname server event) := by
  cases event with
  | server answer => exact serverStep_later mimeType fname server answer
  | runs ref outcome =>
      rw [step]
      apply update_later
      intro client closed
      split
      · exact run_closed client outcome closed
      · exact closed
  | lost ref room error =>
      rw [step]
      apply update_later
      exact fun client closed => closed
  | dumpData data =>
      rw [step]
      split <;> exact later_handlers rfl
  | visit =>
      rw [step]
      unfold visit
      split
      · exact later_refl server
      · exact later_handlers rfl
      case h_3 data ref rest _ =>
        exact later_trans (update_later server ref (offer header data) (offer_closed header data))
          (later_handlers rfl)
  | stop => exact later_handlers rfl

end Steps

section Invariant

/-- The server has found room for the socket it is about to add, under a new number. -/
def Room (mClients : List Nat) (handlers : Nat) : Phase → Prop
  | .constructing socket => socket.closed = false → mClients.length < MAX_CLIENTS
  | .submitting _ => mClients.length < MAX_CLIENTS
  | .adding ref => mClients.length < MAX_CLIENTS ∧ ref < handlers ∧ ref ∉ mClients
  | .done => mClients = []
  | _ => True

structure Sound (server : Server) : Prop where
  limit : server.mClients.length ≤ MAX_CLIENTS
  known : ∀ ref ∈ server.mClients, ref < server.handlers.length
  distinct : server.mClients.Nodup
  room : Room server.mClients server.handlers.length server.phase

theorem room_phase {server : Server} (sound : Sound server) (phase : Phase)
    (room : Room server.mClients server.handlers.length phase) :
    Sound { server with phase } :=
  { sound with room }

theorem room_fewer {mClients fewer : List Nat} {handlers more : Nat} {phase : Phase}
    (room : Room mClients handlers phase) (sublist : fewer.Sublist mClients)
    (longer : handlers ≤ more) : Room fewer more phase := by
  have shorter := sublist.length_le
  cases phase with
  | constructing socket => exact fun alive => shorter.trans_lt (room alive)
  | submitting handler => exact shorter.trans_lt room
  | adding ref =>
      exact ⟨shorter.trans_lt room.1, room.2.1.trans_le longer,
        fun member => room.2.2 (sublist.subset member)⟩
  | done => exact List.sublist_nil.mp (room ▸ sublist)
  | _ => trivial

/-- The list of the clients gets shorter only, and no runnable is lost. -/
theorem sound_fewer (before after : Server) (sound : Sound before)
    (fewer : after.mClients.Sublist before.mClients) (later : Later before after)
    (phase : after.phase = before.phase) : Sound after where
  limit := fewer.length_le.trans sound.limit
  known := fun ref member => (sound.known ref (fewer.subset member)).trans_le later.longer
  distinct := fewer.nodup sound.distinct
  room := by
    rw [phase]
    exact room_fewer sound.room fewer later.longer

variable (header mimeType : List UInt8) (fname : Nat → List UInt8)

theorem checking_sound (server : Server) (socket : Socket) (sound : Sound server) :
    Sound (if MAX_CLIENTS ≤ server.mClients.length then
        { server with phase := .constructing socket.close }
      else { server with phase := .constructing socket }) := by
  split
  · -- The closed socket asks for no room.
    refine room_phase sound _ fun alive => ?_
    cases alive
  case isFalse room => exact room_phase sound _ fun _ => not_le.mp room

theorem constructing_sound (server : Server) (socket : Socket)
    (phase : server.phase = .constructing socket) (sound : Sound server) :
    Sound (match newClientHandler mimeType fname socket with
      | .ok handler => { server with phase := .submitting handler }
      | .error _ => { server with phase := .looping }) := by
  have room := sound.room
  rw [phase] at room
  cases closed : socket.closed with
  | true =>
      have failed : newClientHandler mimeType fname socket = .error "Socket is closed" := by
        rw [newClientHandler, Socket.getInputStream, if_pos closed]
        rfl
      rw [failed]
      exact room_phase sound _ trivial
  | false =>
      have created : newClientHandler mimeType fname socket = .ok
          { socket := socket.number, client := { mFname := fname socket.number, mMimeType := mimeType } } := by
        rw [newClientHandler, Socket.getInputStream, if_neg (by simp [closed])]
        rfl
      rw [created]
      exact room_phase sound _ (room closed)

theorem serverStep_sound (server : Server) (answer : Bool) (sound : Sound server) :
    Sound (serverStep mimeType fname server answer) := by
  have room := sound.room
  unfold serverStep
  split
  -- The phases in the order of `serverStep`, from the loop to the end of the thread.
  case h_1 => split <;> exact room_phase sound _ trivial
  case h_2 =>
    split
    · exact { sound with room := trivial }
    · exact room_phase sound _ trivial
  case h_3 socket phase =>
    split
    · exact sound
    · exact checking_sound server socket sound
  case h_4 socket phase => exact constructing_sound mimeType fname server socket phase sound
  case h_5 handler phase =>
    rw [phase] at room
    split
    · have grown : server.handlers.length < (server.handlers ++ [handler]).length := by simp
      exact {
        limit := sound.limit
        known := fun ref member => (sound.known ref member).trans grown
        distinct := sound.distinct
        room := ⟨room, grown, fun member => lt_irrefl _ (sound.known _ member)⟩ }
    · exact room_phase sound _ trivial
  -- The new handler is added behind the check of the limit, with no dump in between.
  case h_6 ref phase =>
    rw [phase] at room
    split
    · exact sound
    · obtain ⟨below, within, new⟩ := room
      exact {
        limit := by simpa using below
        known := by
          intro other member
          rcases List.mem_append.mp member with old | added
          · exact sound.known other old
          · exact List.mem_singleton.mp added ▸ within
        distinct := List.nodup_append.mpr ⟨sound.distinct, List.nodup_singleton ref, by
          rintro other old last added rfl
          exact new (List.mem_singleton.mp added ▸ old)⟩
        room := trivial }
  case h_7 =>
    split
    · exact sound
    · exact { sound with room := trivial }
  case h_8 => exact room_phase sound _ trivial
  case h_9 => split <;> exact room_phase sound _ trivial
  case h_10 ref rest phase =>
    have updated := sound_fewer server (server.update ref ClientHandler.stop) sound
      (List.Sublist.refl _)
      (update_later server ref ClientHandler.stop fun client closed => closed) rfl
    exact room_phase updated _ trivial
  case h_11 =>
    split
    · exact room_phase sound _ trivial
    · exact sound
  case h_12 =>
    split
    · exact sound
    · exact {
        limit := Nat.zero_le _
        known := fun ref member => absurd member List.not_mem_nil
        distinct := List.nodup_nil
        room := rfl }
  case h_13 => exact sound

theorem step_sound (server : Server) (event : Event) (sound : Sound server) :
    Sound (step header mimeType fname server event) := by
  have later := step_later header mimeType fname server event
  cases event with
  | server answer => exact serverStep_sound mimeType fname server answer sound
  | runs ref outcome => exact sound_fewer _ _ sound (List.Sublist.refl _) later rfl
  | lost ref room error => exact sound_fewer _ _ sound (List.Sublist.refl _) later rfl
  | dumpData data =>
      rw [step]
      split
      · exact sound
      · exact { sound with }
  | stop => exact { sound with }
  | visit =>
      refine sound_fewer _ _ sound ?_ later ?_
      · rw [step]
        unfold visit
        split
        · exact List.Sublist.refl _
        · exact List.Sublist.refl _
        · dsimp only
          split
          · exact List.erase_sublist
          · exact List.Sublist.refl _
      · rw [step]
        unfold visit
        split <;> rfl

end Invariant

section Refused

/-- A step of the server does not bring this socket nearer to the pool. -/
def Refuses (number : Nat) : Phase → Prop
  | .checking socket => socket.number ≠ number
  | .constructing socket => socket.number = number → socket.closed = true
  | .submitting handler => handler.socket ≠ number
  | _ => True

structure Unserved (number : Nat) (server : Server) : Prop where
  accepted : number < server.sockets
  runnables : number ∉ server.handlers.map Handler.socket
  phase : Refuses number server.phase

variable (header mimeType : List UInt8) (fname : Nat → List UInt8)

theorem unserved_phase {number : Nat} {server : Server} (unserved : Unserved number server)
    (phase : Phase) (refuses : Refuses number phase) : Unserved number { server with phase } :=
  { unserved with phase := refuses }

theorem newClientHandler_ok {socket : Socket} {handler : Handler}
    (created : newClientHandler mimeType fname socket = .ok handler) :
    socket.closed = false ∧ handler.socket = socket.number := by
  cases closed : socket.closed with
  | true =>
      rw [newClientHandler, Socket.getInputStream, if_pos closed] at created
      cases created
  | false =>
      rw [newClientHandler, Socket.getInputStream, if_neg (by simp [closed])] at created
      cases created
      exact ⟨rfl, rfl⟩

theorem serverStep_unserved (number : Nat) (server : Server) (answer : Bool)
    (unserved : Unserved number server) :
    Unserved number (serverStep mimeType fname server answer) := by
  have refuses := unserved.phase
  unfold serverStep
  split
  case h_1 => split <;> exact unserved_phase unserved _ trivial
  -- Sockets are numbered as they are accepted, so that no later one has this number.
  case h_2 =>
    split
    · exact {
        accepted := Nat.lt_succ_of_lt unserved.accepted
        runnables := unserved.runnables
        phase := unserved.accepted.ne' }
    · exact unserved_phase unserved _ trivial
  case h_3 socket phase =>
    rw [phase] at refuses
    split
    · exact unserved
    · split
      · exact unserved_phase unserved _ fun same => absurd same refuses
      · exact unserved_phase unserved _ fun same => absurd same refuses
  -- A handler is built on an open socket only, and this one is closed.
  case h_4 socket phase =>
    rw [phase] at refuses
    split
    case h_1 handler created =>
      obtain ⟨alive, same⟩ := newClientHandler_ok mimeType fname created
      refine unserved_phase unserved _ fun number => ?_
      have closed := refuses (same.symm.trans number)
      rw [alive] at closed
      cases closed
    case h_2 => exact unserved_phase unserved _ trivial
  case h_5 handler phase =>
    rw [phase] at refuses
    split
    · refine ⟨unserved.accepted, ?_, trivial⟩
      rw [List.map_append, List.mem_append, not_or]
      exact ⟨unserved.runnables, fun member => refuses (List.mem_singleton.mp member).symm⟩
    · exact unserved_phase unserved _ trivial
  case h_6 =>
    split
    · exact unserved
    · exact { unserved with phase := trivial }
  case h_7 =>
    split
    · exact unserved
    · exact { unserved with phase := trivial }
  case h_8 => exact unserved_phase unserved _ trivial
  case h_9 => split <;> exact unserved_phase unserved _ trivial
  case h_10 ref rest phase =>
    exact {
      accepted := unserved.accepted
      runnables := (update_sockets server ref ClientHandler.stop).symm ▸ unserved.runnables
      phase := trivial }
  case h_11 =>
    split
    · exact unserved_phase unserved _ trivial
    · exact unserved
  case h_12 =>
    split
    · exact unserved
    · obtain ⟨-, sockets, -⟩ := closeClients_spec server.mClients server
      exact {
        accepted := by
          refine unserved.accepted.trans_eq ?_
          exact (closeClients_frame server.mClients server).symm
        runnables := by
          refine fun member => unserved.runnables ?_
          rw [← sockets]
          exact member
        phase := trivial }
  case h_13 => exact unserved

theorem update_unserved (number : Nat) (server : Server) (ref : Nat)
    (change : ClientHandler → ClientHandler) (unserved : Unserved number server) :
    Unserved number (server.update ref change) where
  accepted := unserved.accepted
  runnables := (update_sockets server ref change).symm ▸ unserved.runnables
  phase := unserved.phase

theorem step_unserved (number : Nat) (server : Server) (event : Event)
    (unserved : Unserved number server) :
    Unserved number (step header mimeType fname server event) := by
  cases event with
  | server answer => exact serverStep_unserved mimeType fname number server answer unserved
  | runs ref outcome =>
      rw [step]
      apply update_unserved
      exact unserved
  | lost ref room error =>
      rw [step]
      apply update_unserved
      exact unserved
  | dumpData data =>
      rw [step]
      split
      · exact unserved
      · exact { unserved with }
  | stop => exact { unserved with }
  | visit =>
      rw [step]
      unfold visit
      split
      · exact unserved
      · exact { unserved with }
      case h_3 data ref rest _ =>
        exact { update_unserved number server ref (offer header data) unserved with }

/-- The sockets have their own numbers: the one that the server deals with has no runnable. -/
structure Numbered (server : Server) : Prop where
  runnables : ∀ number ∈ server.handlers.map Handler.socket, number < server.sockets
  current : ∀ number ∈ server.phase.socket,
    number < server.sockets ∧ number ∉ server.handlers.map Handler.socket

theorem numbered_phase {server : Server} (numbered : Numbered server) (phase : Phase)
    (same : ∀ number ∈ phase.socket, number ∈ server.phase.socket) :
    Numbered { server with phase } :=
  { numbered with current := fun number member => numbered.current number (same number member) }

theorem numbered_none {before after : Server} (numbered : Numbered before)
    (sockets : after.sockets = before.sockets)
    (runnables : after.handlers.map Handler.socket = before.handlers.map Handler.socket)
    (phase : after.phase.socket = before.phase.socket ∨ after.phase.socket = none) :
    Numbered after where
  runnables := by
    rw [sockets, runnables]
    exact numbered.runnables
  current := by
    intro number member
    rw [sockets, runnables]
    rcases phase with same | nothing
    · exact numbered.current number (same ▸ member)
    · rw [nothing] at member
      cases member

theorem serverStep_numbered (server : Server) (answer : Bool) (numbered : Numbered server) :
    Numbered (serverStep mimeType fname server answer) := by
  unfold serverStep
  split
  case h_2 =>
    split
    · exact {
        runnables := fun number member => Nat.lt_succ_of_lt (numbered.runnables number member)
        current := by
          rintro number ⟨⟩
          exact ⟨Nat.lt_succ_self _, fun member => lt_irrefl _ (numbered.runnables _ member)⟩ }
    · exact numbered_none numbered rfl rfl (Or.inr rfl)
  case h_3 socket phase =>
    have same : ∀ number ∈ (Phase.constructing socket).socket, number ∈ server.phase.socket := by
      rw [phase]
      exact fun number member => member
    split
    · exact numbered
    · split
      · exact numbered_phase numbered _ same
      · exact numbered_phase numbered _ same
  case h_4 socket phase =>
    split
    case h_1 handler created =>
      refine numbered_phase numbered _ ?_
      rintro number ⟨⟩
      rw [phase]
      exact congrArg some (newClientHandler_ok mimeType fname created).2.symm
    case h_2 => exact numbered_none numbered rfl rfl (Or.inr rfl)
  case h_5 handler phase =>
    split
    · have current := (numbered.current handler.socket (by rw [phase]; rfl)).1
      refine ⟨?_, fun number member => by cases member⟩
      intro number member
      rw [List.map_append, List.mem_append] at member
      rcases member with old | added
      · exact numbered.runnables number old
      · exact List.mem_singleton.mp added ▸ current
    · exact numbered_none numbered rfl rfl (Or.inr rfl)
  case h_10 ref rest phase =>
    exact numbered_none numbered rfl (update_sockets server ref ClientHandler.stop) (Or.inr rfl)
  case h_12 =>
    split
    · exact numbered
    · exact numbered_none numbered (closeClients_frame server.mClients server)
        (closeClients_spec server.mClients server).2.1 (Or.inr rfl)
  case h_8 => exact numbered_none numbered rfl rfl (Or.inr rfl)
  case h_13 => exact numbered
  all_goals
    split
    · first | exact numbered | exact numbered_none numbered rfl rfl (Or.inr rfl)
    · first | exact numbered | exact numbered_none numbered rfl rfl (Or.inr rfl)

theorem step_numbered (server : Server) (event : Event) (numbered : Numbered server) :
    Numbered (step header mimeType fname server event) := by
  cases event with
  | server answer => exact serverStep_numbered mimeType fname server answer numbered
  | runs ref outcome => exact numbered_none numbered rfl (update_sockets server ref _) (Or.inl rfl)
  | lost ref room error =>
      exact numbered_none numbered rfl (update_sockets server ref _) (Or.inl rfl)
  | dumpData data =>
      rw [step]
      split
      · exact numbered
      · exact numbered_none numbered rfl rfl (Or.inl rfl)
  | stop => exact numbered_none numbered rfl rfl (Or.inl rfl)
  | visit =>
      rw [step]
      unfold visit
      split
      · exact numbered
      · exact numbered_none numbered rfl rfl (Or.inl rfl)
      case h_3 data ref rest _ =>
        exact numbered_none numbered rfl (update_sockets server ref _) (Or.inl rfl)

/-- At the limit the check refuses the socket. -/
theorem check_unserved (server : Server) (socket : Socket) (answer : Bool)
    (phase : server.phase = .checking socket) (free : server.dumping = none)
    (full : MAX_CLIENTS ≤ server.mClients.length) (numbered : Numbered server) :
    Unserved socket.number (step header mimeType fname server (.server answer)) := by
  have closes : step header mimeType fname server (.server answer) =
      { server with phase := .constructing socket.close } := by
    rw [step, serverStep, phase]
    dsimp only
    rw [free, if_neg (by simp), if_pos full]
  obtain ⟨accepted, new⟩ := numbered.current socket.number (by rw [phase]; rfl)
  rw [closes]
  exact ⟨accepted, new, fun _ => rfl⟩

end Refused

section Removal

/-- A closed client, which is not in the list or which a dump under way still visits. -/
structure Going (ref : Nat) (server : Server) : Prop where
  closed : server.isClosed ref = true
  added : server.phase ≠ .adding ref
  visited : ref ∈ server.mClients → ∃ dump, server.dumping = some dump ∧ ref ∈ dump.rest

theorem closed_known {server : Server} {ref : Nat} (closed : server.isClosed ref = true) :
    ref < server.handlers.length := by
  by_contra outside
  rw [Server.isClosed, Server.client, List.getElem?_eq_none (not_lt.mp outside)] at closed
  cases closed

variable (header mimeType : List UInt8) (fname : Nat → List UInt8)

theorem serverStep_adding (server : Server) (answer : Bool) (ref : Nat)
    (adding : (serverStep mimeType fname server answer).phase = .adding ref) :
    server.phase = .adding ref ∨ ref = server.handlers.length := by
  revert adding
  unfold serverStep
  split
  case h_5 => split <;> rintro ⟨⟩; exact Or.inr rfl
  case h_8 => rintro ⟨⟩
  case h_10 => rintro ⟨⟩
  case h_13 => exact Or.inl
  all_goals
    split <;> first | exact Or.inl | rintro ⟨⟩ | skip
  case isFalse => split <;> rintro ⟨⟩

/-- The thread of the server adds the client of its phase, and no other. -/
theorem serverStep_member (server : Server) (answer : Bool) (ref : Nat)
    (member : ref ∈ (serverStep mimeType fname server answer).mClients) :
    ref ∈ server.mClients ∨ server.phase = .adding ref := by
  revert member
  unfold serverStep
  split
  case h_6 other phase =>
    split
    · exact Or.inl
    · intro member
      rcases List.mem_append.mp member with old | added
      · exact Or.inl old
      · exact Or.inr (List.mem_singleton.mp added ▸ phase)
  case h_12 =>
    split
    · exact Or.inl
    · exact fun member => absurd member List.not_mem_nil
  case h_8 => exact Or.inl
  case h_10 => exact Or.inl
  case h_13 => exact Or.inl
  all_goals
    split <;> first | exact Or.inl | skip
  case isFalse => split <;> exact Or.inl

theorem closeClients_dumping (refs : List Nat) (server : Server) :
    (refs.foldl (fun server ref => server.update ref fun client =>
      if client.mIsClosed then client else client.close none) server).dumping = server.dumping := by
  induction refs generalizing server with
  | nil => rfl
  | cons ref refs ih => exact ih _

theorem serverStep_dumping (server : Server) (answer : Bool) :
    (serverStep mimeType fname server answer).dumping = server.dumping := by
  unfold serverStep
  split
  case h_12 =>
    split
    · rfl
    · exact closeClients_dumping server.mClients server
  case h_8 => rfl
  case h_10 => rfl
  case h_13 => rfl
  all_goals
    split <;> first | rfl | skip
  case isFalse => split <;> rfl

theorem step_going (ref : Nat) (server : Server) (event : Event) (sound : Sound server)
    (going : Going ref server) : Going ref (step header mimeType fname server event) := by
  have closed := (step_later header mimeType fname server event).closed ref going.closed
  cases event with
  | server answer =>
      refine { closed, added := fun adding => ?_, visited := fun member => ?_ }
      · rcases serverStep_adding mimeType fname server answer ref adding with before | new
        · exact going.added before
        · exact (closed_known going.closed).ne new
      · rw [step, serverStep_dumping]
        rcases serverStep_member mimeType fname server answer ref member with before | added
        · exact going.visited before
        · exact absurd added going.added
  | runs other outcome => exact { closed, added := going.added, visited := going.visited }
  | lost other room error => exact { closed, added := going.added, visited := going.visited }
  | stop => exact { closed, added := going.added, visited := going.visited }
  | dumpData data =>
      rw [step]
      split
      · exact going
      · exact { closed := going.closed, added := going.added, visited := fun member => ⟨_, rfl, member⟩ }
  | visit =>
      cases dumping : server.dumping with
      | none =>
          rw [step, visit, dumping]
          exact going
      | some dump =>
          obtain ⟨data, rest⟩ := dump
          cases rest with
          | nil =>
              rw [step, visit, dumping]
              refine { closed := going.closed, added := going.added, visited := fun member => ?_ }
              obtain ⟨dump, same, left⟩ := going.visited member
              rw [dumping] at same
              cases same
              cases left
          | cons other rest =>
              have equal : step header mimeType fname server .visit =
                  { server.update other (offer header data) with
                    mClients := if (server.update other (offer header data)).isClosed other
                      then server.mClients.erase other else server.mClients
                    dumping := some { data, rest } } := by
                rw [step, visit, dumping]
                rfl
              rw [equal] at closed ⊢
              refine { closed, added := going.added, visited := fun member => ⟨_, rfl, ?_⟩ }
              have listed : ref ∈ server.mClients := by
                dsimp only at member
                split at member
                · exact List.mem_of_mem_erase member
                · exact member
              obtain ⟨dump, same, left⟩ := going.visited listed
              rw [dumping] at same
              cases same
              rcases List.mem_cons.mp left with rfl | later
              · -- The client is closed, so this visit has removed it.
                have removed : (server.update ref (offer header data)).isClosed ref = true := closed
                dsimp only at member
                rw [if_pos removed] at member
                exact absurd member (sound.distinct.not_mem_erase)
              · exact later

theorem dump_going (server : Server) (data : List UInt8) (ref : Nat) (sound : Sound server)
    (closed : server.isClosed ref = true) (member : ref ∈ server.mClients)
    (free : server.dumping = none) (asleep : ¬ server.Waking) :
    Going ref (step header mimeType fname server (.dumpData data)) := by
  have starts : step header mimeType fname server (.dumpData data) =
      { server with dumping := some { data, rest := server.mClients } } := by
    rw [step, if_neg (by simp [free, asleep])]
  rw [starts]
  refine { closed, added := fun adding => ?_, visited := fun listed => ⟨_, rfl, listed⟩ }
  have room := sound.room
  rw [show server.phase = .adding ref from adding] at room
  exact room.2.2 member

theorem step_member (ref : Nat) (server : Server) (event : Event)
    (member : ref ∈ (step header mimeType fname server event).mClients) :
    ref ∈ server.mClients ∨ server.phase = .adding ref := by
  cases event with
  | server answer => exact serverStep_member mimeType fname server answer ref member
  | runs other outcome => exact Or.inl member
  | lost other room error => exact Or.inl member
  | stop => exact Or.inl member
  | dumpData data =>
      rw [step] at member
      split at member <;> exact Or.inl member
  | visit =>
      rw [step] at member
      unfold visit at member
      split at member
      · exact Or.inl member
      · exact Or.inl member
      · dsimp only at member
        split at member
        · exact Or.inl (List.mem_of_mem_erase member)
        · exact Or.inl member

/-- Once the dump has ended, the client is not in the list, and it stays out of it. -/
theorem going_removed (server : Server) (ref : Nat) (between later : List Event)
    (sound : Sound server) (going : Going ref server)
    (ended : (run (step header mimeType fname) server between).dumping = none) :
    ref ∉ (run (step header mimeType fname) server (between ++ later)).mClients := by
  have kept : ∀ current event, Sound current ∧ Going ref current →
      Sound (step header mimeType fname current event) ∧
        Going ref (step header mimeType fname current event) := fun current event holds =>
    ⟨step_sound header mimeType fname current event holds.1,
      step_going header mimeType fname ref current event holds.1 holds.2⟩
  have middle := Machine.run_invariant_always _ _ kept server between ⟨sound, going⟩
  have removed : ref ∉ (run (step header mimeType fname) server between).mClients := by
    intro member
    obtain ⟨dump, same, -⟩ := middle.2.visited member
    rw [ended] at same
    cases same
  rw [Machine.run_append]
  refine (Machine.run_invariant_always _ (fun current => (Sound current ∧ Going ref current) ∧
    ref ∉ current.mClients) ?_ _ later ⟨middle, removed⟩).2
  rintro current event ⟨holds, out⟩
  refine ⟨kept current event holds, fun member => ?_⟩
  rcases step_member header mimeType fname ref current event member with before | adding
  · exact out before
  · exact holds.2.added adding

/-- The visits that a dump still makes: one for each client, and one that finds no more of them. -/
def visitsLeft (server : Server) : Nat := server.dumping.elim 0 fun dump => dump.rest.length + 1

theorem step_visitsLeft (server : Server) (event : Event) (going : server.dumping.isSome = true) :
    visitsLeft (step header mimeType fname server event) + [event].count .visit =
      visitsLeft server := by
  cases event with
  | server answer =>
      rw [visitsLeft, step, serverStep_dumping]
      rfl
  | runs other outcome => rfl
  | lost other room error => rfl
  | stop => rfl
  | dumpData data =>
      rw [step, if_pos (Or.inl going)]
      rfl
  | visit =>
      rw [List.count_singleton_self, step]
      unfold visit
      split
      · next none' =>
          rw [none'] at going
          cases going
      · next dumping =>
          rw [visitsLeft, visitsLeft, dumping]
          rfl
      · next dumping =>
          rw [visitsLeft, visitsLeft, dumping]
          rfl

theorem dump_ends (server : Server) (between : List Event)
    (enough : visitsLeft server ≤ between.count .visit) :
    ∃ front back, between = front ++ back ∧
      (run (step header mimeType fname) server front).dumping = none := by
  induction between generalizing server with
  | nil =>
      refine ⟨[], [], rfl, ?_⟩
      rw [List.count_nil, visitsLeft] at enough
      cases dumping : server.dumping with
      | none => exact dumping
      | some dump =>
          rw [dumping] at enough
          exact absurd enough (Nat.not_succ_le_zero _)
  | cons event rest ih =>
      by_cases going : server.dumping.isSome = true
      · have counted := step_visitsLeft header mimeType fname server event going
        rw [← List.singleton_append, List.count_append] at enough
        obtain ⟨front, back, rfl, ended⟩ := ih (step header mimeType fname server event) (by omega)
        exact ⟨event :: front, back, rfl, ended⟩
      · exact ⟨[], event :: rest, rfl, Option.not_isSome_iff_eq_none.mp going⟩

end Removal

section Stop

variable (header mimeType : List UInt8) (fname : Nat → List UInt8)

def Kept (ref : Nat) (server : Server) : Prop :=
  ref ∈ server.mClients ∨ server.isClosed ref = true

theorem serverStep_keeps (server : Server) (answer : Bool)
    (open' : server.phase ≠ .closing ∨ server.dumping.isSome = true) :
    server.mClients ⊆ (serverStep mimeType fname server answer).mClients := by
  unfold serverStep
  split
  case h_6 =>
    split
    · exact List.Subset.refl _
    · exact List.subset_append_left _ _
  case h_12 phase =>
    rw [if_pos (open'.resolve_left (not_not.mpr phase))]
    exact List.Subset.refl _
  case h_8 => exact List.Subset.refl _
  case h_10 => exact List.Subset.refl _
  case h_13 => exact List.Subset.refl _
  all_goals
    split <;> first | exact List.Subset.refl _ | skip
  case isFalse => split <;> exact List.Subset.refl _

theorem serverStep_kept (ref : Nat) (server : Server) (answer : Bool) (sound : Sound server)
    (kept : Kept ref server) : Kept ref (serverStep mimeType fname server answer) := by
  rcases kept with listed | closed
  · by_cases open' : server.phase ≠ .closing ∨ server.dumping.isSome = true
    · exact Or.inl (serverStep_keeps mimeType fname server answer open' listed)
    · obtain ⟨phase, free⟩ := not_or.mp open'
      have closes : serverStep mimeType fname server answer =
          { closeClients server with phase := .done } := by
        rw [serverStep, not_not.mp phase]
        exact if_neg free
      obtain ⟨-, -, each⟩ := closeClients_spec server.mClients server
      rw [closes]
      exact Or.inr (each ref listed (sound.known ref listed))
  · exact Or.inr ((serverStep_later mimeType fname server answer).closed ref closed)

theorem step_kept (ref : Nat) (server : Server) (event : Event) (sound : Sound server)
    (kept : Kept ref server) : Kept ref (step header mimeType fname server event) := by
  rcases kept with listed | closed
  · cases event with
    | server answer => exact serverStep_kept mimeType fname ref server answer sound (Or.inl listed)
    | runs other outcome => exact Or.inl listed
    | lost other room error => exact Or.inl listed
    | stop => exact Or.inl listed
    | dumpData data =>
        rw [step]
        split <;> exact Or.inl listed
    | visit =>
        rw [step]
        unfold visit
        split
        · exact Or.inl listed
        · exact Or.inl listed
        case h_3 data other rest _ =>
          by_cases closed : (server.update other (offer header data)).isClosed other = true
          · by_cases same : ref = other
            · exact Or.inr (same ▸ closed)
            · refine Or.inl ?_
              dsimp only
              rw [if_pos closed]
              exact (List.mem_erase_of_ne same).mpr listed
          · refine Or.inl ?_
            dsimp only
            rw [if_neg closed]
            exact listed
  · exact Or.inr ((step_later header mimeType fname server event).closed ref closed)

def left : Phase → Nat
  | .checking _ => 25
  | .constructing _ => 24
  | .submitting _ => 23
  | .adding _ | .accepting => 22
  | .looping => 21
  | .leaving => 20
  | .waking rest => 3 + 2 * rest.length
  | .stopping _ rest => 4 + 2 * rest.length
  | .awaiting => 2
  | .closing => 1
  | .done => 0

/-- After `stop` the thread of the server comes nearer to its end with each step, unless it
    waits for a dump or for a runnable. -/
theorem stop_progress (server : Server) (answer : Bool) (sound : Sound server)
    (stopped : server.mRunning = false) (silent : server.listening = false)
    (free : server.dumping = none) (unfinished : server.phase ≠ .done)
    (ended : server.phase = .awaiting → ∀ handler ∈ server.handlers,
      handler.client.progress ≠ .reading) :
    left (serverStep mimeType fname server answer).phase < left server.phase := by
  have locked : ¬ server.dumping.isSome = true := by simp [free]
  cases phase : server.phase with
  | looping => simp [serverStep, phase, stopped, left]
  | accepting => simp [serverStep, phase, silent, left]
  | checking socket =>
      simp only [serverStep, phase, if_neg locked]
      split <;> exact Nat.lt_succ_self _
  | constructing socket =>
      simp only [serverStep, phase]
      split <;> simp [left]
  | submitting handler =>
      simp only [serverStep, phase]
      split <;> simp [left]
  | adding ref => simp [serverStep, phase, free, left]
  | leaving =>
      have few : server.mClients.length ≤ 8 := sound.limit
      simp only [serverStep, phase, if_neg locked, left]
      omega
  | waking rest =>
      cases rest with
      | nil => simp [serverStep, phase, left]
      | cons ref rest =>
          simp only [serverStep, phase]
          split <;> simp only [left, List.length_cons] <;> omega
  | stopping ref rest => simp [serverStep, phase, left]
  | awaiting =>
      have all : (server.handlers.all fun handler => handler.client.progress ≠ .reading) = true := by
        rw [List.all_eq_true]
        exact fun handler member => decide_eq_true (ended phase handler member)
      simp only [serverStep, phase, if_pos all]
      exact Nat.lt_succ_self _
  | closing =>
      simp only [serverStep, phase, if_neg locked]
      exact Nat.lt_succ_self _
  | done => exact absurd phase unfinished

/-- `stop` also closes the socket on which the server listens. -/
def Silent (server : Server) : Prop := server.mRunning = false → server.listening = false

theorem closeClients_running (refs : List Nat) (server : Server) :
    let closed := refs.foldl (fun server ref => server.update ref fun client =>
      if client.mIsClosed then client else client.close none) server
    closed.mRunning = server.mRunning ∧ closed.listening = server.listening := by
  induction refs generalizing server with
  | nil => exact ⟨rfl, rfl⟩
  | cons ref refs ih => exact ih _

theorem serverStep_silent (server : Server) (answer : Bool) (silent : Silent server) :
    Silent (serverStep mimeType fname server answer) := by
  unfold serverStep
  split
  case h_7 =>
    split
    · exact silent
    · exact fun _ => rfl
  case h_12 =>
    split
    · exact silent
    · intro stopped
      obtain ⟨running, listening⟩ := closeClients_running server.mClients server
      exact listening.trans (silent (running.symm.trans stopped))
  case h_8 => exact silent
  case h_10 => exact silent
  case h_13 => exact silent
  all_goals
    split <;> first | exact silent | skip
  case isFalse => split <;> exact silent

theorem step_silent (server : Server) (event : Event) (silent : Silent server) :
    Silent (step header mimeType fname server event) := by
  cases event with
  | server answer => exact serverStep_silent mimeType fname server answer silent
  | runs ref outcome => exact silent
  | lost ref room error => exact silent
  | stop => exact fun _ => rfl
  | dumpData data =>
      rw [step]
      split <;> exact silent
  | visit =>
      rw [step]
      unfold visit
      split <;> exact silent

end Stop

section Runs

variable (header mimeType : List UInt8) (fname : Nat → List UInt8)

structure Reached (server : Server) : Prop where
  sound : Sound server
  numbered : Numbered server
  silent : Silent server

theorem reached (events : List Event) : Reached (run (step header mimeType fname) {} events) := by
  refine Machine.run_invariant_always _ Reached (fun server event before => ?_) {} events ?_
  · exact {
      sound := step_sound header mimeType fname server event before.sound
      numbered := step_numbered header mimeType fname server event before.numbered
      silent := step_silent header mimeType fname server event before.silent }
  · exact {
      sound := ⟨Nat.zero_le _, fun ref member => absurd member List.not_mem_nil, List.nodup_nil, trivial⟩
      numbered := ⟨fun number member => absurd member List.not_mem_nil, fun number member => by cases member⟩
      silent := fun stopped => by cases stopped }

theorem runs_sound (server : Server) (events : List Event) (sound : Sound server) :
    Sound (run (step header mimeType fname) server events) :=
  Machine.run_invariant_always _ Sound
    (fun current event => step_sound header mimeType fname current event) server events sound

theorem added_closed (server : Server) (ref : Nat) (later : List Event) (sound : Sound server)
    (listed : ref ∈ server.mClients)
    (done : (run (step header mimeType fname) server later).phase = .done) :
    (run (step header mimeType fname) server later).isClosed ref = true := by
  have kept := Machine.run_invariant_always (step header mimeType fname)
    (fun current => Sound current ∧ Kept ref current)
    (fun current event holds => ⟨step_sound header mimeType fname current event holds.1,
      step_kept header mimeType fname ref current event holds.1 holds.2⟩)
    server later ⟨sound, Or.inl listed⟩
  have room := kept.1.room
  rw [done] at room
  refine kept.2.resolve_left fun member => ?_
  rw [show _ = [] from room] at member
  cases member

/-- In every run the list stays within its limit, a socket that is refused there never becomes
    a client or a runnable, a dump ends with its visits and has then removed the clients that were
    closed before it, and when the thread of the server has ended, all clients that were added are
    closed. -/
theorem client_set (events : List Event) :
    let next := step header mimeType fname
    let server := run next {} events
    server.mClients.length ≤ MAX_CLIENTS ∧
    (∀ socket answer later, server.phase = .checking socket → server.dumping = none →
      MAX_CLIENTS ≤ server.mClients.length →
      let last := run next (next server (.server answer)) later
      socket.number ∉ last.handlers.map Handler.socket ∧
        ∀ ref ∈ last.mClients, ∃ handler, last.handlers[ref]? = some handler ∧
          handler.socket ≠ socket.number) ∧
    (∀ data between, server.dumping = none → ¬ server.Waking →
      server.mClients.length < between.count .visit →
      ∃ front back, between = front ++ back ∧
        (run next (next server (.dumpData data)) front).dumping = none) ∧
    (∀ data ref between later, server.dumping = none → ¬ server.Waking →
      ref ∈ server.mClients → server.isClosed ref = true →
      (run next (next server (.dumpData data)) between).dumping = none →
      ref ∉ (run next (next server (.dumpData data)) (between ++ later)).mClients) ∧
    (∀ ref later, ref ∈ server.mClients → (run next server later).phase = .done →
      (run next server later).isClosed ref = true) ∧
    (∀ answer, server.mRunning = false → server.dumping = none → server.phase ≠ .done →
      (server.phase = .awaiting → ∀ handler ∈ server.handlers,
        handler.client.progress ≠ .reading) →
      left (next server (.server answer)).phase < left server.phase) := by
  intro next server
  obtain ⟨sound, numbered, silent⟩ := reached header mimeType fname events
  refine ⟨sound.limit, ?_, ?_, ?_, ?_, ?_⟩
  · intro socket answer later phase free full last
    have refused := check_unserved header mimeType fname server socket answer phase free full numbered
    have unserved : Unserved socket.number last := Machine.run_invariant_always next
      (Unserved socket.number)
      (fun current event => step_unserved header mimeType fname socket.number current event) _ later
      refused
    have known := (runs_sound header mimeType fname _ later
      (step_sound header mimeType fname server (.server answer) sound)).known
    refine ⟨unserved.runnables, fun ref member => ?_⟩
    have within := known ref member
    refine ⟨_, List.getElem?_eq_getElem within, fun same => unserved.runnables ?_⟩
    exact List.mem_map.mpr ⟨_, List.getElem_mem within, same⟩
  · intro data between free asleep enough
    refine dump_ends header mimeType fname _ between ?_
    have starts : next server (.dumpData data) =
        { server with dumping := some { data, rest := server.mClients } } :=
      if_neg (by simp [free, asleep])
    rw [starts]
    exact enough
  · intro data ref between later free asleep member closed ended
    exact going_removed header mimeType fname _ ref between later
      (step_sound header mimeType fname server (.dumpData data) sound)
      (dump_going header mimeType fname server data ref sound closed member free asleep) ended
  · exact fun ref later listed done =>
      added_closed header mimeType fname server ref later sound listed done
  · exact fun answer stopped free unfinished ended =>
      stop_progress mimeType fname server answer sound stopped (silent stopped) free unfinished ended

end Runs

end Ptnet.HttpServer
