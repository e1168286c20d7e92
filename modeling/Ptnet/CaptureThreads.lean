import Ptnet.BoundedQueue
import Ptnet.Machine

/-!
The threads of `CaptureService`: the capture thread, which fills the queue of updates and the
queue of the dump and in the end stops and joins the workers, and the two workers. A blocking
call which cannot go on leaves the state as it is.
-/

namespace Ptnet.CaptureThreads

variable {New Upd : Type}

/-- An element of `mPendingUpdates`; the one without new connections asks for termination. -/
structure PendingUpdate (New Upd : Type) where
  first : Option (List New)
  second : Option (List Upd)
  deriving DecidableEq, Repr

/-- An element of `mDumpQueue`; the empty one asks for termination. -/
abbrev Chunk := List UInt8

inductive CaptureThread where
  | capturing
  /-- In the `put` of `dumpPcapData`. -/
  | putting (data : Chunk)
  | joiningUpdates
  | joiningDumper
  | finished
  deriving DecidableEq, Repr

inductive UpdateWorker where
  | taking
  | working
  | exited
  deriving DecidableEq, Repr

inductive DumpWorker where
  | taking
  | dumping
  | exited
  deriving DecidableEq, Repr

/-- `mDumper` with its queue and its thread. -/
structure Dumper where
  mDumpQueue : BoundedQueue Chunk
  worker : DumpWorker := .taking
  /-- The native dumper is there, so that data may still come. -/
  native : Bool := true
  deriving DecidableEq, Repr

structure Service (New Upd : Type) where
  mPendingUpdates : BoundedQueue (PendingUpdate New Upd)
  mQueueFull : Bool := false
  updateWorker : UpdateWorker := .taking
  dumper : Option Dumper
  capture : CaptureThread := .capturing
  deriving DecidableEq, Repr

inductive Event (New Upd : Type) where
  | updateConnections (item : PendingUpdate New Upd)
  | dumpPcapData (data : Chunk)
  | retryPut
  | stopPcapDump
  | requestBlacklistsUpdate
  | stopAndJoinThreads
  | interrupt
  | joined
  | takeUpdate
  | updateDone
  | takeChunk
  | dumped (ioException : Bool)
  deriving DecidableEq, Repr

namespace Service

variable (service : Service New Upd)

def offerUpdate (item : PendingUpdate New Upd) : Service New Upd :=
  { service with mPendingUpdates := (service.mPendingUpdates.offer item).1 }

def updateConnections (item : PendingUpdate New Upd) : Service New Upd :=
  if service.mQueueFull then service
  else
    match service.mPendingUpdates.offer item with
    | (queue, true) => { service with mPendingUpdates := queue }
    | (_, false) => { service with mQueueFull := true }

/-- `mDumpQueue.put`, by which the capture thread waits for room. -/
def put (dumper : Dumper) (data : Chunk) : Service New Upd :=
  match dumper.mDumpQueue.offer data with
  | (queue, true) =>
      { service with dumper := some { dumper with mDumpQueue := queue }, capture := .capturing }
  | (_, false) => { service with capture := .putting data }

def dumpPcapData (data : Chunk) : Service New Upd :=
  match service.dumper with
  | some dumper => if data ≠ [] ∧ dumper.native then service.put dumper data else service
  | none => service

def stopPcapDump : Service New Upd :=
  match service.dumper with
  | some dumper =>
      if dumper.worker = .exited then service
      else
        { service with
          dumper := some { dumper with mDumpQueue := (dumper.mDumpQueue.offer []).1 } }
  | none => service

def closeNative : Service New Upd :=
  { service with dumper := service.dumper.map fun dumper => { dumper with native := false } }

def signalServicesTermination : Service New Upd := (service.offerUpdate ⟨none, none⟩).stopPcapDump

/-- A join returns when its thread has exited. -/
def joined : Service New Upd :=
  match service.capture with
  | .joiningUpdates =>
      if service.updateWorker = .exited then { service with capture := .joiningDumper } else service
  | .joiningDumper =>
      if ∀ dumper ∈ service.dumper, dumper.worker = .exited then
        { service with capture := .finished }
      else service
  | _ => service

def interrupt : Service New Upd :=
  match service.capture with
  | .joiningUpdates => service.offerUpdate ⟨none, none⟩
  | .joiningDumper => service.stopPcapDump
  | _ => service

/-- The `take` of `connUpdateWork`. -/
def takeUpdate : Service New Upd :=
  if service.updateWorker = .taking then
    match service.mPendingUpdates.take with
    | none => service
    | some (item, rest) =>
        { service with
          mPendingUpdates := rest
          updateWorker := if item.first = none then .exited else .working }
  else service

def updateDone : Service New Upd :=
  if service.updateWorker = .working then { service with updateWorker := .taking } else service

/-- The `take` of `dumpWork`. -/
def takeChunk : Service New Upd :=
  match service.dumper with
  | some dumper =>
      if dumper.worker = .taking then
        match dumper.mDumpQueue.take with
        | none => service
        | some (data, rest) =>
            { service with
              dumper := some
                { dumper with
                  mDumpQueue := rest
                  worker := if data = [] then .exited else .dumping } }
      else service
  | none => service

/-- The end of `mDumper.dumpData`. -/
def dumped (ioException : Bool) : Service New Upd :=
  match service.dumper with
  | some dumper =>
      if dumper.worker = .dumping then
        { service with
          dumper := some { dumper with worker := if ioException then .exited else .taking } }
      else service
  | none => service

def step : Event New Upd → Service New Upd
  | .updateConnections item =>
      if service.capture = .capturing then service.updateConnections item else service
  | .dumpPcapData data =>
      if service.capture = .capturing then service.dumpPcapData data else service
  | .retryPut =>
      match service.capture, service.dumper with
      | .putting data, some dumper => service.put dumper data
      | _, _ => service
  | .stopPcapDump =>
      if service.capture = .capturing then service.closeNative.stopPcapDump else service
  | .requestBlacklistsUpdate => service.offerUpdate ⟨some [], some []⟩
  | .stopAndJoinThreads =>
      if service.capture = .capturing then
        { service.signalServicesTermination with capture := .joiningUpdates }
      else service
  | .interrupt => service.interrupt
  | .joined => service.joined
  | .takeUpdate => service.takeUpdate
  | .updateDone => service.updateDone
  | .takeChunk => service.takeChunk
  | .dumped ioException => service.dumped ioException

end Service

def start (updatesCapacity : Nat) (dumpCapacity : Option Nat) : Service New Upd where
  mPendingUpdates := BoundedQueue.empty updatesCapacity
  dumper := dumpCapacity.map fun capacity => { mDumpQueue := BoundedQueue.empty capacity }

section Shutdown

variable (service : Service New Upd)

/-- `stopAndJoinThreads` was called; nothing is produced for the workers any more. -/
def stopRequested : Bool :=
  match service.capture with
  | .capturing | .putting _ => false
  | .joiningUpdates | .joiningDumper | .finished => true

/-- The update worker has exited, or a termination request is ahead of it. -/
def UpdatesEnd : Prop :=
  service.updateWorker = .exited ∨ ∃ item ∈ service.mPendingUpdates.items, item.first = none

def DumpEnds (dumper : Dumper) : Prop := dumper.worker = .exited ∨ [] ∈ dumper.mDumpQueue.items

/-- A thread waits for a queue whose other side has exited. -/
inductive LeftBlocked : Prop where
  | put (data : Chunk) (dumper : Dumper) (waits : service.capture = .putting data)
      (present : service.dumper = some dumper) (full : dumper.mDumpQueue.isFull = true)
      (exited : dumper.worker = .exited)
  | takeUpdate (stopped : stopRequested service = true) (waits : service.updateWorker = .taking)
      (empty : service.mPendingUpdates.items = [])
  | takeChunk (stopped : stopRequested service = true) (dumper : Dumper)
      (present : service.dumper = some dumper) (waits : dumper.worker = .taking)
      (empty : dumper.mDumpQueue.items = [])

/-- What the shutdown protocol is to guarantee. -/
structure Orderly : Prop where
  updatesEnd : stopRequested service = true → UpdatesEnd service
  dumpEnds : stopRequested service = true → ∀ dumper, service.dumper = some dumper → DumpEnds dumper
  unblocked : ¬ LeftBlocked service

def UpdatesRoom : Prop := service.mPendingUpdates.isFull = false ∨ UpdatesEnd service

def DumpRoom (dumper : Dumper) : Prop := dumper.mDumpQueue.isFull = false ∨ DumpEnds dumper

/-- The two queues have room for the termination requests, and the dump worker does not fail
    under a producer that waits, nor before data for a full queue. -/
def Careful : Event New Upd → Prop
  | .stopAndJoinThreads =>
      service.capture = .capturing →
        UpdatesRoom service ∧ ∀ dumper, service.dumper = some dumper → DumpRoom dumper
  | .dumpPcapData data =>
      service.capture = .capturing → data ≠ [] →
        ∀ dumper, service.dumper = some dumper → dumper.native = true → dumper.worker = .exited →
          dumper.mDumpQueue.isFull = false
  | .dumped true =>
      ∀ data dumper, service.capture = .putting data → service.dumper = some dumper →
        dumper.worker = .dumping → dumper.mDumpQueue.isFull = false
  | _ => True

end Shutdown

section Steps

variable {service : Service New Upd}

/-- The workers do not wait in vain when a termination request is ahead of them. -/
theorem orderly_of (updatesEnd : stopRequested service = true → UpdatesEnd service)
    (dumpEnds : stopRequested service = true →
      ∀ dumper, service.dumper = some dumper → DumpEnds dumper)
    (puts : ∀ data dumper, service.capture = .putting data → service.dumper = some dumper →
      dumper.worker = .exited → dumper.mDumpQueue.isFull = false) : Orderly service where
  updatesEnd := updatesEnd
  dumpEnds := dumpEnds
  unblocked := by
    rintro (⟨data, dumper, waits, present, full, exited⟩ | ⟨stopped, waits, empty⟩ |
      ⟨stopped, dumper, present, waits, empty⟩)
    · rw [puts data dumper waits present exited] at full
      exact Bool.false_ne_true full
    · rcases updatesEnd stopped with exited | ⟨item, member, -⟩
      · rw [exited] at waits
        cases waits
      · rw [empty] at member
        cases member
    · rcases dumpEnds stopped dumper present with exited | member
      · rw [exited] at waits
        cases waits
      · rw [empty] at member
        cases member

theorem orderly_puts (orderly : Orderly service) (data : Chunk) (dumper : Dumper)
    (waits : service.capture = .putting data) (present : service.dumper = some dumper)
    (exited : dumper.worker = .exited) : dumper.mDumpQueue.isFull = false := by
  by_contra full
  exact orderly.unblocked (.put data dumper waits present (by simpa using full) exited)

theorem orderly_capturing (capturing : service.capture = .capturing) : Orderly service := by
  have running : stopRequested service = false := by rw [stopRequested, capturing]
  apply orderly_of
  · intro stopped
    exact absurd (running.symm.trans stopped) Bool.false_ne_true
  · intro stopped
    exact absurd (running.symm.trans stopped) Bool.false_ne_true
  · intro data dumper waits
    rw [capturing] at waits
    cases waits

/-- A put leaves the capture thread blocked only if nobody takes from a full queue. -/
theorem orderly_put (dumper : Dumper) (data : Chunk) (present : service.dumper = some dumper) :
    Orderly (service.put dumper data) ↔
      (dumper.worker = .exited → dumper.mDumpQueue.isFull = false) := by
  cases full : dumper.mDumpQueue.isFull with
  | false =>
      have accepted := dumper.mDumpQueue.offer_room data full
      have capturing : (service.put dumper data).capture = .capturing := by
        unfold Service.put
        rcases outcome : dumper.mDumpQueue.offer data with ⟨queue, _ | _⟩
        · rw [outcome] at accepted
          exact absurd accepted.1 Bool.false_ne_true
        · rfl
      exact iff_of_true (orderly_capturing capturing) fun _ => rfl
  | true =>
      have waiting : service.put dumper data = { service with capture := .putting data } := by
        rw [Service.put, dumper.mDumpQueue.offer_full data full]
      rw [waiting]
      constructor
      · intro orderly exited
        exact full.symm.trans (orderly_puts orderly data dumper rfl present exited)
      · intro alive
        apply orderly_of
        · intro stopped
          cases stopped
        · intro stopped
          cases stopped
        · intro other later waits same exited
          obtain rfl := Option.some.inj (present.symm.trans same)
          exact absurd (alive exited) (by simp)

theorem orderly_offerUpdate (item : PendingUpdate New Upd) (orderly : Orderly service) :
    Orderly (service.offerUpdate item) := by
  apply orderly_of
  · intro stopped
    rcases orderly.updatesEnd stopped with exited | ⟨request, member, asks⟩
    · exact Or.inl exited
    · exact Or.inr ⟨request, service.mPendingUpdates.offer_keeps item request member, asks⟩
  · exact orderly.dumpEnds
  · exact fun data dumper waits => orderly_puts orderly data dumper waits

theorem orderly_stopPcapDump (orderly : Orderly service) : Orderly service.stopPcapDump := by
  unfold Service.stopPcapDump
  cases present : service.dumper with
  | none => exact orderly
  | some dumper =>
      dsimp only
      by_cases exited : dumper.worker = .exited
      · rwa [if_pos exited]
      · rw [if_neg exited]
        apply orderly_of
        · exact orderly.updatesEnd
        · intro stopped other same
          obtain rfl := Option.some.inj same
          rcases orderly.dumpEnds stopped dumper present with gone | member
          · exact absurd gone exited
          · exact Or.inr (dumper.mDumpQueue.offer_keeps [] [] member)
        · intro data other waits same gone
          obtain rfl := Option.some.inj same
          exact absurd gone exited

theorem orderly_joined (orderly : Orderly service) : Orderly service.joined := by
  unfold Service.joined
  cases capture : service.capture with
  | capturing => exact orderly
  | putting data => exact orderly
  | finished => exact orderly
  | joiningUpdates =>
      have stopped : stopRequested service = true := by rw [stopRequested, capture]
      dsimp only
      split
      · exact orderly_of (fun _ => orderly.updatesEnd stopped) (fun _ => orderly.dumpEnds stopped)
          fun data _ waits => absurd waits (by simp)
      · exact orderly
  | joiningDumper =>
      have stopped : stopRequested service = true := by rw [stopRequested, capture]
      dsimp only
      split
      · exact orderly_of (fun _ => orderly.updatesEnd stopped) (fun _ => orderly.dumpEnds stopped)
          fun data _ waits => absurd waits (by simp)
      · exact orderly

theorem orderly_takeUpdate (orderly : Orderly service) : Orderly service.takeUpdate := by
  unfold Service.takeUpdate
  by_cases taking : service.updateWorker = .taking
  · rw [if_pos taking]
    rcases outcome : service.mPendingUpdates.take with _ | ⟨item, rest⟩
    · exact orderly
    · obtain ⟨items, -⟩ := service.mPendingUpdates.take_some item rest outcome
      apply orderly_of
      · intro stopped
        rcases orderly.updatesEnd stopped with exited | ⟨request, member, asks⟩
        · rw [exited] at taking
          cases taking
        · by_cases last : item.first = none
          · exact Or.inl (if_pos last)
          · rw [items] at member
            rcases List.mem_cons.mp member with rfl | later
            · exact absurd asks last
            · exact Or.inr ⟨request, later, asks⟩
      · exact orderly.dumpEnds
      · exact fun data dumper waits => orderly_puts orderly data dumper waits
  · rwa [if_neg taking]

theorem orderly_updateDone (orderly : Orderly service) : Orderly service.updateDone := by
  unfold Service.updateDone
  by_cases working : service.updateWorker = .working
  · rw [if_pos working]
    apply orderly_of
    · intro stopped
      rcases orderly.updatesEnd stopped with exited | ahead
      · rw [exited] at working
        cases working
      · exact Or.inr ahead
    · exact orderly.dumpEnds
    · exact fun data dumper waits => orderly_puts orderly data dumper waits
  · rwa [if_neg working]

theorem orderly_takeChunk (orderly : Orderly service) : Orderly service.takeChunk := by
  unfold Service.takeChunk
  cases present : service.dumper with
  | none => exact orderly
  | some dumper =>
      dsimp only
      by_cases taking : dumper.worker = .taking
      · rw [if_pos taking]
        rcases outcome : dumper.mDumpQueue.take with _ | ⟨data, rest⟩
        · exact orderly
        · obtain ⟨items, room⟩ := dumper.mDumpQueue.take_some data rest outcome
          apply orderly_of
          · exact orderly.updatesEnd
          · intro stopped other same
            obtain rfl := Option.some.inj same
            rcases orderly.dumpEnds stopped dumper present with exited | member
            · rw [exited] at taking
              cases taking
            · by_cases last : data = []
              · exact Or.inl (if_pos last)
              · rw [items] at member
                rcases List.mem_cons.mp member with same | later
                · exact absurd same.symm last
                · exact Or.inr later
          · intro waiting other _ same _
            obtain rfl := Option.some.inj same
            exact room
      · rwa [if_neg taking]

/-- The dump worker may fail when no producer waits for it. -/
theorem orderly_dumped (ioException : Bool) (orderly : Orderly service) :
    Orderly (service.dumped ioException) ↔ Careful service (.dumped ioException) := by
  unfold Service.dumped
  cases present : service.dumper with
  | none =>
      apply iff_of_true orderly
      cases ioException with
      | false => trivial
      | true =>
          intro data dumper _ same
          rw [present] at same
          cases same
  | some dumper =>
      dsimp only
      by_cases dumping : dumper.worker = .dumping
      · rw [if_pos dumping]
        -- Once a stop is requested the end of the dump is queued, or the worker has exited.
        have ends : stopRequested service = true → ∀ worker : DumpWorker,
            DumpEnds { dumper with worker := worker } := by
          intro stopped worker
          rcases orderly.dumpEnds stopped dumper present with exited | member
          · rw [exited] at dumping
            cases dumping
          · exact Or.inr member
        constructor
        · intro next
          cases ioException with
          | false => trivial
          | true =>
              intro data other waits same _
              obtain rfl := Option.some.inj (present.symm.trans same)
              have room := orderly_puts next data { dumper with worker := .exited } waits rfl rfl
              exact room
        · intro careful
          apply orderly_of
          · exact orderly.updatesEnd
          · intro stopped other same
            obtain rfl := Option.some.inj same
            exact ends stopped _
          · intro data other waits same exited
            obtain rfl := Option.some.inj same
            cases ioException with
            | false => cases exited
            | true => exact careful data dumper waits present dumping
      · rw [if_neg dumping]
        apply iff_of_true orderly
        cases ioException with
        | false => trivial
        | true =>
            intro data other _ same alive
            obtain rfl := Option.some.inj (present.symm.trans same)
            exact absurd alive dumping

theorem updatesEnd_offer (service : Service New Upd) :
    UpdatesEnd (service.offerUpdate ⟨none, none⟩) ↔ UpdatesRoom service := by
  constructor
  · intro ends
    cases full : service.mPendingUpdates.isFull with
    | false => exact Or.inl full
    | true =>
        right
        rcases ends with exited | ⟨item, member, asks⟩
        · exact Or.inl exited
        · rw [Service.offerUpdate, service.mPendingUpdates.offer_full _ full] at member
          exact Or.inr ⟨item, member, asks⟩
  · rintro (room | exited | ⟨item, member, asks⟩)
    · exact Or.inr ⟨_, (service.mPendingUpdates.mem_offer _).mpr (Or.inl room), rfl⟩
    · exact Or.inl exited
    · exact Or.inr ⟨item, service.mPendingUpdates.offer_keeps _ item member, asks⟩

/-- The dumper once its worker was asked to terminate. -/
def requested (dumper : Dumper) : Dumper :=
  if dumper.worker = .exited then dumper
  else { dumper with mDumpQueue := (dumper.mDumpQueue.offer []).1 }

theorem stopPcapDump_eq (service : Service New Upd) :
    service.stopPcapDump = { service with dumper := service.dumper.map requested } := by
  obtain ⟨pendingUpdates, queueFull, updateWorker, dumper, capture⟩ := service
  cases dumper with
  | none => rfl
  | some dumper =>
      simp only [Service.stopPcapDump, Option.map_some, requested]
      split <;> rfl

theorem dumpEnds_requested (dumper : Dumper) : DumpEnds (requested dumper) ↔ DumpRoom dumper := by
  unfold requested DumpRoom
  by_cases exited : dumper.worker = .exited
  · rw [if_pos exited]
    exact iff_of_true (Or.inl exited) (Or.inr (Or.inl exited))
  · rw [if_neg exited]
    unfold DumpEnds
    rw [or_iff_right exited, or_iff_right exited]
    exact dumper.mDumpQueue.mem_offer []

/-- The requests have a place when both queues have room, and only then. -/
theorem orderly_stopAndJoin :
    Orderly { service.signalServicesTermination with capture := .joiningUpdates } ↔
      UpdatesRoom service ∧ ∀ dumper, service.dumper = some dumper → DumpRoom dumper := by
  have signalled : service.signalServicesTermination =
      { service.offerUpdate ⟨none, none⟩ with dumper := service.dumper.map requested } :=
    stopPcapDump_eq _
  rw [signalled]
  constructor
  · intro orderly
    constructor
    · exact (updatesEnd_offer service).mp (orderly.updatesEnd rfl)
    · intro dumper present
      apply (dumpEnds_requested dumper).mp
      apply orderly.dumpEnds rfl
      change service.dumper.map requested = some (requested dumper)
      rw [present, Option.map_some]
  · rintro ⟨updates, dumps⟩
    apply orderly_of
    · exact fun _ => (updatesEnd_offer service).mpr updates
    · intro _ other same
      obtain ⟨dumper, present, rfl⟩ := Option.map_eq_some_iff.mp same
      exact (dumpEnds_requested dumper).mpr (dumps dumper present)
    · intro data _ waits
      cases waits

theorem step_orderly (event : Event New Upd) (orderly : Orderly service) :
    Orderly (service.step event) ↔ Careful service event := by
  cases event with
  | updateConnections item =>
      apply iff_of_true _ trivial
      by_cases capturing : service.capture = .capturing
      · apply orderly_capturing
        rw [Service.step, if_pos capturing, Service.updateConnections]
        split
        · exact capturing
        · split <;> exact capturing
      · rwa [Service.step, if_neg capturing]
  | dumpPcapData data =>
      by_cases capturing : service.capture = .capturing
      · rw [Service.step, if_pos capturing, Service.dumpPcapData]
        cases present : service.dumper with
        | none =>
            apply iff_of_true orderly
            intro _ _ dumper same
            rw [present] at same
            cases same
        | some dumper =>
            dsimp only
            by_cases comes : data ≠ [] ∧ dumper.native = true
            -- The put that a dump worker which has exited will not take is the one to exclude.
            · rw [if_pos comes, orderly_put dumper data present]
              constructor
              · intro alive _ _ other same _ exited
                obtain rfl := Option.some.inj (present.symm.trans same)
                exact alive exited
              · intro careful exited
                exact careful capturing comes.1 dumper present comes.2 exited
            · rw [if_neg comes]
              apply iff_of_true orderly
              intro _ some other same native _
              obtain rfl := Option.some.inj (present.symm.trans same)
              exact absurd ⟨some, native⟩ comes
      · rw [Service.step, if_neg capturing]
        exact iff_of_true orderly fun running => absurd running capturing
  | retryPut =>
      apply iff_of_true _ trivial
      rw [Service.step]
      cases capture : service.capture with
      | putting data =>
          cases present : service.dumper with
          | none => exact orderly
          | some dumper =>
              exact (orderly_put dumper data present).mpr
                (orderly_puts orderly data dumper capture present)
      | capturing => exact orderly
      | joiningUpdates => exact orderly
      | joiningDumper => exact orderly
      | finished => exact orderly
  | stopPcapDump =>
      apply iff_of_true _ trivial
      by_cases capturing : service.capture = .capturing
      · rw [Service.step, if_pos capturing]
        apply orderly_stopPcapDump
        exact orderly_capturing capturing
      · rwa [Service.step, if_neg capturing]
  | requestBlacklistsUpdate => exact iff_of_true (orderly_offerUpdate _ orderly) trivial
  | stopAndJoinThreads =>
      by_cases capturing : service.capture = .capturing
      · rw [Service.step, if_pos capturing, orderly_stopAndJoin]
        exact ⟨fun room _ => room, fun careful => careful capturing⟩
      · rw [Service.step, if_neg capturing]
        exact iff_of_true orderly fun running => absurd running capturing
  | interrupt =>
      apply iff_of_true _ trivial
      rw [Service.step, Service.interrupt]
      split
      · exact orderly_offerUpdate _ orderly
      · exact orderly_stopPcapDump orderly
      · exact orderly
  | joined => exact iff_of_true (orderly_joined orderly) trivial
  | takeUpdate => exact iff_of_true (orderly_takeUpdate orderly) trivial
  | updateDone => exact iff_of_true (orderly_updateDone orderly) trivial
  | takeChunk => exact iff_of_true (orderly_takeChunk orderly) trivial
  | dumped ioException => exact orderly_dumped ioException orderly

end Steps

section Runs

theorem start_orderly (updatesCapacity : Nat) (dumpCapacity : Option Nat) :
    Orderly (start updatesCapacity dumpCapacity : Service New Upd) := orderly_capturing rfl

/-- The shutdown protocol holds in every state of a run if and only if its steps are careful. -/
theorem shutdown_orderly_iff (updatesCapacity : Nat) (dumpCapacity : Option Nat)
    (events : List (Event New Upd)) :
    (∀ reached, reached <+: events →
      Orderly (Machine.run Service.step (start updatesCapacity dumpCapacity) reached)) ↔
      Machine.Along Service.step Careful (start updatesCapacity dumpCapacity) events :=
  Machine.reached_iff Service.step Careful Orderly
    (fun _ event orderly => step_orderly event orderly) _ events
    (start_orderly updatesCapacity dumpCapacity)

/-- A worker with a termination request ahead of it gets there by its own steps. -/
theorem updates_exit (service : Service New Upd) (taking : service.updateWorker = .taking)
    (request : ∃ item ∈ service.mPendingUpdates.items, item.first = none) :
    ∃ events, let after := Machine.run Service.step service events
      after.updateWorker = .exited ∧ after.capture = service.capture ∧
        after.dumper = service.dumper := by
  induction listed : service.mPendingUpdates.items generalizing service with
  | nil =>
      obtain ⟨item, member, -⟩ := request
      rw [listed] at member
      cases member
  | cons item others ih =>
      obtain ⟨rest, taken, items⟩ := service.mPendingUpdates.take_cons item others listed
      by_cases asks : item.first = none
      · refine ⟨[.takeUpdate], ?_⟩
        simp [Service.step, Service.takeUpdate, taking, taken, asks]
      · let next : Service New Upd :=
          { service with mPendingUpdates := rest, updateWorker := .taking }
        have two : (service.step .takeUpdate).step .updateDone = next := by
          simp [Service.step, Service.takeUpdate, Service.updateDone, taking, taken, asks, next]
        obtain ⟨other, member, last⟩ := request
        have later : ∃ item ∈ rest.items, item.first = none := by
          rw [listed] at member
          rcases List.mem_cons.mp member with rfl | later
          · exact absurd last asks
          · exact ⟨other, items ▸ later, last⟩
        obtain ⟨events, ended⟩ := ih next rfl later items
        refine ⟨.takeUpdate :: .updateDone :: events, ?_⟩
        rw [Machine.run_cons, Machine.run_cons, two]
        exact ended

theorem dump_exits (service : Service New Upd) (dumper : Dumper)
    (present : service.dumper = some dumper) (taking : dumper.worker = .taking)
    (request : [] ∈ dumper.mDumpQueue.items) :
    ∃ events ended, let after := Machine.run Service.step service events
      after.dumper = some ended ∧ ended.worker = .exited ∧ after.capture = service.capture ∧
        after.updateWorker = service.updateWorker := by
  induction listed : dumper.mDumpQueue.items generalizing service dumper with
  | nil =>
      rw [listed] at request
      cases request
  | cons data others ih =>
      obtain ⟨rest, taken, items⟩ := dumper.mDumpQueue.take_cons data others listed
      by_cases asks : data = []
      · refine ⟨[.takeChunk], { dumper with mDumpQueue := rest, worker := .exited }, ?_⟩
        simp [Service.step, Service.takeChunk, present, taking, taken, asks]
      · let left : Dumper := { dumper with mDumpQueue := rest, worker := .taking }
        let next : Service New Upd := { service with dumper := some left }
        have two : (service.step .takeChunk).step (.dumped false) = next := by
          simp [Service.step, Service.takeChunk, Service.dumped, present, taking, taken, asks, next,
            left]
        have later : [] ∈ rest.items := by
          rw [listed] at request
          rcases List.mem_cons.mp request with same | later
          · exact absurd same.symm asks
          · exact items ▸ later
        obtain ⟨events, ended, outcome⟩ := ih next left rfl rfl later items
        refine ⟨.takeChunk :: .dumped false :: events, ended, ?_⟩
        rw [Machine.run_cons, Machine.run_cons, two]
        exact outcome

theorem updates_finish (service : Service New Upd) (ends : UpdatesEnd service) :
    ∃ events, let after := Machine.run Service.step service events
      after.updateWorker = .exited ∧ after.capture = service.capture ∧
        after.dumper = service.dumper := by
  cases worker : service.updateWorker with
  | exited => exact ⟨[], worker, rfl, rfl⟩
  | taking => exact updates_exit service worker (ends.resolve_left (by simp [worker]))
  | working =>
      let next : Service New Upd := { service with updateWorker := .taking }
      have done : service.step .updateDone = next := by
        simp [Service.step, Service.updateDone, worker, next]
      obtain ⟨events, ended⟩ := updates_exit next rfl (ends.resolve_left (by simp [worker]))
      refine ⟨.updateDone :: events, ?_⟩
      rw [Machine.run_cons, done]
      exact ended

theorem dump_finishes (service : Service New Upd) (dumper : Dumper)
    (present : service.dumper = some dumper) (ends : DumpEnds dumper) :
    ∃ events ended, let after := Machine.run Service.step service events
      after.dumper = some ended ∧ ended.worker = .exited ∧ after.capture = service.capture ∧
        after.updateWorker = service.updateWorker := by
  cases worker : dumper.worker with
  | exited => exact ⟨[], dumper, present, worker, rfl, rfl⟩
  | taking => exact dump_exits service dumper present worker (ends.resolve_left (by simp [worker]))
  | dumping =>
      let left : Dumper := { dumper with worker := .taking }
      let next : Service New Upd := { service with dumper := some left }
      have done : service.step (.dumped false) = next := by
        simp [Service.step, Service.dumped, present, worker, next, left]
      obtain ⟨events, ended, outcome⟩ :=
        dump_exits next left rfl rfl (ends.resolve_left (by simp [worker]))
      refine ⟨.dumped false :: events, ended, ?_⟩
      rw [Machine.run_cons, done]
      exact outcome

theorem joins_return (service : Service New Upd) (stopped : stopRequested service = true)
    (updates : service.updateWorker = .exited)
    (dumps : ∀ dumper, service.dumper = some dumper → dumper.worker = .exited) :
    Machine.run Service.step service [.joined, .joined] = { service with capture := .finished } := by
  obtain ⟨pendingUpdates, queueFull, updateWorker, dumper, capture⟩ := service
  let at' (phase : CaptureThread) : Service New Upd :=
    ⟨pendingUpdates, queueFull, updateWorker, dumper, phase⟩
  have first : (at' .joiningUpdates).step .joined = at' .joiningDumper := if_pos updates
  have last : (at' .joiningDumper).step .joined = at' .finished := if_pos dumps
  cases capture with
  | capturing => cases stopped
  | putting data => cases stopped
  | joiningUpdates => exact (congrArg (Service.step · .joined) first).trans last
  | joiningDumper => exact congrArg (Service.step · .joined) last
  | finished => rfl

/-- From an orderly state after the stop request all threads can still come to their end. -/
theorem stop_finishes (service : Service New Upd) (orderly : Orderly service)
    (stopped : stopRequested service = true) :
    ∃ events, let after := Machine.run Service.step service events
      after.capture = .finished ∧ after.updateWorker = .exited ∧
        ∀ dumper, after.dumper = some dumper → dumper.worker = .exited := by
  obtain ⟨first, exited, capture, kept⟩ :=
    updates_finish service (orderly.updatesEnd stopped)
  have still : stopRequested (Machine.run Service.step service first) = true := by
    rw [stopRequested, capture]
    exact stopped
  cases present : service.dumper with
  | none =>
      rw [present] at kept
      have dumps : ∀ dumper, (Machine.run Service.step service first).dumper = some dumper →
          dumper.worker = .exited := by
        intro dumper same
        rw [kept] at same
        cases same
      refine ⟨first ++ [.joined, .joined], ?_⟩
      rw [Machine.run_append, joins_return _ still exited dumps]
      exact ⟨rfl, exited, dumps⟩
  | some dumper =>
      rw [present] at kept
      obtain ⟨second, ended, later, gone, captured, worker⟩ := dump_finishes
        (Machine.run Service.step service first) dumper kept
        (orderly.dumpEnds stopped dumper present)
      rw [← Machine.run_append] at later captured worker
      have again : stopRequested (Machine.run Service.step service (first ++ second)) = true := by
        rw [stopRequested, captured]
        exact still
      have dumps : ∀ dumper, (Machine.run Service.step service (first ++ second)).dumper =
          some dumper → dumper.worker = .exited := by
        intro other same
        obtain rfl := Option.some.inj (later.symm.trans same)
        exact gone
      refine ⟨first ++ second ++ [.joined, .joined], ?_⟩
      rw [Machine.run_append, joins_return _ again (worker.trans exited) dumps]
      exact ⟨rfl, worker.trans exited, dumps⟩

end Runs

section Example

def busyStop : List (Event Nat Nat) :=
  List.replicate 32 (.updateConnections ⟨some [], some []⟩) ++ [.stopAndJoinThreads]

/-- The termination request is refused and lost; the update worker will wait for ever. -/
theorem busyStop_losesRequest :
    ¬ ∀ (updatesCapacity : Nat) (dumpCapacity : Option Nat) (events : List (Event Nat Nat)),
      Orderly (Machine.run Service.step (start updatesCapacity dumpCapacity) events) := by
  intro orderly
  rcases (orderly 32 none busyStop).updatesEnd (by decide +kernel) with exited | request
  · revert exited
    decide +kernel
  · revert request
    decide +kernel

-- The dump worker fails while the capture thread waits for room.
example : LeftBlocked (Machine.run (Service.step : Service Nat Nat → _ → _) (start 32 (some 1))
    [.dumpPcapData [1], .takeChunk, .dumpPcapData [2], .dumpPcapData [3], .dumped true]) :=
  .put [3] ⟨⟨1, [[2]], by decide⟩, .exited, true⟩ rfl rfl rfl rfl

end Example

end Ptnet.CaptureThreads
