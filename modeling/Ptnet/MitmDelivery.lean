import Mathlib.Data.List.AList
import Ptnet.ConnectionsRegister
import Ptnet.LruCache
import Ptnet.Machine
import Ptnet.Mailbox
import Ptnet.MitmStream

/-!
Which connection a decrypted message reaches: the receiver thread of `MitmReceiver` against
the register thread that announces new connections. Each critical section is one step; the
lookup of a message's connection and the parking of the message are different sections.
`trace` and `handled` record arrivals, registrations and calls of `handleMessage`.
-/

namespace Ptnet.MitmDelivery

open MitmStream (MsgType)
open Mailbox (Happening)

/-- The fields of a `ConnectionDescriptor` that the receiver reads. -/
structure ConnectionDescriptor where
  incrId : Nat
  localPort : Int
  deriving DecidableEq, Repr

structure Message where
  type : MsgType
  msg : List UInt8
  port : Int
  tstamp : Int
  deriving DecidableEq, Repr

structure PendingMessage where
  message : Message
  pendingSince : Nat
  deriving DecidableEq, Repr

inductive Receiving where
  | idle
  | lookedUp (message : Message) (connId : Nat)
  | resolved (message : Message) (conn : Option ConnectionDescriptor)
  deriving DecidableEq, Repr

structure Receiver (mSize : Nat) where
  mReg : ConnectionsRegister ConnectionDescriptor mSize
  newConnId : Nat
  /-- The batch `newConnections` is announcing, with the lock of the register held. -/
  announced : Option (List ConnectionDescriptor)
  mPortToConnId : LruCache Int Nat 64
  mPendingMessages : AList fun _ : Int => List PendingMessage
  thread : Receiving
  handled : List (ConnectionDescriptor × Message)
  trace : List (Happening ConnectionDescriptor Message)

variable {mSize : Nat}

def initial (positive : 0 < mSize) : Receiver mSize where
  mReg := ⟨RingBuffer.empty ⟨0, 0⟩ positive, 0⟩
  newConnId := 0
  announced := none
  mPortToConnId := LruCache.empty
  mPendingMessages := ∅
  thread := .idle
  handled := []
  trace := []

/-- The connections of a dump carry consecutive identifiers. -/
def numbered : Nat → List Int → List ConnectionDescriptor
  | _, [] => []
  | incrId, localPort :: rest => ⟨incrId, localPort⟩ :: numbered (incrId + 1) rest

/-- `ConnectionsRegister.newConnections` up to the notification of its listeners. -/
def newConnections (state : Receiver mSize) (localPorts : List Int) : Receiver mSize :=
  match state.announced with
  | some _ => state
  | none =>
      let (mReg, notification) := state.mReg.newConnections (numbered state.newConnId localPorts)
      { state with
        mReg := mReg
        newConnId := state.newConnId + localPorts.length
        announced := some notification.added }

/-- One iteration of the loop of `connectionsAdded`. -/
def connectionAdded (state : Receiver mSize) (conn : ConnectionDescriptor) : Receiver mSize :=
  let mapped := { state with
    mPortToConnId := state.mPortToConnId.put conn.localPort conn.incrId
    trace := state.trace ++ [.registered conn] }
  match state.mPendingMessages.lookup conn.localPort with
  | none => mapped
  | some pp =>
      { mapped with
        mPendingMessages := state.mPendingMessages.erase conn.localPort
        handled := state.handled ++ pp.map fun pending => (conn, pending.message) }

def connectionsAdded (state : Receiver mSize) : Receiver mSize :=
  match state.announced with
  | none => state
  | some conns => { conns.foldl connectionAdded state with announced := none }

/-- The message types that `run` does not relate to a connection. -/
def isGlobal (type : MsgType) : Bool :=
  type == .MASTER_SECRET || type == .LOG || type == .RUNNING

/-- The critical section of `getConnByLocalPort`. -/
def receive (state : Receiver mSize) (message : Message) : Receiver mSize :=
  if state.thread = .idle ∧ isGlobal message.type = false then
    let lookup := state.mPortToConnId.get message.port
    { state with
      mPortToConnId := lookup.2
      trace := state.trace ++ [.arrived message]
      thread := match lookup.1 with
        | some id => .lookedUp message id
        | none => .resolved message none }
  else state

/-- The call of `getConnById`, which waits for the lock of the register. -/
def getConnById (state : Receiver mSize) : Receiver mSize :=
  match state.thread, state.announced with
  | .lookedUp message connId, none =>
      let conn := (state.mReg.getConnById ConnectionDescriptor.incrId connId).filter
        fun conn => conn.localPort = message.port
      { state with thread := .resolved message conn }
  | _, _ => state

def isOld (now : Nat) (pp : List PendingMessage) : Bool :=
  match pp with
  | first :: _ => 5000 < now - first.pendingSince
  | [] => false

def purgeOld (now : Nat) (pending : AList fun _ : Int => List PendingMessage) (port : Int) :
    AList fun _ : Int => List PendingMessage :=
  match pending.lookup port with
  | some pp => if isOld now pp then pending.erase port else pending
  | none => pending

/-- "Purge unresolved connections (should not happen, just in case)" -/
def purgePending (now : Nat) (pending : AList fun _ : Int => List PendingMessage) :
    AList fun _ : Int => List PendingMessage :=
  if pending.keys.length > 32 then pending.keys.reverse.foldl (purgeOld now) pending else pending

def addPendingMessage (state : Receiver mSize) (pending : PendingMessage) (now : Nat) :
    Receiver mSize :=
  let kept := purgePending now state.mPendingMessages
  let pp := (kept.lookup pending.message.port).getD []
  { state with mPendingMessages := kept.insert pending.message.port (pp ++ [pending]) }

/-- The end of an iteration of `run`: `handleMessage` or `addPendingMessage`. -/
def conclude (state : Receiver mSize) (pendingSince now : Nat) : Receiver mSize :=
  match state.thread with
  | .resolved message (some conn) =>
      { state with thread := .idle, handled := state.handled ++ [(conn, message)] }
  | .resolved message none =>
      { addPendingMessage state ⟨message, pendingSince⟩ now with thread := .idle }
  | _ => state

inductive Event where
  | newConnections (localPorts : List Int)
  | connectionsAdded
  | receive (message : Message)
  | getConnById
  | conclude (pendingSince now : Nat)
  deriving DecidableEq, Repr

def step (state : Receiver mSize) : Event → Receiver mSize
  | .newConnections localPorts => newConnections state localPorts
  | .connectionsAdded => connectionsAdded state
  | .receive message => receive state message
  | .getConnById => getConnById state
  | .conclude pendingSince now => conclude state pendingSince now

section Observations

variable (state : Receiver mSize) (port : Int)

def handledOn : List (ConnectionDescriptor × Message) :=
  state.handled.filter fun delivery => delivery.2.port = port

def pendingOn : List Message :=
  ((state.mPendingMessages.lookup port).getD []).map PendingMessage.message

abbrev owners (trace : List (Happening ConnectionDescriptor Message)) : List ConnectionDescriptor :=
  Mailbox.owners ConnectionDescriptor.localPort port trace

abbrev deliveries (trace : List (Happening ConnectionDescriptor Message)) :
    List (ConnectionDescriptor × Message) :=
  Mailbox.deliveries ConnectionDescriptor.localPort Message.port port trace

abbrev waiting (trace : List (Happening ConnectionDescriptor Message)) : List Message :=
  Mailbox.waiting ConnectionDescriptor.localPort Message.port port trace

abbrev arrivals (trace : List (Happening ConnectionDescriptor Message)) : List Message :=
  Mailbox.arrivals Message.port port trace

end Observations

/-- Between two messages the receiver has handed over exactly the deliveries owed so far and
    keeps the rest; while a message is under way nothing wrong or out of order is handed over. -/
structure DeliversOnce (state : Receiver mSize) : Prop where
  ordered : ∀ port, handledOn state port <+: deliveries port state.trace
  settled : state.thread = .idle → ∀ port,
    handledOn state port = deliveries port state.trace ∧
      pendingOn state port = waiting port state.trace
  once : state.thread = .idle → ∀ port,
    (handledOn state port).map Prod.snd ++ pendingOn state port = arrivals port state.trace

/-- The clock of the run: fewer than five seconds since `started`. -/
def InTime (started : Nat) (_ : Receiver mSize) : Event → Prop
  | .conclude pendingSince now => started ≤ pendingSince ∧ now < started + 5000
  | _ => True

instance (started : Nat) (state : Receiver mSize) (event : Event) :
    Decidable (InTime started state event) :=
  match event with
  | .conclude pendingSince now =>
      inferInstanceAs (Decidable (started ≤ pendingSince ∧ now < started + 5000))
  | .newConnections _ | .connectionsAdded | .receive _ | .getConnById => isTrue trivial

/-- The step hits no gap between the critical sections and no bound of the caches. -/
def undisturbed (state : Receiver mSize) : Event → Bool
  | .newConnections _ => true
  | .connectionsAdded =>
      match state.announced, state.thread with
      | some conns, .resolved message none => conns.all fun conn => conn.localPort != message.port
      | _, _ => true
  | .receive message => owners message.port state.trace == [] ||
      (state.mPortToConnId.peek message.port).isSome
  | .getConnById =>
      match state.announced, state.thread with
      | none, .lookedUp _ connId =>
          (state.mReg.getConnPositionById ConnectionDescriptor.incrId connId).isSome
      | _, _ => true
  | .conclude _ _ => true

def Undisturbed (state : Receiver mSize) (event : Event) : Prop := undisturbed state event

instance (state : Receiver mSize) (event : Event) : Decidable (Undisturbed state event) :=
  inferInstanceAs (Decidable (undisturbed state event = true))

end Ptnet.MitmDelivery
