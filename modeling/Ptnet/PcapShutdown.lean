import Ptnet.PcapStream
import Ptnet.PcapThreads

/-!
The end of a dump: the capture thread stops it when a packet is refused or the packet loop has
ended, exports a last time, frees the dumper, and only then clears the pointer that
`dumpMasterSecret` tests and reads on the thread of the MitmReceiver.
-/

namespace Ptnet.PcapShutdown

open ByteMemory Machine
open PcapDump hiding step
open PcapLog hiding Event
open PcapRuns hiding observation step_settings
open PcapThreads hiding Event step observation
open PcapStream (noTrailers)

/-- Where the capture thread is with `stop_pcap_dump`. -/
inductive Stop where
  | running
  /-- In the last export of `pcap_destroy_dumper`. -/
  | exporting
  /-- The dumper is freed, the pointer not yet `NULL`. -/
  | freed
  /-- Behind `stop_pcap_dump`. -/
  | stopped
  deriving DecidableEq

/-- Where the receiver is in `dumpMasterSecret`; inside `pcap_dump_secret` its place is the one
    of `Threads`. -/
inductive Caller where
  | idle
  /-- Behind the test of `global_pd` and of the dumper. -/
  | tested (secret : Secret)
  /-- With the dumper as an argument. -/
  | calling (secret : Secret)
  /-- With `NULL` as the argument. -/
  | crashed

structure Session where
  threads : Threads
  /-- `global_pd` is not `NULL`. -/
  globalPd : Bool := true
  /-- `pd->pcap_dump.dumper` is not `NULL`. -/
  pointer : Bool := true
  /-- The dumper has not been freed. -/
  allocated : Bool := true
  stop : Stop := .running
  caller : Caller := .idle

inductive Event where
  | refreshTime (nowMs : Nat)
  | dumpPacket (pkt : Packet) (tv : Timeval) (uid : Int)
  | checkExport
  /-- The packet loop of `pd_run` has ended. -/
  | loopEnds
  /-- `pd_run` has returned. -/
  | runEnds
  | captureRuns
  | dumpMasterSecret (secret : Secret)
  | receiverRuns (cells : Option (Nat → UInt8))

section Steps

variable (trailers : Trailers) (session : Session)

def duringDump (event : PcapThreads.Event) : Session :=
  match session.stop with
  | .running => { session with threads := PcapThreads.step trailers session.threads event }
  | _ => session

/-- `stop_pcap_dump` up to the export. -/
def stopPcapDump : Session :=
  { session with
    threads := { session.threads with capture := .exporting .return' }
    stop := .exporting }

def loopEnds : Session :=
  match session.stop, session.threads.capture with
  | .running, .idle => stopPcapDump session
  | _, _ => session

def runEnds : Session :=
  match session.stop with
  | .stopped => { session with globalPd := false }
  | _ => session

/-- `pd_dump_packet` stops the dump when the packet is refused. -/
def refusal : CaptureThread → Bool
  | .recording pkt _ _ => refuses session.threads.dumper (recordSize session.threads pkt)
  | _ => false

def captureRuns : Session :=
  match session.stop with
  | .running =>
      if refusal session session.threads.capture then stopPcapDump session
      else { session with threads := captureStep trailers session.threads }
  | .exporting =>
      match session.threads.capture with
      | .idle => { session with allocated := false, stop := .freed }
      | _ => { session with threads := captureStep trailers session.threads }
  | .freed => { session with pointer := false, stop := .stopped }
  | .stopped => session

/-- The test of `dumpMasterSecret`. -/
def dumpMasterSecret (secret : Secret) : Session :=
  match session.caller, session.threads.receiver with
  | .idle, .idle =>
      if session.globalPd && session.pointer then { session with caller := .tested secret }
      else session
  | _, _ => session

def operates : Bool :=
  match session.caller, session.threads.receiver with
  | .calling _, _ => true
  | _, .idle => false
  | _, _ => true

/-- A step on a freed dumper has no defined effect, and leaves the session as it is. -/
def receiverRuns (cells : Option (Nat → UInt8)) : Session :=
  if operates session && !session.allocated then session
  else
    match session.caller with
    | .tested secret =>
        -- the pointer is read a second time, for the argument
        if session.globalPd && session.pointer then { session with caller := .calling secret }
        else { session with caller := .crashed }
    | .calling secret =>
        { session with
          threads := receiverCall session.threads secret cells
          caller := .idle }
    | _ => { session with threads := receiverStep session.threads }

def step : Event → Session
  | .refreshTime nowMs => duringDump trailers session (.refreshTime nowMs)
  | .dumpPacket pkt tv uid => duringDump trailers session (.dumpPacket pkt tv uid)
  | .checkExport => duringDump trailers session .checkExport
  | .loopEnds => loopEnds session
  | .runEnds => runEnds session
  | .captureRuns => captureRuns trailers session
  | .dumpMasterSecret secret => dumpMasterSecret session secret
  | .receiverRuns cells => receiverRuns session cells

end Steps

/-- `pcap_dump_secret` works on a dumper that has been freed. -/
def usesFreed (session : Session) : Event → Bool
  | .receiverRuns _ => operates session && !session.allocated
  | _ => false

def frees (session : Session) : Bool :=
  match session.stop, session.threads.capture with
  | .exporting, .idle => true
  | _, _ => false

def reads (session : Session) : Bool :=
  match session.caller with
  | .tested _ => true
  | _ => false

/-- The dumper is freed while the receiver has no hold of it, and the receiver does not read the
    pointer between that and its clearing. -/
def Disjoint (session : Session) : Event → Prop
  | .captureRuns => frees session = true → operates session = false
  | .receiverRuns _ => session.stop = .freed → reads session = false
  | _ => True

instance (session : Session) (event : Event) : Decidable (Disjoint session event) :=
  match event with
  | .captureRuns => inferInstanceAs (Decidable (frees session = true → operates session = false))
  | .receiverRuns _ =>
      inferInstanceAs (Decidable (session.stop = .freed → reads session = false))
  | .refreshTime _ | .dumpPacket _ _ _ | .checkExport | .loopEnds | .runEnds
  | .dumpMasterSecret _ => isTrue trivial

section Invariant

/-- A freed dumper is behind the stop, and the receiver has no hold of it. -/
structure Sound (session : Session) : Prop where
  released : session.allocated = false → operates session = false
  stopped : session.allocated = false →
    session.stop = .freed ∨ (session.stop = .stopped ∧ session.pointer = false)

theorem Sound.of_allocated (session : Session) (allocated : session.allocated = true) :
    Sound session where
  released := fun freed => absurd (allocated.symm.trans freed) Bool.noConfusion
  stopped := fun freed => absurd (allocated.symm.trans freed) Bool.noConfusion

variable (trailers : Trailers) (session : Session) (sound : Sound session)

include sound

theorem Sound.allocated (early : session.stop = .running ∨ session.stop = .exporting) :
    session.allocated = true := by
  cases there : session.allocated with
  | true => rfl
  | false =>
      rcases sound.stopped there with freed | ⟨stopped, _⟩ <;> simp_all

theorem duringDump_sound (event : PcapThreads.Event) :
    Sound (duringDump trailers session event) := by
  unfold duringDump
  split
  case h_1 running => exact .of_allocated _ (sound.allocated session (.inl running))
  case h_2 => exact sound

theorem loopEnds_sound : Sound (loopEnds session) := by
  unfold loopEnds
  split
  case h_1 running _ => exact .of_allocated _ (sound.allocated session (.inl running))
  case h_2 => exact sound

theorem runEnds_sound : Sound (runEnds session) := by
  unfold runEnds
  split
  · exact ⟨sound.released, sound.stopped⟩
  · exact sound

theorem captureRuns_sound (apart : frees session = true → operates session = false) :
    Sound (captureRuns trailers session) := by
  unfold captureRuns
  split
  case h_1 running =>
    have there := sound.allocated session (.inl running)
    split
    · exact .of_allocated _ there
    · exact .of_allocated _ there
  case h_2 exporting =>
    split
    case h_1 idle =>
      have apart := apart (by simp only [frees, exporting, idle])
      exact ⟨fun _ => apart, fun _ => .inl rfl⟩
    case h_2 => exact .of_allocated _ (sound.allocated session (.inr exporting))
  case h_3 => exact ⟨sound.released, fun _ => .inr ⟨rfl, rfl⟩⟩
  case h_4 => exact sound

theorem dumpMasterSecret_sound (secret : Secret) : Sound (dumpMasterSecret session secret) := by
  unfold dumpMasterSecret
  split
  case h_1 idle waits =>
    split
    · exact ⟨fun _ => by simp only [operates, waits], sound.stopped⟩
    · exact sound
  case h_2 => exact sound

/-- The receiver takes hold of a dumper that is there, or of `NULL`. -/
theorem receiverRuns_sound (cells : Option (Nat → UInt8))
    (apart : session.stop = .freed → reads session = false) :
    Sound (receiverRuns session cells) := by
  cases there : session.allocated with
  | true =>
      apply Sound.of_allocated
      unfold receiverRuns
      split
      · exact there
      · split
        · split <;> exact there
        · exact there
        · exact there
  | false =>
      have free := sound.released there
      have stopped := sound.stopped there
      unfold receiverRuns
      simp only [free, Bool.false_and, Bool.false_eq_true, if_false]
      split
      case h_1 secret tested =>
        have cleared : session.pointer = false := by
          rcases stopped with freed | ⟨_, cleared⟩
          · exact absurd (apart freed) (by simp [reads, tested])
          · exact cleared
        rw [if_neg (by simp [cleared])]
        refine ⟨fun _ => ?_, fun _ => stopped⟩
        cases waits : session.threads.receiver with
        | idle => simp [operates, waits]
        | allocated other => simp [operates, tested, waits] at free
        | locking other => simp [operates, tested, waits] at free
      case h_2 secret calling => simp [operates, calling] at free
      case h_3 =>
        have waits : session.threads.receiver = .idle := by
          unfold operates at free
          split at free <;> simp_all
        rw [receiverStep, waits]
        exact sound

end Invariant

theorem step_sound (trailers : Trailers) (session : Session) (event : Event)
    (sound : Sound session) (disjoint : Disjoint session event) :
    Sound (step trailers session event) := by
  cases event with
  | refreshTime nowMs => exact duringDump_sound trailers session sound _
  | dumpPacket pkt tv uid => exact duringDump_sound trailers session sound _
  | checkExport => exact duringDump_sound trailers session sound _
  | loopEnds => exact loopEnds_sound session sound
  | runEnds => exact runEnds_sound session sound
  | captureRuns => exact captureRuns_sound trailers session sound disjoint
  | dumpMasterSecret secret => exact dumpMasterSecret_sound session sound secret
  | receiverRuns cells => exact receiverRuns_sound session sound cells disjoint

theorem sound_unused (session : Session) (event : Event) (sound : Sound session) :
    usesFreed session event = false := by
  cases event with
  | receiverRuns cells =>
      cases there : session.allocated with
      | true => simp [usesFreed, there]
      | false => simp [usesFreed, sound.released there]
  | _ => rfl

def created (mode : Mode) (snaplen maxDumpSize : Nat) (cells : Nat → UInt8) : Session where
  threads := PcapThreads.created mode snaplen maxDumpSize cells

/-- When the dumper is freed while the receiver has no hold of it, no secret is stored in a freed
    dumper. -/
theorem freed_unused (trailers : Trailers) (mode : Mode) (snaplen maxDumpSize : Nat)
    (cells : Nat → UInt8) (events : List Event)
    (disjoint : Along (step trailers) Disjoint (created mode snaplen maxDumpSize cells) events) :
    Along (step trailers) (fun session event => usesFreed session event = false)
      (created mode snaplen maxDumpSize cells) events :=
  along_of_invariant (step trailers) Disjoint _ Sound
    (fun session event sound disjoint => step_sound trailers session event sound disjoint)
    (fun session event sound _ => sound_unused session event sound)
    _ events disjoint (.of_allocated _ rfl)

theorem packet_short : ([0x45, 0, 0, 20] : Bytes).length < 2 ^ 31 := by decide

def packet : Packet where
  bytes := [0x45, 0, 0, 20]
  short := packet_short

theorem keyLine_short : ([0x4B] : Bytes).length ≤ 67108864 := by decide

def keyLine : Secret where
  bytes := [0x4B]
  short := keyLine_short

def stopping : List Event :=
  [.dumpPacket packet ⟨0, 0⟩ 0, .captureRuns, .captureRuns, .captureRuns, .captureRuns]

/-- A secret that is stored before the stop, and one that comes after it. -/
theorem earlySecret_unused :
    Along (step noTrailers) (fun session event => usesFreed session event = false)
      (created .pcapngDump 65535 30 fun _ => 0)
      ([.dumpMasterSecret keyLine, .receiverRuns none, .receiverRuns (some fun _ => 0),
        .receiverRuns none, .receiverRuns none] ++ stopping ++
        [.captureRuns, .captureRuns, .captureRuns, .dumpMasterSecret keyLine,
          .receiverRuns none]) :=
  freed_unused noTrailers .pcapngDump 65535 30 (fun _ => 0) _ (by decide +kernel)

/-- The receiver has taken the pointer when the limit is reached. -/
theorem lateSecret_used : ¬ ∀ trailers mode snaplen maxDumpSize cells events,
    Along (step trailers) (fun session event => usesFreed session event = false)
      (created mode snaplen maxDumpSize cells) events := by
  intro all
  have unused := all noTrailers .pcapngDump 65535 30 (fun _ => 0)
    ([.dumpMasterSecret keyLine, .receiverRuns none] ++ stopping ++ [.receiverRuns none])
  revert unused
  decide +kernel

end Ptnet.PcapShutdown
