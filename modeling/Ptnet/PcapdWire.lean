import Ptnet.Machine
import Ptnet.PcapdFrames

/-!
The socket between `pcapd` and `run_libpcap`: the loops of `xwrite` and `xread`, and the two
processes taking one system call each in any order. The stream keeps its framing whatever
the calls move; a packet is shortened when its length does not fit the header.
-/

namespace Ptnet.PcapdWire

open ByteMemory PcapdFrames

/-- What a `read` or a `write` call does; `failed` is any error but `EINTR`. -/
inductive Call where
  | moved (count : Nat)
  | interrupted
  | failed
  deriving DecidableEq, Repr

/-- A loop of calls after one of them. -/
inductive Progress where
  | again (sofar : Nat)
  | returns (result : Int)
  deriving DecidableEq, Repr

/-- The body of the loop of `xwrite`. -/
def xwrite (count sofar : Nat) : Call → Progress
  | .failed => .returns (-1)
  | .interrupted => if sofar ≠ count then .again sofar else .returns 0
  | .moved ret =>
      if sofar + ret ≠ count ∧ ret ≠ 0 then .again (sofar + ret)
      else if sofar + ret ≠ count then .returns (-1)
      else .returns 0

/-- The body of the loop of `xread`. -/
def xread (count sofar : Nat) : Call → Progress
  | .failed => .returns (-1)
  | .interrupted => if sofar ≠ count then .again sofar else .returns count
  | .moved ret =>
      if sofar + ret ≠ count ∧ ret ≠ 0 then .again (sofar + ret)
      else if sofar + ret ≠ count then .returns (if ret = 0 then 0 else -1)
      else .returns count

variable {timeBytes : Nat}

/-- What `run_libpcap` is reading. -/
inductive Phase (timeBytes : Nat) where
  | header
  | payload (hdr : PcapdHdr timeBytes)
  deriving DecidableEq, Repr

def PCAPD_SNAPLEN : Nat := 65535

structure Reader (timeBytes : Nat) where
  phase : Phase timeBytes := .header
  /-- What the present `xread` has got so far. -/
  buffer : Bytes := []
  received : List (PcapdHdr timeBytes × Bytes) := []
  running : Bool := true
  deriving DecidableEq, Repr

namespace Reader

def count (reader : Reader timeBytes) : Nat :=
  match reader.phase with
  | .header => hdrSize timeBytes
  | .payload hdr => hdr.len.toNat

/-- The loop of `run_libpcap` once its `xread` has returned. -/
def returned (reader : Reader timeBytes) (result : Int) : Reader timeBytes :=
  match reader.phase with
  | .header =>
      if result ≠ hdrSize timeBytes then { reader with running := false }
      else
        let hdr := PcapdHdr.decode reader.buffer
        if PCAPD_SNAPLEN < hdr.len.toNat then { reader with running := false }
        else { reader with phase := .payload hdr, buffer := [] }
  | .payload hdr =>
      if result ≠ hdr.len.toNat then { reader with running := false }
      else
        { reader with
          phase := .header
          buffer := []
          received := reader.received ++ [(hdr, reader.buffer)] }

end Reader

/-- The writing process, what is in the socket, and the reading process. -/
structure Wire (timeBytes : Nat) where
  /-- The buffers of the present call of `xwrite` and of those to come. -/
  buffers : List Bytes
  sofar : Nat := 0
  writeFailed : Bool := false
  socket : Bytes := []
  reader : Reader timeBytes := {}
  deriving DecidableEq, Repr

inductive Event where
  | write (call : Call)
  | read (call : Call)
  deriving DecidableEq, Repr

namespace Wire

def count : Call → Nat
  | .moved count => count
  | _ => 0

def write (wire : Wire timeBytes) (call : Call) : Wire timeBytes :=
  match wire.buffers with
  | [] => wire
  | buffer :: rest =>
      if wire.writeFailed then wire
      else
        let sent := { wire with
          socket := wire.socket ++ (buffer.drop wire.sofar).take (count call) }
        match xwrite buffer.length wire.sofar call with
        | .again sofar => { sent with sofar := sofar }
        | .returns result =>
            if result < 0 then { sent with writeFailed := true }
            else { sent with buffers := rest, sofar := 0 }

/-- The reader with `count` more bytes. -/
def taking (wire : Wire timeBytes) (count : Nat) : Reader timeBytes :=
  { wire.reader with buffer := wire.reader.buffer ++ wire.socket.take count }

def read (wire : Wire timeBytes) (call : Call) : Wire timeBytes :=
  if !wire.reader.running then wire
  else
    let reader := wire.taking (count call)
    let rest := wire.socket.drop (count call)
    match xread wire.reader.count wire.reader.buffer.length call with
    | .again _ => { wire with socket := rest, reader := reader }
    | .returns result => { wire with socket := rest, reader := reader.returned result }

def step (wire : Wire timeBytes) : Event → Wire timeBytes
  | .write call => wire.write call
  | .read call => wire.read call

/-- What a call may do on a stream socket: it moves a part of what it is asked for, and
    nothing only if nothing is asked for or, when it reads, at the end of the stream. -/
def Admissible (wire : Wire timeBytes) : Event → Prop
  | .write (.moved count) =>
      ∀ buffer ∈ wire.buffers.head?, wire.sofar + count ≤ buffer.length ∧
        (count = 0 → wire.sofar = buffer.length)
  | .read (.moved count) =>
      count ≤ wire.socket.length ∧ wire.reader.buffer.length + count ≤ wire.reader.count ∧
        (count = 0 → wire.reader.buffer.length = wire.reader.count ∨
          wire.buffers = [] ∧ wire.socket = [])
  | .write .interrupted | .read .interrupted => True
  | .write .failed | .read .failed => False

/-- Everything that was to be written has been read, up to the end of a packet. -/
def Settled (wire : Wire timeBytes) : Prop :=
  wire.buffers = [] ∧ wire.socket = [] ∧ wire.reader.phase = .header

end Wire

/-- The calls of `xwrite` for one frame. -/
def sendBuffers (sent : Export timeBytes) : List Bytes :=
  [sent.hdr.encode, sent.packet.take sent.hdr.len.toNat]

def start (sent : List (Export timeBytes)) : Wire timeBytes where
  buffers := sent.flatMap sendBuffers

structure Record (timeBytes : Nat) where
  tvSec : BitVec (8 * timeBytes)
  tvUsec : BitVec (8 * timeBytes)
  linktype : Nat
  uid : BitVec 32
  isTx : Bool
  captured : Bytes
  deriving DecidableEq, Repr

def record (hdr : PcapdHdr timeBytes) (captured : Bytes) : Record timeBytes where
  tvSec := hdr.tvSec
  tvUsec := hdr.tvUsec
  linktype := hdr.linktype.toNat
  uid := hdr.uid
  isTx := hdr.flags &&& PCAPD_FLAG_TX ≠ 0
  captured := captured

section Loops

variable (count sofar ret : Nat)

theorem xwrite_moved (within : sofar + ret ≤ count) (some : ret = 0 → sofar = count) :
    xwrite count sofar (.moved ret) =
      if sofar + ret = count then .returns 0 else .again (sofar + ret) := by
  by_cases full : sofar + ret = count
  · simp [xwrite, full]
  · have nonzero : ret ≠ 0 := by
      rintro rfl
      exact full (some rfl)
    simp [xwrite, full, nonzero]

theorem xread_moved (within : sofar + ret ≤ count) (some : ret = 0 → sofar = count) :
    xread count sofar (.moved ret) =
      if sofar + ret = count then .returns count else .again (sofar + ret) := by
  by_cases full : sofar + ret = count
  · simp [xread, full]
  · have nonzero : ret ≠ 0 := by
      rintro rfl
      exact full (some rfl)
    simp [xread, full, nonzero]

theorem xread_eof (unfilled : sofar ≠ count) : xread count sofar (.moved 0) = .returns 0 := by
  simp [xread, unfilled]

end Loops

section Framing

def frameBytes (frame : PcapdHdr timeBytes × Bytes) : Bytes := frame.1.encode ++ frame.2

def onWire (sent : Export timeBytes) : PcapdHdr timeBytes × Bytes :=
  (sent.hdr, sent.packet.take sent.hdr.len.toNat)

def pending (wire : Wire timeBytes) : Bytes := wire.buffers.flatten.drop wire.sofar

/-- The reader is at `frames` of the stream, of which `left` is not read. -/
def Reading (reader : Reader timeBytes) (left : Bytes)
    (frames : List (PcapdHdr timeBytes × Bytes)) : Prop :=
  match reader.phase with
  | .header => reader.buffer ++ left = frames.flatMap frameBytes
  | .payload hdr =>
      ∃ body rest, frames = (hdr, body) :: rest ∧
        reader.buffer ++ left = body ++ rest.flatMap frameBytes

def Sized (frames : List (PcapdHdr timeBytes × Bytes)) : Prop :=
  ∀ frame ∈ frames, frame.2.length = frame.1.len.toNat

structure Framed (frames : List (PcapdHdr timeBytes × Bytes)) (wire : Wire timeBytes) : Prop where
  unfailed : wire.writeFailed = false
  within : ∀ buffer ∈ wire.buffers.head?, wire.sofar ≤ buffer.length
  partly : wire.reader.buffer.length ≤ wire.reader.count
  unfilled : wire.reader.phase = .header → wire.reader.buffer.length < hdrSize timeBytes
  reading : ∃ rest, frames = wire.reader.received ++ rest ∧
    Reading wire.reader (wire.socket ++ pending wire) rest
  stopped : wire.reader.running = false → wire.Settled

theorem hdrSize_pos : 0 < hdrSize timeBytes := by
  unfold hdrSize
  omega

/-- A write moves bytes into the socket and keeps the stream. -/
theorem write_moves (wire : Wire timeBytes) (call : Call) (unfailed : wire.writeFailed = false)
    (within : ∀ buffer ∈ wire.buffers.head?, wire.sofar ≤ buffer.length)
    (admissible : wire.Admissible (.write call)) :
    (wire.write call).reader = wire.reader ∧ (wire.write call).writeFailed = false ∧
      (∀ buffer ∈ (wire.write call).buffers.head?, (wire.write call).sofar ≤ buffer.length) ∧
      (wire.write call).socket ++ pending (wire.write call) = wire.socket ++ pending wire := by
  rcases listed : wire.buffers with _ | ⟨buffer, rest⟩
  · have same : wire.write call = wire := by
      unfold Wire.write
      rw [listed]
    rw [same, listed]
    exact ⟨rfl, unfailed, fun _ none => absurd none (by simp), rfl⟩
  · have inside : wire.sofar ≤ buffer.length := within buffer (by rw [listed]; rfl)
    have waiting : pending wire = buffer.drop wire.sofar ++ rest.flatten := by
      rw [pending, listed, List.flatten_cons, List.drop_append_of_le_length inside]
    have done : wire.sofar = buffer.length → buffer.drop wire.sofar = [] := fun same => by
      rw [same, List.drop_length]
    cases call with
    | failed => exact absurd admissible id
    -- xwrite repeats an interrupted call, unless the buffer is already written.
    | interrupted =>
        by_cases full : wire.sofar = buffer.length
        · have written : wire.write .interrupted = { wire with buffers := rest, sofar := 0 } := by
            simp [Wire.write, listed, unfailed, xwrite, full, Wire.count]
          rw [written, waiting, done full]
          exact ⟨rfl, unfailed, fun _ _ => Nat.zero_le _, rfl⟩
        · have written : wire.write .interrupted = wire := by
            simp [Wire.write, listed, unfailed, xwrite, full, Wire.count]
            cases wire
            simp_all
          rw [written, listed]
          exact ⟨rfl, unfailed, fun _ first => (Option.some.inj first) ▸ inside, rfl⟩
    | moved count =>
        obtain ⟨fits, some⟩ := admissible buffer (by rw [listed]; rfl)
        have next := xwrite_moved buffer.length wire.sofar count fits some
        by_cases full : wire.sofar + count = buffer.length
        · rw [if_pos full] at next
          have written : wire.write (.moved count) =
              { wire with
                buffers := rest
                sofar := 0
                socket := wire.socket ++ (buffer.drop wire.sofar).take count } := by
            simp [Wire.write, listed, unfailed, next, Wire.count]
          have all : (buffer.drop wire.sofar).take count = buffer.drop wire.sofar :=
            List.take_of_length_le (by rw [List.length_drop]; omega)
          rw [written, waiting, all]
          exact ⟨rfl, unfailed, fun _ _ => Nat.zero_le _, List.append_assoc _ _ _⟩
        · rw [if_neg full] at next
          have written : wire.write (.moved count) =
              { wire with
                sofar := wire.sofar + count
                socket := wire.socket ++ (buffer.drop wire.sofar).take count } := by
            simp [Wire.write, listed, unfailed, next, Wire.count]
          rw [written, waiting]
          refine ⟨rfl, unfailed, ?_, ?_⟩
          · intro first head
            dsimp only at head ⊢
            rw [listed] at head
            obtain rfl := Option.some.inj head
            exact fits
          · dsimp only [pending]
            rw [listed, List.flatten_cons, List.drop_append_of_le_length fits, ← List.drop_drop,
              List.append_assoc, ← List.append_assoc (List.take count _), List.take_append_drop]

theorem reading_more (reader : Reader timeBytes) (socket waiting : Bytes) (count : Nat)
    (frames : List (PcapdHdr timeBytes × Bytes))
    (reading : Reading reader (socket ++ waiting) frames) :
    Reading { reader with buffer := reader.buffer ++ socket.take count }
      (socket.drop count ++ waiting) frames := by
  have moved : reader.buffer ++ socket.take count ++ (socket.drop count ++ waiting) =
      reader.buffer ++ (socket ++ waiting) := by
    rw [List.append_assoc, ← List.append_assoc (socket.take count), List.take_append_drop]
  unfold Reading at reading ⊢
  cases phase : reader.phase with
  | header =>
      rw [phase] at reading
      exact moved.trans reading
  | payload hdr =>
      rw [phase] at reading
      obtain ⟨body, rest, first, stream⟩ := reading
      exact ⟨body, rest, first, moved.trans stream⟩

theorem returned_reading (reader : Reader timeBytes) (left : Bytes)
    (frames : List (PcapdHdr timeBytes × Bytes)) (sized : Sized frames)
    (full : reader.buffer.length = reader.count) (reading : Reading reader left frames) :
    ∃ rest, reader.received ++ frames = (reader.returned reader.count).received ++ rest ∧
      Reading (reader.returned reader.count) left rest ∧
      (reader.returned reader.count).buffer = [] ∧
      (reader.returned reader.count).running = reader.running := by
  unfold Reading at reading
  unfold Reader.count at full
  cases phase : reader.phase with
  | header =>
      rw [phase] at reading full
      dsimp only at reading full
      cases frames with
      | nil =>
          have lengths := congrArg List.length reading
          have positive : 0 < hdrSize timeBytes := hdrSize_pos
          rw [List.length_append, full] at lengths
          simp at lengths
          omega
      | cons frame rest =>
          rw [List.flatMap_cons, frameBytes, List.append_assoc] at reading
          obtain ⟨header, payload⟩ := List.append_inj reading (by rw [full, PcapdHdr.encode_length])
          have decoded : PcapdHdr.decode reader.buffer = frame.1 := by
            rw [header, PcapdHdr.decode_encode]
          have fits : ¬ PCAPD_SNAPLEN < frame.1.len.toNat := by
            have small := frame.1.len.isLt
            unfold PCAPD_SNAPLEN
            omega
          have next : reader.returned reader.count =
              { reader with phase := .payload frame.1, buffer := [] } := by
            simp [Reader.returned, Reader.count, phase, decoded, fits]
          rw [next]
          exact ⟨frame :: rest, rfl, ⟨frame.2, rest, rfl, payload⟩, rfl, rfl⟩
  -- The payload is as long as its header says, so that the next read is at a frame.
  | payload hdr =>
      rw [phase] at reading full
      dsimp only at reading full
      obtain ⟨body, rest, rfl, stream⟩ := reading
      have length : body.length = hdr.len.toNat := sized (hdr, body) List.mem_cons_self
      obtain ⟨rfl, later⟩ := List.append_inj stream (by rw [full, length])
      have next : reader.returned reader.count =
          { reader with
            phase := .header
            buffer := []
            received := reader.received ++ [(hdr, reader.buffer)] } := by
        simp [Reader.returned, Reader.count, phase]
      rw [next]
      refine ⟨rest, ?_, later, rfl, rfl⟩
      simp

section Reads

variable (frames : List (PcapdHdr timeBytes × Bytes)) (wire : Wire timeBytes)
  (framed : Framed frames wire) (running : wire.reader.running = true)

include framed

/-- The stream has no end but between two frames. -/
theorem eof_framed (sized : Sized frames) (unfilled : wire.reader.buffer.length ≠ wire.reader.count)
    (written : wire.buffers = []) (empty : wire.socket = []) :
    Framed frames { wire with reader := { wire.reader with running := false } } ∧
      wire.reader.phase = .header := by
  obtain ⟨rest, received, reading⟩ := framed.reading
  have nothing : wire.socket ++ pending wire = [] := by
    rw [empty, pending, written, List.flatten_nil, List.drop_nil, List.append_nil]
  have between : wire.reader.phase = .header := by
    unfold Reading at reading
    cases phase : wire.reader.phase with
    | header => rfl
    | payload hdr =>
        rw [phase, nothing, List.append_nil] at reading
        obtain ⟨body, others, rfl, stream⟩ := reading
        have length : body.length = hdr.len.toNat :=
          sized (hdr, body) (by rw [received]; exact List.mem_append_right _ List.mem_cons_self)
        have count : wire.reader.count = hdr.len.toNat := by rw [Reader.count, phase]
        have lengths := congrArg List.length stream
        rw [List.length_append, length] at lengths
        have partly := framed.partly
        omega
  exact ⟨⟨framed.unfailed, framed.within, framed.partly, framed.unfilled,
    ⟨rest, received, reading⟩, fun _ => ⟨written, empty, between⟩⟩, between⟩

include running

theorem again_framed (count : Nat) (present : count ≤ wire.socket.length)
    (less : wire.reader.buffer.length + count < wire.reader.count) :
    Framed frames { wire with socket := wire.socket.drop count, reader := wire.taking count } := by
  obtain ⟨rest, received, reading⟩ := framed.reading
  have length : (wire.taking count).buffer.length < wire.reader.count := by
    rw [Wire.taking, List.length_append, List.length_take, Nat.min_eq_left present]
    exact less
  constructor
  · exact framed.unfailed
  · exact framed.within
  · exact length.le
  · intro phase
    have header : wire.reader.count = hdrSize timeBytes := by
      have same : wire.reader.phase = .header := phase
      rw [Reader.count, same]
    exact header ▸ length
  · exact ⟨rest, received, reading_more wire.reader wire.socket (pending wire) count rest reading⟩
  · intro stopped
    exact absurd (stopped.symm.trans running) Bool.false_ne_true

theorem completed_framed (sized : Sized frames) (count : Nat)
    (present : count ≤ wire.socket.length)
    (full : wire.reader.buffer.length + count = wire.reader.count) :
    Framed frames
      { wire with
        socket := wire.socket.drop count
        reader := (wire.taking count).returned wire.reader.count } := by
  obtain ⟨rest, received, reading⟩ := framed.reading
  have more := reading_more wire.reader wire.socket (pending wire) count rest reading
  have length : (wire.taking count).buffer.length = (wire.taking count).count := by
    rw [Wire.taking, List.length_append, List.length_take, Nat.min_eq_left present]
    exact full
  have sizedRest : Sized rest := fun frame member =>
    sized frame (by rw [received]; exact List.mem_append_right _ member)
  obtain ⟨later, total, readingLater, emptied, kept⟩ :=
    returned_reading (wire.taking count) _ rest sizedRest length more
  constructor
  · exact framed.unfailed
  · exact framed.within
  · change ((wire.taking count).returned (wire.taking count).count).buffer.length ≤ _
    rw [emptied]
    exact Nat.zero_le _
  · intro _
    change ((wire.taking count).returned (wire.taking count).count).buffer.length < _
    rw [emptied]
    exact hdrSize_pos
  · exact ⟨later, received.trans total, readingLater⟩
  · intro stopped
    exact absurd (stopped.symm.trans (kept.trans running)) Bool.false_ne_true

end Reads

theorem read_framed (frames : List (PcapdHdr timeBytes × Bytes)) (sized : Sized frames)
    (wire : Wire timeBytes) (framed : Framed frames wire) (call : Call)
    (admissible : wire.Admissible (.read call)) : Framed frames (wire.read call) := by
  cases running : wire.reader.running with
  | false =>
      have same : wire.read call = wire := by simp [Wire.read, running]
      rw [same]
      exact framed
  | true =>
      cases call with
      | failed => exact absurd admissible id
      | interrupted =>
          by_cases full : wire.reader.buffer.length = wire.reader.count
          · have result : wire.read .interrupted =
                { wire with
                  socket := wire.socket.drop 0
                  reader := (wire.taking 0).returned wire.reader.count } := by
              simp [Wire.read, running, xread, full, Wire.count]
            rw [result]
            exact completed_framed frames wire framed running sized 0 (Nat.zero_le _) full
          · have result : wire.read .interrupted =
                { wire with socket := wire.socket.drop 0, reader := wire.taking 0 } := by
              simp [Wire.read, running, xread, full, Wire.count]
            rw [result]
            exact again_framed frames wire framed running 0 (Nat.zero_le _)
              (lt_of_le_of_ne framed.partly full)
      | moved count =>
          obtain ⟨present, fits, ending⟩ := admissible
          by_cases some : count = 0 → wire.reader.buffer.length = wire.reader.count
          · have next := xread_moved wire.reader.count wire.reader.buffer.length count fits some
            by_cases full : wire.reader.buffer.length + count = wire.reader.count
            · have result : wire.read (.moved count) =
                  { wire with
                    socket := wire.socket.drop count
                    reader := (wire.taking count).returned wire.reader.count } := by
                rw [if_pos full] at next
                simp [Wire.read, running, next, Wire.count]
              rw [result]
              exact completed_framed frames wire framed running sized count present full
            · have result : wire.read (.moved count) =
                  { wire with socket := wire.socket.drop count, reader := wire.taking count } := by
                rw [if_neg full] at next
                simp [Wire.read, running, next, Wire.count]
              rw [result]
              exact again_framed frames wire framed running count present
                (lt_of_le_of_ne fits full)
          -- A read of 0 bytes: all is written and read, so that the reader stops between two frames.
          · obtain ⟨rfl, unfilled⟩ := Classical.not_imp.mp some
            obtain ⟨written, empty⟩ := (ending rfl).resolve_left unfilled
            obtain ⟨stopped, between⟩ :=
              eof_framed frames wire framed sized unfilled written empty
            have short : (0 : Int) ≠ hdrSize timeBytes := by
              have positive : 0 < hdrSize timeBytes := hdrSize_pos
              omega
            have result : wire.read (.moved 0) =
                { wire with reader := { wire.reader with running := false } } := by
              simp [Wire.read, running, xread_eof _ _ unfilled, Wire.count, Reader.returned, between,
                short, Wire.taking]
            rw [result]
            exact stopped

theorem step_framed (frames : List (PcapdHdr timeBytes × Bytes)) (sized : Sized frames)
    (wire : Wire timeBytes) (event : Event) (framed : Framed frames wire)
    (admissible : wire.Admissible event) : Framed frames (wire.step event) := by
  cases event with
  | read call => exact read_framed frames sized wire framed call admissible
  | write call =>
      obtain ⟨reader, unfailed, within, stream⟩ :=
        write_moves wire call framed.unfailed framed.within admissible
      obtain ⟨rest, received, reading⟩ := framed.reading
      constructor
      · exact unfailed
      · exact within
      · change (wire.write call).reader.buffer.length ≤ (wire.write call).reader.count
        rw [reader]
        exact framed.partly
      · change (wire.write call).reader.phase = .header →
          (wire.write call).reader.buffer.length < _
        rw [reader]
        exact framed.unfilled
      · refine ⟨rest, ?_, ?_⟩
        · change frames = (wire.write call).reader.received ++ rest
          rw [reader]
          exact received
        · change Reading (wire.write call).reader
            ((wire.write call).socket ++ pending (wire.write call)) rest
          rw [reader, stream]
          exact reading
      · intro stopped
        change (wire.write call).reader.running = false at stopped
        rw [reader] at stopped
        have settled := framed.stopped stopped
        have same : wire.write call = wire := by
          unfold Wire.write
          rw [settled.1]
        change (wire.write call).Settled
        rw [same]
        exact settled

end Framing

section Exports

theorem sendBuffers_flatten (sent : Export timeBytes) :
    (sendBuffers sent).flatten = frameBytes (onWire sent) := by
  simp [sendBuffers, frameBytes, onWire]

theorem start_stream (sent : List (Export timeBytes)) :
    (sent.flatMap sendBuffers).flatten = (sent.map onWire).flatMap frameBytes := by
  induction sent with
  | nil => rfl
  | cons first rest ih =>
      rw [List.flatMap_cons, List.flatten_append, sendBuffers_flatten, ih, List.map_cons,
        List.flatMap_cons]

theorem start_framed (sent : List (Export timeBytes)) :
    Framed (sent.map onWire) (start sent) where
  unfailed := rfl
  within _ _ := Nat.zero_le _
  partly := Nat.zero_le _
  unfilled _ := hdrSize_pos
  reading := ⟨sent.map onWire, rfl, start_stream sent⟩
  stopped running := absurd running (by simp [start])

/-- What an export says is what the frame said, for the fields of fixed width. -/
theorem exportFrame_record (conf : Conf) (iface : Iface) (frame : Frame timeBytes)
    (uid : BitVec 32) :
    record (exportFrame conf iface frame uid).hdr (exportFrame conf iface frame uid).packet =
      { tvSec := frame.tvSec
        tvUsec := frame.tvUsec
        linktype := if conf.dumpDatalink then iface.dlink.code else Dlink.raw.code
        uid := uid
        isTx := isTxPacket iface frame.pkt (BitVec.ofNat 16 frame.pkt.length)
        captured :=
          if conf.dumpDatalink then frame.pkt else frame.pkt.drop iface.dlink.ipoffset } := by
  have linktype : (BitVec.ofNat 16
      (if conf.dumpDatalink then iface.dlink.code else Dlink.raw.code)).toNat =
        if conf.dumpDatalink then iface.dlink.code else Dlink.raw.code := by
    cases conf.dumpDatalink <;> cases iface.dlink <;> rfl
  simp only [record, exportFrame, linktype]
  congr 1
  by_cases tx : isTxPacket iface frame.pkt (BitVec.ofNat 16 frame.pkt.length) = true <;>
    simp [tx, PCAPD_FLAG_TX]

/-- The length in the header is the length of the packet when that fits. -/
theorem onWire_packet (sent : Export timeBytes)
    (len : sent.hdr.len = BitVec.ofNat 16 sent.packet.length) :
    (onWire sent).2 = sent.packet ↔ sent.packet.length ≤ PCAPD_SNAPLEN := by
  have said : sent.hdr.len.toNat = sent.packet.length % 65536 := by
    rw [len, BitVec.toNat_ofNat]
  unfold onWire PCAPD_SNAPLEN
  dsimp only
  constructor
  · intro same
    have lengths := congrArg List.length same
    rw [List.length_take, said] at lengths
    omega
  · intro fits
    apply List.take_of_length_le
    rw [said]
    omega

theorem onWire_sized (conf : Conf) (nldiag : Bool) (reads : List (Iface × NextEx timeBytes)) :
    Sized ((exports conf nldiag reads).map onWire) := by
  intro frame member
  obtain ⟨sent, exported, rfl⟩ := List.mem_map.mp member
  have len := exports_len conf nldiag reads sent exported
  have said : sent.hdr.len.toNat = sent.packet.length % 65536 := by
    rw [len, BitVec.toNat_ofNat]
  unfold onWire
  rw [List.length_take]
  dsimp only
  omega

end Exports

section Runs

variable (conf : Conf) (nldiag : Bool) (reads : List (Iface × NextEx timeBytes))

def wireOf : Wire timeBytes := start (exports conf nldiag reads)

theorem run_framed (events : List Event)
    (admissible : Machine.Along Wire.step Wire.Admissible (wireOf conf nldiag reads) events) :
    Framed ((exports conf nldiag reads).map onWire)
      (Machine.run Wire.step (wireOf conf nldiag reads) events) :=
  Machine.run_invariant Wire.step Wire.Admissible _
    (fun wire event framed => step_framed _ (onWire_sized conf nldiag reads) wire event framed)
    (wireOf conf nldiag reads) events admissible (start_framed _)

/-- Where nothing is under way, all frames are there, with the payloads that were written. -/
theorem settled_received (frames : List (PcapdHdr timeBytes × Bytes)) (wire : Wire timeBytes)
    (framed : Framed frames wire) (settled : wire.Settled) : wire.reader.received = frames := by
  obtain ⟨written, empty, between⟩ := settled
  obtain ⟨rest, received, reading⟩ := framed.reading
  have nothing : wire.socket ++ pending wire = [] := by
    rw [empty, pending, written, List.flatten_nil, List.drop_nil, List.append_nil]
  unfold Reading at reading
  rw [between, nothing, List.append_nil] at reading
  have none : rest = [] := by
    cases rest with
    | nil => rfl
    | cons frame others =>
        have unfilled := framed.unfilled between
        have lengths := congrArg List.length reading
        rw [List.flatMap_cons, frameBytes, List.length_append, List.length_append,
          PcapdHdr.encode_length] at lengths
        omega
  rw [received, none, List.append_nil]

theorem write_all (frames : List (PcapdHdr timeBytes × Bytes)) (sized : Sized frames)
    (wire : Wire timeBytes) (framed : Framed frames wire) :
    ∃ events, Machine.Along Wire.step Wire.Admissible wire events ∧
      (Machine.run Wire.step wire events).buffers = [] := by
  induction listed : wire.buffers generalizing wire with
  | nil => exact ⟨[], trivial, listed⟩
  | cons buffer rest ih =>
      have within : wire.sofar ≤ buffer.length := framed.within buffer (by rw [listed]; rfl)
      have all : wire.sofar + (buffer.length - wire.sofar) = buffer.length := by omega
      let event : Event := .write (.moved (buffer.length - wire.sofar))
      have admissible : wire.Admissible event := by
        intro first head
        rw [listed] at head
        obtain rfl := Option.some.inj head
        omega
      have written : (wire.step event).buffers = rest := by
        have next := xwrite_moved buffer.length wire.sofar (buffer.length - wire.sofar) (by omega)
          (by omega)
        rw [if_pos all] at next
        simp [event, Wire.step, Wire.write, listed, framed.unfailed, next]
      obtain ⟨events, along, empty⟩ :=
        ih (wire.step event) (step_framed frames sized wire event framed admissible) written
      exact ⟨event :: events, ⟨admissible, along⟩, empty⟩

theorem read_leaves (wire : Wire timeBytes) (running : wire.reader.running = true) (count : Nat) :
    (wire.read (.moved count)).buffers = wire.buffers ∧
      (wire.read (.moved count)).socket = wire.socket.drop count := by
  simp only [Wire.read, running, Wire.count]
  cases xread wire.reader.count wire.reader.buffer.length (.moved count) <;> exact ⟨rfl, rfl⟩

def Reader.inPayload (reader : Reader timeBytes) : Nat :=
  match reader.phase with
  | .header => 0
  | .payload _ => 1

theorem inPayload_le (reader : Reader timeBytes) : reader.inPayload ≤ 1 := by
  unfold Reader.inPayload
  cases reader.phase <;> simp

/-- The last call of an `xread` that got all it asked for ends the payload. -/
theorem read_ends (wire : Wire timeBytes) (hdr : PcapdHdr timeBytes)
    (running : wire.reader.running = true) (phase : wire.reader.phase = .payload hdr)
    (full : wire.reader.buffer.length = wire.reader.count) :
    (wire.read (.moved 0)).reader.phase = .header := by
  have asked : wire.reader.count = hdr.len.toNat := by rw [Reader.count, phase]
  have taken : (wire.taking 0).phase = .payload hdr := phase
  simp [Wire.read, running, xread, full, asked, Reader.returned, Wire.count, taken]

theorem read_idle (frames : List (PcapdHdr timeBytes × Bytes)) (sized : Sized frames)
    (wire : Wire timeBytes) (framed : Framed frames wire) (written : wire.buffers = [])
    (unsettled : ¬ wire.Settled)
    (idle : wire.reader.buffer.length = wire.reader.count ∨ wire.socket = []) :
    wire.reader.buffer.length = wire.reader.count ∧ ∃ hdr, wire.reader.phase = .payload hdr := by
  by_cases full : wire.reader.buffer.length = wire.reader.count
  · refine ⟨full, ?_⟩
    cases phase : wire.reader.phase with
    | payload hdr => exact ⟨hdr, rfl⟩
    | header =>
        have unfilled := framed.unfilled phase
        rw [Reader.count, phase] at full
        dsimp only at full
        omega
  · have empty := idle.resolve_left full
    have between := (eof_framed frames wire framed sized full written empty).2
    exact absurd ⟨written, empty, between⟩ unsettled

theorem read_all (frames : List (PcapdHdr timeBytes × Bytes)) (sized : Sized frames)
    (wire : Wire timeBytes) (framed : Framed frames wire) (written : wire.buffers = []) :
    ∃ events, Machine.Along Wire.step Wire.Admissible wire events ∧
      (Machine.run Wire.step wire events).Settled := by
  induction measured : 2 * wire.socket.length + wire.reader.inPayload using Nat.strong_induction_on
    generalizing wire with
  | _ weight ih =>
      cases running : wire.reader.running with
      | false => exact ⟨[], trivial, framed.stopped running⟩
      | true =>
          by_cases settled : wire.Settled
          · exact ⟨[], trivial, settled⟩
          -- A read of all that is there, up to what the reader asks for.
          · let count := min (wire.reader.count - wire.reader.buffer.length) wire.socket.length
            let event : Event := .read (.moved count)
            have partly := framed.partly
            have admissible : wire.Admissible event := by
              refine ⟨Nat.min_le_right _ _, ?_, fun none => ?_⟩
              · have some := Nat.min_le_left (wire.reader.count - wire.reader.buffer.length)
                  wire.socket.length
                omega
              · by_cases empty : wire.socket = []
                · exact Or.inr ⟨written, empty⟩
                · have positive := List.length_pos_of_ne_nil empty
                  left
                  omega
            have next := step_framed frames sized wire event framed admissible
            obtain ⟨buffers, socket⟩ := read_leaves wire running count
            have less : 2 * (wire.step event).socket.length + (wire.step event).reader.inPayload <
                weight := by
              have small := inPayload_le (wire.step event).reader
              have drained : (wire.step event).socket.length = wire.socket.length - count := by
                change (wire.read (.moved count)).socket.length = _
                rw [socket, List.length_drop]
              have moved : count ≤ wire.socket.length := Nat.min_le_right _ _
              rcases Nat.eq_zero_or_pos count with none | some
              · have idle : wire.reader.buffer.length = wire.reader.count ∨ wire.socket = [] := by
                  rcases Nat.min_eq_zero_iff.mp none with full | empty
                  · exact Or.inl (by omega)
                  · exact Or.inr (List.length_eq_zero_iff.mp empty)
                obtain ⟨full, hdr, phase⟩ := read_idle frames sized wire framed written settled idle
                have ended : (wire.step event).reader.inPayload = 0 := by
                  change (wire.read (.moved count)).reader.inPayload = 0
                  rw [none, Reader.inPayload, read_ends wire hdr running phase full]
                have busy : wire.reader.inPayload = 1 := by rw [Reader.inPayload, phase]
                omega
              · omega
            obtain ⟨events, along, reached⟩ :=
              ih _ less (wire.step event) next (buffers.trans written) rfl
            exact ⟨event :: events, ⟨admissible, along⟩, reached⟩

/-- What is written can always be read to the end. -/
theorem run_settles : ∃ events,
    Machine.Along Wire.step Wire.Admissible (wireOf conf nldiag reads) events ∧
      (Machine.run Wire.step (wireOf conf nldiag reads) events).Settled := by
  have sized := onWire_sized conf nldiag reads
  obtain ⟨writes, along, written⟩ := write_all _ sized (wireOf conf nldiag reads) (start_framed _)
  obtain ⟨others, later, settled⟩ := read_all _ sized _ (run_framed conf nldiag reads writes along)
    written
  refine ⟨writes ++ others, ?_, ?_⟩
  · exact (Machine.along_append Wire.step Wire.Admissible _ writes others).mpr ⟨along, later⟩
  · rwa [Machine.run_append]

/-- The packets as `read_pkt` accepted them. -/
def acceptedRecords : List (Record timeBytes) :=
  (exports conf nldiag reads).map fun sent => record sent.hdr sent.packet

def receivedRecords (wire : Wire timeBytes) : List (Record timeBytes) :=
  wire.reader.received.map fun frame => record frame.1 frame.2

/-- However the calls go, what is read in the end is what was accepted. -/
def RoundTrips : Prop :=
  ∀ events, Machine.Along Wire.step Wire.Admissible (wireOf conf nldiag reads) events →
    (Machine.run Wire.step (wireOf conf nldiag reads) events).Settled →
      receivedRecords (Machine.run Wire.step (wireOf conf nldiag reads) events) =
        acceptedRecords conf nldiag reads

theorem run_received (events : List Event)
    (admissible : Machine.Along Wire.step Wire.Admissible (wireOf conf nldiag reads) events)
    (settled : (Machine.run Wire.step (wireOf conf nldiag reads) events).Settled) :
    receivedRecords (Machine.run Wire.step (wireOf conf nldiag reads) events) =
        acceptedRecords conf nldiag reads ↔
      ∀ sent ∈ exports conf nldiag reads, sent.packet.length ≤ PCAPD_SNAPLEN := by
  have received := settled_received _ _ (run_framed conf nldiag reads events admissible) settled
  unfold receivedRecords acceptedRecords
  rw [received, List.map_map]
  constructor
  · intro same sent member
    have equal := List.map_inj_left.mp same sent member
    have packets := congrArg Record.captured equal
    exact (onWire_packet sent (exports_len conf nldiag reads sent member)).mp packets
  · intro fits
    apply List.map_congr_left
    intro sent member
    have packets := (onWire_packet sent (exports_len conf nldiag reads sent member)).mpr
      (fits sent member)
    dsimp only [Function.comp_apply]
    rw [packets]
    rfl

/-- The round trip is exact as long as the lengths fit the header. -/
theorem roundTrips_iff :
    RoundTrips conf nldiag reads ↔
      ∀ sent ∈ exports conf nldiag reads, sent.packet.length ≤ PCAPD_SNAPLEN := by
  constructor
  · intro trips
    obtain ⟨events, admissible, settled⟩ := run_settles conf nldiag reads
    exact (run_received conf nldiag reads events admissible settled).mp
      (trips events admissible settled)
  · intro fits events admissible settled
    exact (run_received conf nldiag reads events admissible settled).mpr fits

end Runs

section Example

theorem savefile_exports (frame : Frame 8) (unparsed : frame.ipproto = none) :
    exports {} false [(savefile, .packet frame)] =
      [exportFrame {} savefile frame UID_UNKNOWN] := by
  simp [exports, readPkt, resolveUid, unparsed, savefile, Dlink.ipoffset]

/-- A frame of a capture file with one byte more than the header can tell. -/
def longFrame : Frame 8 := { tvSec := 1, tvUsec := 0, pkt := 0x45 :: List.replicate 65535 0 }

theorem longFrame_shortened : ¬ ∀ (conf : Conf) (nldiag : Bool)
    (reads : List (Iface × NextEx 8)), RoundTrips conf nldiag reads := by
  intro trips
  let reads : List (Iface × NextEx 8) := [(savefile, .packet longFrame)]
  obtain ⟨events, admissible, settled⟩ := run_settles {} false reads
  have same := trips {} false reads events admissible settled
  have fits := (run_received {} false reads events admissible settled).mp same
  have exported := savefile_exports longFrame rfl
  have within := fits (exportFrame {} savefile longFrame UID_UNKNOWN)
    (by rw [exported]; exact List.mem_singleton.mpr rfl)
  have length : (exportFrame {} savefile longFrame UID_UNKNOWN).packet.length = 65536 :=
    congrArg (· + 1) List.length_replicate
  rw [length] at within
  exact absurd within (by decide)

end Example

end Ptnet.PcapdWire
