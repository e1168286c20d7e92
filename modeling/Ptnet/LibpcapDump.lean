import Ptnet.LibpcapCounters
import Ptnet.TrailerUid

/-!
The dump of the captured packets: `pd_dump_packet`, the end of `pd_account_stats`, and the part of
`run_libpcap` between the reading of a frame and the housekeeping. A frame that `handle_packet`
accounts is dumped there, one that it rejects is dumped by `run_libpcap`.
-/

namespace Ptnet.LibpcapDump

open ByteMemory PcapDump
open Connection (PdConn)
open Pcapdroid (Pd Pkt Slot Ref pdNewConnection)
open LibpcapCapture
open TrailerUid (Reader trailerUid)
open ZdtunPacket (zdtunParsePkt)

/-- What `run_libpcap` receives of `pcapd`: a header and a frame, with the answers of the
    environment while it is handled. The parsed packet of the arrival is not used. -/
structure Frame where
  arrival : Arrival
  tv : Timeval
  linktype : Nat
  bytes : Bytes
  short : bytes.length < 2 ^ 16
  /-- The byte behind it in the buffer. -/
  behind : UInt8 := 0

def getIpOffset (linktype : Nat) : Option Nat :=
  if linktype = 12 then some 0
  else if linktype = 1 then some 14
  else if linktype = 113 then some 16
  else if linktype = 276 then some 20
  else none

/-- A call of `pcap_dump_packet`. -/
structure DumpCall where
  pkt : Packet
  tv : Timeval
  uid : Int
  deriving DecidableEq, Repr

/-- `run_libpcap` with its dumper; `maxPktsPerFlow` is a setting. -/
structure Session where
  reader : Reader
  dumper : Option Dumper
  maxPktsPerFlow : Int := 0

/-- A part of a frame. -/
def Frame.slice (frame : Frame) (ipoffset count : Nat) : Packet where
  bytes := (frame.bytes.drop ipoffset).take count
  short := by
    have short := frame.short
    rw [List.length_take, List.length_drop]
    omega
  behind := frame.behind

section Dump

variable (trailers : Trailers)

/-- `pd_dump_packet`; a dumper that refuses a packet is destroyed. -/
def pdDumpPacket (nowMs : Nat) (dumper : Option Dumper) (call : DumpCall) :
    Option Dumper × List DumpCall :=
  match dumper with
  | none => (none, [])
  | some dumper =>
      let (after, dumped) := pcapDumpPacket trailers { dumper with nowMs } call.pkt call.tv call.uid
      (if dumped then some after else none, [call])

/-- The limit of the packets of a flow, for this number of packets as an `int`. -/
def withinCount (maxPktsPerFlow number : Int) : Bool :=
  maxPktsPerFlow ≤ 0 || Int.bmod number (2 ^ 32) ≤ maxPktsPerFlow

def withinLimit (maxPktsPerFlow : Int) (data : PdConn) : Bool :=
  withinCount maxPktsPerFlow (data.sentPkts + data.rcvdPkts)

/-- The end of `pd_account_stats`. -/
def accountDump (session : Session) (pd : Pd) (ref : Ref) (pkt : Packet) (tv : Timeval) :
    Option Dumper × List DumpCall :=
  let data := pd.heap ref
  if session.dumper.isSome && withinLimit session.maxPktsPerFlow data then
    pdDumpPacket trailers pd.nowMs session.dumper ⟨pkt, tv, data.uid⟩
  else (session.dumper, [])

/-- The arrival of a frame once `handle_packet` has parsed it. -/
def parsedArrival (frame : Frame) (ipoffset : Nat) (reader : Reader) : Arrival :=
  let parsed := (zdtunParsePkt reader.id2ports (frame.bytes.drop ipoffset)).2
  let uid :=
    match parsed with
    | none => none
    | some pkt =>
        if reader.lib.pcapFileCapture && frame.arrival.hdr.uid = Connection.UID_UNKNOWN then
          trailerUid frame.bytes pkt.len
        else none
  { frame.arrival with parsed, hdr := { frame.arrival.hdr with trailerUid := uid } }

/-- The calls that `handle_packet` makes for a packet of a known connection. -/
def connectionDump (session : Session) (frame : Frame) (ipoffset : Nat) (arrival : Arrival)
    (pkt : Pkt) (isTx : Bool) (state : Libpcap) (conn : Slot) : Option Dumper × List DumpCall :=
  accountDump trailers session (handleConnection arrival pkt isTx state conn).pd conn.data
    (frame.slice ipoffset pkt.len) frame.tv

/-- The calls that `handle_packet` makes. -/
def packetDump (session : Session) (frame : Frame) (ipoffset : Nat) :
    Option Dumper × List DumpCall :=
  let state := session.reader.lib
  let arrival := parsedArrival frame ipoffset session.reader
  match arrival.parsed with
  | none => (session.dumper, [])
  | some parsed =>
      if isOrphan parsed then (session.dumper, [])
      else
        match lookup state.connections arrival.hdr.isTx parsed.tuple with
        | some (conn, isTx) =>
            connectionDump trailers session frame ipoffset arrival (orient isTx parsed) isTx state conn
        | none =>
            match added arrival (orient arrival.hdr.isTx parsed) state with
            | none => (session.dumper, [])
            | some (conn, opened) =>
                connectionDump trailers session frame ipoffset arrival
                  (orient arrival.hdr.isTx parsed) arrival.hdr.isTx opened conn

/-- The packet that `run_libpcap` dumps where `handle_packet` has rejected it. -/
def rejectedCall (frame : Frame) (ipoffset : Nat) (reader : Reader) : DumpCall :=
  ⟨frame.slice ipoffset (frame.bytes.length - ipoffset), frame.tv,
    packetUid reader.lib (parsedArrival frame ipoffset reader).hdr⟩

/-- The handling of a frame in `run_libpcap`, and the calls of `pcap_dump_packet`. -/
def handleFrame (session : Session) (frame : Frame) : Session × List DumpCall :=
  match getIpOffset frame.linktype with
  | none => (session, [])
  | some ipoffset =>
      if frame.bytes.length < ipoffset then (session, [])
      else
        let (reader, valid) := TrailerUid.handleFrame frame.arrival
          (BitVec.ofNat 16 frame.bytes.length) frame.bytes ipoffset session.reader
        let (dumper, calls) := packetDump trailers session frame ipoffset
        if valid then ({ session with reader, dumper }, calls)
        else
          let (dumper, more) := pdDumpPacket trailers reader.lib.pd.nowMs dumper
            (rejectedCall frame ipoffset session.reader)
          ({ session with reader, dumper }, calls ++ more)

/-- What happens between two frames: a step of the capture, or what others do to the dumper. -/
inductive Event where
  | frame (frame : Frame)
  | capture (event : LibpcapCapture.Event) (quiet : ∀ arrival, event ≠ .packet arrival)
  | checkExport
  | dumpSecret (secret : Secret) (cells : Option (Nat → UInt8))
  | stop

def step (session : Session) : Event → Session
  | .frame frame => (handleFrame trailers session frame).1
  | .capture event _ =>
      { session with
        reader := { session.reader with lib := LibpcapCapture.step session.reader.lib event } }
  | .checkExport =>
      { session with
        dumper := session.dumper.map fun dumper =>
          (pcapCheckExport { dumper with nowMs := session.reader.lib.pd.nowMs }).1 }
  | .dumpSecret secret cells =>
      { session with dumper := session.dumper.map fun dumper => (pcapDumpSecret dumper secret cells).1 }
  | .stop => { session with dumper := none }

/-- The calls of `pcap_dump_packet` in a step. -/
def calls (session : Session) : Event → List DumpCall
  | .frame frame => (handleFrame trailers session frame).2
  | _ => []

end Dump

section Calls

variable (trailers : Trailers) (session : Session) (frame : Frame) (ipoffset : Nat)

/-- The connection of a frame; none where `handle_packet` rejects it. -/
def flowAt : Option Slot :=
  (attribution (parsedArrival frame ipoffset session.reader) session.reader.lib).map Prod.fst

def accountedCall (conn : Slot) : DumpCall :=
  let arrival := parsedArrival frame ipoffset session.reader
  ⟨frame.slice ipoffset ((arrival.parsed.map Pkt.len).getD 0), frame.tv,
    ((handlePacket arrival session.reader.lib).1.pd.heap conn.data).uid⟩

theorem trailerFrame_handled :
    TrailerUid.handleFrame frame.arrival (BitVec.ofNat 16 frame.bytes.length) frame.bytes ipoffset
        session.reader =
      let handled := handlePacket (parsedArrival frame ipoffset session.reader) session.reader.lib
      ({ lib := handled.1
         id2ports := (zdtunParsePkt session.reader.id2ports (frame.bytes.drop ipoffset)).1
         hasSeenPcapdroidTrailer := session.reader.hasSeenPcapdroidTrailer ||
           (parsedArrival frame ipoffset session.reader).hdr.trailerUid.isSome }, handled.2) := by
  have received : frame.bytes.take (BitVec.ofNat 16 frame.bytes.length).toNat = frame.bytes := by
    rw [BitVec.toNat_ofNat, Nat.mod_eq_of_lt frame.short, List.take_length]
  simp only [TrailerUid.handleFrame, received]
  rfl

theorem opened_added (arrival : Arrival) (state : Libpcap) (pkt : Pkt) :
    opened arrival state pkt = (added arrival pkt state).map Prod.fst := by
  rw [opened, added]
  split
  · rfl
  · rcases pdNewConnection arrival.ndpi arrival.env state.pd pkt.tuple
      (packetUid state arrival.hdr) with ⟨pd, _ | ref⟩ <;> rfl

/-- `handle_packet` makes the call of the connection a frame is accounted to, or none. -/
theorem packetDump_eq :
    packetDump trailers session frame ipoffset =
      match flowAt session frame ipoffset with
      | none => (session.dumper, [])
      | some conn =>
          accountDump trailers session
            (handlePacket (parsedArrival frame ipoffset session.reader) session.reader.lib).1.pd
            conn.data (accountedCall session frame ipoffset conn).pkt frame.tv := by
  rw [packetDump, flowAt, attribution]
  simp only [accountedCall]
  generalize parsedArrival frame ipoffset session.reader = arrival
  cases present : arrival.parsed with
  | none => rfl
  | some parsed =>
      cases ported : isOrphan parsed with
      | true =>
          simp only [ported, if_true]
          rfl
      | false =>
          rw [handlePacket_parsed arrival session.reader.lib parsed present ported]
          simp only [ported, Bool.false_eq_true, if_false]
          cases found : lookup session.reader.lib.connections arrival.hdr.isTx parsed.tuple with
          | some known => rfl
          | none =>
              simp only [opened_added]
              cases entry : added arrival (orient arrival.hdr.isTx parsed) session.reader.lib with
              | none => rfl
              | some result =>
                  have handled := openConnection_some arrival _ session.reader.lib result.2 result.1
                    entry
                  simp only [Option.map_some, handled.1]
                  rfl

/-- A frame is accounted to a connection just if `handle_packet` returns true. -/
theorem flowAt_isSome :
    (flowAt session frame ipoffset).isSome =
      (handlePacket (parsedArrival frame ipoffset session.reader) session.reader.lib).2 := by
  rw [flowAt, Option.isSome_map]
  cases attributed : attribution (parsedArrival frame ipoffset session.reader) session.reader.lib with
  | none => exact (handlePacket_ignored _ _ attributed).symm
  | some found =>
      obtain ⟨parsed, known, -, -, handled⟩ :=
        handlePacket_attributed _ _ found.1 found.2 attributed
      rw [handled]
      rfl

structure Received (frame : Frame) (ipoffset : Nat) : Prop where
  offset : getIpOffset frame.linktype = some ipoffset
  long : ipoffset ≤ frame.bytes.length

theorem pdDumpPacket_active (nowMs : Nat) (dumper : Option Dumper) (call : DumpCall)
    (active : dumper.isSome = true) : (pdDumpPacket trailers nowMs dumper call).2 = [call] := by
  cases dumper with
  | none => cases active
  | some dumper => rfl

def accountedRecord (conn : Slot) : PdConn :=
  (handlePacket (parsedArrival frame ipoffset session.reader) session.reader.lib).1.pd.heap conn.data

variable (received : Received frame ipoffset) (active : session.dumper.isSome = true)

include received active

/-- The calls for a frame: one, but for the packets of a connection behind its limit. -/
theorem handleFrame_calls :
    (handleFrame trailers session frame).2 =
      match flowAt session frame ipoffset with
      | none => [rejectedCall frame ipoffset session.reader]
      | some conn =>
          if withinLimit session.maxPktsPerFlow (accountedRecord session frame ipoffset conn) then
            [accountedCall session frame ipoffset conn]
          else [] := by
  have accepted := flowAt_isSome session frame ipoffset
  rw [handleFrame, received.offset]
  simp only [Nat.not_lt.mpr received.long, if_false, trailerFrame_handled, packetDump_eq, ← accepted]
  cases flow : flowAt session frame ipoffset with
  | none =>
      simp only [Option.isSome_none, Bool.false_eq_true, if_false, List.nil_append]
      exact pdDumpPacket_active trailers _ _ _ active
  | some conn =>
      have record : (handlePacket (parsedArrival frame ipoffset session.reader)
          session.reader.lib).1.pd.heap conn.data = accountedRecord session frame ipoffset conn := rfl
      simp only [Option.isSome_some, if_true, accountDump, active, Bool.true_and, record]
      split
      · exact pdDumpPacket_active trailers _ _ _ active
      · rfl

end Calls

section Tally

def tally (data : PdConn) : Int := data.sentPkts + data.rcvdPkts

theorem tally_congr {before after : PdConn}
    (same : Pcapdroid.packets after = Pcapdroid.packets before) : tally after = tally before := by
  obtain ⟨sent, rcvd⟩ := Prod.mk.inj same
  rw [tally, tally, sent, rcvd]

theorem recordStatus_packets (tuple : Connection.Tuple) (pkt : Pkt) (isTx : Bool) (data : PdConn) :
    Pcapdroid.packets (recordStatus tuple pkt isTx data).1 = Pcapdroid.packets data := by
  have tcp : Pcapdroid.packets (updateTcpStatus pkt isTx data) = Pcapdroid.packets data := by
    simp only [updateTcpStatus]
    repeat' split
    all_goals rfl
  have udp : Pcapdroid.packets (updateUdpStatus tuple pkt data).1 = Pcapdroid.packets data := by
    simp only [updateUdpStatus]
    repeat' split
    all_goals rfl
  rw [recordStatus]
  split
  · rfl
  · split
    · exact tcp
    · exact udp

theorem accountStats_tally (isTx : Bool) (len l7Len : Int) (data : PdConn) :
    tally (Detection.accountStats isTx len l7Len data) = tally data + 1 := by
  cases isTx with
  | true =>
      change data.sentPkts + 1 + data.rcvdPkts = data.sentPkts + data.rcvdPkts + 1
      omega
  | false =>
      change data.sentPkts + (data.rcvdPkts + 1) = data.sentPkts + data.rcvdPkts + 1
      omega

theorem pdAccountStats_tally (ndpi : Detection.Ndpi) (pd : Pd) (pctx : Pcapdroid.PktContext)
    (ref : Ref) :
    tally ((Pcapdroid.pdAccountStats ndpi pd pctx).heap ref) =
      tally (pd.heap ref) + if ref = pctx.data then 1 else 0 := by
  let counted : Pd := { pd.modify pctx.data
    (Detection.accountStats pctx.isTx pctx.pkt.len pctx.pkt.l7.length) with newStats := true }
  have notified := Pcapdroid.packets_frame.notifConnection counted pctx.data ndpi .connsUpdates
    pctx.tuple
  have counting : tally (counted.heap ref) = tally (pd.heap ref) + if ref = pctx.data then 1 else 0 := by
    by_cases own : ref = pctx.data
    · subst own
      rw [if_pos rfl, ← accountStats_tally pctx.isTx pctx.pkt.len pctx.pkt.l7.length]
      exact congrArg tally (Pcapdroid.Pd.modify_heap_self _ _ _)
    · rw [if_neg own, Int.add_zero]
      exact congrArg tally (Pcapdroid.Pd.modify_heap_other _ _ _ _ own)
  rw [← counting]
  exact tally_congr (notified.records ref)

theorem updateConnectionStatus_packets (state : Libpcap) (conn : Slot) (pkt : Pkt) (isTx : Bool)
    (ref : Ref) :
    Pcapdroid.packets ((updateConnectionStatus state conn pkt isTx).pd.heap ref) =
      Pcapdroid.packets (state.pd.heap ref) := by
  have accessed := Pcapdroid.packets_frame.access state.pd conn.data
  have stored := Pcapdroid.packets_frame.modify (state.pd.access conn.data) conn.data
    (fun _ => (recordStatus conn.tuple pkt isTx ((state.pd.access conn.data).heap conn.data)).1)
    (recordStatus_packets _ _ _ _)
  have kept := (Pcapdroid.packets_frame.later accessed stored).records ref
  rw [updateConnectionStatus]
  split <;> exact kept

/-- The handling of a packet counts it once, in its own record. -/
theorem handleConnection_tally (arrival : Arrival) (pkt : Pkt) (isTx : Bool) (state : Libpcap)
    (conn : Slot) (ref : Ref) :
    tally ((handleConnection arrival pkt isTx state conn).pd.heap ref) =
      tally (state.pd.heap ref) + if ref = conn.data then 1 else 0 := by
  let pinfo : Pcapdroid.PktContext := ⟨pkt, arrival.hdr.ms, isTx, conn.tuple, conn.data⟩
  let stamped := state.pd.modify conn.data fun data => { data with lastUpdateMs := state.pd.nowMs }
  let processed := Pcapdroid.pdProcessPacket arrival.ndpi arrival.payload stamped pinfo
  have stamping := Pcapdroid.packets_frame.modify state.pd conn.data
    (fun data => { data with lastUpdateMs := state.pd.nowMs }) rfl
  have processing := Pcapdroid.packets_frame.pdProcessPacket stamped arrival.ndpi arrival.payload pinfo
  have updating := updateConnectionStatus_packets { state with pd := processed } conn pkt isTx ref
  have before : tally ((updateConnectionStatus { state with pd := processed } conn pkt isTx).pd.heap
      ref) = tally (state.pd.heap ref) :=
    tally_congr (updating.trans ((processing.records ref).trans (stamping.records ref)))
  rw [← before]
  exact pdAccountStats_tally arrival.ndpi _ pinfo ref

/-- The record of each connection in the table has counted the packets of its flow; the records
    that are still to come have no packets. -/
structure Tallied (counts : Ref → Nat) (state : Libpcap) : Prop extends Numbered state where
  tallied : ∀ conn ∈ state.connections, tally (state.pd.heap conn.data) = counts conn.data
  unborn : ∀ ref, state.pd.created ≤ ref → counts ref = 0

def count (counts : Ref → Nat) : Option Slot → Ref → Nat
  | none => counts
  | some conn => Function.update counts conn.data (counts conn.data + 1)

namespace Tallied

variable {counts : Ref → Nat} {state : Libpcap} (tallied : Tallied counts state)

include tallied

theorem quiet (after : Libpcap) (table : after.connections.Sublist state.connections)
    (created : state.pd.created ≤ after.pd.created)
    (records : ∀ conn ∈ after.connections, Pcapdroid.packets (after.pd.heap conn.data) =
      Pcapdroid.packets (state.pd.heap conn.data)) : Tallied counts after where
  born conn member := Nat.lt_of_lt_of_le (tallied.born conn (table.subset member)) created
  distinct := (table.map Slot.data).nodup tallied.distinct
  tallied conn member :=
    (tally_congr (records conn member)).trans (tallied.tallied conn (table.subset member))
  unborn ref later := tallied.unborn ref (Nat.le_trans created later)

theorem connection (arrival : Arrival) (pkt : Pkt) (isTx : Bool) (conn : Slot)
    (listed : conn ∈ state.connections) :
    Tallied (count counts (some conn)) (handleConnection arrival pkt isTx state conn) ∧
      tally ((handleConnection arrival pkt isTx state conn).pd.heap conn.data) =
        counts conn.data + 1 := by
  have fewer := handleConnection_table arrival pkt isTx state conn
  have created := handleConnection_created arrival pkt isTx state conn
  have born := tallied.born conn listed
  have own : tally ((handleConnection arrival pkt isTx state conn).pd.heap conn.data) =
      counts conn.data + 1 := by
    rw [handleConnection_tally, if_pos rfl, tallied.tallied conn listed]
  refine ⟨⟨tallied.fewer fewer created, fun other member => ?_, fun ref later => ?_⟩, own⟩
  · rw [count]
    by_cases same : other.data = conn.data
    · rw [same, Function.update_self, own]
      rfl
    · rw [handleConnection_tally, if_neg same, Int.add_zero, Function.update_of_ne same]
      exact tallied.tallied other (fewer.subset member)
  · rw [created] at later
    rw [count, Function.update_of_ne (Nat.ne_of_gt (Nat.lt_of_lt_of_le born later))]
    exact tallied.unborn ref later

theorem joined (opened : Libpcap) (conn : Slot) (ref : conn.data = state.pd.created)
    (table : opened.connections = state.connections ++ [conn])
    (records : Pcapdroid.Created (fun before after => Pcapdroid.packets after = Pcapdroid.packets before)
      state.pd opened.pd) : Tallied counts opened where
  toNumbered := tallied.toNumbered.joined [conn] table records.created
    (.inr ⟨conn.tuple, by rw [← ref]⟩)
  tallied other member := by
    rcases List.mem_append.mp (table ▸ member) with old | new
    · have kept := records.others other.data (tallied.older other old)
      exact (tally_congr kept).trans (tallied.tallied other old)
    · rw [List.mem_singleton.mp new, ref, tallied.unborn _ (Nat.le_refl _)]
      exact tally_congr records.fresh
  unborn later born := tallied.unborn later (by
    rw [records.created] at born
    exact Nat.le_of_succ_le born)

/-- A packet counts for the flow it is attributed to, and its record says so. -/
theorem packet (arrival : Arrival) :
    let flow := (attribution arrival state).map Prod.fst
    Tallied (count counts flow) (handlePacket arrival state).1 ∧
      ∀ conn ∈ flow, tally ((handlePacket arrival state).1.pd.heap conn.data) =
        counts conn.data + 1 := by
  rcases handlePacket_handled Pcapdroid.packets_frame (fun _ _ _ _ => rfl) arrival state with
    ⟨unattributed, kept⟩ | ⟨conn, isTx, parsed, -, attributed, listed, handled⟩ |
    ⟨conn, isTx, parsed, opened, -, attributed, ref, records, table, handled⟩
  · simp only [unattributed, Option.map_none, count]
    refine ⟨?_, fun conn none => nomatch none⟩
    rcases kept.records with same | created
    · exact tallied.quiet _ (kept.table ▸ List.Sublist.refl _) (same ▸ Nat.le_refl _)
        fun other _ => by rw [same]
    · refine tallied.quiet _ (kept.table ▸ List.Sublist.refl _) (created.created ▸ Nat.le_succ _) ?_
      intro other member
      exact created.others other.data (tallied.older other (kept.table ▸ member))
  · simp only [attributed, Option.map_some, handled]
    obtain ⟨counted, own⟩ := tallied.connection arrival (orient isTx parsed) isTx conn listed
    exact ⟨counted, fun other same => Option.some.inj same ▸ own⟩
  · simp only [attributed, Option.map_some, handled]
    obtain ⟨counted, own⟩ := (tallied.joined opened conn ref table records).connection arrival
      (orient isTx parsed) isTx conn (table ▸ List.mem_append_right _ (List.mem_singleton.mpr rfl))
    exact ⟨counted, fun other same => Option.some.inj same ▸ own⟩

theorem capture (event : LibpcapCapture.Event) (unpacketed : ∀ arrival, event ≠ .packet arrival) :
    Tallied counts (LibpcapCapture.step state event) := by
  have kept := step_kept Pcapdroid.packets_frame.toQuietFrame state event unpacketed
  exact tallied.quiet _ kept.table kept.created.ge kept.records

end Tallied

end Tally

section Runs

variable (trailers : Trailers)

def offsetOf (frame : Frame) : Nat := (getIpOffset frame.linktype).getD 0

def flow (session : Session) (frame : Frame) : Option Slot := flowAt session frame (offsetOf frame)

def dueCall (session : Session) (frame : Frame) : DumpCall :=
  match flow session frame with
  | none => rejectedCall frame (offsetOf frame) session.reader
  | some conn => accountedCall session frame (offsetOf frame) conn

def dueCalls (session : Session) : Event → List DumpCall
  | .frame frame => [dueCall session frame]
  | _ => []

/-- Frames are valid, and come while the dumper is active. -/
def Admitted (session : Session) : Event → Prop
  | .frame frame => Received frame (offsetOf frame) ∧ session.dumper.isSome = true
  | _ => True

def flowCalls (ref : Ref) (session : Session) : Event → List Nat
  | .frame frame =>
      if (flow session frame).map Slot.data = some ref then [(calls trailers session (.frame frame)).length]
      else []
  | _ => []

theorem handleFrame_session (session : Session) (frame : Frame)
    (received : Received frame (offsetOf frame)) :
    (handleFrame trailers session frame).1.reader.lib =
        (handlePacket (parsedArrival frame (offsetOf frame) session.reader) session.reader.lib).1 ∧
      (handleFrame trailers session frame).1.maxPktsPerFlow = session.maxPktsPerFlow := by
  rw [handleFrame, received.offset]
  simp only [Nat.not_lt.mpr received.long, if_false, trailerFrame_handled]
  split
  · exact ⟨rfl, rfl⟩
  · exact ⟨rfl, rfl⟩

theorem step_limit (session : Session) (event : Event) :
    (step trailers session event).maxPktsPerFlow = session.maxPktsPerFlow := by
  cases event with
  | frame frame =>
      rw [step, handleFrame]
      split
      · rfl
      · split
        · rfl
        · simp only
          split <;> rfl
  | capture event quiet => rfl
  | checkExport => rfl
  | dumpSecret secret cells => rfl
  | stop => rfl

/-- Without a limit, a frame leads to the one call that is due. -/
theorem step_calls (session : Session) (event : Event) (admitted : Admitted session event)
    (unlimited : session.maxPktsPerFlow ≤ 0) : calls trailers session event = dueCalls session event := by
  cases event with
  | frame frame =>
      have called := handleFrame_calls trailers session frame _ admitted.1 admitted.2
      rw [calls, called, dueCalls, dueCall, flow]
      cases flowAt session frame (offsetOf frame) with
      | none => rfl
      | some conn => simp [withinLimit, withinCount, unlimited]
  | capture event quiet => rfl
  | checkExport => rfl
  | dumpSecret secret cells => rfl
  | stop => rfl

theorem run_calls (session : Session) (events : List Event)
    (admitted : Machine.Along (step trailers) Admitted session events)
    (unlimited : session.maxPktsPerFlow ≤ 0) :
    Machine.trace (step trailers) (calls trailers) session events =
      Machine.trace (step trailers) dueCalls session events := by
  induction events generalizing session with
  | nil => rfl
  | cons event rest ih =>
      have later := ih (step trailers session event) admitted.2 (step_limit trailers session event ▸ unlimited)
      rw [Machine.trace, Machine.trace, step_calls trailers session event admitted.1 unlimited, later]

def flowOf (session : Session) : Event → Option Slot
  | .frame frame => flow session frame
  | _ => none

/-- A step counts for its flow; the packet of a flow is dumped as its number asks for. -/
theorem step_tallied (counts : Ref → Nat) (session : Session) (event : Event)
    (admitted : Admitted session event) (tallied : Tallied counts session.reader.lib) (ref : Ref) :
    Tallied (count counts (flowOf session event)) (step trailers session event).reader.lib ∧
      flowCalls trailers ref session event =
        if (flowOf session event).map Slot.data = some ref then
          [if withinCount session.maxPktsPerFlow (counts ref + 1 : Nat) then 1 else 0]
        else [] := by
  cases event with
  | frame frame =>
      obtain ⟨counted, own⟩ :=
        tallied.packet (parsedArrival frame (offsetOf frame) session.reader)
      have after := handleFrame_session trailers session frame admitted.1
      have called := handleFrame_calls trailers session frame _ admitted.1 admitted.2
      constructor
      · rw [step, after.1]
        exact counted
      · rw [flowCalls, flowOf]
        split
        · next same =>
            obtain ⟨conn, attributed, rfl⟩ := Option.map_eq_some_iff.mp same
            have limit : withinLimit session.maxPktsPerFlow
                (accountedRecord session frame (offsetOf frame) conn) =
                  withinCount session.maxPktsPerFlow (counts conn.data + 1 : Nat) :=
              congrArg (withinCount session.maxPktsPerFlow) (own conn attributed)
            rw [flow] at attributed
            rw [calls, called, attributed]
            simp only [limit]
            split <;> rfl
        · rfl
  | capture event quiet => exact ⟨tallied.capture event quiet, rfl⟩
  | checkExport => exact ⟨tallied, rfl⟩
  | dumpSecret secret cells => exact ⟨tallied, rfl⟩
  | stop => exact ⟨tallied, rfl⟩

theorem run_flow (counts : Ref → Nat) (session : Session) (events : List Event)
    (admitted : Machine.Along (step trailers) Admitted session events)
    (tallied : Tallied counts session.reader.lib) (ref : Ref) :
    let dumps := (Machine.trace (step trailers) (flowCalls trailers ref) session events).flatten
    dumps = (List.range dumps.length).map fun index : Nat =>
      if withinCount session.maxPktsPerFlow (counts ref + index + 1 : Nat) then 1 else 0 := by
  induction events generalizing counts session with
  | nil => rfl
  | cons event rest ih =>
      obtain ⟨counted, called⟩ := step_tallied trailers counts session event admitted.1 tallied ref
      have later := ih _ (step trailers session event) admitted.2 counted
      simp only [Machine.trace, List.flatten_cons, called, step_limit] at later ⊢
      generalize (Machine.trace (step trailers) (flowCalls trailers ref) (step trailers session event)
        rest).flatten = dumps at later ⊢
      cases attributed : flowOf session event with
      | none =>
          rw [attributed] at later
          exact later
      | some conn =>
          rw [attributed, count] at later
          by_cases same : conn.data = ref
          · subst same
            rw [Function.update_self] at later
            rw [if_pos (show Option.map Slot.data (some conn) = some conn.data from rfl),
              List.singleton_append, List.length_cons, List.range_succ_eq_map, List.map_cons,
              List.map_map, Nat.add_zero]
            refine congrArg (_ :: ·) (later.trans (List.map_congr_left fun index _ => ?_))
            rw [Function.comp_apply, show counts conn.data + 1 + index + 1 =
              counts conn.data + index.succ + 1 by omega]
          · have other : ref ≠ conn.data := fun equal => same equal.symm
            rw [Function.update_of_ne other] at later
            rw [if_neg (by simpa using same), List.nil_append]
            exact later

/-- `run_libpcap` at the start of its loop. -/
def start (config : Pd) (pcapFileCapture : Bool) (dumper : Dumper) (maxPktsPerFlow : Int) :
    Session where
  reader := { lib := LibpcapCapture.start config pcapFileCapture }
  dumper := some dumper
  maxPktsPerFlow := maxPktsPerFlow

/-- The result of `handle_packet`. -/
def accepts (session : Session) (frame : Frame) : Bool :=
  (TrailerUid.handleFrame frame.arrival (BitVec.ofNat 16 frame.bytes.length) frame.bytes
    (offsetOf frame) session.reader).2

/-- A frame belongs to a flow just if it is accepted, and one that is rejected is dumped whole. -/
def Answered (session : Session) : Event → Prop
  | .frame frame =>
      (flow session frame).isSome = accepts session frame ∧
        (accepts session frame = false →
          calls trailers session (.frame frame) = [rejectedCall frame (offsetOf frame) session.reader])
  | event => calls trailers session event = []

theorem step_answered (session : Session) (event : Event) (admitted : Admitted session event) :
    Answered trailers session event := by
  cases event with
  | frame frame =>
      have accepted : (flow session frame).isSome = accepts session frame := by
        rw [accepts, trailerFrame_handled]
        exact flowAt_isSome session frame (offsetOf frame)
      refine ⟨accepted, fun rejected => ?_⟩
      have none : flow session frame = none := by
        rw [rejected] at accepted
        simpa using accepted
      have called := handleFrame_calls trailers session frame _ admitted.1 admitted.2
      rw [flow] at none
      rw [none] at called
      exact called
  | capture event quiet => rfl
  | checkExport => rfl
  | dumpSecret secret cells => rfl
  | stop => rfl

def firstDumps (maxPktsPerFlow : Int) (count : Nat) : List Nat :=
  (List.range count).map fun index : Nat => if (index : Int) < maxPktsPerFlow then 1 else 0

theorem withinCount_limited (maxPktsPerFlow : Int) (index : Nat) (limited : 0 < maxPktsPerFlow)
    (short : index + 1 < 2 ^ 31) :
    withinCount maxPktsPerFlow (0 + index + 1 : Nat) = decide ((index : Int) < maxPktsPerFlow) := by
  have whole : Int.bmod (0 + index + 1 : Nat) (2 ^ 32) = index + 1 := by
    rw [Int.bmod]
    omega
  have unlimited : ¬ maxPktsPerFlow ≤ 0 := by omega
  simp only [withinCount, whole, unlimited, decide_false, Bool.false_or, decide_eq_decide]
  omega

-- the sum of the counters turns negative with packet number `2 ^ 31`
theorem withinCount_wrapped (maxPktsPerFlow : Int) (limited : 0 < maxPktsPerFlow) :
    withinCount maxPktsPerFlow (0 + (2 ^ 31 - 1) + 1 : Nat) = true := by
  have wrapped : Int.bmod (0 + (2 ^ 31 - 1) + 1 : Nat) (2 ^ 32) = -(2 ^ 31) := by decide
  simp only [withinCount, wrapped, Bool.or_eq_true, decide_eq_true_eq]
  omega

/-- Just the flows that are short enough have their first packets dumped. -/
theorem firstDumps_iff (maxPktsPerFlow : Int) (limited : 0 < maxPktsPerFlow)
    (narrow : maxPktsPerFlow < 2 ^ 31) (dumps : List Nat)
    (counted : dumps = (List.range dumps.length).map fun index : Nat =>
      if withinCount maxPktsPerFlow (0 + index + 1 : Nat) then 1 else 0) :
    dumps = firstDumps maxPktsPerFlow dumps.length ↔ dumps.length < 2 ^ 31 := by
  constructor
  · intro first
    by_contra long
    have last : 2 ^ 31 - 1 < dumps.length := by omega
    have dumped := congrArg (·[2 ^ 31 - 1]?) (counted.symm.trans first)
    have beyond : ¬ ((2 ^ 31 - 1 : Nat) : Int) < maxPktsPerFlow := by omega
    simp only [firstDumps, List.getElem?_map, List.getElem?_range last, Option.map_some,
      withinCount_wrapped maxPktsPerFlow limited, beyond, if_true, if_false, Option.some.injEq,
      one_ne_zero] at dumped
  · intro short
    refine counted.trans (List.map_congr_left fun index member => ?_)
    have within := List.mem_range.mp member
    simp only [withinCount_limited maxPktsPerFlow index limited (Nat.lt_of_le_of_lt within short),
      decide_eq_true_eq]

theorem start_tallied (config : Pd) (pcapFileCapture : Bool) :
    Tallied (fun _ => 0) (LibpcapCapture.start config pcapFileCapture) where
  toNumbered := start_numbered config pcapFileCapture
  tallied _ member := absurd member List.not_mem_nil
  unborn _ _ := rfl

/-- Each frame leads to the call that is due, in the order of the frames, or with a limit just the
    first packets of a flow do; the packets of a flow are counted in an `int`. -/
theorem frames_dumped (config : Pd) (pcapFileCapture : Bool) (dumper : Dumper) (maxPktsPerFlow : Int)
    (events : List Event)
    (admitted : Machine.Along (step trailers) Admitted
      (start config pcapFileCapture dumper maxPktsPerFlow) events) :
    let session := start config pcapFileCapture dumper maxPktsPerFlow
    Machine.Along (step trailers) (Answered trailers) session events ∧
      (maxPktsPerFlow ≤ 0 → Machine.trace (step trailers) (calls trailers) session events =
        Machine.trace (step trailers) dueCalls session events) ∧
      (0 < maxPktsPerFlow → maxPktsPerFlow < 2 ^ 31 → ∀ ref,
        let dumps := (Machine.trace (step trailers) (flowCalls trailers ref) session events).flatten
        dumps = firstDumps maxPktsPerFlow dumps.length ↔ dumps.length < 2 ^ 31) := by
  intro session
  refine ⟨?_, run_calls trailers session events admitted, ?_⟩
  · exact Machine.along_of_invariant (step trailers) Admitted (Answered trailers) (fun _ => True)
      (fun _ _ _ _ => trivial) (fun state event _ met => step_answered trailers state event met)
      session events admitted trivial
  · intro limited narrow ref
    exact firstDumps_iff maxPktsPerFlow limited narrow _
      (run_flow trailers _ session events admitted (start_tallied config pcapFileCapture) ref)

end Runs

section Example

open PcapRuns (settings)
open PcapStream (noTrailers)
open TrailerUid (query queryPkt query_parsed)

theorem pcapDumpPacket_unlimited (trailers : Trailers) (dumper : Dumper) (call : DumpCall)
    (unlimited : dumper.maxDumpSize = 0)
    (small : pcapRecSize dumper.mode dumper.snaplen call.pkt.bytes.length < PCAP_BUFFER_SIZE) :
    (pcapDumpPacket trailers dumper call.pkt call.tv call.uid).2 = true := by
  have kept := PcapRuns.makeRoom_settings dumper
    (pcapRecSize dumper.mode dumper.snaplen call.pkt.bytes.length)
  simp only [settings, Prod.mk.injEq] at kept
  rcases PcapRuns.pcapDumpPacket_cases dumper trailers call.pkt call.tv call.uid with
    ⟨refused, -⟩ | ⟨-, taken⟩
  · have room : lacksRoom (makeRoom dumper (pcapRecSize dumper.mode dumper.snaplen
        call.pkt.bytes.length)) (pcapRecSize dumper.mode dumper.snaplen call.pkt.bytes.length) =
          false := by
      rw [makeRoom]
      split
      · rw [lacksRoom, PcapStream.exportBuffer_empty, Nat.zero_add]
        exact decide_eq_false (Nat.not_le.mpr small)
      · next roomy => exact Bool.eq_false_iff.mpr roomy
    rw [refuses, room, kept.2.2, unlimited] at refused
    cases refused
  · rw [taken]

/-- A frame of a raw capture with the packet `query`. -/
def queryFrame : Frame where
  arrival := { hdr := ⟨10100, true, 0, none, none⟩, parsed := none, ndpi := CaptureClient.plainNdpi }
  tv := ⟨0, 0⟩
  linktype := 12
  bytes := query.bytes
  short := by decide

def queryConn : Slot := ⟨queryPkt.tuple, 0⟩

def firstPackets : Session :=
  start CaptureClient.idleConfig false (pcapNewDumper .pcapDump 65535 0 fun _ => 0) 1

/-- The connection of `queryFrame` is there, and the dumper takes every packet. -/
structure Repeating (session : Session) : Prop where
  live : session.reader.lib.pcapFileCapture = false
  table : session.reader.lib.connections = [queryConn]
  dumper : ∃ dumper, session.dumper = some dumper ∧ settings dumper = (.pcapDump, 65535, 0)

theorem queryFrame_received : Received queryFrame (offsetOf queryFrame) := ⟨rfl, Nat.zero_le _⟩

theorem parsedArrival_query (reader : Reader) (live : reader.lib.pcapFileCapture = false) :
    parsedArrival queryFrame 0 reader = { queryFrame.arrival with parsed := some queryPkt } := by
  have parsed : (zdtunParsePkt reader.id2ports (queryFrame.bytes.drop 0)).2 = some queryPkt := by
    rw [List.drop_zero, queryFrame, query_parsed]
  simp only [parsedArrival, parsed, live, Bool.false_and, Bool.false_eq_true, if_false]
  rfl

theorem recordStatus_plain (tuple : Connection.Tuple) (pkt : Pkt) (isTx : Bool) (data : PdConn)
    (plain : isDnsPacket tuple pkt = false) : (recordStatus tuple pkt isTx data).2 = false := by
  rw [recordStatus]
  split
  · rfl
  · split
    · rfl
    · simp only [updateUdpStatus, plain, Bool.false_eq_true, if_false]

theorem handleConnection_mode (arrival : Arrival) (pkt : Pkt) (isTx : Bool) (state : Libpcap)
    (conn : Slot) :
    (handleConnection arrival pkt isTx state conn).pcapFileCapture = state.pcapFileCapture := by
  simp only [handleConnection, updateConnectionStatus]
  split <;> rfl

theorem pdDumpPacket_query (nowMs : Nat) (dumper : Dumper) (count : Nat) (uid : Int)
    (taking : settings dumper = (.pcapDump, 65535, 0)) :
    ∃ after, (pdDumpPacket noTrailers nowMs (some dumper)
        ⟨queryFrame.slice 0 count, queryFrame.tv, uid⟩).1 = some after ∧
      settings after = (.pcapDump, 65535, 0) := by
  let call : DumpCall := ⟨queryFrame.slice 0 count, queryFrame.tv, uid⟩
  obtain ⟨mode, snaplen, unlimited⟩ : dumper.mode = .pcapDump ∧ dumper.snaplen = 65535 ∧
      dumper.maxDumpSize = 0 := by simpa [settings] using taking
  have length : call.pkt.bytes.length ≤ 28 := by
    have whole : queryFrame.bytes.length = 28 := rfl
    rw [show call.pkt.bytes = (queryFrame.bytes.drop 0).take count from rfl, List.length_take,
      List.length_drop, whole]
    omega
  have small : pcapRecSize dumper.mode dumper.snaplen call.pkt.bytes.length < PCAP_BUFFER_SIZE := by
    rw [mode, snaplen]
    simp only [pcapRecSize, PCAP_REC_SIZE, PCAP_BUFFER_SIZE]
    omega
  have taken := pcapDumpPacket_unlimited noTrailers { dumper with nowMs } call unlimited small
  have kept := PcapRuns.step_settings { dumper with nowMs } noTrailers
    (.dumpPacket call.pkt call.tv call.uid)
  refine ⟨(pcapDumpPacket noTrailers { dumper with nowMs } call.pkt call.tv call.uid).1, ?_,
    kept.trans taking⟩
  simp only [pdDumpPacket, taken, if_true, call]

theorem repeating_flow (session : Session) (live : session.reader.lib.pcapFileCapture = false)
    (table : session.reader.lib.connections = [queryConn]) :
    flow session queryFrame = some queryConn := by
  have found : lookup [queryConn] true queryPkt.tuple = some (queryConn, true) := by decide
  have whole : isOrphan queryPkt = false := by decide
  rw [flow, flowAt, show offsetOf queryFrame = 0 from rfl, parsedArrival_query session.reader live]
  simp only [attribution, table, whole, Bool.false_eq_true, if_false]
  rw [show queryFrame.arrival.hdr.isTx = true from rfl, found]
  rfl

theorem firstPackets_opens :
    flow firstPackets queryFrame = some queryConn ∧
      (handleFrame noTrailers firstPackets queryFrame).1.reader.lib.connections = [queryConn] ∧
      (handleFrame noTrailers firstPackets queryFrame).1.reader.lib.pcapFileCapture = false := by
  decide +kernel

theorem queryFrame_dumper (session : Session) (conn : Slot)
    (accounted : flow session queryFrame = some conn)
    (taking : ∃ dumper, session.dumper = some dumper ∧ settings dumper = (.pcapDump, 65535, 0)) :
    ∃ dumper, (handleFrame noTrailers session queryFrame).1.dumper = some dumper ∧
      settings dumper = (.pcapDump, 65535, 0) := by
  obtain ⟨dumper, active, taking⟩ := taking
  have accepted := flowAt_isSome session queryFrame 0
  have attributed : flowAt session queryFrame 0 = some conn := accounted
  rw [attributed, Option.isSome_some] at accepted
  rw [handleFrame, queryFrame_received.offset]
  simp only [Nat.not_lt.mpr queryFrame_received.long, if_false]
  rw [show offsetOf queryFrame = 0 from rfl, trailerFrame_handled, packetDump_eq, attributed]
  simp only [← accepted, if_true, accountDump, active, Option.isSome_some, Bool.true_and]
  split
  · exact pdDumpPacket_query _ dumper _ _ taking
  · exact ⟨dumper, rfl, taking⟩

theorem repeating_step (session : Session) (repeating : Repeating session) :
    Repeating (step noTrailers session (.frame queryFrame)) := by
  have accounted := repeating_flow session repeating.live repeating.table
  have after := (handleFrame_session noTrailers session queryFrame queryFrame_received).1
  rw [show offsetOf queryFrame = 0 from rfl, parsedArrival_query session.reader repeating.live] at after
  have handled : (handlePacket { queryFrame.arrival with parsed := some queryPkt }
      session.reader.lib).1 = handleConnection { queryFrame.arrival with parsed := some queryPkt }
        (orient true queryPkt) true session.reader.lib queryConn := by
    have found : lookup session.reader.lib.connections true queryPkt.tuple = some (queryConn, true) := by
      rw [repeating.table]
      decide
    rw [handlePacket_parsed _ session.reader.lib queryPkt rfl (by decide)]
    rw [show queryFrame.arrival.hdr.isTx = true from rfl, found]
  constructor
  · rw [step, after, handled, handleConnection_mode, repeating.live]
  · have stays : settles { queryFrame.arrival with parsed := some queryPkt } (orient true queryPkt)
        true session.reader.lib queryConn = false :=
      recordStatus_plain _ _ _ _ (by decide)
    rw [step, after, handled, handleConnection_connections, stays, if_neg Bool.false_ne_true,
      repeating.table]
  · exact queryFrame_dumper session queryConn accounted repeating.dumper

theorem flowCalls_query (session : Session) (accounted : flow session queryFrame = some queryConn) :
    (flowCalls noTrailers 0 session (.frame queryFrame)).length = 1 := by
  rw [flowCalls, accounted, if_pos (show Option.map Slot.data (some queryConn) = some 0 from rfl),
    List.length_singleton]

theorem repeating_run (session : Session) (repeating : Repeating session) (times : Nat) :
    Machine.Along (step noTrailers) Admitted session (List.replicate times (.frame queryFrame)) ∧
      (Machine.trace (step noTrailers) (flowCalls noTrailers 0) session
        (List.replicate times (.frame queryFrame))).flatten.length = times := by
  induction times generalizing session with
  | zero => exact ⟨trivial, rfl⟩
  | succ times ih =>
      obtain ⟨along, length⟩ := ih _ (repeating_step session repeating)
      obtain ⟨dumper, active, -⟩ := repeating.dumper
      have accounted := repeating_flow session repeating.live repeating.table
      rw [List.replicate_succ]
      constructor
      · exact ⟨⟨queryFrame_received, by rw [active]; rfl⟩, along⟩
      · rw [Machine.trace, List.flatten_cons, List.length_append, length,
          flowCalls_query session accounted, Nat.add_comm]

theorem firstPackets_run (times : Nat) :
    Machine.Along (step noTrailers) Admitted firstPackets
        (List.replicate (times + 1) (.frame queryFrame)) ∧
      (Machine.trace (step noTrailers) (flowCalls noTrailers 0) firstPackets
        (List.replicate (times + 1) (.frame queryFrame))).flatten.length = times + 1 := by
  obtain ⟨accounted, table, live⟩ := firstPackets_opens
  have first : Repeating (step noTrailers firstPackets (.frame queryFrame)) :=
    ⟨live, table, queryFrame_dumper firstPackets queryConn accounted ⟨_, rfl, rfl⟩⟩
  obtain ⟨along, length⟩ := repeating_run _ first times
  rw [List.replicate_succ]
  constructor
  · exact ⟨⟨queryFrame_received, rfl⟩, along⟩
  · rw [Machine.trace, List.flatten_cons, List.length_append, length,
      flowCalls_query firstPackets accounted, Nat.add_comm]

/-- The second packet of a flow is not dumped where the limit is one packet. -/
theorem secondPacket_undumped :
    (Machine.trace (step noTrailers) (flowCalls noTrailers 0) firstPackets
      [.frame queryFrame, .frame queryFrame]).flatten = [1, 0] := by
  obtain ⟨along, length⟩ := firstPackets_run 1
  have two : (Machine.trace (step noTrailers) (flowCalls noTrailers 0) firstPackets
      [.frame queryFrame, .frame queryFrame]).flatten.length = 2 := length
  have dumped := ((frames_dumped noTrailers CaptureClient.idleConfig false
    (pcapNewDumper .pcapDump 65535 0 fun _ => 0) 1 [.frame queryFrame, .frame queryFrame]
      along).2.2 (by decide) (by decide) 0).mpr (lt_of_eq_of_lt two (by decide))
  exact dumped.trans (congrArg (firstDumps 1) two)

theorem longFlow_counted (times : Nat) (long : 2 ^ 31 ≤ times + 1) :
    Machine.Along (step noTrailers) Admitted firstPackets
        (List.replicate (times + 1) (.frame queryFrame)) ∧
      let dumps := (Machine.trace (step noTrailers) (flowCalls noTrailers 0) firstPackets
        (List.replicate (times + 1) (.frame queryFrame))).flatten
      dumps ≠ firstDumps firstPackets.maxPktsPerFlow dumps.length := by
  obtain ⟨along, length⟩ := firstPackets_run times
  refine ⟨along, fun first => ?_⟩
  have short := (firstDumps_iff 1 (by decide) (by decide) _
    (run_flow noTrailers _ firstPackets _ along (start_tallied CaptureClient.idleConfig false) 0)).mp first
  omega

/-- Packet number `2 ^ 31` of a flow is dumped again. -/
theorem longFlow_redumped :
    Machine.Along (step noTrailers) Admitted firstPackets
        (List.replicate (2147483647 + 1) (.frame queryFrame)) ∧
      let dumps := (Machine.trace (step noTrailers) (flowCalls noTrailers 0) firstPackets
        (List.replicate (2147483647 + 1) (.frame queryFrame))).flatten
      dumps ≠ firstDumps firstPackets.maxPktsPerFlow dumps.length :=
  longFlow_counted 2147483647 (by decide)

end Example

end Ptnet.LibpcapDump
