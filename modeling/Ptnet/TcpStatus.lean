import Ptnet.LibpcapCounters

/-!
The status of a TCP connection in the libpcap capture, `update_connection_status` of
core/capture_libpcap.c. A record keeps the flags of both directions and the byte `last_ack`; here
they are followed along the segments of its connection, whatever their order, and over purges.
-/

namespace Ptnet.TcpStatus

open Connection Pcapdroid LibpcapCapture

structure Segment where
  thFlags : BitVec 8
  isTx : Bool
  isFragment : Bool
  hasPayload : Bool
  deriving DecidableEq, Repr

def segmentOf (pkt : Pkt) (isTx : Bool) : Segment :=
  ⟨pkt.thFlags, isTx, pkt.isFragment, pkt.l7.length != 0⟩

def Segment.Has (segment : Segment) (flag : BitVec 8) : Prop :=
  segment.isFragment = false ∧ segment.thFlags &&& flag ≠ 0

def Carried (history : List Segment) (isTx : Bool) (flag : BitVec 8) : Prop :=
  ∃ segment ∈ history, segment.isTx = isTx ∧ segment.Has flag

def flagsOf (flags : TcpFlags) (isTx : Bool) : BitVec 8 :=
  if isTx then flags.cli2srv else flags.srv2cli

/-- What one step may do to the status, after the segments of `history`. -/
structure Obeys (history : List Segment) (segment : Option Segment) (purged : Bool)
    (before after : Traffic) : Prop where
  monotone : before.status.isClosed = false → before.status.code ≤ after.status.code
  frozen : before.status.isClosed = true →
    after.status = before.status ∧ after.tcpFlags = before.tcpFlags
  reset : before.status ≠ .reset ∧ after.status = .reset ↔
    before.status.isClosed = false ∧ ∃ arrived ∈ segment, arrived.Has TH_RST
  closed : before.status ≠ .closed → after.status = .closed → purged = true ∨
    (∃ arrived ∈ segment, arrived.Has TH_ACK) ∧ ∀ isTx, Carried history isTx TH_FIN
  connected : before.status ≠ .connected → after.status = .connected →
    ∃ arrived ∈ segment, arrived.isFragment = false ∧ (arrived.hasPayload = true ∨
      ∀ isTx, Carried (history ++ [arrived]) isTx TH_SYN ∧ Carried (history ++ [arrived]) isTx TH_ACK)

/-- The flags of a record were carried, and `last_ack` waits for the answer to two FINs. -/
structure Recorded (history : List Segment) (record : Traffic) : Prop where
  flags : ∀ isTx flag, flagsOf record.tcpFlags isTx &&& flag ≠ 0 → Carried history isTx flag
  finished : record.lastAck ≠ 0 → ∀ isTx, Carried history isTx TH_FIN

section Flags

theorem Carried.append (history later : List Segment) (isTx : Bool) (flag : BitVec 8)
    (carried : Carried history isTx flag) : Carried (history ++ later) isTx flag := by
  obtain ⟨segment, member, holds⟩ := carried
  exact ⟨segment, List.mem_append_left later member, holds⟩

theorem Recorded.append (history later : List Segment) (record : Traffic)
    (recorded : Recorded history record) : Recorded (history ++ later) record where
  flags isTx flag set := (recorded.flags isTx flag set).append history later isTx flag
  finished waits isTx := (recorded.finished waits isTx).append history later isTx TH_FIN

theorem flagsOf_add (flags : TcpFlags) (fromClient isTx : Bool) (bits : BitVec 8) :
    flagsOf (TcpFlags.add flags fromClient bits) isTx =
      if isTx = fromClient then flagsOf flags isTx ||| bits else flagsOf flags isTx := by
  cases fromClient <;> cases isTx <;> rfl

theorem flagsOf_both (flags : TcpFlags) (flag : BitVec 8)
    (both : flags.cli2srv &&& flags.srv2cli &&& flag ≠ 0) (isTx : Bool) :
    flagsOf flags isTx &&& flag ≠ 0 := by
  intro none
  apply both
  cases isTx with
  | true =>
      have clear : flags.cli2srv &&& flag = 0#8 := none
      rw [BitVec.and_assoc, BitVec.and_comm flags.srv2cli, ← BitVec.and_assoc, clear, BitVec.zero_and]
      rfl
  | false =>
      have clear : flags.srv2cli &&& flag = 0#8 := none
      rw [BitVec.and_assoc, clear, BitVec.and_zero]
      rfl

theorem synAck_both (flags : BitVec 8)
    (both : flags &&& (TH_SYN ||| TH_ACK) = TH_SYN ||| TH_ACK) :
    flags &&& TH_SYN ≠ 0 ∧ flags &&& TH_ACK ≠ 0 := by
  have syn : flags &&& (TH_SYN ||| TH_ACK) &&& TH_SYN ≠ 0 := by
    rw [both]
    decide
  have ack : flags &&& (TH_SYN ||| TH_ACK) &&& TH_ACK ≠ 0 := by
    rw [both]
    decide
  rw [BitVec.and_assoc] at syn ack
  exact ⟨syn, ack⟩

theorem carried_add (history : List Segment) (flags : TcpFlags) (segment : Segment)
    (whole : segment.isFragment = false)
    (known : ∀ isTx flag, flagsOf flags isTx &&& flag ≠ 0 → Carried history isTx flag)
    (isTx : Bool) (flag : BitVec 8)
    (set : flagsOf (TcpFlags.add flags segment.isTx segment.thFlags) isTx &&& flag ≠ 0) :
    Carried (history ++ [segment]) isTx flag := by
  rw [flagsOf_add] at set
  by_cases earlier : flagsOf flags isTx &&& flag = 0#8
  · split at set
    · next same =>
        rw [BitVec.and_or_distrib_right, earlier, BitVec.zero_or] at set
        exact ⟨segment, List.mem_append_right history List.mem_cons_self, same.symm, whole, set⟩
    · exact absurd earlier set
  · exact (known isTx flag earlier).append history [segment] isTx flag

end Flags

section Records

theorem Obeys.unchanged (history : List Segment) (purged : Bool) (record : Traffic) :
    Obeys history none purged record record where
  monotone _ := Nat.le_refl _
  frozen _ := ⟨rfl, rfl⟩
  reset := by simp
  closed differs same := absurd same differs
  connected differs same := absurd same differs

/-- A closed connection takes no segment, and a fragment is not looked into. -/
theorem Obeys.ignored (history : List Segment) (segment : Segment) (record : Traffic)
    (ignored : record.status.isClosed = true ∨ segment.isFragment = true) :
    Obeys history (some segment) false record record where
  monotone _ := Nat.le_refl _
  frozen _ := ⟨rfl, rfl⟩
  reset := by
    constructor
    · exact fun turned => absurd turned.2 turned.1
    · rintro ⟨alive, arrived, same, whole, -⟩
      obtain rfl := Option.some.inj same
      rcases ignored with closed | fragment
      · rw [alive] at closed
        cases closed
      · rw [whole] at fragment
        cases fragment
  closed differs same := absurd same differs
  connected differs same := absurd same differs

theorem Obeys.expired (history : List Segment) (before : Traffic)
    (alive : before.status.isClosed = false) :
    Obeys history none true before { before with status := .closed } where
  monotone _ := by
    simp only [ConnStatus.isClosed, decide_eq_false_iff_not] at alive
    exact Nat.le_of_not_le alive
  frozen closed := absurd closed (by rw [alive]; exact Bool.false_ne_true)
  reset := by simp
  closed _ _ := Or.inl rfl
  connected _ same := nomatch same

theorem Obeys.stamped (history : List Segment) (segment : Option Segment) (purged : Bool)
    (before after : Traffic) (lastUpdateMs : Nat)
    (obeys : Obeys history segment purged { before with lastUpdateMs } after) :
    Obeys history segment purged before after :=
  ⟨obeys.monotone, obeys.frozen, obeys.reset, obeys.closed, obeys.connected⟩

theorem Recorded.stamped (history : List Segment) (record : Traffic) (lastUpdateMs : Nat)
    (recorded : Recorded history record) : Recorded history { record with lastUpdateMs } :=
  ⟨recorded.flags, recorded.finished⟩

variable (history : List Segment) (pkt : Pkt) (isTx : Bool) (data : PdConn)
variable (alive : data.status.isClosed = false) (whole : pkt.isFragment = false)

include whole

section Recording

variable (recorded : Recorded history (traffic data))

include recorded

theorem flagged_carried (isTx' : Bool) (flag : BitVec 8)
    (set : flagsOf (TcpFlags.add data.tcpFlags isTx pkt.thFlags) isTx' &&& flag ≠ 0) :
    Carried (history ++ [segmentOf pkt isTx]) isTx' flag :=
  carried_add history data.tcpFlags (segmentOf pkt isTx) whole recorded.flags isTx' flag set

/-- The segment is recorded, and `last_ack` may start to wait where both sides have sent a FIN. -/
theorem flagged_recorded (after : Traffic)
    (flags : after.tcpFlags = TcpFlags.add data.tcpFlags isTx pkt.thFlags)
    (waits : after.lastAck = data.lastAck ∨
      after.tcpFlags.cli2srv &&& after.tcpFlags.srv2cli &&& TH_FIN ≠ 0) :
    Recorded (history ++ [segmentOf pkt isTx]) after where
  flags isTx' flag set := by
    rw [flags] at set
    exact flagged_carried history pkt isTx data whole recorded isTx' flag set
  finished waiting isTx' := by
    rcases waits with same | both
    · exact (recorded.finished (same.symm.trans_ne waiting) isTx').append history _ isTx' TH_FIN
    · rw [flags] at both
      exact flagged_carried history pkt isTx data whole recorded isTx' TH_FIN
        (flagsOf_both _ TH_FIN both isTx')

end Recording

include alive

/-- What remains to show of a segment that comes while the record is open. -/
theorem Obeys.arrived (after : Traffic) (monotone : data.status.code ≤ after.status.code)
    (reset : after.status = .reset ↔ pkt.thFlags &&& TH_RST ≠ 0)
    (closed : after.status = .closed →
      pkt.thFlags &&& TH_ACK ≠ 0 ∧ ∀ isTx', Carried history isTx' TH_FIN)
    (connected : data.status ≠ .connected → after.status = .connected → pkt.l7.length ≠ 0 ∨
      ∀ isTx', Carried (history ++ [segmentOf pkt isTx]) isTx' TH_SYN ∧
        Carried (history ++ [segmentOf pkt isTx]) isTx' TH_ACK) :
    Obeys history (some (segmentOf pkt isTx)) false (traffic data) after where
  monotone _ := monotone
  frozen shut := by
    have same : data.status.isClosed = true := shut
    rw [alive] at same
    cases same
  reset := by
    have apart : data.status ≠ .reset := by
      intro same
      rw [same] at alive
      cases alive
    constructor
    · exact fun turned => ⟨alive, _, rfl, whole, reset.mp turned.2⟩
    · rintro ⟨-, arrived, same, -, rst⟩
      obtain rfl := Option.some.inj same
      exact ⟨apart, reset.mpr rst⟩
  closed _ turned := Or.inr ⟨⟨_, rfl, whole, (closed turned).1⟩, (closed turned).2⟩
  connected differs turned := by
    refine ⟨_, rfl, whole, (connected differs turned).imp_left fun payload => ?_⟩
    simpa [segmentOf] using payload

theorem updateTcpStatus_obeys (recorded : Recorded history (traffic data)) :
    Obeys history (some (segmentOf pkt isTx)) false (traffic data)
        (traffic (updateTcpStatus pkt isTx data)) ∧
      Recorded (history ++ [segmentOf pkt isTx]) (traffic (updateTcpStatus pkt isTx data)) := by
  have keeps := flagged_recorded history pkt isTx data whole recorded
  have obeys := Obeys.arrived history pkt isTx data alive whole
  have carried := flagged_carried history pkt isTx data whole recorded
  have early : data.status.code < ConnStatus.closed.code := by
    simpa [ConnStatus.isClosed] using alive
  have unreset : data.status ≠ .reset := fun same => by simp [same, ConnStatus.code] at early
  have unclosed : data.status ≠ .closed := fun same => by simp [same, ConnStatus.code] at early
  let flags := TcpFlags.add data.tcpFlags isTx pkt.thFlags
  rw [updateTcpStatus]
  dsimp only
  by_cases rst : pkt.thFlags &&& TH_RST ≠ 0
  · rw [if_pos rst]
    refine ⟨obeys _ ?_ ?_ ?_ ?_, keeps _ rfl (Or.inl rfl)⟩
    · exact Nat.le_trans (Nat.le_of_lt early) (show 3 ≤ 7 by decide)
    · exact ⟨fun _ => rst, fun _ => rfl⟩
    · exact fun turned => nomatch turned
    · exact fun _ turned => nomatch turned
  · rw [if_neg rst]
    -- the status stays, or it is one that is named
    have stays : ∀ after : Traffic, after.status = data.status →
        Obeys history (some (segmentOf pkt isTx)) false (traffic data) after := by
      intro after same
      refine obeys _ (Nat.le_of_eq (congrArg _ same.symm)) ?_ ?_ ?_
      · exact ⟨fun turned => absurd (same.symm.trans turned) unreset, fun set => absurd set rst⟩
      · exact fun turned => absurd (same.symm.trans turned) unclosed
      · exact fun differs turned => absurd (same.symm.trans turned) differs
    -- Both sides have sent a FIN: the first such packet is noted, an ACK behind it closes.
    by_cases finished : flags.cli2srv &&& flags.srv2cli &&& TH_FIN ≠ 0
    · rw [if_pos finished]
      by_cases first : data.lastAck = 0
      · rw [if_pos first]
        exact ⟨stays _ rfl, keeps _ rfl (Or.inr finished)⟩
      · rw [if_neg first]
        by_cases ack : pkt.thFlags &&& TH_ACK ≠ 0
        · rw [if_pos ack]
          refine ⟨obeys _ ?_ ?_ ?_ ?_, keeps _ rfl (Or.inl rfl)⟩
          · exact Nat.le_of_lt early
          · exact ⟨fun turned => (nomatch turned), fun set => absurd set rst⟩
          · exact fun _ => ⟨ack, recorded.finished first⟩
          · exact fun _ turned => nomatch turned
        · rw [if_neg ack]
          exact ⟨stays _ rfl, keeps _ rfl (Or.inl rfl)⟩
    · rw [if_neg finished]
      by_cases opening : data.status.code < ConnStatus.connected.code
      · rw [if_pos opening]
        by_cases joined : pkt.l7.length ≠ 0 ∨
            flags.cli2srv &&& flags.srv2cli &&& (TH_SYN ||| TH_ACK) = TH_SYN ||| TH_ACK
        · rw [if_pos joined]
          refine ⟨obeys _ ?_ ?_ ?_ ?_, keeps _ rfl (Or.inl rfl)⟩
          · exact Nat.le_of_lt opening
          · exact ⟨fun turned => (nomatch turned), fun set => absurd set rst⟩
          · exact fun turned => nomatch turned
          · refine fun _ _ => joined.imp_right fun handshake isTx' => ?_
            have synAck := synAck_both _ handshake
            exact ⟨carried isTx' TH_SYN (flagsOf_both flags TH_SYN synAck.1 isTx'),
              carried isTx' TH_ACK (flagsOf_both flags TH_ACK synAck.2 isTx')⟩
        · rw [if_neg joined]
          refine ⟨obeys _ ?_ ?_ ?_ ?_, keeps _ rfl (Or.inl rfl)⟩
          · exact Nat.le_of_lt_succ opening
          · exact ⟨fun turned => (nomatch turned), fun set => absurd set rst⟩
          · exact fun turned => nomatch turned
          · exact fun _ turned => nomatch turned
      · rw [if_neg opening]
        exact ⟨stays _ rfl, keeps _ rfl (Or.inl rfl)⟩

end Records

section Capture

theorem recordStatus_obeys (history : List Segment) (tuple : Tuple) (tcp : tuple.ipproto = IPPROTO_TCP)
    (pkt : Pkt) (isTx : Bool) (data : PdConn) (recorded : Recorded history (traffic data)) :
    Obeys history (some (segmentOf pkt isTx)) false (traffic data)
        (traffic (recordStatus tuple pkt isTx data).1) ∧
      Recorded (history ++ [segmentOf pkt isTx])
        (traffic (recordStatus tuple pkt isTx data).1) := by
  rw [recordStatus]
  by_cases ignored : (data.status.isClosed || pkt.isFragment) = true
  · rw [if_pos ignored]
    exact ⟨Obeys.ignored history _ _ (Bool.or_eq_true_iff.mp ignored), recorded.append history _ _⟩
  · rw [if_neg ignored, if_pos tcp]
    rw [Bool.not_eq_true, Bool.or_eq_false_iff] at ignored
    exact updateTcpStatus_obeys history pkt isTx data ignored.1 ignored.2 recorded

theorem served_obeys (history : List Segment) (state after : Libpcap) (pkt : Pkt) (isTx : Bool)
    (conn : Slot) (data : PdConn) (served : Served SameTraffic state pkt isTx conn after data)
    (tcp : conn.tuple.ipproto = IPPROTO_TCP) (record : Traffic)
    (found : traffic (state.pd.heap conn.data) = record) (recorded : Recorded history record) :
    Obeys history (some (segmentOf pkt isTx)) false record (traffic (after.pd.heap conn.data)) ∧
      Recorded (history ++ [segmentOf pkt isTx]) (traffic (after.pd.heap conn.data)) := by
  have stamped : traffic data = { record with lastUpdateMs := state.pd.nowMs } := by
    rw [served.stamped.traffic, ← found]
    rfl
  have step := recordStatus_obeys history conn.tuple tcp pkt isTx data
    (stamped ▸ recorded.stamped history record state.pd.nowMs)
  rw [← served.own.traffic, stamped] at step
  exact ⟨Obeys.stamped history _ _ record _ _ step.1, step.2⟩

def Ended (before after : PdConn) : Prop :=
  traffic after = traffic before ∨
    before.status.isClosed = false ∧ traffic after = { traffic before with status := .closed }

theorem ended_frame : QuietFrame Ended := by
  refine traffic_frame.toQuietFrame.weaken (fun _ _ same => Or.inl same.traffic) ?_
  rintro before between after first last
  rcases last with same | ⟨alive, closed⟩
  · rcases first with equal | ⟨opened, closed⟩
    · exact Or.inl (same.trans equal)
    · exact Or.inr ⟨opened, same.trans closed⟩
  · rcases first with equal | ⟨-, shut⟩
    · have status : between.status = before.status := congrArg Traffic.status equal
      exact Or.inr ⟨status ▸ alive, by rw [closed, equal]⟩
    · have status : between.status = .closed := congrArg Traffic.status shut
      rw [status] at alive
      cases alive

theorem expireConn_ended (data : PdConn) : Ended data (expireConn data) := by
  rw [expireConn]
  cases closed : data.status.isClosed with
  | true => exact Or.inl rfl
  | false => exact Or.inr ⟨closed, rfl⟩

theorem Ended.obeys (history : List Segment) (before after : PdConn) (ended : Ended before after) :
    Obeys history none true (traffic before) (traffic after) := by
  rcases ended with same | ⟨alive, closed⟩
  · rw [same]
    exact Obeys.unchanged history true _
  · rw [closed]
    exact Obeys.expired history _ alive

theorem Ended.recorded (history : List Segment) (before after : PdConn) (ended : Ended before after)
    (recorded : Recorded history (traffic before)) : Recorded history (traffic after) := by
  rcases ended with same | ⟨-, closed⟩
  · rwa [same]
  · rw [closed]
    exact ⟨recorded.flags, recorded.finished⟩

end Capture

section Runs

def isPurge : Counted.Event → Bool
  | .purge _ _ => true
  | .capture (.purgeIfDue _) => true
  | _ => false

def segmentFor (ref : Ref) (state : Counted) : Counted.Event → Option Segment
  | .capture (.packet arrival) =>
      match attribution arrival state.lib, arrival.parsed with
      | some (conn, isTx), some parsed =>
          if conn.data = ref then some (segmentOf parsed isTx) else none
      | _, _ => none
  | _ => none

def view (ref : Ref) (state : Counted) : Traffic :=
  traffic (if ref < state.lib.pd.created then state.lib.pd.heap ref else freshConn)

structure Followed (histories : Ref → List Segment) (state : Counted) : Prop
    extends Numbered state.lib where
  recorded : ∀ conn ∈ state.lib.connections, conn.tuple.ipproto = IPPROTO_TCP →
    Recorded (histories conn.data) (traffic (state.lib.pd.heap conn.data))
  unborn : ∀ ref, state.lib.pd.created ≤ ref → histories ref = []

/-- What a step does to a connection that is in the table before or after it. -/
structure Observed (histories : Ref → List Segment) (state : Counted) (event : Counted.Event)
    (conn : Slot) : Prop where
  obeys : Obeys (histories conn.data) (segmentFor conn.data state event) (isPurge event)
    (view conn.data state) (traffic ((state.step event).lib.pd.heap conn.data))
  recorded : Recorded (histories conn.data ++ (segmentFor conn.data state event).toList)
    (traffic ((state.step event).lib.pd.heap conn.data))

variable (histories : Ref → List Segment) (state : Counted)

theorem view_known (followed : Followed histories state) (conn : Slot)
    (listed : conn ∈ state.lib.connections) :
    view conn.data state = traffic (state.lib.pd.heap conn.data) := by
  rw [view, if_pos (followed.born conn listed)]

/-- A step that brings no segment and keeps the record up to the end of the connection. -/
theorem observed_quiet (followed : Followed histories state) (event : Counted.Event) (conn : Slot)
    (listed : conn ∈ state.lib.connections) (tcp : conn.tuple.ipproto = IPPROTO_TCP)
    (silent : segmentFor conn.data state event = none)
    (ended : Ended (state.lib.pd.heap conn.data) ((state.step event).lib.pd.heap conn.data))
    (kept : isPurge event = false →
      traffic ((state.step event).lib.pd.heap conn.data) = traffic (state.lib.pd.heap conn.data)) :
    Observed histories state event conn where
  obeys := by
    rw [silent, view_known histories state followed conn listed]
    cases purge : isPurge event with
    | true => exact ended.obeys (histories conn.data)
    | false =>
        rw [kept purge]
        exact Obeys.unchanged _ _ _
  recorded := by
    rw [silent, Option.toList_none, List.append_nil]
    exact ended.recorded _ _ _ (followed.recorded conn listed tcp)

theorem recorded_fresh : Recorded [] (traffic freshConn) where
  flags isTx flag set := by
    cases isTx <;> exact absurd (BitVec.zero_and) set
  finished waits := absurd rfl waits

theorem segmentFor_attributed (arrival : Arrival) (conn : Slot) (isTx : Bool) (parsed : Pkt)
    (present : arrival.parsed = some parsed)
    (attributed : attribution arrival state.lib = some (conn, isTx)) (ref : Ref) :
    segmentFor ref state (.capture (.packet arrival)) =
      if conn.data = ref then some (segmentOf parsed isTx) else none := by
  simp only [segmentFor, attributed, present]

theorem packet_observed (followed : Followed histories state) (arrival : Arrival) (conn : Slot)
    (tcp : conn.tuple.ipproto = IPPROTO_TCP)
    (listed : conn ∈ state.lib.connections ∨
      conn ∈ (state.step (.capture (.packet arrival))).lib.connections) :
    Observed histories state (.capture (.packet arrival)) conn := by
  have quiet : conn ∈ state.lib.connections →
      segmentFor conn.data state (.capture (.packet arrival)) = none →
      SameTraffic (state.lib.pd.heap conn.data)
        ((handlePacket arrival state.lib).1.pd.heap conn.data) →
      Observed histories state (.capture (.packet arrival)) conn := fun member silent same =>
    observed_quiet histories state followed _ conn member tcp silent (Or.inl same.traffic)
      fun _ => same.traffic
  change _ ∨ conn ∈ (handlePacket arrival state.lib).1.connections at listed
  rcases handlePacket_handled traffic_frame.toQuietCreation describeConn_traffic arrival state.lib with
    ⟨unattributed, same⟩ | ⟨known, isTx, parsed, present, attributed, member, handled⟩ |
    ⟨known, isTx, parsed, opened, present, attributed, ref, records, table, handled⟩
  · rw [same.table, or_self] at listed
    refine quiet listed (by simp [segmentFor, unattributed]) ?_
    rcases same.records with unchanged | created
    · rw [unchanged]
      exact ⟨rfl, id⟩
    · exact created.others _ (followed.older conn listed)
  · obtain ⟨data, served⟩ := handleConnection_served traffic_frame.toRecordFrame arrival
      (orient isTx parsed) isTx state.lib known
    rw [← handled] at served
    have before : conn ∈ state.lib.connections := listed.elim id fun after => served.fewer.subset after
    have arrives := segmentFor_attributed state arrival known isTx parsed present attributed conn.data
    by_cases own : known.data = conn.data
    · obtain rfl := followed.same_of_ref before member own
      rw [if_pos rfl] at arrives
      have step := served_obeys (histories known.data) _ _ _ _ known data served tcp _ rfl
        (followed.recorded known before tcp)
      constructor
      · rw [arrives, view_known histories state followed known before]
        exact step.1
      · rw [arrives]
        exact step.2
    · rw [if_neg own] at arrives
      exact quiet before arrives (served.others _ (Ne.symm own))
  · obtain ⟨data, served⟩ := handleConnection_served traffic_frame.toRecordFrame arrival
      (orient isTx parsed) isTx opened known
    rw [← handled] at served
    have arrives := segmentFor_attributed state arrival known isTx parsed present attributed conn.data
    -- The connection was there before the packet, or it is the one that the packet opens.
    have among : conn ∈ state.lib.connections ∨ conn = known := by
      rcases listed with before | after
      · exact Or.inl before
      · simpa [table] using served.fewer.subset after
    rcases among with before | rfl
    · have older := followed.older conn before
      rw [if_neg (by rw [ref]; exact Ne.symm older)] at arrives
      exact quiet before arrives (traffic_frame.trans (records.others _ older)
        (served.others _ (by rwa [ref])))
    · rw [if_pos rfl] at arrives
      have born : histories conn.data = [] := followed.unborn _ (Nat.le_of_eq ref.symm)
      have found : traffic (opened.pd.heap conn.data) = traffic freshConn := by
        rw [ref]
        exact records.fresh.traffic
      have step := served_obeys [] _ _ _ _ conn data served tcp _ found recorded_fresh
      have nothing : view conn.data state = traffic freshConn := by
        rw [view, if_neg (by rw [ref]; exact Nat.lt_irrefl _)]
      constructor
      · rw [arrives, nothing, born]
        exact step.1
      · rw [arrives, born]
        exact step.2

theorem step_observed (followed : Followed histories state) (event : Counted.Event) (conn : Slot)
    (tcp : conn.tuple.ipproto = IPPROTO_TCP)
    (listed : conn ∈ state.lib.connections ∨ conn ∈ (state.step event).lib.connections) :
    Observed histories state event conn := by
  have quiet := fun member silent => observed_quiet histories state followed event conn member tcp
    silent
  cases event with
  | purge ndpi purgeAll =>
      have same := Counted.purgeExpiredConnections_lib ndpi purgeAll state
      have kept := purgeExpiredConnections_kept traffic_frame.toQuietFrame ndpi purgeAll state.lib
      have before : conn ∈ state.lib.connections := by
        refine listed.elim id fun after => kept.table.subset ?_
        rwa [Counted.step, same] at after
      refine quiet before rfl ?_ fun no => by cases no
      rw [Counted.step, same]
      exact purgeExpiredConnections_records ended_frame expireConn_ended ndpi purgeAll state.lib _
  | capture event =>
      cases event with
      | packet arrival => exact packet_observed histories state followed arrival conn tcp listed
      | purgeIfDue ndpi =>
          have kept := step_kept traffic_frame.toQuietFrame state.lib (.purgeIfDue ndpi)
            (fun _ no => by cases no)
          have before : conn ∈ state.lib.connections :=
            listed.elim id fun after => kept.table.subset after
          refine quiet before rfl ?_ fun no => by cases no
          rw [Counted.step_lib, LibpcapCapture.step]
          split
          · exact purgeExpiredConnections_records ended_frame expireConn_ended ndpi false state.lib _
          · exact Or.inl rfl
      | refreshTime nowMs =>
          exact quiet (or_self_iff.mp listed) rfl (Or.inl rfl) fun _ => rfl
      | allocator reallocs =>
          exact quiet (or_self_iff.mp listed) rfl (Or.inl rfl) fun _ => rfl
      | request wanted =>
          exact quiet (or_self_iff.mp listed) rfl (Or.inl rfl) fun _ => rfl
      | housekeeping pass =>
          have framed := traffic_frame.toQuietFrame.pdHousekeeping state.lib.connections state.lib.pd
            pass
          have same := (framed.records conn.data).traffic
          exact quiet (or_self_iff.mp listed) rfl (Or.inl same) fun _ => same

theorem packet_created (followed : Followed histories state) (arrival : Arrival) :
    state.lib.pd.created ≤ (handlePacket arrival state.lib).1.pd.created ∧
      ∀ conn isTx, attribution arrival state.lib = some (conn, isTx) →
        conn.data < (handlePacket arrival state.lib).1.pd.created := by
  rcases handlePacket_handled traffic_frame.toQuietCreation describeConn_traffic arrival state.lib with
    ⟨unattributed, same⟩ | ⟨known, isTx, parsed, present, attributed, member, handled⟩ |
    ⟨known, isTx, parsed, opened, present, attributed, ref, records, table, handled⟩
  · constructor
    · rcases same.records with unchanged | created
      · rw [unchanged]
      · rw [created.created]
        exact Nat.le_succ _
    · intro conn isTx attributed
      rw [unattributed] at attributed
      cases attributed
  · rw [handled, handleConnection_created, attributed]
    constructor
    · exact Nat.le_refl _
    · rintro conn isTx ⟨⟩
      exact followed.born known member
  · rw [handled, handleConnection_created, attributed, records.created]
    constructor
    · exact Nat.le_succ _
    · rintro conn isTx ⟨⟩
      rw [ref]
      exact Nat.lt_succ_self _

theorem step_created (followed : Followed histories state) (event : Counted.Event) (ref : Ref)
    (late : (state.step event).lib.pd.created ≤ ref) :
    state.lib.pd.created ≤ ref ∧ segmentFor ref state event = none := by
  cases event with
  | purge ndpi purgeAll =>
      have same := Counted.purgeExpiredConnections_lib ndpi purgeAll state
      have kept := purgeExpiredConnections_kept always_frame.toQuietFrame ndpi purgeAll state.lib
      rw [Counted.step, same, kept.created] at late
      exact ⟨late, rfl⟩
  | capture event =>
      by_cases packet : ∃ arrival, event = .packet arrival
      · obtain ⟨arrival, rfl⟩ := packet
        obtain ⟨older, attributed⟩ := packet_created histories state followed arrival
        change (handlePacket arrival state.lib).1.pd.created ≤ ref at late
        refine ⟨Nat.le_trans older late, ?_⟩
        rw [segmentFor]
        split
        · next conn isTx parsed accounted present =>
            have born := attributed conn isTx accounted
            have apart : conn.data ≠ ref := Nat.ne_of_lt (Nat.lt_of_lt_of_le born late)
            rw [if_neg apart]
        · rfl
      · have other : ∀ arrival, event ≠ .packet arrival := fun arrival same => packet ⟨arrival, same⟩
        have kept := step_kept always_frame.toQuietFrame state.lib event other
        rw [Counted.step_lib, kept.created] at late
        refine ⟨late, ?_⟩
        cases event with
        | packet arrival => exact absurd rfl (other arrival)
        | _ => rfl

theorem step_followed (followed : Followed histories state) (event : Counted.Event)
    (numbered : Numbered (state.step event).lib) :
    Followed (fun ref => histories ref ++ (segmentFor ref state event).toList) (state.step event) where
  toNumbered := numbered
  recorded conn listed tcp :=
    (step_observed histories state followed event conn tcp (Or.inr listed)).recorded
  unborn ref late := by
    obtain ⟨older, silent⟩ := step_created histories state followed event ref late
    rw [followed.unborn ref older, silent]
    rfl

def segments (ref : Ref) (state : Counted) (events : List Counted.Event) : List Segment :=
  (Machine.trace Counted.step (fun current event => (segmentFor ref current event).toList)
    state events).flatten

theorem run_followed (created : List Slot) (consistent : Consistent created state)
    (followed : Followed histories state) (events : List Counted.Event) :
    Followed (fun ref => histories ref ++ segments ref state events)
      (Machine.run Counted.step state events) := by
  induction events generalizing histories state created with
  | nil => simpa [segments, Machine.trace] using followed
  | cons event rest ih =>
      have next := consistent.step event
      have later := ih _ (state.step event) _ next
        (step_followed histories state followed event next.toNumbered)
      simpa only [segments, Machine.trace, Machine.run_cons, List.flatten_cons,
        List.append_assoc] using later

end Runs

/-- In every run, each step treats the TCP connections of the table as it should. -/
theorem status_obeys (config : Pd) (pcapFileCapture : Bool) (events : List Counted.Event)
    (event : Counted.Event) (conn : Slot) (tcp : conn.tuple.ipproto = IPPROTO_TCP) :
    let start := Counted.start config pcapFileCapture
    let before := Machine.run Counted.step start events
    let after := before.step event
    conn ∈ before.lib.connections ∨ conn ∈ after.lib.connections →
      Obeys (segments conn.data start events) (segmentFor conn.data before event) (isPurge event)
        (view conn.data before) (traffic (after.lib.pd.heap conn.data)) := by
  intro start before after listed
  have initial : Followed (fun _ => []) start :=
    { toNumbered := start_numbered config pcapFileCapture
      recorded := fun _ member => absurd member List.not_mem_nil
      unborn := fun _ _ => rfl }
  have followed := run_followed _ start [] (Consistent.start config pcapFileCapture) initial events
  exact (step_observed _ before followed event conn tcp listed).obeys

section Example

open CaptureClient (idleConfig plainNdpi webTuple)

/-- A packet of the client with these flags, which may be the first fragment of several. -/
def flaggedPacket (thFlags : BitVec 8) (isFirstFragment : Bool) : Counted.Event :=
  .capture (.packet
    { hdr := ⟨10100, true, 0, none, none⟩
      parsed := some
        { tuple := webTuple, thFlags, isFragment := isFirstFragment, isFirstFragment }
      ndpi := plainNdpi })

def opened : Counted :=
  Machine.run Counted.step (Counted.start idleConfig false) [flaggedPacket TH_SYN false]

theorem rst_obeys :
    Obeys (segments 0 (Counted.start idleConfig false) [flaggedPacket TH_SYN false])
      (segmentFor 0 opened (flaggedPacket TH_RST false)) false (view 0 opened)
      (traffic ((opened.step (flaggedPacket TH_RST false)).lib.pd.heap 0)) :=
  status_obeys idleConfig false [flaggedPacket TH_SYN false] (flaggedPacket TH_RST false) ⟨webTuple, 0⟩ rfl
    (Or.inl (by decide))

/-- A RST in the first fragment of a packet is seen, and does not reset the open connection. -/
theorem fragmentRst_ignored :
    (view 0 opened).status.isClosed = false ∧
      (segmentFor 0 opened (flaggedPacket TH_RST true)).any (fun arrived =>
        arrived.thFlags &&& TH_RST != 0) = true ∧
      (traffic ((opened.step (flaggedPacket TH_RST true)).lib.pd.heap 0)).status ≠ .reset := by
  decide

end Example

end Ptnet.TcpStatus
