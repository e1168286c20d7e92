import Ptnet.DecisionFrame
import Ptnet.PdFrame

/-!
What the capture module alone writes into a record: the status, the byte of the TCP and DNS
exchange, the TCP flags and the time of the last packet. Inspection, accounting, notification,
the dump and the decisions leave them alone, and the uid as well.
-/

namespace Ptnet.Pcapdroid

open Connection
open Detection (Policy Ndpi)
open NativeBlacklist (Blacklist)

structure Traffic where
  status : ConnStatus
  lastAck : BitVec 8
  tcpFlags : TcpFlags
  lastUpdateMs : Nat
  deriving DecidableEq, Repr

def traffic (data : PdConn) : Traffic :=
  ⟨data.status, data.lastAck, data.tcpFlags, data.lastUpdateMs⟩

/-- The uid and the traffic are the same, and detection does not start again. -/
structure SameCapture (before after : PdConn) : Prop where
  uid : after.uid = before.uid
  traffic : traffic after = traffic before
  flow : before.ndpiFlow = none → after.ndpiFlow = none

def packets (data : PdConn) : Int × Int := (data.sentPkts, data.rcvdPkts)

structure SameInspection (before after : PdConn) : Prop extends SameCapture before after where
  packets : packets after = packets before

namespace SameInspection

theorem refl (data : PdConn) : SameInspection data data := ⟨⟨rfl, rfl, id⟩, rfl⟩

theorem trans {before between after : PdConn} (first : SameInspection before between)
    (last : SameInspection between after) : SameInspection before after :=
  ⟨⟨last.uid.trans first.uid, last.traffic.trans first.traffic, last.flow ∘ first.flow⟩,
    last.packets.trans first.packets⟩

variable {before after : PdConn}

theorem of_view (view : PdConn → PdConn)
    (shown : ∀ data, ((view data).uid, Pcapdroid.traffic (view data), Pcapdroid.packets (view data)) =
      (data.uid, Pcapdroid.traffic data, Pcapdroid.packets data))
    (same : view after = view before) (flow : before.ndpiFlow = none → after.ndpiFlow = none) :
    SameInspection before after := by
  have fields := Detection.same_of_view view
    (fun data => (data.uid, Pcapdroid.traffic data, Pcapdroid.packets data)) shown same
  exact ⟨⟨congrArg (·.1) fields, congrArg (·.2.1) fields, flow⟩, congrArg (·.2.2) fields⟩

theorem of_unjudged (same : Detection.unjudged after = Detection.unjudged before) :
    SameInspection before after :=
  of_view Detection.unjudged (fun _ => rfl) same
    (Detection.same_of_view Detection.unjudged PdConn.ndpiFlow (fun _ => rfl) same).trans

end SameInspection

theorem accountStats_capture (data : PdConn) (isTx : Bool) (len l7Len : Int) :
    SameCapture data (Detection.accountStats isTx len l7Len data) := by
  cases isTx <;> exact ⟨rfl, rfl, id⟩

theorem inspection_frame : QuietFrame SameInspection where
  refl := SameInspection.refl
  trans := SameInspection.trans
  outgoing same := by
    obtain ⟨pending, bits, chunks, rfl⟩ := same
    exact ⟨⟨rfl, rfl, id⟩, rfl⟩
  giveup policy ndpi tuple data := by
    refine SameInspection.of_view Detection.undetected (fun _ => rfl)
      (Detection.pdGiveupDpi_undetected policy ndpi tuple data) ?_
    intro ended
    rw [Detection.pdGiveupDpi, ended]
    exact ended
  inspected policy ndpi tuple pktTuple data := by
    refine SameInspection.of_view Detection.undetected (fun _ => rfl)
      (Detection.performDpi_undetected policy ndpi tuple data pktTuple) ?_
    intro ended
    rw [Detection.performDpi, ended]
    exact ended
  captured pd result pctx data := by
    have same := recordPayload_uncaptured pd result pctx data
    exact SameInspection.of_view uncaptured (fun _ => rfl) same
      (Detection.same_of_view uncaptured PdConn.ndpiFlow (fun _ => rfl) same).trans
  seen _ _ := ⟨⟨rfl, rfl, id⟩, rfl⟩
  rechecked policy tuple data :=
    SameInspection.of_unjudged (Detection.checkBlockedConnCb_unjudged policy tuple data)
  cleared _ _ _ := ⟨⟨rfl, rfl, id⟩, rfl⟩

theorem capture_frame : RecordFrame SameCapture where
  toQuietFrame := inspection_frame.weaken (fun _ _ same => same.toSameCapture) fun _ _ _ first last =>
    ⟨last.uid.trans first.uid, last.traffic.trans first.traffic, last.flow ∘ first.flow⟩
  accounted isTx len l7Len data := accountStats_capture data isTx len l7Len

/-- The traffic, and that detection does not start again, is kept while a connection is created
    as well. -/
structure SameTraffic (before after : PdConn) : Prop where
  traffic : traffic after = traffic before
  flow : before.ndpiFlow = none → after.ndpiFlow = none

theorem SameCapture.sameTraffic {before after : PdConn} (same : SameCapture before after) :
    SameTraffic before after := ⟨same.traffic, same.flow⟩

theorem traffic_frame : CreationFrame SameTraffic where
  toQuietFrame := capture_frame.weaken (fun _ _ same => same.sameTraffic) fun _ _ _ first last =>
    ⟨last.traffic.trans first.traffic, last.flow ∘ first.flow⟩
  accounted isTx len l7Len data := (capture_frame.accounted isTx len l7Len data).sameTraffic
  numbered policy uid id data := by
    have checked := SameInspection.of_unjudged (Detection.checkWhitelistedApp_unjudged policy
      { data with uid := uid, incrId := id })
    exact ⟨checked.traffic, checked.flow⟩
  unhosted _ := ⟨rfl, id⟩
  hosted _ _ := ⟨rfl, id⟩
  resolved _ _ _ := ⟨rfl, id⟩
  domain policy data := (SameInspection.of_unjudged
    (Detection.checkBlacklistedDomain_unjudged policy data)).toSameCapture.sameTraffic
  screened policy tuple data := (SameInspection.of_unjudged
    (Detection.screen_unjudged policy tuple data)).toSameCapture.sameTraffic

/-- Only `pd_account_stats` counts packets. -/
theorem packets_frame : QuietCreation fun before after => packets after = packets before where
  toQuietFrame := inspection_frame.weaken (fun _ _ same => same.packets) fun _ _ _ first last =>
    last.trans first
  numbered policy uid id data := (SameInspection.of_unjudged
    (Detection.checkWhitelistedApp_unjudged policy { data with uid := uid, incrId := id })).packets
  unhosted _ := rfl
  hosted _ _ := rfl
  resolved _ _ _ := rfl
  domain policy data :=
    (SameInspection.of_unjudged (Detection.checkBlacklistedDomain_unjudged policy data)).packets
  screened policy tuple data :=
    (SameInspection.of_unjudged (Detection.screen_unjudged policy tuple data)).packets

end Ptnet.Pcapdroid
