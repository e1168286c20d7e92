import Ptnet.VpnRecords

/-!
The account of the packets from the tunnel. The context of a packet lives on the stack of `run_vpn`
and is published in the record of its connection while zdtun forwards the packet; the first reply
accounts it, or the loop does when zdtun returns. A connection that is closed in between keeps its
record only if its last notification can be queued.
-/

namespace Ptnet.VpnCapture

open Connection Pcapdroid
open CaptureClient (Requests)
open Detection (Ndpi)
open LibpcapCapture (removeConnection)
open NotificationArray

theorem notifConnection_result (ndpi : Ndpi) (pd : Pd) (which : Which) (tuple : Tuple) (ref : Ref) :
    (notifConnection ndpi pd which tuple ref).2 = !fails pd which ref := by
  have enqueued := (enqueue_spec (endDetection ndpi pd tuple ref) which ⟨tuple, ref⟩).result
  rw [endDetection_array, (endDetection_fields ndpi pd tuple ref).1] at enqueued
  rw [notifConnection_idle]
  simp only [fails, grows]
  cases isPending pd ref with
  | true => rfl
  | false => simpa using enqueued

/-- The close callback frees the record if its notification cannot be queued. -/
theorem connectionClosed_purged (ndpi : Ndpi) (vpn : Vpn) (conn : Slot) :
    (connectionClosed ndpi vpn conn).pd.purged =
      if fails vpn.pd .connsUpdates conn.data then
        Function.update vpn.pd.purged conn.data (vpn.pd.purged conn.data + 1)
      else vpn.pd.purged := by
  have same : fails (vpn.pd.modify conn.data fun data => data.touch CONN_UPDATE_STATS)
      .connsUpdates conn.data = fails vpn.pd .connsUpdates conn.data := by
    simp only [fails, grows, isPending, Pd.modify_heap_self, modify_array, modify_reallocs]
    rfl
  have result := notifConnection_result ndpi
    (vpn.pd.modify conn.data fun data => data.touch CONN_UPDATE_STATS) .connsUpdates conn.tuple
    conn.data
  have purged := notifConnection_purged ndpi
    (vpn.pd.modify conn.data fun data => data.touch CONN_UPDATE_STATS) .connsUpdates conn.tuple
    conn.data
  rw [same] at result
  rw [modify_purged] at purged
  simp only [connectionClosed]
  rcases outcome : pdNotifyConnectionUpdate ndpi
    (vpn.pd.modify conn.data fun data => data.touch CONN_UPDATE_STATS) conn.tuple conn.data with
    ⟨notified, queued⟩
  rw [pdNotifyConnectionUpdate] at outcome
  rw [outcome] at result purged
  simp only at result purged
  subst result
  cases fails vpn.pd .connsUpdates conn.data with
  | true =>
      simp only [Bool.not_true, Bool.not_false, if_true, pdPurgeConnection, access_purged, purged]
  | false =>
      simp only [Bool.not_false, Bool.not_true, Bool.false_eq_true, if_false, pdGiveupDpi,
        modify_purged, purged]

section Forwarding

variable (conn : Slot) (context : Context) (log : List Action) (vpn : Vpn)

/-- The packet is being forwarded and has not been accounted. -/
structure Waits : Prop where
  published : vpn.published conn.data = some context
  log : vpn.log = log ++ [.forwarding context]

/-- The packet has been accounted, right after it was forwarded. -/
structure Settled : Prop where
  vacant : vpn.fwPctx conn.data = none
  log : ∃ last, vpn.log = log ++ [.forwarding context, .egress context.turn context] ++ last ∧
    ∀ action ∈ last, action.isEgress = false

/-- The record was freed before the packet was accounted. -/
structure Lost : Prop where
  freed : vpn.pd.purged conn.data ≠ 0
  closed : conn ∉ vpn.connections
  log : vpn.log = log ++ [.forwarding context]

/-- While the packet is not accounted, the notification of a close does not fail. -/
def Grants (vpn : Vpn) : Callback → Prop
  | .connectionClose _ _ =>
      (vpn.published conn.data).isSome → fails vpn.pd .connsUpdates conn.data = false
  | _ => True

instance (callback : Callback) : Decidable (Grants conn vpn callback) := by
  cases callback <;> unfold Grants <;> infer_instance

variable {conn context log vpn}

theorem Waits.alive (waits : Waits conn context log vpn) : vpn.pd.alive conn.data := by
  have published := waits.published
  unfold Vpn.published at published
  split at published
  · assumption
  · cases published

theorem Waits.fwPctx (waits : Waits conn context log vpn) :
    vpn.fwPctx conn.data = some context := by
  have published := waits.published
  rwa [Vpn.published, if_pos waits.alive] at published

theorem Waits.keep (waits : Waits conn context log vpn) (after : Vpn)
    (created : after.pd.created = vpn.pd.created) (purged : after.pd.purged = vpn.pd.purged)
    (contexts : after.fwPctx = vpn.fwPctx) (same : after.log = vpn.log) :
    Waits conn context log after where
  published := by
    have alive : after.pd.alive conn.data :=
      ⟨created ▸ waits.alive.1, by rw [purged]; exact waits.alive.2⟩
    rw [Vpn.published, if_pos alive, contexts]
    exact waits.fwPctx
  log := same.trans waits.log

theorem Waits.accounted (waits : Waits conn context log vpn) (ndpi : Ndpi)
    (turn : vpn.turn = context.turn) :
    Settled conn context log (accountForwarded ndpi vpn conn.data) := by
  rw [accountForwarded_some ndpi vpn conn.data context waits.published]
  refine ⟨Function.update_self .., [], ?_, fun _ member => absurd member List.not_mem_nil⟩
  dsimp only
  rw [waits.log, turn, List.append_nil, List.append_assoc]
  rfl

theorem Settled.logs {after : Vpn} (settled : Settled conn context log vpn) (logs : Logs vpn after)
    (vacant : after.fwPctx conn.data = none) : Settled conn context log after := by
  obtain ⟨last, same, quiet⟩ := settled.log
  obtain ⟨added, later, still⟩ := logs
  refine ⟨vacant, last ++ added, by rw [later, same, List.append_assoc], ?_⟩
  intro action member
  rcases List.mem_append.mp member with early | late
  · exact quiet action early
  · exact still action late

theorem Settled.works {after : Vpn} (settled : Settled conn context log vpn)
    (works : Works conn vpn after) : Settled conn context log after :=
  settled.logs (works.log settled.vacant) (works.vacant settled.vacant)

/-- A reply accounts the packet that waits, before it is written. -/
theorem Waits.reply (waits : Waits conn context log vpn) (reply : Reply)
    (turn : vpn.turn = context.turn) :
    Waits conn context log (remote2vpn reply vpn conn).1 ∨
      Settled conn context log (remote2vpn reply vpn conn).1 := by
  by_cases running : vpn.running = true
  · have rest := remote2vpn_untabled vpn conn reply running
    have accounted := waits.accounted reply.ndpi turn
    exact Or.inr (accounted.logs rest.log (by rw [rest.contexts]; exact accounted.vacant))
  · simp only [remote2vpn, running, Bool.not_false, if_true]
    exact Or.inl waits

/-- The close callback, and what becomes of a packet that waits. -/
theorem Waits.closes (waits : Waits conn context log vpn) (ndpi : Ndpi) (status : ConnStatus)
    (closed : status.isClosed = true) :
    if fails vpn.pd .connsUpdates conn.data then
      Lost conn context log (connectionClosed ndpi (vpn.setStatus conn status) conn)
    else Waits conn context log (connectionClosed ndpi (vpn.setStatus conn status) conn) := by
  obtain ⟨-, connections, -, contexts, same⟩ :=
    connectionClosed_fields ndpi (vpn.setStatus conn status) conn
  have purged := connectionClosed_purged ndpi (vpn.setStatus conn status) conn
  have created := (connectionClosed_records ndpi (vpn.setStatus conn status) conn).created
  split
  · next refused =>
    rw [if_pos (show fails (vpn.setStatus conn status).pd .connsUpdates conn.data = true from
      refused)] at purged
    refine ⟨?_, ?_, same.trans waits.log⟩
    · rw [purged, Function.update_self]
      exact Nat.succ_ne_zero _
    · rw [connections]
      simp [Vpn.setStatus, closed, removeConnection]
  · next granted =>
    rw [if_neg (show ¬ fails (vpn.setStatus conn status).pd .connsUpdates conn.data = true from
      granted)] at purged
    exact waits.keep _ created purged contexts same

theorem Waits.callback (waits : Waits conn context log vpn) (turn : vpn.turn = context.turn)
    (callback : Callback) :
    (Grants conn vpn callback ∧
        (Waits conn context log (VpnCapture.callback conn vpn callback) ∨
          Settled conn context log (VpnCapture.callback conn vpn callback))) ∨
      ¬ Grants conn vpn callback ∧
        Lost conn context log (VpnCapture.callback conn vpn callback) := by
  cases callback with
  | stop => exact Or.inl ⟨trivial, Or.inl (waits.keep _ rfl rfl rfl rfl)⟩
  | advance status =>
      refine Or.inl ⟨trivial, Or.inl ?_⟩
      simp only [VpnCapture.callback]
      split
      · exact waits.keep _ rfl rfl rfl rfl
      · exact waits
  | sendClient reply =>
      refine Or.inl ⟨trivial, ?_⟩
      simp only [VpnCapture.callback]
      split
      · exact waits.reply reply turn
      · exact Or.inl waits
  | accountPacket =>
      refine Or.inl ⟨trivial, Or.inl ?_⟩
      simp only [VpnCapture.callback]
      split
      · exact waits.keep _ (access_created vpn.pd conn.data)
          (modify_purged vpn.pd conn.data _) rfl rfl
      · exact waits
  | connectionClose ndpi status =>
      have closes := waits.closes ndpi _ (ConnStatus.closing_closed status)
      have present : (vpn.published conn.data).isSome := by rw [waits.published]; rfl
      simp only [VpnCapture.callback, Grants, present, forall_const]
      by_cases refused : fails vpn.pd .connsUpdates conn.data = true
      · rw [if_pos refused] at closes
        exact Or.inr ⟨by rw [refused]; exact Bool.noConfusion, closes⟩
      · rw [if_neg refused] at closes
        exact Or.inl ⟨Bool.eq_false_iff.mpr refused, Or.inl closes⟩
  | socketError =>
      refine Or.inl ⟨trivial, Or.inl ?_⟩
      simp only [VpnCapture.callback]
      split
      · exact waits.keep _ rfl rfl rfl rfl
      · exact waits

/-- A connection that is closed, with its record freed, is announced at most. -/
theorem Lost.callback (lost : Lost conn context log vpn) (callback : Callback) :
    Lost conn context log (VpnCapture.callback conn vpn callback) := by
  have shut : vpn.isOpen conn = false := decide_eq_false lost.closed
  cases callback with
  | stop => exact ⟨lost.freed, lost.closed, lost.log⟩
  | connectionClose ndpi status =>
      simp only [VpnCapture.callback]
      obtain ⟨-, connections, -, -, same⟩ :=
        connectionClosed_fields ndpi (vpn.setStatus conn status.closing) conn
      have purged := connectionClosed_purged ndpi (vpn.setStatus conn status.closing) conn
      refine ⟨?_, ?_, same.trans lost.log⟩
      · rw [purged]
        split
        · rw [Function.update_self]
          exact Nat.succ_ne_zero _
        · exact lost.freed
      · rw [connections]
        simp [Vpn.setStatus, ConnStatus.closing_closed, removeConnection]
  | _ =>
      simp only [VpnCapture.callback, shut, Bool.false_and, Bool.false_eq_true, if_false]
      exact lost

theorem Lost.run (lost : Lost conn context log vpn) (callbacks : List Callback) :
    Lost conn context log (runCallbacks conn callbacks vpn) := by
  induction callbacks generalizing vpn with
  | nil => exact lost
  | cons first rest ih => exact ih (lost.callback first)

/-- Once the packet is accounted nothing more is asked of zdtun. -/
theorem Settled.run (settled : Settled conn context log vpn) (callbacks : List Callback)
    (held : conn ∈ vpn.connections → Held vpn conn) :
    Machine.Along (callback conn) (Grants conn) vpn callbacks ∧
      Settled conn context log (runCallbacks conn callbacks vpn) := by
  induction callbacks generalizing vpn with
  | nil => exact ⟨trivial, settled⟩
  | cons first rest ih =>
      have works := callback_works vpn conn first held
      obtain ⟨later, after⟩ := ih (settled.works works) fun stays =>
        works.own stays (held (works.connections.subset stays))
      refine ⟨⟨?_, later⟩, after⟩
      cases first with
      | connectionClose ndpi status =>
          intro present
          rw [published_none vpn conn.data settled.vacant] at present
          cases present
      | _ => trivial

theorem Waits.run (waits : Waits conn context log vpn) (turn : vpn.turn = context.turn)
    (callbacks : List Callback) (held : conn ∈ vpn.connections → Held vpn conn) :
    (Machine.Along (VpnCapture.callback conn) (Grants conn) vpn callbacks ∧
        (Waits conn context log (runCallbacks conn callbacks vpn) ∨
          Settled conn context log (runCallbacks conn callbacks vpn))) ∨
      ¬ Machine.Along (VpnCapture.callback conn) (Grants conn) vpn callbacks ∧
        Lost conn context log (runCallbacks conn callbacks vpn) := by
  induction callbacks generalizing vpn with
  | nil => exact Or.inl ⟨trivial, Or.inl waits⟩
  | cons first rest ih =>
      have works := callback_works vpn conn first held
      have stillHeld := fun stays => works.own stays (held (works.connections.subset stays))
      rcases waits.callback turn first with ⟨granted, still | settled⟩ | ⟨refused, lost⟩
      · rcases ih still (works.turn.trans turn) stillHeld with ⟨later, after⟩ | ⟨later, after⟩
        · exact Or.inl ⟨⟨granted, later⟩, after⟩
        · exact Or.inr ⟨fun along => later along.2, after⟩
      · obtain ⟨later, after⟩ := settled.run rest stillHeld
        exact Or.inl ⟨⟨granted, later⟩, Or.inr after⟩
      · exact Or.inr ⟨fun along => refused along.1, lost.run rest⟩

/-- The packet has been accounted at most once, and then right after it was forwarded. -/
def Follows (conn : Slot) (context : Context) (log : List Action) (vpn : Vpn) : Prop :=
  Waits conn context log vpn ∨ Settled conn context log vpn ∨ Lost conn context log vpn

theorem Follows.serve (follows : Follows conn context log vpn) (turn : vpn.turn = context.turn)
    (table : Table vpn) (callbacks : List Callback) :
    Follows conn context log (VpnCapture.serve vpn (conn, callbacks)) := by
  unfold VpnCapture.serve
  split
  · have held := fun member => table.held conn member
    rcases follows with waits | settled | lost
    · rcases waits.run turn callbacks held with ⟨-, still | settled⟩ | ⟨-, lost⟩
      · exact Or.inl still
      · exact Or.inr (Or.inl settled)
      · exact Or.inr (Or.inr lost)
    · exact Or.inr (Or.inl (settled.run callbacks held).2)
    · exact Or.inr (Or.inr (lost.run callbacks))
  · exact follows

/-- The accounts in the log are those of the contexts of their turns. -/
def Timely (actions : List Action) : Prop :=
  ∀ turn context, Action.egress turn context ∈ actions → context.turn = turn

theorem Timely.quiet {actions : List Action} (quiet : ∀ action ∈ actions, action.isEgress = false) :
    Timely actions := by
  intro turn context member
  cases quiet _ member

theorem Timely.append {first last : List Action} (early : Timely first) (late : Timely last) :
    Timely (first ++ last) := by
  intro turn context member
  exact (List.mem_append.mp member).elim (early turn context) (late turn context)

theorem Follows.timely (follows : Follows conn context log vpn) (early : Timely log) :
    Timely vpn.log := by
  have forwarding : Timely [.forwarding context] := Timely.quiet (by simp [Action.isEgress])
  rcases follows with waits | settled | lost
  · exact waits.log ▸ early.append forwarding
  · obtain ⟨last, same, quiet⟩ := settled.log
    rw [same]
    refine (early.append ?_).append (Timely.quiet quiet)
    intro turn other member
    simp only [List.mem_cons, reduceCtorEq, List.not_mem_nil, or_false, false_or,
      Action.egress.injEq] at member
    rw [member.1, member.2]
  · exact lost.log ▸ early.append forwarding

end Forwarding

section Packet

variable (packet : TunPacket) (vpn : Vpn) (pctx : PktContext)

theorem publish_table (table : Table vpn) : Table (publish vpn pctx) := by
  have used : Untabled vpn { vpn with pd := vpn.pd.access pctx.data } :=
    ⟨rfl, rfl, rfl, rfl, Retains.access vpn.pd pctx.data, Logs.same rfl⟩
  have kept := used.table table
  exact ⟨kept.distinct, fun conn member => ⟨(kept.held conn member).alive,
    (kept.held conn member).unmarked, (kept.held conn member).status⟩, kept.unborn⟩

theorem publish_waits (alive : vpn.pd.alive pctx.data) :
    Waits ⟨pctx.tuple, pctx.data⟩ ⟨vpn.turn, pctx⟩ vpn.log (publish vpn pctx) := by
  refine ⟨?_, rfl⟩
  have still : (publish vpn pctx).pd.alive pctx.data := by
    rw [publish, Pd.access_alive _ _ alive]
    exact alive
  rw [Vpn.published, if_pos still]
  exact Function.update_self ..

theorem writePort_mark (tuple : Tuple) (data : PdConn) :
    (writePort packet tuple data).toPurge = data.toPurge := by
  unfold writePort
  split
  · split <;> rfl
  · rfl

theorem recordPort_untabled (conn : Slot) : Untabled vpn (recordPort packet vpn conn) :=
  ⟨rfl, rfl, rfl, rfl, Retains.modify vpn.pd conn.data _ (writePort_mark packet _ _), Logs.same rfl⟩

theorem countFailure_eq (conn : Slot) :
    ∃ count, countFailure vpn conn = { vpn with numDroppedConnections := count } := by
  unfold countFailure
  split <;> exact ⟨_, rfl⟩

theorem serve_closes (conn : Slot) (callbacks : List Callback) (ndpi : Ndpi) (status : ConnStatus) :
    conn ∉ (serve vpn (conn, callbacks ++ [.connectionClose ndpi status])).connections := by
  unfold serve
  split
  · simp only [runCallbacks, List.foldl_append, List.foldl_cons, List.foldl_nil, callback]
    rw [(connectionClosed_fields _ _ conn).2.1]
    simp [Vpn.setStatus, ConnStatus.closing_closed, removeConnection]
  · next shut => exact of_decide_eq_false (Bool.not_eq_true _ ▸ shut)

theorem zdtunConnClose_closes (closing : Closing) (status : ConnStatus) (conn : Slot) :
    conn ∉ (zdtunConnClose closing status vpn conn).connections :=
  serve_closes vpn conn _ closing.ndpi status

/-- What is asked of zdtun while it forwards a packet. -/
def GrantsForward : Prop :=
  Machine.Along (callback ⟨pctx.tuple, pctx.data⟩) (Grants ⟨pctx.tuple, pctx.data⟩)
    (publish vpn pctx) packet.forward

/-- The outcome of a packet that is forwarded: the table, and how the log goes on. -/
structure Forwarded (after : Vpn) : Prop where
  works : Works ⟨pctx.tuple, pctx.data⟩ (publish vpn pctx) after
  vacant : ⟨pctx.tuple, pctx.data⟩ ∈ after.connections → after.fwPctx pctx.data = none
  timely : Timely vpn.log → Timely after.log

variable {packet vpn pctx} (table : Table vpn)
  (member : ⟨pctx.tuple, pctx.data⟩ ∈ vpn.connections)

include table member

theorem forwardPacket_success
    (success : (zdtunForward packet (publish vpn pctx) ⟨pctx.tuple, pctx.data⟩).2 = true) :
    Forwarded vpn pctx (forwardPacket packet vpn pctx) ∧
      ((GrantsForward packet vpn pctx ∧ ∃ last, (forwardPacket packet vpn pctx).log =
          vpn.log ++ [.forwarding ⟨vpn.turn, pctx⟩, .egress vpn.turn ⟨vpn.turn, pctx⟩] ++ last ∧
            ∀ action ∈ last, action.isEgress = false) ∨
        ¬ GrantsForward packet vpn pctx ∧
          (forwardPacket packet vpn pctx).log = vpn.log ++ [.forwarding ⟨vpn.turn, pctx⟩]) := by
  let conn : Slot := ⟨pctx.tuple, pctx.data⟩
  let context : Context := ⟨vpn.turn, pctx⟩
  let forwarded := serve (publish vpn pctx) (conn, packet.forward)
  let accounted := accountForwarded packet.ndpi forwarded conn.data
  have shared := publish_table vpn pctx table
  have waits := publish_waits vpn pctx (table.held conn member).alive
  have served : Works conn (publish vpn pctx) forwarded :=
    serve_works _ (conn, packet.forward) shared
  have turn : forwarded.turn = context.turn := served.turn
  have opened : (publish vpn pctx).isOpen conn = true := decide_eq_true member
  have run : forwarded = runCallbacks conn packet.forward (publish vpn pctx) := if_pos opened
  have equal : forwardPacket packet vpn pctx = recordPort packet accounted conn := by
    simp only [forwardPacket, success, Bool.not_true, Bool.false_eq_true, if_false]
    rfl
  have port := recordPort_untabled packet accounted conn
  have works : Works conn (publish vpn pctx) (forwardPacket packet vpn pctx) := by
    rw [equal]
    exact (served.trans (accountForwarded_works packet.ndpi forwarded conn)).trans
      (Works.of_untabled port)
  have settled : Settled conn context vpn.log accounted →
      Settled conn context vpn.log (forwardPacket packet vpn pctx) := by
    intro settled
    rw [equal]
    exact settled.works (Works.of_untabled port)
  -- The callbacks inside the forward settle the packet, or free the record and lose it.
  have done : GrantsForward packet vpn pctx ∧
        Settled conn context vpn.log (forwardPacket packet vpn pctx) ∨
      ¬ GrantsForward packet vpn pctx ∧
        Lost conn context vpn.log (forwardPacket packet vpn pctx) := by
    rcases waits.run rfl packet.forward fun member => shared.held conn member with
      ⟨granted, still | early⟩ | ⟨refused, lost⟩
    · rw [← run] at still
      exact Or.inl ⟨granted, settled (still.accounted packet.ndpi turn)⟩
    · rw [← run] at early
      have works := accountForwarded_works packet.ndpi forwarded conn
      exact Or.inl ⟨granted, settled (early.works works)⟩
    · rw [← run] at lost
      have none : forwarded.published conn.data = none := if_neg fun alive => lost.freed alive.2
      have same : accounted = { forwarded with pd := forwarded.pd.access conn.data } :=
        accountForwarded_none packet.ndpi forwarded conn.data none
      have purged : (forwardPacket packet vpn pctx).pd.purged = forwarded.pd.purged := by
        rw [equal, same]
        exact (modify_purged _ conn.data _).trans (access_purged _ _)
      refine Or.inr ⟨refused, ⟨by rw [purged]; exact lost.freed, ?_, ?_⟩⟩
      · rw [equal, port.connections, same]
        exact lost.closed
      · rw [equal, same]
        exact lost.log
  constructor
  · refine ⟨works, ?_, ?_⟩
    · intro stays
      rcases done with ⟨-, settled⟩ | ⟨-, lost⟩
      · exact settled.vacant
      · exact absurd stays lost.closed
    · intro early
      have follows : Follows conn context vpn.log (forwardPacket packet vpn pctx) := by
        rcases done with ⟨-, settled⟩ | ⟨-, lost⟩
        · exact Or.inr (Or.inl settled)
        · exact Or.inr (Or.inr lost)
      exact follows.timely early
  · rcases done with ⟨granted, settled⟩ | ⟨refused, lost⟩
    · exact Or.inl ⟨granted, settled.log⟩
    · exact Or.inr ⟨refused, lost.log⟩

/-- `zdtun_forward` fails, and the connection is closed. -/
theorem forwardPacket_failure
    (failure : (zdtunForward packet (publish vpn pctx) ⟨pctx.tuple, pctx.data⟩).2 = false) :
    Forwarded vpn pctx (forwardPacket packet vpn pctx) := by
  let conn : Slot := ⟨pctx.tuple, pctx.data⟩
  let context : Context := ⟨vpn.turn, pctx⟩
  let forwarded := serve (publish vpn pctx) (conn, packet.forward)
  have shared := publish_table vpn pctx table
  have waits := publish_waits vpn pctx (table.held conn member).alive
  have served : Works conn (publish vpn pctx) forwarded :=
    serve_works _ (conn, packet.forward) shared
  obtain ⟨count, dropped⟩ := countFailure_eq forwarded conn
  have counted : Untabled forwarded { forwarded with numDroppedConnections := count } :=
    ⟨rfl, rfl, rfl, rfl, Retains.refl _, Logs.same rfl⟩
  have equal : forwardPacket packet vpn pctx = zdtunConnClose packet.closing .error
      { forwarded with numDroppedConnections := count } conn := by
    rw [← dropped]
    simp only [forwardPacket, failure, Bool.not_false, if_true]
    rfl
  have between := counted.table (served.table shared member)
  have closed : Works conn { forwarded with numDroppedConnections := count }
      (forwardPacket packet vpn pctx) := by
    rw [equal]
    exact zdtunConnClose_works _ packet.closing .error conn between
  refine ⟨(served.trans (Works.of_untabled counted)).trans closed, ?_, ?_⟩
  · intro stays
    rw [equal] at stays
    exact absurd stays (zdtunConnClose_closes _ packet.closing .error conn)
  · have follows : Follows conn context vpn.log forwarded :=
      Follows.serve (Or.inl waits) rfl shared packet.forward
    have still : Follows conn context vpn.log
        { forwarded with numDroppedConnections := count } := by
      rcases follows with waits | settled | lost
      · exact Or.inl (waits.keep _ rfl rfl rfl rfl)
      · exact Or.inr (Or.inl ⟨settled.vacant, settled.log⟩)
      · exact Or.inr (Or.inr ⟨lost.freed, lost.closed, lost.log⟩)
    rw [equal]
    exact (still.serve (counted.turn.trans served.turn) between _).timely

theorem forwardPacket_forwarded : Forwarded vpn pctx (forwardPacket packet vpn pctx) := by
  cases outcome : (zdtunForward packet (publish vpn pctx) ⟨pctx.tuple, pctx.data⟩).2 with
  | true => exact (forwardPacket_success table member outcome).1
  | false => exact forwardPacket_failure table member outcome

end Packet

/-- The table, no published context, and no account of a context after its turn. -/
structure Sound (vpn : Vpn) : Prop where
  table : Table vpn
  vacant : Vacant vpn
  timely : Timely vpn.log

section Steps

variable {vpn after : Vpn}

theorem Sound.passes (sound : Sound vpn) (passes : Passes vpn after) : Sound after where
  table := passes.table
  vacant := passes.vacant
  timely := by
    obtain ⟨added, log, quiet⟩ := passes.log
    rw [log]
    exact sound.timely.append (Timely.quiet quiet)

theorem Sound.untabled (sound : Sound vpn) (same : Untabled vpn after) : Sound after :=
  sound.passes (Passes.of_untabled same sound.table sound.vacant)

theorem Sound.serves (sound : Sound vpn) (works : List (Slot × List Callback)) :
    Passes vpn (works.foldl serve vpn) :=
  Passes.foldl serve works vpn sound.table sound.vacant fun current work table vacant =>
    serve_passes current table vacant work

theorem Sound.forwarded {pctx : PktContext} (sound : Sound vpn)
    (member : ⟨pctx.tuple, pctx.data⟩ ∈ vpn.connections) (forwarded : Forwarded vpn pctx after) :
    Sound after where
  table := forwarded.works.table (publish_table vpn pctx sound.table) member
  vacant := by
    intro other stays
    have listed : other ∈ vpn.connections := forwarded.works.connections.subset stays
    by_cases same : other.data = pctx.data
    · obtain rfl : other = ⟨pctx.tuple, pctx.data⟩ :=
        List.inj_on_of_nodup_map sound.table.distinct listed member same
      exact forwarded.vacant stays
    · rw [forwarded.works.contexts other.data same]
      exact (Function.update_of_ne same _ _).trans (sound.vacant other listed)
  timely := forwarded.timely sound.timely

theorem Sound.tunPacket (sound : Sound vpn) (packet : TunPacket) :
    Sound (handleTunPacket packet vpn) := by
  obtain ⟨passes, listed⟩ := acceptPacket_passes packet vpn sound.table sound.vacant
  have admitted := sound.passes passes
  have next : ∀ current : Vpn, Sound current → Sound { current with turn := current.turn + 1 } :=
    fun current sound => ⟨⟨sound.table.distinct, fun conn member =>
      ⟨(sound.table.held conn member).alive, (sound.table.held conn member).unmarked,
        (sound.table.held conn member).status⟩, sound.table.unborn⟩, sound.vacant, sound.timely⟩
  unfold handleTunPacket
  rcases outcome : acceptPacket packet vpn with ⟨found, result⟩
  rw [outcome] at admitted listed
  cases result with
  | none => exact next found admitted
  | some pctx =>
      exact next _ (admitted.forwarded (listed pctx rfl)
        (forwardPacket_forwarded admitted.table (listed pctx rfl)))

theorem Sound.refreshed (sound : Sound vpn) (nowMs : Nat) : Sound (vpn.refreshTime nowMs) :=
  sound.untabled ⟨rfl, rfl, rfl, rfl, ⟨rfl, fun _ => id, fun _ _ => rfl⟩, Logs.same rfl⟩

theorem Sound.input (sound : Sound vpn) (input : Input) : Sound (handleInput vpn input) := by
  cases input with
  | tunPacket packet => exact sound.tunPacket packet
  | readError => exact sound
  | sockets works => exact sound.passes (sound.serves works)

/-- Housekeeping and the purge at the end of a turn. -/
def keepHouse (turn : Turn) (handled : Vpn) : Vpn :=
  let kept :=
    { handled with pd := pdHousekeeping turn.pass handled.connections handled.pd }
  if kept.nextPurgeMs ≤ kept.pd.nowMs then
    let purged := zdtunPurgeExpired turn.idle kept
    { purged with nextPurgeMs := purged.pd.nowMs + PERIODIC_PURGE_TIMEOUT_MS }
  else kept

theorem loopTurn_eq (turn : Turn) :
    loopTurn turn vpn = keepHouse turn (handleInput (vpn.refreshTime turn.nowMs) turn.input) := rfl

theorem Sound.keptHouse (sound : Sound vpn) (turn : Turn) : Passes vpn (keepHouse turn vpn) := by
  have kept : Passes vpn { vpn with pd := pdHousekeeping turn.pass vpn.connections vpn.pd } :=
    Passes.of_untabled
      ⟨rfl, rfl, rfl, rfl, Retains.pdHousekeeping vpn.pd turn.pass vpn.connections, Logs.same rfl⟩
      sound.table sound.vacant
  simp only [keepHouse]
  split
  · have purged := kept.trans (zdtunPurgeExpired_passes _ kept.table kept.vacant turn.idle)
    refine purged.trans (Passes.of_untabled ⟨rfl, rfl, rfl, rfl, Retains.refl _, Logs.same rfl⟩
      purged.table purged.vacant)
  · exact kept

theorem Sound.step (sound : Sound vpn) (event : Event) : Sound (VpnCapture.step vpn event) := by
  have quiet : ∀ pd : Pd, pd.heap = vpn.pd.heap → pd.purged = vpn.pd.purged →
      pd.created = vpn.pd.created → Sound { vpn with pd := pd } := by
    intro pd heap purged created
    refine sound.untabled ⟨rfl, rfl, rfl, rfl, ⟨created, ?_, ?_⟩, Logs.same rfl⟩
    · exact fun ref unmarked => by rw [heap]; exact unmarked
    · exact fun ref _ => congrFun purged ref
  cases event with
  | allocator reallocs => exact quiet _ rfl rfl rfl
  | request wanted => exact quiet _ rfl rfl rfl
  | stop => exact sound.untabled ⟨rfl, rfl, rfl, rfl, Retains.refl _, Logs.same rfl⟩
  | loopTurn turn =>
      simp only [VpnCapture.step]
      split
      · rw [loopTurn_eq]
        have handled := (sound.refreshed turn.nowMs).input turn.input
        exact handled.passes (handled.keptHouse turn)
      · exact sound
  | finalize closings =>
      simp only [VpnCapture.step]
      split
      · exact sound
      · have purged := sound.passes (zdtunPurgeExpired_passes vpn sound.table sound.vacant
          (vpn.connections.map fun conn => (conn, closings conn)))
        exact purged.untabled ⟨rfl, rfl, rfl, rfl, Retains.refl _, Logs.same rfl⟩

theorem start_sound (settings : Pd) (config : VpnConfig) : Sound (start settings config) where
  table :=
    { distinct := List.nodup_nil
      held := fun _ member => absurd member List.not_mem_nil
      unborn := fun _ _ => ⟨rfl, rfl⟩ }
  vacant := fun _ member => absurd member List.not_mem_nil
  timely := fun _ _ member => absurd member List.not_mem_nil

end Steps

section Accounting

/-- The packet for which `zdtun_forward` returns 0 in this step, with its context and the state in
    which it is forwarded. -/
def forwards (vpn : Vpn) : Event → Option (TunPacket × Vpn × PktContext)
  | .loopTurn turn =>
      if vpn.running && !vpn.finalized then
        match turn.input with
        | .tunPacket packet =>
            match acceptPacket packet (vpn.refreshTime turn.nowMs) with
            | (admitted, some pctx) =>
                if (zdtunForward packet (publish admitted pctx) ⟨pctx.tuple, pctx.data⟩).2 then
                  some (packet, admitted, pctx)
                else none
            | (_, none) => none
        | _ => none
      else none
  | _ => none

/-- The packet is accounted once in this step, and right after it is forwarded: before a reply is
    written. -/
def Accounted (vpn : Vpn) (event : Event) : Prop :=
  ∀ packet admitted pctx, forwards vpn event = some (packet, admitted, pctx) →
    ∃ earlier last, (step vpn event).log =
        vpn.log ++ (earlier ++ [.forwarding ⟨vpn.turn, pctx⟩, .egress vpn.turn ⟨vpn.turn, pctx⟩] ++
          last) ∧
      ∀ action ∈ earlier ++ last, action.isEgress = false

/-- While `zdtun_forward` runs and the packet is not accounted, no close callback meets an array
    that cannot grow. -/
def Queues (vpn : Vpn) (event : Event) : Prop :=
  ∀ packet admitted pctx, forwards vpn event = some (packet, admitted, pctx) →
    GrantsForward packet admitted pctx

theorem forwards_spec {vpn : Vpn} {event : Event} {packet : TunPacket} {admitted : Vpn}
    {pctx : PktContext} (forwarding : forwards vpn event = some (packet, admitted, pctx)) :
    ∃ turn, event = .loopTurn turn ∧ (vpn.running && !vpn.finalized) = true ∧
      turn.input = .tunPacket packet ∧
      acceptPacket packet (vpn.refreshTime turn.nowMs) = (admitted, some pctx) ∧
      (zdtunForward packet (publish admitted pctx) ⟨pctx.tuple, pctx.data⟩).2 = true := by
  cases event with
  | loopTurn turn =>
      refine ⟨turn, rfl, ?_⟩
      simp only [forwards] at forwarding
      split at forwarding
      · next runs =>
        split at forwarding
        · next taken input =>
          split at forwarding
          · next found context outcome =>
            split at forwarding
            · next success =>
              obtain ⟨rfl, rfl, rfl⟩ := Option.some.inj forwarding
              exact ⟨runs, input, outcome, success⟩
            · cases forwarding
          · cases forwarding
        · cases forwarding
      · cases forwarding
  | _ => cases forwarding

theorem step_forwarded {vpn : Vpn} {turn : Turn} {packet : TunPacket} {admitted : Vpn}
    {pctx : PktContext} (runs : (vpn.running && !vpn.finalized) = true)
    (input : turn.input = .tunPacket packet)
    (outcome : acceptPacket packet (vpn.refreshTime turn.nowMs) = (admitted, some pctx)) :
    handleInput (vpn.refreshTime turn.nowMs) turn.input =
        { forwardPacket packet admitted pctx with
          turn := (forwardPacket packet admitted pctx).turn + 1 } ∧
      step vpn (.loopTurn turn) = keepHouse turn
        { forwardPacket packet admitted pctx with
          turn := (forwardPacket packet admitted pctx).turn + 1 } := by
  have handled : handleInput (vpn.refreshTime turn.nowMs) turn.input =
      { forwardPacket packet admitted pctx with
        turn := (forwardPacket packet admitted pctx).turn + 1 } := by
    rw [input, handleInput, handleTunPacket, outcome]
  exact ⟨handled, by rw [step, if_pos runs, loopTurn_eq, handled]⟩

theorem forwards_log {vpn : Vpn} {event : Event} {packet : TunPacket} {admitted : Vpn}
    {pctx : PktContext} (sound : Sound vpn)
    (forwarding : forwards vpn event = some (packet, admitted, pctx)) :
    ∃ earlier last, (∀ action ∈ earlier ++ last, action.isEgress = false) ∧
      ((GrantsForward packet admitted pctx ∧ (step vpn event).log =
          vpn.log ++ (earlier ++
            [.forwarding ⟨vpn.turn, pctx⟩, .egress vpn.turn ⟨vpn.turn, pctx⟩] ++ last)) ∨
        ¬ GrantsForward packet admitted pctx ∧ (step vpn event).log =
          vpn.log ++ (earlier ++ [.forwarding ⟨vpn.turn, pctx⟩] ++ last)) := by
  obtain ⟨turn, rfl, runs, input, outcome, success⟩ := forwards_spec forwarding
  have refreshed := sound.refreshed turn.nowMs
  obtain ⟨passes, listed⟩ := acceptPacket_passes packet _ refreshed.table refreshed.vacant
  rw [outcome] at passes listed
  obtain ⟨-, done⟩ := forwardPacket_success passes.table (listed pctx rfl) success
  obtain ⟨handled, stepped⟩ := step_forwarded runs input outcome
  have kept := (refreshed.input turn.input).keptHouse turn
  rw [handled] at kept
  obtain ⟨earlier, before, quiet⟩ := passes.log
  obtain ⟨more, later, still⟩ := kept.log
  have turns : admitted.turn = vpn.turn := passes.turn
  have log : (vpn.refreshTime turn.nowMs).log = vpn.log := rfl
  dsimp only at later
  rw [turns] at done
  rcases done with ⟨grants, last, same, silent⟩ | ⟨refused, same⟩
  · refine ⟨earlier, last ++ more, ?_, Or.inl ⟨grants, ?_⟩⟩
    · intro action member
      simp only [List.mem_append] at member
      rcases member with early | late | later
      · exact quiet action early
      · exact silent action late
      · exact still action later
    · rw [stepped, later, same, before, log]
      simp only [List.append_assoc]
  · refine ⟨earlier, more, ?_, Or.inr ⟨refused, ?_⟩⟩
    · intro action member
      exact (List.mem_append.mp member).elim (quiet action) (still action)
    · rw [stepped, later, same, before, log]
      simp only [List.append_assoc]

theorem accounted_queues (vpn : Vpn) (event : Event) (sound : Sound vpn) :
    Accounted vpn event ↔ Queues vpn event := by
  constructor
  · intro accounted packet admitted pctx forwarding
    obtain ⟨earlier, last, quiet, granted | ⟨-, silent⟩⟩ := forwards_log sound forwarding
    · exact granted.1
    -- the account that is asked for is not among what the step logs
    · obtain ⟨before, after, same, -⟩ := accounted packet admitted pctx forwarding
      rw [silent] at same
      have equal := List.append_cancel_left same
      have listed : Action.egress vpn.turn ⟨vpn.turn, pctx⟩ ∈
          earlier ++ [.forwarding ⟨vpn.turn, pctx⟩] ++ last := by
        rw [equal]
        simp
      simp only [List.mem_append, List.mem_singleton, reduceCtorEq, or_false] at listed
      cases quiet _ (List.mem_append.mpr listed)
  · intro queues packet admitted pctx forwarding
    obtain ⟨earlier, last, quiet, ⟨-, same⟩ | ⟨refused, -⟩⟩ := forwards_log sound forwarding
    · exact ⟨earlier, last, same, quiet⟩
    · exact absurd (queues packet admitted pctx forwarding) refused

/-- In every run each packet that zdtun took is accounted in its turn, exactly once and before any
    reply, if and only if no notification fails for a connection that is closed while its packet
    waits; and no context is used after its turn. -/
theorem egress_accounted (settings : Pd) (config : VpnConfig) (events : List Event) :
    Machine.Along step (fun vpn event => Accounted vpn event ↔ Queues vpn event)
        (start settings config) events ∧
      ∀ turn context,
        Action.egress turn context ∈ (Machine.run step (start settings config) events).log →
          context.turn = turn := by
  have always : Machine.Along step (fun _ _ => True) (start settings config) events :=
    Machine.along_of_forall step _ _ events fun _ _ _ => trivial
  constructor
  · exact Machine.along_of_invariant step _ _ Sound (fun vpn event sound _ => sound.step event)
      (fun vpn event sound _ => accounted_queues vpn event sound) _ events always
      (start_sound settings config)
  · have sound := Machine.run_invariant_always step Sound (fun vpn event sound => sound.step event)
      _ events (start_sound settings config)
    exact sound.timely

def datagram (forward : List Callback) : TunPacket where
  parsed := some
    { tuple := ⟨CaptureClient.clientIp, CaptureClient.serverIp, 40000, 3478, 4, IPPROTO_UDP⟩
      len := 48, l7 := List.replicate 20 0 }
  ndpi := CaptureClient.plainNdpi
  closing := { ndpi := CaptureClient.plainNdpi }
  uid := 10100
  forward := forward

def datagramTurn (forward : List Callback) : Event :=
  .loopTurn
    { nowMs := 0, input := .tunPacket (datagram forward)
      pass := { ndpi := fun _ => CaptureClient.plainNdpi } }

/-- The second datagram of a connection meets a socket error: zdtun closes the connection after its
    packet was taken, and there is no memory to queue its last update. -/
def refusedDatagram : List Event :=
  [datagramTurn [.advance .connected, .accountPacket], .allocator [false],
    datagramTurn [.accountPacket, .connectionClose CaptureClient.plainNdpi .socketError]]

/-- The record is freed with the context published in it, and nobody accounts the packet. -/
theorem refusedDatagram_unaccounted :
    ¬ Machine.Along step Accounted (start CaptureClient.idleConfig {})
      refusedDatagram := by
  rintro ⟨-, -, accounted, -⟩
  let before := Machine.run step (start CaptureClient.idleConfig {})
    (refusedDatagram.take 2)
  let last := datagramTurn [.accountPacket, .connectionClose CaptureClient.plainNdpi .socketError]
  have taken : (forwards before last).isSome = true := by decide +kernel
  obtain ⟨⟨packet, admitted, pctx⟩, forwarding⟩ := Option.isSome_iff_exists.mp taken
  obtain ⟨earlier, later, same, -⟩ := accounted packet admitted pctx forwarding
  have lengths := congrArg List.length same
  -- the log grows by the forwarding alone
  have grown : (step before last).log.length = before.log.length + 1 := by decide +kernel
  simp only [List.length_append, List.length_cons, List.length_nil] at lengths
  change (step before last).log.length = before.log.length + _ at lengths
  omega

end Accounting

end Ptnet.VpnCapture
