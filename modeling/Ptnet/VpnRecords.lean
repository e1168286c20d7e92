import Ptnet.BlockDecision
import Ptnet.RecordLifetime
import Ptnet.VpnCapture

/-!
The table of open connections in a VPN capture. Whatever zdtun does about one connection leaves
the records of the others alone, so that the record of an open connection is alive and not marked
to be freed, even where the allocator, a dump or a socket fails.
-/

namespace Ptnet.VpnCapture

open Connection Pcapdroid
open CaptureClient (Requests)
open Detection (Ndpi Policy)
open LibpcapCapture (findConnection removeConnection)
open NotificationArray

def Action.isEgress : Action → Bool
  | .egress _ _ => true
  | _ => false

/-- What is logged from one state to the other, without an account of a packet from the tunnel. -/
def Logs (before after : Vpn) : Prop :=
  ∃ added, after.log = before.log ++ added ∧ ∀ action ∈ added, action.isEgress = false

section Logs

variable {before between after : Vpn}

theorem Logs.same (log : after.log = before.log) : Logs before after :=
  ⟨[], by rw [log, List.append_nil], fun _ member => absurd member List.not_mem_nil⟩

theorem Logs.trans (first : Logs before between) (last : Logs between after) :
    Logs before after := by
  obtain ⟨added, log, quiet⟩ := first
  obtain ⟨more, later, still⟩ := last
  refine ⟨added ++ more, by rw [later, log, List.append_assoc], ?_⟩
  intro action member
  rcases List.mem_append.mp member with early | late
  · exact quiet action early
  · exact still action late

end Logs

/-- A call that leaves the table of zdtun and the published contexts alone, and frees nothing. -/
structure Untabled (before after : Vpn) : Prop where
  turn : after.turn = before.turn
  connections : after.connections = before.connections
  statuses : after.statuses = before.statuses
  contexts : after.fwPctx = before.fwPctx
  retains : Retains before.pd after.pd
  log : Logs before after

theorem Untabled.trans {before between after : Vpn} (first : Untabled before between)
    (last : Untabled between after) : Untabled before after :=
  ⟨last.turn.trans first.turn, last.connections.trans first.connections,
    last.statuses.trans first.statuses, last.contexts.trans first.contexts,
    first.retains.trans last.retains, first.log.trans last.log⟩

structure Held (vpn : Vpn) (conn : Slot) : Prop where
  alive : vpn.pd.alive conn.data
  unmarked : (vpn.pd.heap conn.data).toPurge = false
  status : (vpn.statuses conn.data).isClosed = false

/-- What work on one connection leaves alone, and what it keeps while that connection is open. -/
structure Works (conn : Slot) (before after : Vpn) : Prop where
  turn : after.turn = before.turn
  connections : after.connections.Sublist before.connections
  records : RetainsOthers conn.data before.pd after.pd
  statuses : ∀ ref, ref ≠ conn.data → after.statuses ref = before.statuses ref
  contexts : ∀ ref, ref ≠ conn.data → after.fwPctx ref = before.fwPctx ref
  own : conn ∈ after.connections → Held before conn → Held after conn
  vacant : before.fwPctx conn.data = none → after.fwPctx conn.data = none
  log : before.fwPctx conn.data = none → Logs before after

namespace Works

variable {conn : Slot} {before between after : Vpn}

theorem refl (conn : Slot) (vpn : Vpn) : Works conn vpn vpn where
  turn := rfl
  connections := List.Sublist.refl _
  records := (Retains.refl vpn.pd).others conn.data
  statuses _ _ := rfl
  contexts _ _ := rfl
  own _ held := held
  vacant none := none
  log _ := Logs.same rfl

theorem trans (first : Works conn before between) (last : Works conn between after) :
    Works conn before after where
  turn := last.turn.trans first.turn
  connections := last.connections.trans first.connections
  records := first.records.trans last.records
  statuses ref other := (last.statuses ref other).trans (first.statuses ref other)
  contexts ref other := (last.contexts ref other).trans (first.contexts ref other)
  own stays held := last.own stays (first.own (last.connections.subset stays) held)
  vacant none := last.vacant (first.vacant none)
  log none := (first.log none).trans (last.log (first.vacant none))

theorem of_untabled (same : Untabled before after) : Works conn before after where
  turn := same.turn
  connections := by rw [same.connections]
  records := same.retains.others conn.data
  statuses ref _ := by rw [same.statuses]
  contexts ref _ := by rw [same.contexts]
  own _ held :=
    ⟨same.retains.alive conn.data held.alive held.unmarked,
      same.retains.unmarked conn.data held.unmarked, by rw [same.statuses]; exact held.status⟩
  vacant none := by rw [same.contexts, none]
  log _ := same.log

theorem of_closed (turn : after.turn = before.turn)
    (connections : after.connections = removeConnection before.connections conn)
    (records : RetainsOthers conn.data before.pd after.pd)
    (statuses : ∀ ref, ref ≠ conn.data → after.statuses ref = before.statuses ref)
    (contexts : after.fwPctx = before.fwPctx) (log : after.log = before.log) :
    Works conn before after where
  turn := turn
  connections := by rw [connections]; exact List.filter_sublist
  records := records
  statuses := statuses
  contexts ref _ := by rw [contexts]
  own stays := by
    rw [connections] at stays
    simp [removeConnection] at stays
  vacant none := by rw [contexts, none]
  log _ := Logs.same log

end Works

section Calls

variable (ndpi : Ndpi) (vpn : Vpn) (conn : Slot)

theorem accountForwarded_none (ref : Ref) (unpublished : vpn.published ref = none) :
    accountForwarded ndpi vpn ref = { vpn with pd := vpn.pd.access ref } := by
  rw [accountForwarded, unpublished]

theorem accountForwarded_some (ref : Ref) (context : Context)
    (published : vpn.published ref = some context) :
    accountForwarded ndpi vpn ref =
      { vpn with
        pd := pdAccountStats ndpi (vpn.pd.access ref) context.pctx
        fwPctx := Function.update vpn.fwPctx ref none
        log := vpn.log ++ [.egress vpn.turn context] } := by
  rw [accountForwarded, published]

theorem published_none (ref : Ref) (vacant : vpn.fwPctx ref = none) : vpn.published ref = none := by
  unfold Vpn.published
  split
  · exact vacant
  · rfl

theorem accountForwarded_works : Works conn vpn (accountForwarded ndpi vpn conn.data) := by
  have used := Retains.access vpn.pd conn.data
  cases published : vpn.published conn.data with
  | none =>
      rw [accountForwarded_none ndpi vpn conn.data published]
      exact Works.of_untabled ⟨rfl, rfl, rfl, rfl, used, Logs.same rfl⟩
  | some context =>
      rw [accountForwarded_some ndpi vpn conn.data context published]
      have retains := used.trans (Retains.account (vpn.pd.access conn.data) ndpi context.pctx)
      have present : vpn.fwPctx conn.data ≠ none := by
        intro vacant
        rw [published_none vpn conn.data vacant] at published
        cases published
      refine ⟨rfl, List.Sublist.refl _, retains.others _, fun _ _ => rfl, ?_, ?_, ?_, ?_⟩
      · exact fun ref other => Function.update_of_ne other _ _
      · exact fun _ held => ⟨retains.alive _ held.alive held.unmarked,
          retains.unmarked _ held.unmarked, held.status⟩
      · exact fun none => absurd none present
      · exact fun none => absurd none present

theorem blockPacket_untabled : Untabled vpn (blockPacket ndpi vpn conn) := by
  refine ⟨rfl, rfl, rfl, rfl, ?_, Logs.same rfl⟩
  exact (Retains.modify vpn.pd conn.data _ rfl).trans (Retains.notify _ ndpi conn.tuple conn.data)

/-- What follows the account of the forwarded packet in `remote2vpn`. -/
theorem remote2vpn_untabled (reply : Reply) (running : vpn.running = true) :
    Untabled (accountForwarded reply.ndpi vpn conn.data) (remote2vpn reply vpn conn).1 := by
  let accounted := accountForwarded reply.ndpi vpn conn.data
  let pctx : PktContext := ⟨reply.pkt, reply.ms, false, conn.tuple, conn.data⟩
  have processed : Untabled accounted
      { accounted with
        pd := pdProcessPacket reply.ndpi reply.payload
          { accounted.pd with nowMs := reply.nowMs } pctx } := by
    have refreshed : Retains accounted.pd { accounted.pd with nowMs := reply.nowMs } :=
      ⟨rfl, fun _ => id, fun _ _ => rfl⟩
    exact ⟨rfl, rfl, rfl, rfl, refreshed.trans (Retains.process _ reply.ndpi reply.payload pctx),
      Logs.same rfl⟩
  have wrote : ∀ current : Vpn,
      Untabled current { current with log := current.log ++ [.wrote reply.pkt] } := fun current =>
    ⟨rfl, rfl, rfl, rfl, Retains.refl _, _, rfl, by simp [Action.isEgress]⟩
  have served : ∀ current : Vpn, Untabled current
      { current with
        pd := pdAccountStats reply.ndpi current.pd pctx
        log := current.log ++ [.ingress pctx] } := fun current =>
    ⟨rfl, rfl, rfl, rfl, Retains.account _ reply.ndpi pctx, _, rfl, by simp [Action.isEgress]⟩
  simp only [remote2vpn, running, Bool.not_true, Bool.false_eq_true, if_false]
  split
  · exact processed.trans (blockPacket_untabled reply.ndpi _ conn)
  · split
    · exact (processed.trans (wrote _)).trans (served _)
    · exact processed.trans (wrote _)
    · exact processed
    · exact processed.trans ⟨rfl, rfl, rfl, rfl, Retains.refl _, Logs.same rfl⟩

theorem remote2vpn_works (reply : Reply) : Works conn vpn (remote2vpn reply vpn conn).1 := by
  by_cases running : vpn.running = true
  · exact (accountForwarded_works reply.ndpi vpn conn).trans
      (Works.of_untabled (remote2vpn_untabled vpn conn reply running))
  · simp only [remote2vpn, running, Bool.not_false, if_true]
    exact Works.refl conn vpn

theorem setStatus_closed (status : ConnStatus) (closed : status.isClosed = true) :
    Works conn vpn (vpn.setStatus conn status) := by
  refine Works.of_closed rfl ?_ ((Retains.refl _).others _) ?_ rfl rfl
  · simp only [Vpn.setStatus, closed, if_true]
  · exact fun ref other => Function.update_of_ne other _ _

theorem setStatus_open (status : ConnStatus) (live : status.isClosed = false) :
    Works conn vpn (vpn.setStatus conn status) where
  turn := rfl
  connections := by simp [Vpn.setStatus, live]
  records := (Retains.refl _).others _
  statuses ref other := Function.update_of_ne other _ _
  contexts _ _ := rfl
  own _ held := ⟨held.alive, held.unmarked, by simp [Vpn.setStatus, live]⟩
  vacant none := none
  log _ := Logs.same rfl

theorem connectionClosed_records :
    RetainsOthers conn.data vpn.pd (connectionClosed ndpi vpn conn).pd := by
  have touched : RetainsOthers conn.data vpn.pd
      (vpn.pd.modify conn.data fun data => data.touch CONN_UPDATE_STATS) :=
    RetainsOthers.modify vpn.pd _
  have notified := touched.trans ((Retains.notify (vpn.pd.modify conn.data fun data =>
    data.touch CONN_UPDATE_STATS) ndpi conn.tuple conn.data).others conn.data)
  simp only [connectionClosed]
  split
  · exact notified.trans (RetainsOthers.purge _)
  · exact (notified.trans ((Retains.giveup _ ndpi conn.data conn.tuple).others conn.data)).trans
      (RetainsOthers.modify _ (closeRecord (vpn.statuses conn.data)))

theorem connectionClosed_fields :
    (connectionClosed ndpi vpn conn).turn = vpn.turn ∧
      (connectionClosed ndpi vpn conn).connections = vpn.connections ∧
      (connectionClosed ndpi vpn conn).statuses = vpn.statuses ∧
      (connectionClosed ndpi vpn conn).fwPctx = vpn.fwPctx ∧
      (connectionClosed ndpi vpn conn).log = vpn.log := by
  simp only [connectionClosed]
  split <;> exact ⟨rfl, rfl, rfl, rfl, rfl⟩

theorem announceClose_works (status : ConnStatus) (closed : status.isClosed = true) :
    Works conn vpn (connectionClosed ndpi (vpn.setStatus conn status) conn) := by
  obtain ⟨turn, connections, statuses, contexts, log⟩ :=
    connectionClosed_fields ndpi (vpn.setStatus conn status) conn
  refine Works.of_closed turn ?_ (connectionClosed_records ndpi (vpn.setStatus conn status) conn)
    ?_ contexts log
  · rw [connections]
    simp only [Vpn.setStatus, closed, if_true]
  · intro ref other
    rw [statuses]
    exact Function.update_of_ne other _ _

theorem updateConnStatus_works (held : Held vpn conn) :
    Works conn vpn (updateConnStatus vpn conn) := by
  have retains : Retains vpn.pd
      (vpn.pd.modify conn.data (followStatus (vpn.statuses conn.data))) := by
    refine Retains.modify vpn.pd conn.data _ ?_
    rw [followStatus, held.status, Bool.or_false]
  exact Works.of_untabled ⟨rfl, rfl, rfl, rfl, retains, Logs.same rfl⟩

theorem callback_works (callback : Callback) (held : conn ∈ vpn.connections → Held vpn conn) :
    Works conn vpn (VpnCapture.callback conn vpn callback) := by
  have isOpen : vpn.isOpen conn = true → conn ∈ vpn.connections := of_decide_eq_true
  cases callback with
  | stop => exact Works.of_untabled ⟨rfl, rfl, rfl, rfl, Retains.refl _, Logs.same rfl⟩
  | advance status =>
      simp only [VpnCapture.callback]
      split
      · next admitted =>
        refine setStatus_open vpn conn status ?_
        simpa using (Bool.and_eq_true_iff.mp admitted).2
      · exact Works.refl conn vpn
  | sendClient reply =>
      simp only [VpnCapture.callback]
      split
      · exact remote2vpn_works vpn conn reply
      · exact Works.refl conn vpn
  | accountPacket =>
      simp only [VpnCapture.callback]
      split
      · next opened => exact updateConnStatus_works vpn conn (held (isOpen opened))
      · exact Works.refl conn vpn
  | connectionClose ndpi status =>
      exact announceClose_works ndpi vpn conn _ (ConnStatus.closing_closed status)
  | socketError =>
      simp only [VpnCapture.callback]
      split
      · exact setStatus_closed vpn conn .socketError rfl
      · exact Works.refl conn vpn

theorem runCallbacks_works (callbacks : List Callback)
    (held : conn ∈ vpn.connections → Held vpn conn) :
    Works conn vpn (runCallbacks conn callbacks vpn) := by
  induction callbacks generalizing vpn with
  | nil => exact Works.refl conn vpn
  | cons first rest ih =>
      have done := callback_works vpn conn first held
      exact done.trans (ih _ fun stays => done.own stays (held (done.connections.subset stays)))

end Calls

/-- The close callback does not unblock a connection. -/
theorem connectionClosed_blocked (ndpi : Ndpi) (vpn : Vpn) (conn : Slot)
    (blocked : (vpn.pd.heap conn.data).toBlock = true) :
    ((connectionClosed ndpi vpn conn).pd.heap conn.data).toBlock = true := by
  have notified : ∀ pd : Pd, (pd.heap conn.data).toBlock = true →
      ((pdNotifyConnectionUpdate ndpi pd conn.tuple conn.data).1.heap conn.data).toBlock = true := by
    intro pd blocked
    have ended : ((endDetection ndpi pd conn.tuple conn.data).heap conn.data).toBlock = true := by
      rw [endDetection_update, Function.update_self, concluded]
      split
      · exact BlockDecision.pdGiveupDpi_blocked _ ndpi conn.tuple _ blocked
      · exact blocked
    rw [pdNotifyConnectionUpdate, notifConnection_idle]
    split
    · exact ended
    · rw [(enqueue_spec _ .connsUpdates ⟨conn.tuple, conn.data⟩).heap]
      split
      · rw [Function.update_self]
        exact ended
      · exact ended
  have touched := notified (vpn.pd.modify conn.data fun data => data.touch CONN_UPDATE_STATS)
    (by rw [Pd.modify_heap_self]; exact blocked)
  simp only [connectionClosed]
  split
  · rw [pdPurgeConnection, access_heap]
    exact touched
  · rw [Pd.modify_heap_self, pdGiveupDpi, Pd.modify_heap_self]
    exact BlockDecision.pdGiveupDpi_blocked _ ndpi conn.tuple _ touched

structure Table (vpn : Vpn) : Prop where
  distinct : (vpn.connections.map Slot.data).Nodup
  held : ∀ conn ∈ vpn.connections, Held vpn conn
  unborn : ∀ ref, vpn.pd.created ≤ ref →
    (vpn.pd.heap ref).toPurge = false ∧ vpn.pd.purged ref = 0

def Vacant (vpn : Vpn) : Prop := ∀ conn ∈ vpn.connections, vpn.fwPctx conn.data = none

section Table

variable {conn : Slot} {before after : Vpn}

theorem Works.table (works : Works conn before after) (table : Table before)
    (member : conn ∈ before.connections) : Table after where
  distinct := (works.connections.map Slot.data).nodup table.distinct
  held other stays := by
    have listed := works.connections.subset stays
    have held := table.held other listed
    by_cases same : other.data = conn.data
    · obtain rfl := List.inj_on_of_nodup_map table.distinct listed member same
      exact works.own stays held
    · refine ⟨⟨?_, ?_⟩, works.records.unmarked _ same held.unmarked, ?_⟩
      · exact works.records.created ▸ held.alive.1
      · exact (works.records.purged _ same held.unmarked).trans held.alive.2
      · rw [works.statuses _ same]
        exact held.status
  unborn ref later := by
    rw [works.records.created] at later
    have other : ref ≠ conn.data :=
      Nat.ne_of_gt (Nat.lt_of_lt_of_le (table.held conn member).alive.1 later)
    obtain ⟨unmarked, unpurged⟩ := table.unborn ref later
    exact ⟨works.records.unmarked ref other unmarked,
      (works.records.purged ref other unmarked).trans unpurged⟩

theorem Works.stillVacant (works : Works conn before after) (vacant : Vacant before)
    (own : conn ∈ before.connections) : Vacant after := by
  intro other stays
  have none := vacant other (works.connections.subset stays)
  by_cases same : other.data = conn.data
  · rw [same]
    exact works.vacant (vacant conn own)
  · rw [works.contexts _ same, none]

theorem Untabled.table (same : Untabled before after) (table : Table before) : Table after where
  distinct := same.connections ▸ table.distinct
  held conn member := by
    rw [same.connections] at member
    have held := table.held conn member
    exact ⟨same.retains.alive _ held.alive held.unmarked, same.retains.unmarked _ held.unmarked,
      by rw [same.statuses]; exact held.status⟩
  unborn ref later := by
    rw [same.retains.created] at later
    obtain ⟨unmarked, unpurged⟩ := table.unborn ref later
    exact ⟨same.retains.unmarked ref unmarked, (same.retains.purged ref unmarked).trans unpurged⟩

theorem Untabled.stillVacant (same : Untabled before after) (vacant : Vacant before) :
    Vacant after := by
  intro conn member
  rw [same.contexts]
  exact vacant conn (same.connections ▸ member)

end Table

/-- A part of the loop that accounts no packet from the tunnel, with the table as it leaves it. -/
structure Passes (before after : Vpn) : Prop where
  turn : after.turn = before.turn
  table : Table after
  vacant : Vacant after
  log : Logs before after

namespace Passes

variable {before between after : Vpn}

theorem refl (vpn : Vpn) (table : Table vpn) (vacant : Vacant vpn) : Passes vpn vpn :=
  ⟨rfl, table, vacant, Logs.same rfl⟩

theorem trans (first : Passes before between) (last : Passes between after) :
    Passes before after :=
  ⟨last.turn.trans first.turn, last.table, last.vacant, first.log.trans last.log⟩

theorem of_untabled (same : Untabled before after) (table : Table before) (vacant : Vacant before) :
    Passes before after :=
  ⟨same.turn, same.table table, same.stillVacant vacant, same.log⟩

theorem of_works {conn : Slot} (works : Works conn before after)
    (member : conn ∈ before.connections) (table : Table before) (vacant : Vacant before) : Passes before after :=
  ⟨works.turn, works.table table member, works.stillVacant vacant member,
    works.log (vacant conn member)⟩

theorem foldl {Item : Type} (visit : Vpn → Item → Vpn) (items : List Item) (vpn : Vpn)
    (table : Table vpn) (vacant : Vacant vpn)
    (passes : ∀ current item, Table current → Vacant current → Passes current (visit current item)) :
    Passes vpn (items.foldl visit vpn) := by
  induction items generalizing vpn with
  | nil => exact refl vpn table vacant
  | cons item rest ih =>
      have first := passes vpn item table vacant
      exact first.trans (ih _ first.table first.vacant)

end Passes

section Loop

variable (vpn : Vpn) (table : Table vpn) (vacant : Vacant vpn)

theorem serve_works (work : Slot × List Callback) (table : Table vpn) :
    Works work.1 vpn (serve vpn work) := by
  unfold serve
  split
  · exact runCallbacks_works vpn work.1 work.2 fun member => table.held work.1 member
  · exact Works.refl work.1 vpn

theorem zdtunConnClose_works (closing : Closing) (status : ConnStatus) (conn : Slot)
    (table : Table vpn) : Works conn vpn (zdtunConnClose closing status vpn conn) :=
  serve_works vpn (conn, _) table

include table vacant

theorem serve_passes (work : Slot × List Callback) : Passes vpn (serve vpn work) := by
  by_cases opened : vpn.isOpen work.1 = true
  · exact Passes.of_works (serve_works vpn work table) (of_decide_eq_true opened) table vacant
  · rw [serve, if_neg opened]
    exact Passes.refl vpn table vacant

theorem zdtunConnClose_passes (closing : Closing) (status : ConnStatus) (conn : Slot) :
    Passes vpn (zdtunConnClose closing status vpn conn) :=
  serve_passes vpn table vacant _

theorem zdtunPurgeExpired_passes (idle : List (Slot × Closing)) :
    Passes vpn (zdtunPurgeExpired idle vpn) :=
  Passes.foldl _ idle vpn table vacant fun current item table vacant =>
    zdtunConnClose_passes current table vacant item.2 .closed item.1

omit vacant in
theorem older_created (conn : Slot) (member : conn ∈ vpn.connections) :
    conn.data ≠ vpn.pd.created := Nat.ne_of_lt (table.held conn member).alive.1

theorem created_passes (ndpi : Ndpi) (env : NewConnEnv) (tuple : Tuple) (uid : Int) (pd : Pd)
    (result : Option Ref) (outcome : pdNewConnection ndpi env vpn.pd tuple uid = (pd, result)) :
    Passes vpn { vpn with pd := pd } ∧
      ∀ ref, result = some ref →
        ref = vpn.pd.created ∧ pd.alive ref ∧ (pd.heap ref).toPurge = false := by
  have purged := pdNewConnection_purged ndpi env vpn.pd tuple uid
  rw [outcome] at purged
  rcases mark_frame.toQuietCreation.pdNewConnection ndpi env vpn.pd tuple uid pd result outcome with
    ⟨rfl, rfl⟩ | ⟨born, named⟩
  · exact ⟨Passes.refl vpn table vacant, fun ref present => by cases present⟩
  · have older : ∀ ref, ref ≠ vpn.pd.created → pd.purged ref = vpn.pd.purged ref := by
      intro ref other
      rcases purged with same | ⟨-, freed⟩
      · rw [same]
      · rw [freed, Function.update_of_ne other]
    refine ⟨⟨rfl, ⟨table.distinct, ?_, ?_⟩, vacant, Logs.same rfl⟩, ?_⟩
    · intro conn member
      have held := table.held conn member
      have other := older_created vpn table conn member
      refine ⟨⟨?_, (older conn.data other).trans held.alive.2⟩,
        (born.others conn.data other).trans held.unmarked, held.status⟩
      rw [born.created]
      exact Nat.lt_succ_of_lt held.alive.1
    · intro ref later
      have beyond : vpn.pd.created < ref := by
        dsimp only at later
        rw [born.created] at later
        exact later
      have other := Nat.ne_of_gt beyond
      obtain ⟨unmarked, unpurged⟩ := table.unborn ref (Nat.le_of_lt beyond)
      exact ⟨(born.others ref other).trans unmarked, (older ref other).trans unpurged⟩
    · rintro ref rfl
      obtain rfl : ref = vpn.pd.created := by
        rcases named with missing | same
        · cases missing
        · exact Option.some.inj same
      have unpurged : pd.purged vpn.pd.created = 0 := by
        rcases purged with same | ⟨missing, -⟩
        · rw [same]
          exact (table.unborn _ (Nat.le_refl _)).2
        · cases missing
      exact ⟨rfl, ⟨by rw [born.created]; exact Nat.lt_succ_self _, unpurged⟩, born.fresh⟩

theorem handleNewConnection_passes (ndpi : Ndpi) (env : NewConnEnv) (uid : Int) (tuple : Tuple) :
    Passes vpn (handleNewConnection ndpi env uid vpn tuple).1 ∧
      ∀ conn, (handleNewConnection ndpi env uid vpn tuple).2 = some conn →
        conn.data = vpn.pd.created ∧
          (handleNewConnection ndpi env uid vpn tuple).1.pd.alive conn.data ∧
          ((handleNewConnection ndpi env uid vpn tuple).1.pd.heap conn.data).toPurge = false ∧
          (handleNewConnection ndpi env uid vpn tuple).1.connections = vpn.connections := by
  rcases outcome : pdNewConnection ndpi env vpn.pd tuple (if 0 ≤ uid then uid else UID_UNKNOWN) with
    ⟨pd, result⟩
  obtain ⟨passes, fresh⟩ := created_passes vpn table vacant ndpi env tuple _ pd result outcome
  simp only [handleNewConnection, outcome]
  cases result with
  | none => exact ⟨passes, fun conn present => by cases present⟩
  | some ref =>
      refine ⟨passes, ?_⟩
      rintro conn present
      obtain rfl := Option.some.inj present
      obtain ⟨named, alive, unmarked⟩ := fresh ref rfl
      exact ⟨named, alive, unmarked, rfl⟩

theorem joined_passes (conn : Slot) (fresh : conn.data ∉ vpn.connections.map Slot.data)
    (alive : vpn.pd.alive conn.data) (unmarked : (vpn.pd.heap conn.data).toPurge = false) :
    Passes vpn
      { vpn with
        connections := vpn.connections ++ [conn]
        statuses := Function.update vpn.statuses conn.data .new
        fwPctx := Function.update vpn.fwPctx conn.data none } := by
  have other : ∀ known ∈ vpn.connections, known.data ≠ conn.data := by
    intro known member same
    exact fresh (same ▸ List.mem_map_of_mem member)
  refine ⟨rfl, ⟨?_, ?_, table.unborn⟩, ?_, Logs.same rfl⟩
  · rw [List.map_append, List.map_singleton]
    exact (List.nodup_append.mpr ⟨table.distinct, List.nodup_singleton _,
      fun ref known last this same => fresh (List.mem_singleton.mp this ▸ same ▸ known)⟩)
  · intro known member
    rcases List.mem_append.mp member with old | new
    · have held := table.held known old
      refine ⟨held.alive, held.unmarked, ?_⟩
      dsimp only
      rw [Function.update_of_ne (other known old)]
      exact held.status
    · obtain rfl := List.mem_singleton.mp new
      refine ⟨alive, unmarked, ?_⟩
      dsimp only
      rw [Function.update_self]
      rfl
  · intro known member
    dsimp only
    rcases List.mem_append.mp member with old | new
    · rw [Function.update_of_ne (other known old)]
      exact vacant known old
    · rw [List.mem_singleton.mp new, Function.update_self]

theorem zdtunLookup_passes (packet : TunPacket) (tuple : Tuple) (create : Bool) :
    Passes vpn (zdtunLookup packet vpn tuple create).1 ∧
      ∀ conn, (zdtunLookup packet vpn tuple create).2 = some conn →
        conn ∈ (zdtunLookup packet vpn tuple create).1.connections := by
  unfold zdtunLookup
  cases found : findConnection vpn.connections tuple with
  | some known =>
      refine ⟨Passes.refl vpn table vacant, fun conn present => ?_⟩
      obtain rfl := Option.some.inj present
      exact List.mem_of_find?_eq_some found
  | none =>
      cases create with
      | false => exact ⟨Passes.refl vpn table vacant, fun conn present => by cases present⟩
      | true =>
          have purged := zdtunPurgeExpired_passes vpn table vacant packet.forcePurge
          obtain ⟨passes, fresh⟩ := handleNewConnection_passes _ purged.table purged.vacant
            packet.ndpi packet.env packet.uid tuple
          rcases opened : handleNewConnection packet.ndpi packet.env packet.uid
              (zdtunPurgeExpired packet.forcePurge vpn) tuple with ⟨after, result⟩
          rw [opened] at passes fresh
          simp only [if_true, opened]
          cases result with
          | none => exact ⟨purged.trans passes, fun conn present => by cases present⟩
          | some conn =>
              obtain ⟨named, alive, unmarked, connections⟩ := fresh conn rfl
              have apart : conn.data ∉ after.connections.map Slot.data := by
                intro known
                obtain ⟨other, member, same⟩ := List.mem_map.mp known
                rw [connections] at member
                exact older_created _ purged.table other member (same.trans named)
              refine ⟨(purged.trans passes).trans (joined_passes after passes.table passes.vacant conn
                apart alive unmarked), fun other present => ?_⟩
              obtain rfl := Option.some.inj present
              exact List.mem_append_right _ List.mem_cons_self

end Loop

section Packet

variable (packet : TunPacket) (vpn : Vpn)

theorem checkDnsBlocked_mark (allowed : Bool) (data : PdConn) :
    (Detection.checkDnsBlocked allowed data).toPurge = data.toPurge := by
  unfold Detection.checkDnsBlocked
  split <;> rfl

theorem routeConnection_mark (config : VpnConfig) (policy : Policy) (tuple : Tuple)
    (data : PdConn) :
    (routeConnection config policy tuple data).toPurge = data.toPurge := by
  simp only [routeConnection, shouldProxify]
  split
  · split
    · rfl
    · split
      · split <;> rfl
      · split
        · split <;> rfl
        · split <;> rfl
  · rfl

theorem checkDnsRequest_untabled (pctx : PktContext) : Untabled vpn (checkDnsRequest vpn pctx) :=
  ⟨rfl, rfl, rfl, rfl, Retains.modify vpn.pd pctx.data _ (checkDnsBlocked_mark _ _), Logs.same rfl⟩

theorem spoofDnsReply_untabled (pctx : PktContext) :
    Untabled vpn (spoofDnsReply packet vpn pctx) := by
  unfold spoofDnsReply
  split
  · exact ⟨rfl, rfl, rfl, rfl, Retains.refl _, _, rfl, by simp [Action.isEgress]⟩
  · exact ⟨rfl, rfl, rfl, rfl, Retains.refl _, Logs.same rfl⟩

theorem spoofDnsReply_pd (pctx : PktContext) : (spoofDnsReply packet vpn pctx).pd = vpn.pd := by
  unfold spoofDnsReply
  split <;> rfl

/-- The checks of the first packet close a connection only if it is blocked. -/
theorem checkFirstPacket_passes (table : Table vpn) (vacant : Vacant vpn) (pctx : PktContext)
    (member : ⟨pctx.tuple, pctx.data⟩ ∈ vpn.connections) :
    Passes vpn (checkFirstPacket packet vpn pctx) ∧
      (((checkFirstPacket packet vpn pctx).pd.heap pctx.data).toBlock = true ∨
        ⟨pctx.tuple, pctx.data⟩ ∈ (checkFirstPacket packet vpn pctx).connections) := by
  have checked := checkDnsRequest_untabled vpn pctx
  simp only [checkFirstPacket]
  split
  · next spoofs =>
    obtain ⟨-, blocked, -, udp⟩ := spoofs
    have before := Passes.of_untabled (checked.trans (spoofDnsReply_untabled packet _ pctx)) table
      vacant
    refine ⟨before.trans (zdtunConnClose_passes _ before.table before.vacant _ _ _), Or.inl ?_⟩
    have other : ¬ IPPROTO_UDP = IPPROTO_TCP := by decide
    simp only [zdtunConnClose, udp, if_neg other, List.nil_append, serve]
    split
    · simp only [runCallbacks, List.foldl_cons, List.foldl_nil, callback]
      refine connectionClosed_blocked _ _ ⟨pctx.tuple, pctx.data⟩ ?_
      simp only [Vpn.setStatus, spoofDnsReply_pd]
      exact blocked
    · rw [spoofDnsReply_pd]
      exact blocked
  · exact ⟨Passes.of_untabled checked table vacant, Or.inr member⟩

/-- A packet that is to be forwarded belongs to an open connection. -/
theorem processTunPacket_passes (pkt : Pkt) (conn : Slot) (table : Table vpn) (vacant : Vacant vpn)
    (member : conn ∈ vpn.connections) :
    Passes vpn (processTunPacket packet pkt vpn conn).1 ∧
      ∀ pctx, (processTunPacket packet pkt vpn conn).2 = some pctx →
        ⟨pctx.tuple, pctx.data⟩ ∈ (processTunPacket packet pkt vpn conn).1.connections := by
  let pctx : PktContext := ⟨pkt, packet.ms, true, conn.tuple, conn.data⟩
  let routed := vpn.pd.modify conn.data (routeConnection vpn.config vpn.pd.policy conn.tuple)
  have processed : Untabled vpn
      { vpn with pd := pdProcessPacket packet.ndpi packet.payload routed pctx } := by
    have routes : Retains vpn.pd routed :=
      Retains.modify vpn.pd conn.data _ (routeConnection_mark _ _ _ _)
    exact ⟨rfl, rfl, rfl, rfl, routes.trans (Retains.process routed packet.ndpi packet.payload pctx),
      Logs.same rfl⟩
  have before := Passes.of_untabled processed table vacant
  obtain ⟨checked, stays⟩ := checkFirstPacket_passes packet _ before.table before.vacant pctx member
  simp only [processTunPacket]
  split
  · next blocked =>
    refine ⟨(before.trans checked).trans (Passes.of_untabled
      (blockPacket_untabled packet.ndpi _ conn) checked.table checked.vacant), ?_⟩
    exact fun pctx present => by cases present
  · next unblocked =>
    refine ⟨before.trans checked, fun admitted present => ?_⟩
    obtain rfl := Option.some.inj present
    exact stays.resolve_left unblocked

theorem acceptPacket_passes (table : Table vpn) (vacant : Vacant vpn) :
    Passes vpn (acceptPacket packet vpn).1 ∧
      ∀ pctx, (acceptPacket packet vpn).2 = some pctx →
        ⟨pctx.tuple, pctx.data⟩ ∈ (acceptPacket packet vpn).1.connections := by
  have rejected : ∀ after, Passes vpn after →
      Passes vpn (after, (none : Option PktContext)).1 ∧
        ∀ pctx, (after, (none : Option PktContext)).2 = some pctx →
          ⟨pctx.tuple, pctx.data⟩ ∈ (after, (none : Option PktContext)).1.connections :=
    fun after passes => ⟨passes, fun pctx present => by cases present⟩
  have counted : ∀ (current : Vpn) fragments dropped, Untabled current
      { current with numDiscardedFragments := fragments, numDroppedConnections := dropped } :=
    fun _ _ _ => ⟨rfl, rfl, rfl, rfl, Retains.refl _, Logs.same rfl⟩
  unfold acceptPacket
  cases packet.parsed with
  | none => exact rejected _ (Passes.refl vpn table vacant)
  | some pkt =>
      dsimp only
      split
      · exact rejected _ (Passes.of_untabled (counted vpn _ _) table vacant)
      · split
        · exact rejected _ (Passes.refl vpn table vacant)
        · obtain ⟨passes, listed⟩ := zdtunLookup_passes vpn table vacant packet pkt.tuple
            (!isTcpEstablished pkt)
          rcases lookup : zdtunLookup packet vpn pkt.tuple (!isTcpEstablished pkt) with
            ⟨found, result⟩
          rw [lookup] at passes listed
          cases result with
          | none =>
              dsimp only
              split
              · exact rejected _ (passes.trans
                  (Passes.of_untabled (counted found _ _) passes.table passes.vacant))
              · exact rejected _ passes
          | some conn =>
              obtain ⟨processed, admitted⟩ := processTunPacket_passes packet found pkt conn
                passes.table passes.vacant (listed conn rfl)
              exact ⟨passes.trans processed, admitted⟩

end Packet

end Ptnet.VpnCapture
