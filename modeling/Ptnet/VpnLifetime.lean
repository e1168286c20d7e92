import Ptnet.VpnEgress

/-!
The life of a record in a VPN capture. The record of a connection belongs to zdtun until the close
callback hands it to the notification arrays, from which a dump or the end of the capture frees it.
While zdtun serves a connection its record stays alive, closed or not.
-/

namespace Ptnet.VpnCapture

open Connection Pcapdroid
open CaptureClient (keptBy mem_keptBy)
open Detection (Ndpi Policy)
open LibpcapCapture (findConnection removeConnection)

/-- The books while zdtun works on one connection. -/
structure Tends (conn : Slot) (vpn : Vpn) : Prop where
  ledger : Ledger vpn.pd (keptBy vpn.connections)
  growth : GrowthOk vpn.pd
  alive : vpn.pd.alive conn.data
  own : ∀ context, vpn.fwPctx conn.data = some context → context.pctx.data = conn.data
  held : conn ∈ vpn.connections → Held vpn conn

section Calls

variable (ndpi : Ndpi) (vpn : Vpn) (conn : Slot) (ready : Ready vpn.pd)
  (alive : vpn.pd.alive conn.data)

include ready alive

theorem blockPacket_progress : Progress vpn.pd (blockPacket ndpi vpn conn).pd := by
  let count : PdConn → PdConn := fun data =>
    { data with blockedPkts := data.blockedPkts + 1 }.touch CONN_UPDATE_STATS
  have counted : Progress vpn.pd (vpn.pd.modify conn.data count) := by
    refine Progress.of_revised (modify_revised vpn.pd conn.data count alive ?_)
    have more : Revised (vpn.pd.heap conn.data) { vpn.pd.heap conn.data with
        blockedPkts := (vpn.pd.heap conn.data).blockedPkts + 1 } :=
      ⟨⟨rfl, rfl, rfl, rfl⟩, BitVec.and_self⟩
    exact more.trans (touch_revised _ CONN_UPDATE_STATS)
  refine counted.trans (notify_progress ndpi _ conn.tuple conn.data (counted.ready ready)
    ((counted.alive conn.data).mpr alive) ?_)
  rw [Pd.modify_heap_self]
  exact touch_dirty _ _ (by decide)

theorem accountForwarded_progress
    (own : ∀ context, vpn.fwPctx conn.data = some context → context.pctx.data = conn.data) :
    Progress vpn.pd (accountForwarded ndpi vpn conn.data).pd := by
  have used : vpn.pd.access conn.data = vpn.pd := Pd.access_alive vpn.pd conn.data alive
  cases published : vpn.published conn.data with
  | none =>
      rw [accountForwarded_none ndpi vpn conn.data published]
      exact used.symm ▸ Progress.refl vpn.pd
  | some context =>
      have named : context.pctx.data = conn.data := by
        rw [Vpn.published, if_pos alive] at published
        exact own context published
      rw [accountForwarded_some ndpi vpn conn.data context published, used]
      exact pdAccountStats_progress ndpi vpn.pd context.pctx ready (named ▸ alive)

theorem remote2vpn_progress (reply : Reply)
    (own : ∀ context, vpn.fwPctx conn.data = some context → context.pctx.data = conn.data) :
    Progress vpn.pd (remote2vpn reply vpn conn).1.pd := by
  let pctx : PktContext := ⟨reply.pkt, reply.ms, false, conn.tuple, conn.data⟩
  let accounted := accountForwarded reply.ndpi vpn conn.data
  let refreshed : Pd := { accounted.pd with nowMs := reply.nowMs }
  let processed := pdProcessPacket reply.ndpi reply.payload refreshed pctx
  have first := accountForwarded_progress reply.ndpi vpn conn ready alive own
  have second : Progress vpn.pd refreshed := first.trans
    (relist_progress _ _ ⟨⟨rfl, rfl, rfl, rfl, rfl, rfl, rfl, rfl, id⟩, rfl, rfl⟩ rfl)
  have third : Progress vpn.pd processed := second.trans
    (pdProcessPacket_progress reply.ndpi reply.payload refreshed pctx (second.ready ready)
      ((second.alive conn.data).mpr alive))
  have still : processed.alive conn.data := (third.alive conn.data).mpr alive
  simp only [remote2vpn]
  split
  · exact Progress.refl vpn.pd
  · split
    · exact third.trans (blockPacket_progress reply.ndpi { accounted with pd := processed } conn
        (third.ready ready) still)
    · split
      · exact third.trans (pdAccountStats_progress reply.ndpi processed pctx (third.ready ready)
          still)
      · exact third
      · exact third
      · exact third

end Calls

section Contexts

variable (ndpi : Ndpi) (vpn : Vpn) (conn : Slot)

/-- An account publishes nothing. -/
theorem accountForwarded_contexts (ref other : Ref) (context : Context)
    (present : (accountForwarded ndpi vpn ref).fwPctx other = some context) :
    vpn.fwPctx other = some context := by
  cases published : vpn.published ref with
  | none =>
      rw [accountForwarded_none ndpi vpn ref published] at present
      exact present
  | some waiting =>
      rw [accountForwarded_some ndpi vpn ref waiting published] at present
      by_cases same : other = ref
      · subst same
        simp at present
      · exact (Function.update_of_ne same _ _).symm.trans present

theorem accountForwarded_connections (ref : Ref) :
    (accountForwarded ndpi vpn ref).connections = vpn.connections := by
  unfold accountForwarded
  dsimp only
  split <;> rfl

theorem remote2vpn_contexts (reply : Reply) (other : Ref) (context : Context)
    (present : (remote2vpn reply vpn conn).1.fwPctx other = some context) :
    vpn.fwPctx other = some context := by
  by_cases running : vpn.running = true
  · rw [(remote2vpn_untabled vpn conn reply running).contexts] at present
    exact accountForwarded_contexts reply.ndpi vpn conn.data other context present
  · simpa only [remote2vpn, running, Bool.not_false, if_true] using present

theorem remote2vpn_connections (reply : Reply) :
    (remote2vpn reply vpn conn).1.connections = vpn.connections := by
  by_cases running : vpn.running = true
  · exact (remote2vpn_untabled vpn conn reply running).connections.trans
      (accountForwarded_connections reply.ndpi vpn conn.data)
  · simp only [remote2vpn, running, Bool.not_false, if_true]

theorem connectionClosed_queued (notified : Pd)
    (queued : notifConnection ndpi (vpn.pd.modify conn.data fun data =>
      data.touch CONN_UPDATE_STATS) .connsUpdates conn.tuple conn.data = (notified, true)) :
    connectionClosed ndpi vpn conn =
      { vpn with
        pd := (pdGiveupDpi ndpi notified conn.data conn.tuple).modify conn.data
          (closeRecord (vpn.statuses conn.data)) } := by
  simp only [connectionClosed, pdNotifyConnectionUpdate, queued]
  rfl

end Contexts

/-- The status a callback sets is announced by one; that of a socket which could not be opened is
    not. -/
def Callback.isAnnounced : Callback → Bool
  | .socketError => false
  | _ => true

namespace Tends

variable {conn : Slot} {vpn : Vpn} (tends : Tends conn vpn)

include tends

theorem ready : Ready vpn.pd := ledger_ready vpn.pd _ tends.ledger tends.growth

theorem progress (after : Vpn) (works : Works conn vpn after)
    (connections : after.connections = vpn.connections) (progress : Progress vpn.pd after.pd)
    (contexts : ∀ context, after.fwPctx conn.data = some context →
      vpn.fwPctx conn.data = some context) : Tends conn after where
  ledger := connections ▸ progress.ledger _ tends.ledger
  growth := progress.growth tends.growth
  alive := (progress.alive conn.data).mpr tends.alive
  own context present := tends.own context (contexts context present)
  held stays := works.own stays (tends.held (connections ▸ stays))

theorem modify (after : Vpn) (change : PdConn → PdConn) (works : Works conn vpn after)
    (connections : after.connections = vpn.connections)
    (pd : after.pd = vpn.pd.modify conn.data change) (contexts : after.fwPctx = vpn.fwPctx)
    (marks : SameMarks (vpn.pd.heap conn.data) (change (vpn.pd.heap conn.data))) :
    Tends conn after where
  ledger := by
    rw [connections, pd]
    exact modify_ledger vpn.pd _ conn.data change tends.ledger tends.alive marks
  growth := by
    rw [pd]
    exact (modify_same vpn.pd conn.data change tends.alive).growth tends.growth
  alive := by
    rw [pd]
    exact ((modify_same vpn.pd conn.data change tends.alive).alive conn.data).mpr tends.alive
  own context present := tends.own context (contexts ▸ present)
  held stays := works.own stays (tends.held (connections ▸ stays))

/-- The close callback hands the record over: it is queued, and marked to be freed. -/
theorem closes (ndpi : Ndpi) (status : ConnStatus) (closed : status.isClosed = true) :
    Tends conn (connectionClosed ndpi (vpn.setStatus conn status) conn) := by
  let closing := vpn.setStatus conn status
  let touched := vpn.pd.modify conn.data fun data => data.touch CONN_UPDATE_STATS
  have first : Progress vpn.pd touched :=
    Progress.of_revised (modify_revised vpn.pd conn.data _ tends.alive (touch_revised _ _))
  have ready := first.ready tends.ready
  have held : touched.alive conn.data := (first.alive conn.data).mpr tends.alive
  have dirty : (touched.heap conn.data).updateType ≠ 0 := by
    rw [Pd.modify_heap_self]
    exact touch_dirty _ _ (by decide)
  -- the growth is granted, so that the callback keeps the record
  obtain ⟨notified, result, queued⟩ := notifConnection_spec ndpi touched .connsUpdates conn.tuple
    conn.data ready.packed held ready.growth
  have second : Progress touched notified := by
    have progress := notify_progress ndpi touched conn.tuple conn.data ready held dirty
    rwa [pdNotifyConnectionUpdate, result] at progress
  have third := pdGiveupDpi_progress ndpi notified conn.tuple conn.data
    ((second.alive conn.data).mpr held)
  let ended := pdGiveupDpi ndpi notified conn.data conn.tuple
  have before : Progress vpn.pd ended := (first.trans second).trans third
  have still : ended.alive conn.data := (before.alive conn.data).mpr tends.alive
  have pending : (ended.heap conn.data).pendingNotification = true :=
    third.pending conn.data (by rw [queued.pending]; simp)
  let change := closeRecord (closing.statuses conn.data)
  have equal : connectionClosed ndpi (vpn.setStatus conn status) conn =
      { closing with pd := ended.modify conn.data change } :=
    connectionClosed_queued ndpi closing conn notified result
  have kept : Ledger (ended.modify conn.data change) (keptBy vpn.connections) :=
    modify_ledger ended _ conn.data change (before.ledger _ tends.ledger) still
      ⟨rfl, fun _ => rfl⟩
  have fewer : closing.connections = removeConnection vpn.connections conn := by
    simp only [closing, Vpn.setStatus, closed, if_true]
  have works := announceClose_works ndpi vpn conn status closed
  have same := modify_same ended conn.data change still
  rw [equal] at works ⊢
  refine ⟨?_, same.growth (before.growth tends.growth), (same.alive conn.data).mpr still, tends.own,
    fun stays => works.own stays (tends.held (works.connections.subset stays))⟩
  dsimp only
  rw [fewer]
  -- zdtun forgets the connection, whose record is queued and marked by now
  refine CaptureClient.ledger_release _ _ _ kept ?_ ?_
  · rintro ref ⟨slot, listed, rfl⟩
    exact ⟨slot, List.mem_of_mem_filter listed, rfl⟩
  · rintro ref ⟨slot, listed, rfl⟩ gone
    have this : slot.data = conn.data := by
      by_contra differs
      exact gone ⟨slot, List.mem_filter.mpr ⟨listed, decide_eq_true differs⟩, rfl⟩
    rw [this, Pd.modify_heap_self]
    exact ⟨rfl, pending⟩

theorem callback (callback : Callback) (announced : callback.isAnnounced = true) :
    Tends conn (VpnCapture.callback conn vpn callback) := by
  have works := callback_works vpn conn callback tends.held
  cases callback with
  | stop => exact tends.progress _ works rfl (Progress.refl _) fun _ present => present
  | advance status =>
      simp only [VpnCapture.callback] at works ⊢
      split
      · next admitted =>
        rw [if_pos admitted] at works
        have live : status.isClosed = false := by
          simpa using (Bool.and_eq_true_iff.mp admitted).2
        refine tends.progress _ works ?_ (Progress.refl _) fun _ present => present
        simp only [Vpn.setStatus, live, Bool.false_eq_true, if_false]
      · exact tends
  | sendClient reply =>
      simp only [VpnCapture.callback] at works ⊢
      split
      · next opened =>
        rw [if_pos opened] at works
        exact tends.progress _ works (remote2vpn_connections vpn conn reply)
          (remote2vpn_progress vpn conn tends.ready tends.alive reply tends.own)
          (remote2vpn_contexts vpn conn reply conn.data)
      · exact tends
  | accountPacket =>
      simp only [VpnCapture.callback] at works ⊢
      split
      · next opened =>
        rw [if_pos opened] at works
        exact tends.modify _ (followStatus (vpn.statuses conn.data)) works rfl rfl rfl
          ⟨rfl, fun marked => by rw [followStatus, marked, Bool.true_or]⟩
      · exact tends
  | connectionClose ndpi status => exact tends.closes ndpi _ (ConnStatus.closing_closed status)
  | socketError => cases announced

theorem run (callbacks : List Callback)
    (announced : ∀ callback ∈ callbacks, callback.isAnnounced = true) :
    Tends conn (runCallbacks conn callbacks vpn) := by
  induction callbacks generalizing vpn with
  | nil => exact tends
  | cons first rest ih =>
      exact ih (tends.callback first (announced first List.mem_cons_self))
        fun later member => announced later (List.mem_cons_of_mem first member)

theorem serve (callbacks : List Callback)
    (announced : ∀ callback ∈ callbacks, callback.isAnnounced = true) :
    Tends conn (VpnCapture.serve vpn (conn, callbacks)) := by
  unfold VpnCapture.serve
  split
  · exact tends.run callbacks announced
  · exact tends

theorem closeConn (closing : Closing) (status : ConnStatus)
    (announced : ∀ callback ∈ closing.reset, callback.isAnnounced = true) :
    Tends conn (zdtunConnClose closing status vpn conn) := by
  refine tends.serve _ fun callback member => ?_
  rcases List.mem_append.mp member with reset | last
  · split at reset
    · exact announced callback reset
    · exact absurd reset List.not_mem_nil
  · rw [List.mem_singleton.mp last]
    rfl

end Tends

section Packet

variable (packet : TunPacket) {vpn : Vpn} {conn : Slot} (tends : Tends conn vpn)

include tends

theorem checkFirstPacket_tends (pctx : PktContext) (same : ⟨pctx.tuple, pctx.data⟩ = conn)
    (announced : ∀ callback ∈ packet.closing.reset, callback.isAnnounced = true) :
    Tends conn (checkFirstPacket packet vpn pctx) := by
  subst same
  let conn : Slot := ⟨pctx.tuple, pctx.data⟩
  have checked : Tends conn (checkDnsRequest vpn pctx) := by
    refine tends.modify _ _ (Works.of_untabled (checkDnsRequest_untabled vpn pctx)) rfl rfl rfl
      ⟨?_, ?_⟩
    · unfold Detection.checkDnsBlocked
      split <;> rfl
    · exact fun marked => (checkDnsBlocked_mark _ _).trans marked
  have untabled := spoofDnsReply_untabled packet (checkDnsRequest vpn pctx) pctx
  have spoofed : Tends conn (spoofDnsReply packet (checkDnsRequest vpn pctx) pctx) := by
    refine checked.progress _ (Works.of_untabled untabled) untabled.connections ?_ ?_
    · rw [spoofDnsReply_pd]
      exact Progress.refl _
    · rw [untabled.contexts]
      exact fun _ present => present
  simp only [checkFirstPacket]
  split
  · exact spoofed.closeConn packet.closing .closed announced
  · exact checked

/-- A packet that was read leaves the record alive, also where its connection is closed. -/
theorem processTunPacket_tends (pkt : Pkt)
    (announced : ∀ callback ∈ packet.closing.reset, callback.isAnnounced = true) :
    Tends conn (processTunPacket packet pkt vpn conn).1 := by
  let pctx : PktContext := ⟨pkt, packet.ms, true, conn.tuple, conn.data⟩
  let route := routeConnection vpn.config vpn.pd.policy conn.tuple
  let routed : Vpn := { vpn with pd := vpn.pd.modify conn.data route }
  have first : Tends conn routed := by
    have untabled : Untabled vpn routed := ⟨rfl, rfl, rfl, rfl,
      Retains.modify vpn.pd conn.data _ (routeConnection_mark _ _ _ _), Logs.same rfl⟩
    refine tends.modify routed route (Works.of_untabled untabled) rfl rfl rfl ⟨?_, ?_⟩
    · simp only [route, routeConnection, shouldProxify]
      repeat' split
      all_goals rfl
    · exact fun marked => (routeConnection_mark _ _ _ _).trans marked
  let processed : Vpn :=
    { routed with pd := pdProcessPacket packet.ndpi packet.payload routed.pd pctx }
  have second : Tends conn processed := by
    have untabled : Untabled routed processed := ⟨rfl, rfl, rfl, rfl,
      Retains.process routed.pd packet.ndpi packet.payload pctx, Logs.same rfl⟩
    exact first.progress processed (Works.of_untabled untabled) rfl
      (pdProcessPacket_progress packet.ndpi packet.payload routed.pd pctx first.ready first.alive)
      fun _ present => present
  have third : Tends conn (checkFirstPacket packet processed pctx) :=
    checkFirstPacket_tends packet second pctx rfl announced
  simp only [processTunPacket]
  split
  · exact third.progress _ (Works.of_untabled (blockPacket_untabled packet.ndpi _ conn)) rfl
      (blockPacket_progress packet.ndpi _ conn third.ready third.alive) fun _ present => present
  · exact third

end Packet

/-- The books between two pieces of work: a record that is alive belongs to an open connection or
    waits to be freed. -/
structure Owns (vpn : Vpn) : Prop where
  sound : Sound vpn
  ledger : Ledger vpn.pd (keptBy vpn.connections)
  growth : GrowthOk vpn.pd

def announces (callbacks : List Callback) : Bool := callbacks.all Callback.isAnnounced

theorem announces_iff (callbacks : List Callback) :
    announces callbacks = true ↔ ∀ callback ∈ callbacks, callback.isAnnounced = true :=
  List.all_eq_true

def Closing.announced (closing : Closing) : Bool := announces closing.reset

def TunPacket.announced (packet : TunPacket) : Bool :=
  packet.forcePurge.all (fun item => item.2.announced) && announces packet.forward &&
    packet.closing.announced

def Input.announced : Input → Bool
  | .tunPacket packet => packet.announced
  | .readError => true
  | .sockets works => works.all fun work => announces work.2

def Turn.announced (turn : Turn) : Bool :=
  turn.input.announced && turn.idle.all fun item => item.2.announced

namespace Owns

variable {vpn : Vpn} (owns : Owns vpn)

include owns

theorem tends (conn : Slot) (member : conn ∈ vpn.connections) : Tends conn vpn where
  ledger := owns.ledger
  growth := owns.growth
  alive := (owns.sound.table.held conn member).alive
  own context present := by
    rw [owns.sound.vacant conn member] at present
    cases present
  held := owns.sound.table.held conn

theorem tended {conn : Slot} {after : Vpn} (passes : Passes vpn after) (tends : Tends conn after) :
    Owns after := ⟨owns.sound.passes passes, tends.ledger, tends.growth⟩

theorem serve (work : Slot × List Callback) (announced : announces work.2 = true) :
    Owns (VpnCapture.serve vpn work) := by
  by_cases opened : vpn.isOpen work.1 = true
  · have tends := owns.tends work.1 (of_decide_eq_true opened)
    exact owns.tended (serve_passes vpn owns.sound.table owns.sound.vacant work)
      (tends.serve work.2 ((announces_iff _).mp announced))
  · rw [VpnCapture.serve, if_neg opened]
    exact owns

theorem closeConn (closing : Closing) (status : ConnStatus) (conn : Slot)
    (announced : closing.announced = true) : Owns (zdtunConnClose closing status vpn conn) := by
  refine owns.serve _ ?_
  rw [announces, List.all_append]
  refine Bool.and_eq_true_iff.mpr ⟨?_, rfl⟩
  split
  · exact announced
  · rfl

theorem foldl {Item : Type} (visit : Vpn → Item → Vpn) (items : List Item)
    (keeps : ∀ item ∈ items, ∀ current, Owns current → Owns (visit current item)) :
    Owns (items.foldl visit vpn) := by
  induction items generalizing vpn with
  | nil => exact owns
  | cons item rest ih =>
      exact ih (keeps item List.mem_cons_self vpn owns) fun later member =>
        keeps later (List.mem_cons_of_mem item member)

theorem purgeExpired (idle : List (Slot × Closing))
    (announced : ∀ item ∈ idle, item.2.announced = true) : Owns (zdtunPurgeExpired idle vpn) :=
  owns.foldl _ idle fun item member _ owns =>
    owns.closeConn item.2 .closed item.1 (announced item member)

/-- A record that could be queued as new is kept for its connection. -/
theorem created (ndpi : Ndpi) (env : NewConnEnv) (uid : Int) (tuple : Tuple) :
    let created := handleNewConnection ndpi env uid vpn tuple
    Ledger created.1.pd (keptBy (created.1.connections ++ created.2.toList)) ∧
      GrowthOk created.1.pd := by
  have ledger := owns.ledger
  simp only [handleNewConnection]
  rcases pdNewConnection_spec ndpi env vpn.pd tuple (if 0 ≤ uid then uid else UID_UNKNOWN) _ ledger
    owns.growth with ⟨after, ref, result, opened⟩ | ⟨after, result, refused⟩
  · rw [result]
    refine ⟨?_, opened.growth⟩
    have kept := CaptureClient.keptBy_opened vpn.connections [] ⟨tuple, ref⟩
    rw [List.append_nil, List.append_nil] at kept
    dsimp only [Option.toList]
    rw [kept]
    exact opened.ledger _ ledger
  · rw [result]
    dsimp only [Option.toList]
    rw [List.append_nil]
    refine ⟨refused_ledger vpn.pd after refused _ ledger, ?_⟩
    rcases refused with rfl | rfl
    · exact owns.growth
    · have born := (allocateConn_alive vpn.pd _ ledger vpn.pd.created).mpr (Or.inr rfl)
      rw [pdPurgeConnection_alive _ _ born]
      exact owns.growth

theorem lookup (packet : TunPacket) (announced : packet.announced = true) (tuple : Tuple)
    (create : Bool) : Owns (zdtunLookup packet vpn tuple create).1 := by
  have passes := (zdtunLookup_passes vpn owns.sound.table owns.sound.vacant packet tuple create).1
  have sound := owns.sound.passes passes
  simp only [TunPacket.announced, Bool.and_eq_true, List.all_eq_true] at announced
  have purged := owns.purgeExpired packet.forcePurge announced.1.1
  have created := purged.created packet.ndpi packet.env packet.uid tuple
  unfold zdtunLookup at sound ⊢
  cases found : findConnection vpn.connections tuple with
  | some conn => exact owns
  | none =>
      cases create with
      | false => exact owns
      | true =>
          rw [found] at sound
          rcases opened : handleNewConnection packet.ndpi packet.env packet.uid
              (zdtunPurgeExpired packet.forcePurge vpn) tuple with ⟨after, result⟩
          simp only [if_true, opened] at created sound ⊢
          cases result with
          | none =>
              rw [Option.toList, List.append_nil] at created
              exact ⟨sound, created.1, created.2⟩
          | some conn => exact ⟨sound, created.1, created.2⟩

theorem accept (packet : TunPacket) (announced : packet.announced = true) :
    Owns (acceptPacket packet vpn).1 := by
  have passes := (acceptPacket_passes packet vpn owns.sound.table owns.sound.vacant).1
  have reset : ∀ callback ∈ packet.closing.reset, callback.isAnnounced = true := by
    simp only [TunPacket.announced, Bool.and_eq_true] at announced
    exact (announces_iff _).mp announced.2
  have sound := owns.sound.passes passes
  unfold acceptPacket at sound ⊢
  cases parsed : packet.parsed with
  | none => exact owns
  | some pkt =>
      rw [parsed] at sound
      dsimp only at sound ⊢
      split at sound
      · next fragment =>
        rw [if_pos fragment]
        exact ⟨sound, owns.ledger, owns.growth⟩
      · next whole =>
        rw [if_neg whole]
        split at sound
        · next ignored =>
          rw [if_pos ignored]
          exact owns
        · next looked =>
          rw [if_neg looked]
          have found := owns.lookup packet announced pkt.tuple (!isTcpEstablished pkt)
          have listed := (zdtunLookup_passes vpn owns.sound.table owns.sound.vacant packet pkt.tuple
            (!isTcpEstablished pkt)).2
          rcases outcome : zdtunLookup packet vpn pkt.tuple (!isTcpEstablished pkt) with
            ⟨after, result⟩
          rw [outcome] at sound found listed
          cases result with
          | none =>
              dsimp only at sound ⊢
              split at sound <;> rename_i create
              · rw [if_pos create]
                exact ⟨sound, found.ledger, found.growth⟩
              · rw [if_neg create]
                exact found
          | some conn =>
              have tends := processTunPacket_tends packet (found.tends conn (listed conn rfl)) pkt
                reset
              exact ⟨sound, tends.ledger, tends.growth⟩

/-- While a packet is forwarded its context is published in the record of its connection. -/
theorem publishes (pctx : PktContext) (member : ⟨pctx.tuple, pctx.data⟩ ∈ vpn.connections) :
    Tends ⟨pctx.tuple, pctx.data⟩ (publish vpn pctx) := by
  have tends := owns.tends _ member
  have same : (publish vpn pctx).pd = vpn.pd := Pd.access_alive vpn.pd pctx.data tends.alive
  have table := publish_table vpn pctx owns.sound.table
  refine ⟨?_, ?_, ?_, fun context present => ?_, table.held _⟩
  · rw [same]
    exact owns.ledger
  · rw [same]
    exact owns.growth
  · rw [same]
    exact tends.alive
  · simp only [publish, Function.update_self, Option.some.injEq] at present
    rw [← present]

theorem forward (packet : TunPacket) (announced : packet.announced = true) (pctx : PktContext)
    (member : ⟨pctx.tuple, pctx.data⟩ ∈ vpn.connections) :
    Owns (forwardPacket packet vpn pctx) := by
  let conn : Slot := ⟨pctx.tuple, pctx.data⟩
  let forwarded := VpnCapture.serve (publish vpn pctx) (conn, packet.forward)
  simp only [TunPacket.announced, Bool.and_eq_true] at announced
  have served : Tends conn forwarded := (owns.publishes pctx member).serve packet.forward
    ((announces_iff _).mp announced.1.2)
  have tends : Tends conn (forwardPacket packet vpn pctx) := by
    unfold forwardPacket zdtunForward
    dsimp only
    split
    · obtain ⟨count, dropped⟩ := countFailure_eq forwarded conn
      have counted : Tends conn (countFailure forwarded conn) := by
        rw [dropped]
        exact ⟨served.ledger, served.growth, served.alive, served.own, fun stays =>
          ⟨(served.held stays).alive, (served.held stays).unmarked, (served.held stays).status⟩⟩
      exact counted.closeConn packet.closing .error ((announces_iff _).mp announced.2)
    · have accounted : Tends conn (accountForwarded packet.ndpi forwarded conn.data) :=
        served.progress _ (accountForwarded_works packet.ndpi forwarded conn)
          (accountForwarded_connections packet.ndpi forwarded conn.data)
          (accountForwarded_progress packet.ndpi forwarded conn served.ready served.alive
            served.own)
          (accountForwarded_contexts packet.ndpi forwarded conn.data conn.data)
      refine accounted.modify _ (writePort packet conn.tuple)
        (Works.of_untabled (recordPort_untabled packet _ conn)) rfl rfl rfl ⟨?_, ?_⟩
      · unfold writePort
        repeat' split
        all_goals rfl
      · exact fun marked => (writePort_mark packet _ _).trans marked
  exact ⟨owns.sound.forwarded member (forwardPacket_forwarded owns.sound.table member),
    tends.ledger, tends.growth⟩

theorem tunPacket (packet : TunPacket) (announced : packet.announced = true) :
    Owns (handleTunPacket packet vpn) := by
  have accepted := owns.accept packet announced
  have listed := (acceptPacket_passes packet vpn owns.sound.table owns.sound.vacant).2
  have sound := owns.sound.tunPacket packet
  unfold handleTunPacket at sound ⊢
  rcases outcome : acceptPacket packet vpn with ⟨admitted, result⟩
  rw [outcome] at accepted listed sound
  cases result with
  | none => exact ⟨sound, accepted.ledger, accepted.growth⟩
  | some pctx =>
      have forwarded := accepted.forward packet announced pctx (listed pctx rfl)
      exact ⟨sound, forwarded.ledger, forwarded.growth⟩

theorem reset (after : Vpn) (sound : Sound after)
    (connections : after.connections = vpn.connections) (same : Progress vpn.pd after.pd) :
    Owns after where
  sound := sound
  ledger := connections ▸ same.ledger _ owns.ledger
  growth := same.growth owns.growth

theorem input (input : Input) (announced : input.announced = true) :
    Owns (handleInput vpn input) := by
  cases input with
  | tunPacket packet => exact owns.tunPacket packet announced
  | readError => exact owns
  | sockets works =>
      exact owns.foldl _ works fun work member _ owns =>
        owns.serve work (List.all_eq_true.mp announced work member)

theorem keptHouse (turn : Turn) (announced : ∀ item ∈ turn.idle, item.2.announced = true)
    (spares : dumpsConnections vpn.pd = true → Spares turn.pass.jni vpn.pd) :
    Owns (keepHouse turn vpn) := by
  have sound := owns.sound.passes (owns.sound.keptHouse turn)
  let kept : Vpn := { vpn with pd := pdHousekeeping turn.pass vpn.connections vpn.pd }
  -- the mark is set when zdtun closes the connection, so that no open one is freed by the dump
  have unmarked : ∀ ref ∈ keptBy vpn.connections, (vpn.pd.heap ref).toPurge = true →
      ref ∉ vpn.pd.queued := by
    rintro ref ⟨conn, member, rfl⟩ marked
    rw [(owns.sound.table.held conn member).unmarked] at marked
    cases marked
  obtain ⟨ledger, growth⟩ := pdHousekeeping_ledger turn.pass vpn.connections vpn.pd _ owns.ledger
    owns.growth spares unmarked fun slot member => ⟨slot, member, rfl⟩
  have passes : Passes vpn kept := Passes.of_untabled
    ⟨rfl, rfl, rfl, rfl, Retains.pdHousekeeping vpn.pd turn.pass vpn.connections, Logs.same rfl⟩
    owns.sound.table owns.sound.vacant
  have books : Owns kept := ⟨owns.sound.passes passes, ledger, growth⟩
  simp only [keepHouse] at sound ⊢
  split at sound <;> rename_i due
  · rw [if_pos due]
    have purged := books.purgeExpired turn.idle announced
    exact ⟨sound, purged.ledger, purged.growth⟩
  · rw [if_neg due]
    exact books

end Owns

/-- No growth of a notification array fails. -/
def GrantsGrowth : Event → Prop
  | .allocator reallocs => ∀ answer ∈ reallocs, answer = true
  | _ => True

/-- A dump that fails loses no record but those that it frees. -/
def SparesRecords (vpn : Vpn) : Event → Prop
  | .loopTurn turn =>
      let handled := handleInput (vpn.refreshTime turn.nowMs) turn.input
      (vpn.running && !vpn.finalized) = true → dumpsConnections handled.pd = true →
        Spares turn.pass.jni handled.pd
  | _ => True

/-- No socket is refused to a TCP or ICMP connection. -/
def GetsSockets (vpn : Vpn) : Event → Prop
  | .loopTurn turn => turn.announced = true
  | .finalize closings => ∀ conn ∈ vpn.connections, (closings conn).announced = true
  | _ => True

structure Meets (vpn : Vpn) (event : Event) : Prop where
  growth : GrantsGrowth event
  dump : SparesRecords vpn event
  sockets : GetsSockets vpn event

instance (event : Event) : Decidable (GrantsGrowth event) := by
  cases event <;> unfold GrantsGrowth <;> infer_instance

instance (jni : Jni) (pd : Pd) : Decidable (Spares jni pd) :=
  inferInstanceAs (Decidable (∀ ref ∈ pd.queued, ref ∉ clearedBy jni pd → _))

instance (vpn : Vpn) (event : Event) : Decidable (SparesRecords vpn event) := by
  cases event <;> unfold SparesRecords <;> infer_instance

instance (vpn : Vpn) (event : Event) : Decidable (GetsSockets vpn event) := by
  cases event <;> unfold GetsSockets <;> infer_instance

instance (vpn : Vpn) (event : Event) : Decidable (Meets vpn event) :=
  decidable_of_iff (GrantsGrowth event ∧ SparesRecords vpn event ∧ GetsSockets vpn event)
    ⟨fun ⟨growth, dump, sockets⟩ => ⟨growth, dump, sockets⟩,
      fun meets => ⟨meets.growth, meets.dump, meets.sockets⟩⟩

theorem Owns.finalize {vpn : Vpn} (owns : Owns vpn) (closings : Slot → Closing)
    (announced : ∀ conn ∈ vpn.connections, (closings conn).announced = true) :
    Owns (zdtunFinalize closings vpn) := by
  have purged := owns.purgeExpired (vpn.connections.map fun conn => (conn, closings conn)) (by
    intro item member
    obtain ⟨conn, listed, rfl⟩ := List.mem_map.mp member
    exact announced conn listed)
  refine purged.reset _ ?_ rfl (Progress.refl _)
  exact purged.sound.untabled ⟨rfl, rfl, rfl, rfl, Retains.refl _, Logs.same rfl⟩

theorem Owns.step {vpn : Vpn} (owns : Owns vpn) (event : Event) (meets : Meets vpn event) :
    Owns (VpnCapture.step vpn event) := by
  have sound := owns.sound.step event
  cases event with
  | allocator reallocs =>
      refine owns.reset _ sound rfl (relist_progress _ _ ⟨?_, rfl, rfl⟩ rfl)
      exact ⟨rfl, rfl, rfl, rfl, rfl, rfl, rfl, rfl, fun _ => meets.growth⟩
  | request wanted =>
      refine owns.reset _ sound rfl (relist_progress _ _ ⟨?_, rfl, rfl⟩ rfl)
      exact ⟨rfl, rfl, rfl, rfl, rfl, rfl, rfl, rfl, id⟩
  | stop => exact owns.reset _ sound rfl (Progress.refl _)
  | loopTurn turn =>
      simp only [VpnCapture.step]
      split
      · next runs =>
        have announced := meets.sockets
        simp only [GetsSockets, Turn.announced, Bool.and_eq_true, List.all_eq_true] at announced
        have refreshed : Owns (vpn.refreshTime turn.nowMs) :=
          owns.reset _ (owns.sound.refreshed turn.nowMs) rfl
            (relist_progress _ _ ⟨⟨rfl, rfl, rfl, rfl, rfl, rfl, rfl, rfl, id⟩, rfl, rfl⟩ rfl)
        rw [loopTurn_eq]
        exact (refreshed.input turn.input announced.1).keptHouse turn announced.2
          (meets.dump runs)
      · exact owns
  | finalize closings =>
      simp only [VpnCapture.step]
      split
      · exact owns
      · exact owns.finalize closings meets.sockets

/-- The purge leaves none of the connections it is given open. -/
theorem zdtunPurgeExpired_closes (idle : List (Slot × Closing)) (vpn : Vpn) (table : Table vpn)
    (vacant : Vacant vpn) (conn : Slot)
    (member : conn ∈ (zdtunPurgeExpired idle vpn).connections) :
    conn ∈ vpn.connections ∧ conn ∉ idle.map Prod.fst := by
  induction idle generalizing vpn with
  | nil => exact ⟨member, List.not_mem_nil⟩
  | cons item rest ih =>
      have first := zdtunConnClose_passes vpn table vacant item.2 .closed item.1
      obtain ⟨stays, unlisted⟩ := ih _ first.table first.vacant member
      have works := zdtunConnClose_works vpn item.2 .closed item.1 table
      refine ⟨works.connections.subset stays, fun listed => ?_⟩
      rcases List.mem_cons.mp listed with rfl | later
      · exact zdtunConnClose_closes vpn item.2 .closed item.1 stays
      · exact unlisted later

theorem zdtunFinalize_closes (closings : Slot → Closing) (vpn : Vpn) (table : Table vpn)
    (vacant : Vacant vpn) : (zdtunFinalize closings vpn).connections = [] := by
  rw [List.eq_nil_iff_forall_not_mem]
  intro conn member
  obtain ⟨listed, missed⟩ := zdtunPurgeExpired_closes _ vpn table vacant conn member
  refine missed (List.mem_map.mpr ⟨(conn, closings conn), ?_, rfl⟩)
  exact List.mem_map_of_mem listed

/-- No record has been used after it was freed, and none was freed twice. -/
structure Lawful (pd : Pd) : Prop where
  unused : pd.misused = false
  once : ∀ ref, pd.purged ref ≤ 1

/-- What is asked of a capture that has got so far, and of its end if the loop stops here. -/
structure Lives (vpn : Vpn) : Prop where
  lawful : Lawful vpn.pd
  ends : ∀ closings, GetsSockets vpn (.finalize closings) → ∀ jni,
    let ended := finish jni (zdtunFinalize closings vpn)
    Lawful ended ∧ ∀ ref < ended.created, ended.purged ref = 1

theorem Owns.lawful {vpn : Vpn} (owns : Owns vpn) : Lawful vpn.pd :=
  ⟨owns.ledger.sound.2, owns.ledger.once⟩

/-- When zdtun has closed all connections, the last dump frees what is left. -/
theorem Owns.finished {vpn : Vpn} (owns : Owns vpn) (closed : vpn.connections = []) (jni : Jni) :
    Lawful (finish jni vpn) ∧
      ∀ ref < (finish jni vpn).created, (finish jni vpn).purged ref = 1 := by
  have ledger := owns.ledger
  obtain ⟨between, dumped, java, -, equal⟩ := sendConnectionsDump_clear jni vpn.pd _ ledger true
  have queued : ∀ ref, vpn.pd.alive ref → ref ∈ vpn.pd.queued := by
    intro ref alive
    rcases ledger.covered ref alive with ⟨slot, member, -⟩ | ⟨-, queued⟩
    · rw [closed] at member
      exact absurd member List.not_mem_nil
    · exact queued
  unfold finish
  rw [equal]
  refine ⟨⟨dumped.misused.trans ledger.sound.2, fun ref => ?_⟩, fun ref born => ?_⟩
  · dsimp only [freed]
    split
    · exact Nat.le_refl 1
    · exact ledger.once ref
  · dsimp only [freed]
    split
    · rfl
    · next unqueued =>
      rw [Bool.or_true, and_iff_left rfl] at unqueued
      have spent : vpn.pd.purged ref ≠ 0 :=
        fun unpurged => unqueued (queued ref ⟨dumped.created ▸ born, unpurged⟩)
      have atMost := ledger.once ref
      omega

theorem Owns.lives {vpn : Vpn} (owns : Owns vpn) : Lives vpn where
  lawful := owns.lawful
  ends closings announced jni :=
    (owns.finalize closings announced).finished
      (zdtunFinalize_closes closings vpn owns.sound.table owns.sound.vacant) jni

theorem start_owns (settings : Pd) (config : VpnConfig) : Owns (start settings config) where
  sound := start_sound settings config
  ledger := (CaptureClient.start_valid settings).ledger
  growth := (CaptureClient.start_valid settings).growth

/-- The life of the records in every run in which no growth of a notification array fails, no dump
    loses a record, and no socket is refused. -/
theorem connection_lifetime (settings : Pd) (config : VpnConfig) (events : List Event)
    (meets : Machine.Along step Meets (start settings config) events) :
    Lives (Machine.run step (start settings config) events) :=
  (Machine.run_invariant step Meets Owns (fun _ event owns meets => owns.step event meets) _ events
    meets (start_owns settings config)).lives

section Example

open CaptureClient (plainNdpi idleConfig webTuple)
open LibpcapCapture (TH_SYN TH_ACK TH_RST)

def turnAt (nowMs : Nat) (input : Input) (jni : Jni) : Event :=
  .loopTurn { nowMs := nowMs, input := input, pass := { jni := jni, ndpi := fun _ => plainNdpi } }

/-- The SYN of a new connection; `failed` is for a socket that cannot be opened. -/
def synPacket (forward : List Callback) (failed : Bool) : Input :=
  .tunPacket
    { parsed := some { tuple := webTuple, len := 60, thFlags := TH_SYN }
      ndpi := plainNdpi, closing := { ndpi := plainNdpi }, uid := 10100
      forward := forward, failed := failed }

def connects : Input := synPacket [.advance .connecting, .accountPacket] false

def segment (flags : BitVec 8) (written : Written) : Callback :=
  .sendClient
    { pkt := { tuple := webTuple, len := 40, thFlags := flags }
      nowMs := 10, ms := 10, ndpi := plainNdpi, written := written }

/-- A close whose reset cannot be written into the tunnel: the close callback is called twice. -/
def brokenClose : List Callback :=
  [segment TH_RST .part, .connectionClose plainNdpi .clientError,
    .connectionClose plainNdpi .closed]

/-- Three connections: the first one ends with a broken close, the second one in a turn whose dump
    fails with nothing but its record waiting, the third one is open when the loop stops. -/
def busyTurns : List Event :=
  [.allocator [true, true], turnAt 0 connects {},
    turnAt 10 (.sockets [(⟨webTuple, 0⟩,
      [.advance .connected, segment (TH_SYN ||| TH_ACK) .whole, .accountPacket])]) {},
    turnAt 20 (.tunPacket (datagram [.advance .connected, .accountPacket])) {},
    turnAt 1000 (.sockets [(⟨webTuple, 0⟩, brokenClose)]) {},
    turnAt 2500 (.sockets [(⟨{ webTuple with dstPort := 3478, ipproto := IPPROTO_UDP }, 1⟩,
      [.connectionClose plainNdpi .closed])]) { arrays := false },
    turnAt 2600 connects {}]

theorem connection_lifetime_busy :
    let reached := Machine.run step (start idleConfig {}) busyTurns
    Lives reached ∧ reached.pd.created = 3 ∧ reached.pd.purged 0 = 1 ∧ reached.pd.purged 1 = 1 ∧
      reached.connections = [⟨webTuple, 2⟩] :=
  ⟨connection_lifetime idleConfig {} busyTurns (by decide +kernel), by decide +kernel⟩

def refusedSocket : List Event := [turnAt 0 (synPacket [.socketError] true) {}]

def refusedGrowth : List Event :=
  [turnAt 0 connects {}, .allocator [false], turnAt 10 (.sockets [(⟨webTuple, 0⟩, brokenClose)]) {}]

def lostDump : List Event := [turnAt 0 connects { arrays := false }]

/-- A socket that is refused leaves a record nobody frees, a growth that fails a freed record that
    the second close callback uses, and a dump that fails a record that no queue holds. -/
theorem faults_breakLifetime :
    (Machine.Along step (fun vpn event => GrantsGrowth event ∧ SparesRecords vpn event)
        (start idleConfig {}) refusedSocket ∧
      ¬ Lives (Machine.run step (start idleConfig {}) refusedSocket)) ∧
    (Machine.Along step (fun vpn event => SparesRecords vpn event ∧ GetsSockets vpn event)
        (start idleConfig {}) refusedGrowth ∧
      ¬ Lives (Machine.run step (start idleConfig {}) refusedGrowth)) ∧
    (Machine.Along step (fun vpn event => GrantsGrowth event ∧ GetsSockets vpn event)
        (start idleConfig {}) lostDump ∧
      ¬ Lives (Machine.run step (start idleConfig {}) lostDump)) := by
  let closings : Slot → Closing := fun _ => { ndpi := plainNdpi }
  refine ⟨⟨by decide +kernel, fun lives => ?_⟩, ⟨by decide +kernel, fun lives => ?_⟩,
    ⟨by decide +kernel, fun lives => ?_⟩⟩
  · have freed := (lives.ends closings (by decide +kernel) {}).2 0 (by decide +kernel)
    revert freed
    decide +kernel
  · have unused := lives.lawful.unused
    revert unused
    decide +kernel
  · have freed := (lives.ends closings (by decide +kernel) {}).2 0 (by decide +kernel)
    revert freed
    decide +kernel

end Example

end Ptnet.VpnCapture
