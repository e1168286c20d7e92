import Ptnet.CaptureCalls
import Ptnet.NotificationArray
import Ptnet.PdFrame

/-!
The delay of the connections dump while DNS requests of netd wait for their app: `perform_dpi`
adds it with the first request that waits, `pd_new_connection` takes it away with the last one that
is resolved, and the dump starts over. The number of waiting requests has no bound here.
-/

namespace Ptnet.Pcapdroid

open Connection
open Detection (Ndpi)
open NotificationArray (modify_nowMs)

/-- What `pd_run` waits before the first dump. -/
def FIRST_DUMP_MS : Nat := 500

/-- The state in which `pd_run` starts the capture. -/
def pdRun (config : Pd) (nowMs : Nat) : Pd :=
  { config with
    nowMs := nowMs
    netdResolveWaiting := 0
    nextConnectionsDump := nowMs + FIRST_DUMP_MS }

/-- What a request that waits adds. -/
def delay (pd : Pd) : Nat := if 0 < pd.netdResolveWaiting then NETD_RESOLVE_DELAY_MS else 0

/-- The next dump is later than its deadline by one delay, while a request waits: as a `u_int64_t`,
    and as a time where the clock is far from its end. -/
structure Delayed (deadline : Nat) (pd : Pd) : Prop where
  wrapped : pd.nextConnectionsDump % 2 ^ 64 = (deadline + delay pd) % 2 ^ 64
  exact : deadline < 2 ^ 64 → pd.nextConnectionsDump = deadline + delay pd

def KeepsDelay (before after : Pd) : Prop :=
  ∀ deadline, Delayed deadline before → Delayed deadline after

namespace KeepsDelay

theorem refl (pd : Pd) : KeepsDelay pd pd := fun _ => id

theorem trans {before between after : Pd} (first : KeepsDelay before between)
    (last : KeepsDelay between after) : KeepsDelay before after :=
  fun deadline delayed => last deadline (first deadline delayed)

theorem of_same {before after : Pd} (next : after.nextConnectionsDump = before.nextConnectionsDump)
    (waiting : after.netdResolveWaiting = before.netdResolveWaiting) : KeepsDelay before after := by
  intro deadline delayed
  have same : delay after = delay before := by rw [delay, delay, waiting]
  constructor
  · rw [next, same]
    exact delayed.wrapped
  · rw [next, same]
    exact delayed.exact

theorem relisted {before between after : Pd} (last : KeepsDelay between after)
    (next : between.nextConnectionsDump = before.nextConnectionsDump)
    (waiting : between.netdResolveWaiting = before.netdResolveWaiting) : KeepsDelay before after :=
  (of_same next waiting).trans last

/-- The first request that waits adds the delay. -/
theorem delayForNetd (pd : Pd) (data : PdConn) :
    KeepsDelay pd (Pcapdroid.delayForNetd pd data) := by
  unfold Pcapdroid.delayForNetd
  split
  · by_cases idle : pd.netdResolveWaiting = 0
    · have before : delay pd = 0 := by rw [delay, idle, if_neg (Nat.lt_irrefl 0)]
      rintro deadline ⟨wrapped, exact⟩
      rw [before] at wrapped exact
      simp only [idle, if_true]
      constructor
      · change (pd.nextConnectionsDump + 1000) % _ = (deadline + 1000) % _
        omega
      · intro fits
        rw [exact fits]
        rfl
    · have before : delay pd = NETD_RESOLVE_DELAY_MS := if_pos (Nat.pos_of_ne_zero idle)
      rintro deadline ⟨wrapped, exact⟩
      rw [before] at wrapped exact
      rw [if_neg idle]
      exact ⟨wrapped, exact⟩
  · exact refl pd

/-- The last one that is resolved takes it away. -/
theorem resolved (pd : Pd) (waiting : 0 < pd.netdResolveWaiting) :
    KeepsDelay pd { pd with
      netdResolveWaiting := pd.netdResolveWaiting - 1
      nextConnectionsDump :=
        if pd.netdResolveWaiting = 1 then subU64 pd.nextConnectionsDump NETD_RESOLVE_DELAY_MS
        else pd.nextConnectionsDump } := by
  have before : delay pd = NETD_RESOLVE_DELAY_MS := if_pos waiting
  rintro deadline ⟨wrapped, exact⟩
  rw [before] at wrapped exact
  by_cases last : pd.netdResolveWaiting = 1
  · simp only [last, if_true]
    constructor
    · change subU64 pd.nextConnectionsDump 1000 % _ = (deadline + 0) % _
      change _ = (deadline + 1000) % _ at wrapped
      rw [subU64]
      omega
    · intro fits
      change subU64 pd.nextConnectionsDump 1000 = deadline + 0
      rw [exact fits, subU64]
      change (deadline + 1000 + _ - 1000) % _ = _
      omega
  · have after : 0 < pd.netdResolveWaiting - 1 := by omega
    rw [if_neg last]
    constructor
    · rw [delay, if_pos after]
      exact wrapped
    · rw [delay, if_pos after]
      exact exact

theorem modify (pd : Pd) (ref : Ref) (change : PdConn → PdConn) :
    KeepsDelay pd (pd.modify ref change) :=
  of_same (modify_nextConnectionsDump pd ref change) (modify_netdResolveWaiting pd ref change)

/-- Nothing else that the core does to its variables touches the delay. -/
theorem frame : StateFrame (fun _ _ => True) KeepsDelay where
  quiet := always_frame.toQuietFrame
  refl := refl
  trans := trans
  modify pd ref change _ := modify pd ref change
  misused _ := of_same rfl rfl
  crashed _ := of_same rfl rfl
  sent _ _ := of_same rfl rfl
  listed _ _ _ _ := of_same rfl rfl
  counted _ := of_same rfl rfl
  delayed := delayForNetd
  resolved := resolved

theorem freed (pd : Pd) (purged : Ref → Nat) : KeepsDelay pd { pd with purged := purged } :=
  of_same rfl rfl

theorem completeConn (env : NewConnEnv) (uid : Int) (pd notified : Pd) (tuple : Tuple)
    (ref : Ref) : KeepsDelay notified (Pcapdroid.completeConn env uid pd notified tuple ref) := by
  have numbered : KeepsDelay notified
      { notified.modify ref (numberConn pd uid) with newConnId := pd.newConnId + 1 } :=
    (modify notified ref (numberConn pd uid)).trans (of_same rfl rfl)
  have hosted := frame.attributeHost always_frame.toQuietCreation
    { notified.modify ref (numberConn pd uid) with newConnId := pd.newConnId + 1 } ref env.lruHost
  exact (numbered.trans hosted).trans (modify _ ref _)

theorem pdNewConnection (ndpi : Ndpi) (env : NewConnEnv) (pd : Pd) (tuple : Tuple) (uid : Int) :
    KeepsDelay pd (Pcapdroid.pdNewConnection ndpi env pd tuple uid).1 := by
  have born : KeepsDelay pd (allocateConn pd) := of_same rfl rfl
  have notified := born.trans
    (frame.notifConnection (allocateConn pd) ndpi .newConns tuple pd.created)
  have purged : ∀ current, KeepsDelay pd current →
      KeepsDelay pd (pdPurgeConnection current pd.created) := fun current kept =>
    kept.trans (frame.pdPurgeConnection current freed pd.created)
  rw [Pcapdroid.pdNewConnection]
  split
  · exact refl pd
  · simp only
    split
    · exact purged _ born
    · split
      · exact purged _ notified
      · exact notified.trans (completeConn env uid pd _ tuple pd.created)

theorem call (before after : Pd) (made : CaptureCall before after) : KeepsDelay before after := by
  cases made with
  | access ref => exact frame.access before ref
  | refreshTime nowMs => exact of_same rfl rfl
  | allocator reallocs => exact of_same rfl rfl
  | request wanted => exact of_same rfl rfl
  | write ref change own => exact modify before ref change
  | notify ndpi tuple ref => exact frame.notifConnection before ndpi .connsUpdates tuple ref
  | giveup ndpi ref tuple => exact modify before ref _
  | process ndpi result pctx => exact frame.pdProcessPacket before ndpi result pctx
  | account ndpi pctx => exact frame.pdAccountStats before ndpi pctx fun _ _ _ _ => trivial
  | create ndpi env tuple uid => exact pdNewConnection ndpi env before tuple uid
  | purge ref => exact frame.pdPurgeConnection before freed ref

theorem lists (pass : Pass) (active : List Slot) (pd : Pd) :
    KeepsDelay pd (loadDecryptionList (loadFirewallLists pass.ndpi active
      (loadMalwareWhitelist pass.ndpi active pd))) := by
  have visited : ∀ current, KeepsDelay current
      (active.foldl (checkBlockedConnCb pass.ndpi) current) := fun current =>
    frame.foldl current _ active fun now slot => frame.checkBlockedConnCb now pass.ndpi slot
  have whitelisted : ∀ current, KeepsDelay current
      (loadMalwareWhitelist pass.ndpi active current) := by
    intro current
    unfold loadMalwareWhitelist
    split
    · next list _ =>
        exact relisted (frame.foldl _ _ active fun now slot =>
          frame.checkBlacklistedConnCb now pass.ndpi list slot) rfl rfl
    · exact refl current
  have listed : ∀ current, KeepsDelay current (loadFirewallLists pass.ndpi active current) := by
    intro current
    unfold loadFirewallLists
    split
    · exact relisted (visited _) rfl rfl
    · exact relisted (visited _) rfl rfl
    · exact refl current
  have decrypting : ∀ current, KeepsDelay current (loadDecryptionList current) := by
    intro current
    unfold loadDecryptionList
    split <;> exact of_same rfl rfl
  exact ((whitelisted pd).trans (listed _)).trans (decrypting _)

end KeepsDelay

theorem nowMs_frame :
    StateFrame (fun _ _ => True) fun before after => after.nowMs = before.nowMs where
  quiet := always_frame.toQuietFrame
  refl _ := rfl
  trans first last := last.trans first
  modify pd ref change _ := modify_nowMs pd ref change
  misused _ := rfl
  crashed _ := rfl
  sent _ _ := rfl
  listed _ _ _ _ := rfl
  counted _ := rfl
  delayed pd data := by
    unfold delayForNetd
    split <;> rfl
  resolved _ _ := rfl

/-- The deadline that is scheduled after a pass: the dump schedules the next one. -/
def deadlineAfter (pd : Pd) (deadline : Nat) : Nat :=
  if dumpsConnections pd then pd.nowMs + CONNECTION_DUMP_UPDATE_FREQUENCY_MS else deadline

theorem dumpConnections_delayed (jni : Jni) (pd : Pd) :
    Delayed (pd.nowMs + CONNECTION_DUMP_UPDATE_FREQUENCY_MS) (dumpConnections jni pd) := by
  have freed : ∀ (current : Pd) (purged : Ref → Nat),
      { current with purged := purged }.nowMs = current.nowMs := fun _ _ => rfl
  have now : (dumpConnections jni pd).nowMs = pd.nowMs := by
    simp only [dumpConnections]
    split
    · exact ((nowMs_frame.connsClear _ freed .connsUpdates false).trans
        (nowMs_frame.connsClear _ freed .newConns false)).trans
          (nowMs_frame.steps.sendConnectionsDump jni pd)
    · rfl
  have next : (dumpConnections jni pd).nextConnectionsDump =
      (dumpConnections jni pd).nowMs + CONNECTION_DUMP_UPDATE_FREQUENCY_MS := rfl
  have idle : delay (dumpConnections jni pd) = 0 := rfl
  constructor
  · rw [next, now, idle, Nat.add_zero]
  · intro _
    rw [next, now, idle, Nat.add_zero]

theorem periodicTask_delayed (pass : Pass) (pd : Pd) (deadline : Nat)
    (delayed : Delayed deadline pd) :
    Delayed (deadlineAfter pd deadline) (periodicTask pass pd) := by
  have kept : ∀ after : Pd, after.nextConnectionsDump = pd.nextConnectionsDump →
      after.netdResolveWaiting = pd.netdResolveWaiting → Delayed deadline after :=
    fun after next waiting => KeepsDelay.of_same next waiting deadline delayed
  by_cases due : dumpsConnections pd = true
  · obtain ⟨quiet, late⟩ := (Bool.and_eq_true _ _).mp due
    have task : periodicTask pass pd = dumpConnections pass.jni pd := by
      rw [periodicTask, if_neg (by simpa using quiet), if_pos (of_decide_eq_true late)]
    rw [deadlineAfter, if_pos due, task]
    exact dumpConnections_delayed pass.jni pd
  · rw [deadlineAfter, if_neg due]
    unfold periodicTask
    split
    · exact kept _ rfl rfl
    · next quiet =>
        have early : ¬ pd.nextConnectionsDump ≤ pd.nowMs := fun late =>
          due (by simp [dumpsConnections, quiet, late])
        rw [if_neg early]
        split
        · exact delayed
        · split
          · split
            · exact kept _ rfl rfl
            · exact delayed
          · exact delayed

theorem pdHousekeeping_delayed (pass : Pass) (active : List Slot) (pd : Pd) (deadline : Nat)
    (delayed : Delayed deadline pd) :
    Delayed (deadlineAfter pd deadline) (pdHousekeeping pass active pd) :=
  KeepsDelay.lists pass active (periodicTask pass pd) _
    (periodicTask_delayed pass pd deadline delayed)

section Runs

/-- A capture that was started at a time, at any point between two calls to the core, with the
    deadline that was scheduled last: by `pd_run`, or by the dump. -/
inductive Reached (config : Pd) (nowMs : Nat) : Pd → Nat → Prop where
  | start (begun : Pd) (same : begun.nextConnectionsDump = (pdRun config nowMs).nextConnectionsDump)
      (idle : begun.netdResolveWaiting = (pdRun config nowMs).netdResolveWaiting) :
      Reached config nowMs begun (nowMs + FIRST_DUMP_MS)
  | call {before after : Pd} {deadline : Nat} (earlier : Reached config nowMs before deadline)
      (made : CaptureCall before after) : Reached config nowMs after deadline
  | housekeeping {before : Pd} {deadline : Nat} (earlier : Reached config nowMs before deadline)
      (pass : Pass) (active : List Slot) :
      Reached config nowMs (pdHousekeeping pass active before) (deadlineAfter before deadline)

theorem Reached.calls {config : Pd} {nowMs deadline : Nat} {before after : Pd}
    (earlier : Reached config nowMs before deadline) (calls : CaptureCalls before after) :
    Reached config nowMs after deadline := by
  induction calls with
  | refl => exact earlier
  | tail _ last ih => exact ih.call last

theorem Reached.delayed {config : Pd} {nowMs deadline : Nat} {pd : Pd}
    (reached : Reached config nowMs pd deadline) : Delayed deadline pd := by
  induction reached with
  | start begun same idle =>
      have none : delay begun = 0 := by
        rw [delay, idle]
        rfl
      constructor
      · rw [same, none]
        rfl
      · intro _
        rw [same, none]
        rfl
  | call _ made ih => exact KeepsDelay.call _ _ made _ ih
  | housekeeping _ pass active ih => exact pdHousekeeping_delayed pass active _ _ ih

/-- The next dump against its deadline. The clock is a `u_int64_t`, so that a deadline which does
    not fit is none the clock can meet. -/
structure OnTime (deadline : Nat) (pd : Pd) : Prop where
  delayed : Delayed deadline pd
  notForward : deadline < 2 ^ 64 → dumpsConnections pd = true → deadline ≤ pd.nowMs
  notPostponed : deadline < 2 ^ 64 → sendsStats pd = false →
    deadline + NETD_RESOLVE_DELAY_MS ≤ pd.nowMs → dumpsConnections pd = true

theorem Delayed.onTime {deadline : Nat} {pd : Pd} (delayed : Delayed deadline pd) :
    OnTime deadline pd where
  delayed := delayed
  notForward fits dumps := by
    have late := of_decide_eq_true ((Bool.and_eq_true _ _).mp dumps).2
    rw [delayed.exact fits] at late
    exact Nat.le_trans (Nat.le_add_right deadline (delay pd)) late
  notPostponed fits quiet late := by
    have most : delay pd ≤ NETD_RESOLVE_DELAY_MS := by
      unfold delay
      split
      · exact Nat.le_refl _
      · exact Nat.zero_le _
    rw [dumpsConnections, quiet, Bool.not_false, Bool.true_and, delayed.exact fits]
    exact decide_eq_true (Nat.le_trans (Nat.add_le_add_left most deadline) late)

/-- At every point of every capture the next dump is later than its deadline by one delay while
    requests of netd wait, and by nothing otherwise. -/
theorem netd_delay_kept (config : Pd) (nowMs : Nat) (pd : Pd) (deadline : Nat)
    (reached : Reached config nowMs pd deadline) : OnTime deadline pd :=
  reached.delayed.onTime

end Runs

end Ptnet.Pcapdroid

namespace Ptnet.LibpcapCapture

open Pcapdroid

def scheduled (current : Libpcap × Nat) (event : Event) : Libpcap × Nat :=
  (step current.1 event,
    match event with
    | .housekeeping _ => deadlineAfter current.1.pd current.2
    | _ => current.2)

theorem scheduled_reached (config : Pd) (nowMs : Nat) (current : Libpcap × Nat) (event : Event)
    (earlier : Reached config nowMs current.1.pd current.2) :
    Reached config nowMs (scheduled current event).1.pd (scheduled current event).2 := by
  by_cases busy : ∃ pass, event = .housekeeping pass
  · obtain ⟨pass, rfl⟩ := busy
    exact earlier.housekeeping pass current.1.connections
  · have calls := step_calls current.1 event fun pass same => busy ⟨pass, same⟩
    cases event with
    | housekeeping pass => exact absurd ⟨pass, rfl⟩ busy
    | _ => exact earlier.calls calls

theorem run_reached (config : Pd) (nowMs : Nat) (pcapFileCapture : Bool) (events : List Event) :
    let reached := Machine.run scheduled
      (start (pdRun config nowMs) pcapFileCapture, nowMs + FIRST_DUMP_MS) events
    Reached config nowMs reached.1.pd reached.2 :=
  Machine.run_invariant_always scheduled (fun current => Reached config nowMs current.1.pd current.2)
    (scheduled_reached config nowMs) _ events (.start _ rfl rfl)

end Ptnet.LibpcapCapture

namespace Ptnet.VpnCapture

open Pcapdroid

def scheduled (current : Vpn × Nat) (event : Event) : Vpn × Nat :=
  (step current.1 event,
    match event with
    | .loopTurn turn =>
        if current.1.running && !current.1.finalized then
          deadlineAfter (handleInput (current.1.refreshTime turn.nowMs) turn.input).pd current.2
        else current.2
    | _ => current.2)

theorem loopTurn_reached (config : Pd) (nowMs : Nat) (vpn : Vpn) (deadline : Nat) (turn : Turn)
    (earlier : Reached config nowMs vpn.pd deadline) :
    Reached config nowMs (loopTurn turn vpn).pd
      (deadlineAfter (handleInput (vpn.refreshTime turn.nowMs) turn.input).pd deadline) := by
  let handled := handleInput (vpn.refreshTime turn.nowMs) turn.input
  let kept := { handled with pd := pdHousekeeping turn.pass handled.connections handled.pd }
  have done : Reached config nowMs kept.pd (deadlineAfter handled.pd deadline) :=
    (earlier.calls (handleInput_calls vpn turn.nowMs turn.input)).housekeeping turn.pass
      handled.connections
  unfold loopTurn
  dsimp only
  split
  · exact done.calls (zdtunPurgeExpired_calls kept turn.idle)
  · exact done

theorem scheduled_reached (config : Pd) (nowMs : Nat) (current : Vpn × Nat) (event : Event)
    (earlier : Reached config nowMs current.1.pd current.2) :
    Reached config nowMs (scheduled current event).1.pd (scheduled current event).2 := by
  cases event with
  | allocator reallocs => exact earlier.call (.allocator reallocs)
  | request wanted => exact earlier.call (.request wanted)
  | stop => exact earlier
  | loopTurn turn =>
      simp only [scheduled, step]
      split
      · exact loopTurn_reached config nowMs current.1 current.2 turn earlier
      · exact earlier
  | finalize closings =>
      simp only [scheduled, step]
      split
      · exact earlier
      · exact earlier.calls (zdtunFinalize_calls current.1 closings)

theorem run_reached (settings : Pd) (nowMs : Nat) (config : VpnConfig) (events : List Event) :
    let reached := Machine.run scheduled
      (start (pdRun settings nowMs) config, nowMs + FIRST_DUMP_MS) events
    Reached settings nowMs reached.1.pd reached.2 :=
  Machine.run_invariant_always scheduled
    (fun current => Reached settings nowMs current.1.pd current.2)
    (scheduled_reached settings nowMs) _ events (.start _ rfl rfl)

end Ptnet.VpnCapture

namespace Ptnet.Pcapdroid

section Example

open Connection
open CaptureClient (idleConfig plainNdpi webTuple)

def netdRequest : LibpcapCapture.Arrival where
  hdr := { uid := UID_NETD, isTx := true, ms := 5000 }
  parsed := some { tuple := { webTuple with dstPort := 53, ipproto := IPPROTO_UDP } }
  ndpi := { plainNdpi with processPacket := fun flow => (flow, ⟨NDPI_PROTOCOL_DNS, 0⟩) }

theorem netd_delay_kept_request :
    let reached := Machine.run LibpcapCapture.scheduled
      (LibpcapCapture.start (pdRun idleConfig 5000) false, 5000 + FIRST_DUMP_MS)
      [.packet netdRequest]
    reached.1.pd.netdResolveWaiting = 1 ∧ reached.1.pd.nextConnectionsDump = 6500 ∧
      OnTime reached.2 reached.1.pd :=
  ⟨by decide +kernel, by decide +kernel,
    netd_delay_kept idleConfig 5000 _ _
      (LibpcapCapture.run_reached idleConfig 5000 false [.packet netdRequest])⟩

end Example

end Ptnet.Pcapdroid
