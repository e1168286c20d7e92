import Ptnet.ListReload

/-!
The firewall settings a user changes while connections are active: the switch of the
firewall, the mode of the whitelist and the two lists. A list takes effect with the pass of
housekeeping that installs it and checks every active connection again; the switch is a
field that nothing else follows.
-/

namespace Ptnet.FirewallSwitch

open Machine Connection Detection Pcapdroid
open BlockDecision (Agrees recheckBlocked_eq reference)
open ListReload (Kind Submission)

/-- A `reload*` function run to its end: the list waits in `new_bl`. -/
def reloadBlocklist (pd : Pd) (blocklist : Submission) : Except String Pd :=
  match ListReload.reloadBlocklist pd.settings with
  | .error message => .error message
  | .ok () =>
      match blocklist.load Kind.blocklist.failure with
      | .error message => .error message
      | .ok bl => .ok { pd with firewallNewBl := some bl }

def reloadFirewallWhitelist (pd : Pd) (whitelist : Option Submission) : Except String Pd :=
  match ListReload.reloadFirewallWhitelist pd.settings with
  | .error message => .error message
  | .ok () =>
      match whitelist with
      | none =>
          .ok { pd with
            policy := { pd.policy with firewall := { pd.policy.firewall with wlEnabled := false } } }
      | some whitelist =>
          match whitelist.load Kind.firewallWhitelist.failure with
          | .error message => .error message
          | .ok wl =>
              .ok { pd with
                firewallNewWl := some wl
                policy := { pd.policy with
                  firewall := { pd.policy.firewall with wlEnabled := true } } }

def nativeSetFirewallEnabled (pd : Pd) (enabled : Bool) : Pd :=
  { pd with policy := { pd.policy with firewall := { pd.policy.firewall with enabled := enabled } } }

namespace CaptureService

/-- The fields stay null: the lines of `onStartCommand` that assigned them are commented out. -/
def mBlocklist : Option Submission := none
def mFirewallWhitelist : Option Submission := none

/-- `mBilling` with what its `isFirewallVisible` returns; the result of the native call is
    dropped. -/
def reloadBlocklist (mBilling : Option Bool) (pd : Pd) : Except String Pd :=
  if mBilling = some true then
    match mBlocklist with
    | none => .error "NullPointerException"
    | some list => .ok ((FirewallSwitch.reloadBlocklist pd list).toOption.getD pd)
  else .ok pd

/-- The descriptor is asserted non-null too, which throws when the whitelist mode is off. -/
def reloadFirewallWhitelist (mBilling : Option Bool) (mode : Bool) (pd : Pd) : Except String Pd :=
  match mBilling with
  | none => .error "NullPointerException"
  | some false => .ok pd
  | some true =>
      match if mode then mFirewallWhitelist else none with
      | none => .error "NullPointerException"
      | some list => .ok ((FirewallSwitch.reloadFirewallWhitelist pd (some list)).toOption.getD pd)

end CaptureService

/-- The native calls, whose Kotlin types admit no null list, the two methods of the service
    that call them, and the passes of housekeeping. -/
inductive Action where
  | setFirewallEnabled (enabled : Bool)
  | reloadBlocklist (list : Submission)
  | reloadFirewallWhitelist (list : Submission)
  | serviceReloadBlocklist (mBilling : Option Bool)
  | serviceReloadFirewallWhitelist (mBilling : Option Bool) (mode : Bool)
  | housekeeping (pass : Pass)

/-- A user action or a pass of housekeeping over the `active` connections. A call that throws
    leaves the state as it was. -/
def step (active : List Slot) (pd : Pd) : Action → Pd
  | .setFirewallEnabled enabled => nativeSetFirewallEnabled pd enabled
  | .reloadBlocklist list => (reloadBlocklist pd list).toOption.getD pd
  | .reloadFirewallWhitelist list => (reloadFirewallWhitelist pd (some list)).toOption.getD pd
  | .serviceReloadBlocklist mBilling =>
      (CaptureService.reloadBlocklist mBilling pd).toOption.getD pd
  | .serviceReloadFirewallWhitelist mBilling mode =>
      (CaptureService.reloadFirewallWhitelist mBilling mode pd).toOption.getD pd
  | .housekeeping pass => pdHousekeeping pass active pd

/-- What `check_blocked_conn_cb` computes for a connection. -/
def decision (policy : Policy) (pd : Pd) (slot : Slot) : Bool :=
  (recheckBlocked policy slot.tuple (pd.heap slot.data)).toBlock

def UpToDate (active : List Slot) (pd : Pd) : Prop :=
  ∀ slot ∈ active, (pd.heap slot.data).toBlock = decision pd.policy pd slot

/-- The state when the first action is taken: every decision is up to date, detection has
    ended for closed connections, and no malware whitelist waits. -/
structure Begun (active : List Slot) (pd : Pd) : Prop where
  distinct : (active.map Slot.data).Nodup
  concluded : ∀ slot ∈ active, Concluded (pd.heap slot.data)
  malware : pd.malwareNewWl = none
  upToDate : UpToDate active pd

/-- Switching the firewall changes no decision, or a list that waits is going to be checked. -/
def Harmless (active : List Slot) (pd : Pd) : Action → Prop
  | .setFirewallEnabled enabled =>
      Waiting pd ∨ ∀ slot ∈ active,
        decision (nativeSetFirewallEnabled pd enabled).policy pd slot = decision pd.policy pd slot
  | _ => True

section Visits

variable (ndpi : Ref → Ndpi)

theorem recheckBlocked_frame (policy : Policy) (tuple : Tuple) (data : PdConn) :
    (checkBlockedConnCb policy tuple data).1.status = data.status ∧
      (checkBlockedConnCb policy tuple data).1.ndpiFlow = data.ndpiFlow := by
  simp only [Detection.checkBlockedConnCb, recheckBlocked_eq]
  split <;> exact ⟨rfl, rfl⟩

theorem checkBlockedConnCb_agrees (policy : Policy) (tuple : Tuple) (data : PdConn) :
    Agrees policy.firewall tuple (checkBlockedConnCb policy tuple data).1 := by
  simp only [Detection.checkBlockedConnCb, recheckBlocked_eq]
  split <;> rfl

/-- A visit brings the decision of its connection up to date and touches no other. -/
theorem visit (pd : Pd) (slot : Slot) (concluded : Concluded (pd.heap slot.data)) :
    Agrees pd.policy.firewall slot.tuple ((Pcapdroid.checkBlockedConnCb ndpi pd slot).heap slot.data) ∧
      Concluded ((Pcapdroid.checkBlockedConnCb ndpi pd slot).heap slot.data) ∧
      ∀ other, other ≠ slot.data →
        SameVerdict (pd.heap other) ((Pcapdroid.checkBlockedConnCb ndpi pd slot).heap other) := by
  let used := pd.access slot.data
  let checked := Detection.checkBlockedConnCb used.policy slot.tuple (used.heap slot.data)
  let stored := used.modify slot.data fun _ => checked.1
  have heap : used.heap = pd.heap := access_heap pd slot.data
  have firewall : used.policy.firewall = pd.policy.firewall :=
    congrArg Settings.firewall (access_settings pd slot.data)
  have own : stored.heap slot.data = checked.1 := Function.update_self _ _ _
  have agrees : Agrees pd.policy.firewall slot.tuple (stored.heap slot.data) := by
    rw [own, ← firewall]
    exact checkBlockedConnCb_agrees used.policy slot.tuple _
  have ended : Concluded (stored.heap slot.data) := by
    obtain ⟨status, flow⟩ := recheckBlocked_frame used.policy slot.tuple (used.heap slot.data)
    intro closed
    rw [own] at closed ⊢
    rw [status, heap] at closed
    rw [flow, heap]
    exact concluded closed
  have others : ∀ other, other ≠ slot.data → stored.heap other = pd.heap other := by
    intro other differs
    exact (Function.update_of_ne differs _ _).trans (congrFun heap other)
  have notified : ∀ after : Pd, SameVerdicts stored after →
      Agrees pd.policy.firewall slot.tuple (after.heap slot.data) ∧
        Concluded (after.heap slot.data) ∧
        ∀ other, other ≠ slot.data → SameVerdict (pd.heap other) (after.heap other) := by
    intro after same
    refine ⟨(same.records _).agrees agrees, (same.records _).concluded ended, ?_⟩
    intro other differs
    rw [← others other differs]
    exact same.records other
  change _ ∧ _ ∧ _
  simp only [Pcapdroid.checkBlockedConnCb]
  split
  · exact notified _ (SameVerdicts.notified (ndpi slot.data) stored .connsUpdates slot.tuple
      slot.data ended)
  · exact notified stored (SameVerdicts.refl stored)

/-- After the loop over the active connections every decision is up to date. -/
theorem visits (active : List Slot) (pd : Pd) (distinct : (active.map Slot.data).Nodup)
    (concluded : ∀ slot ∈ active, Concluded (pd.heap slot.data)) :
    let after := active.foldl (Pcapdroid.checkBlockedConnCb ndpi) pd
    (∀ slot ∈ active, Agrees pd.policy.firewall slot.tuple (after.heap slot.data) ∧
        Concluded (after.heap slot.data)) ∧
      ∀ other, (∀ slot ∈ active, other ≠ slot.data) →
        SameVerdict (pd.heap other) (after.heap other) := by
  induction active generalizing pd with
  | nil => exact ⟨fun _ member => absurd member List.not_mem_nil, fun _ _ => SameVerdict.refl _⟩
  | cons slot rest ih =>
      obtain ⟨fresh, distinctRest⟩ := List.nodup_cons.mp distinct
      have apart : ∀ later ∈ rest, later.data ≠ slot.data := by
        intro later member same
        exact fresh (same ▸ List.mem_map_of_mem member)
      obtain ⟨agrees, ended, others⟩ := visit ndpi pd slot (concluded slot List.mem_cons_self)
      have firewall : (Pcapdroid.checkBlockedConnCb ndpi pd slot).policy.firewall =
          pd.policy.firewall :=
        congrArg Settings.firewall (checkBlockedConnCb_settings ndpi pd slot)
      obtain ⟨later, kept⟩ := ih (Pcapdroid.checkBlockedConnCb ndpi pd slot) distinctRest
        fun next member => (others next.data (apart next member)).concluded
          (concluded next (List.mem_cons_of_mem slot member))
      rw [firewall] at later
      refine ⟨fun visited member => ?_, fun other differs => ?_⟩
      · rcases List.mem_cons.mp member with rfl | member
        · have same := kept visited.data fun next member => Ne.symm (apart next member)
          exact ⟨same.agrees agrees, same.concluded ended⟩
        · exact later visited member
      · exact (others other (differs slot List.mem_cons_self)).trans
          (kept other fun next member => differs next (List.mem_cons_of_mem slot member))

end Visits

structure Kept (active : List Slot) (pd : Pd) : Prop where
  concluded : ∀ slot ∈ active, Concluded (pd.heap slot.data)
  malware : pd.malwareNewWl = none
  upToDate : ¬ Waiting pd → UpToDate active pd

section Steps

variable (active : List Slot) (pd : Pd)

theorem decision_agrees (policy : Policy) (slot : Slot) :
    (pd.heap slot.data).toBlock = decision policy pd slot ↔
      Agrees policy.firewall slot.tuple (pd.heap slot.data) := by
  rw [decision, recheckBlocked_eq]
  rfl

theorem upToDate_same (before after : Pd) (same : SameVerdicts before after)
    (upToDate : UpToDate active before) : UpToDate active after := by
  intro slot member
  rw [decision_agrees, show after.policy.firewall = before.policy.firewall from
    congrArg Settings.firewall same.settings]
  exact (same.records slot.data).agrees
    ((decision_agrees before before.policy slot).mp (upToDate slot member))

/-- A list that has just been installed is followed by a visit of every connection. -/
theorem installed_upToDate (ndpi : Ref → Ndpi) (distinct : (active.map Slot.data).Nodup)
    (concluded : ∀ slot ∈ active, Concluded (pd.heap slot.data)) :
    UpToDate active (active.foldl (Pcapdroid.checkBlockedConnCb ndpi) pd) ∧
      ∀ slot ∈ active,
        Concluded ((active.foldl (Pcapdroid.checkBlockedConnCb ndpi) pd).heap slot.data) := by
  obtain ⟨visited, -⟩ := visits ndpi active pd distinct concluded
  have firewall : (active.foldl (Pcapdroid.checkBlockedConnCb ndpi) pd).policy.firewall =
      pd.policy.firewall :=
    congrArg Settings.firewall (foldl_settings active pd _ fun current slot =>
      checkBlockedConnCb_settings ndpi current slot)
  refine ⟨fun slot member => ?_, fun slot member => (visited slot member).2⟩
  rw [decision_agrees, firewall]
  exact (visited slot member).1

theorem loadFirewallLists_kept (ndpi : Ref → Ndpi) (distinct : (active.map Slot.data).Nodup)
    (kept : Kept active pd) : Kept active (loadFirewallLists ndpi active pd) := by
  have malware : (loadFirewallLists ndpi active pd).malwareNewWl = none := by
    have settings := congrArg Settings.malwareNewWl (loadFirewallLists_settings ndpi active pd)
    refine settings.trans ?_
    unfold Settings.loadFirewallLists
    split <;> exact kept.malware
  unfold loadFirewallLists at malware ⊢
  split at malware
  · next bl blocked =>
      obtain ⟨upToDate, concluded⟩ := installed_upToDate active
        { pd with policy := { pd.policy with firewall.bl := some bl }, firewallNewBl := none }
        ndpi distinct kept.concluded
      exact ⟨concluded, malware, fun _ => upToDate⟩
  · next wl blocked allowed =>
      obtain ⟨upToDate, concluded⟩ := installed_upToDate active
        { pd with policy := { pd.policy with firewall.wl := some wl }, firewallNewWl := none }
        ndpi distinct kept.concluded
      exact ⟨concluded, malware, fun _ => upToDate⟩
  · exact kept

theorem housekeeping_kept (pass : Pass) (distinct : (active.map Slot.data).Nodup)
    (kept : Kept active pd) : Kept active (pdHousekeeping pass active pd) := by
  have same := periodicTask_verdicts pass pd
  have malware : (periodicTask pass pd).malwareNewWl = none :=
    (congrArg Settings.malwareNewWl same.settings).trans kept.malware
  have task : Kept active (periodicTask pass pd) := by
    refine ⟨fun slot member => (same.records _).concluded (kept.concluded slot member), malware,
      fun settled => upToDate_same active pd _ same (kept.upToDate fun pending => settled ?_)⟩
    unfold Waiting at pending ⊢
    rwa [show (periodicTask pass pd).firewallNewBl = pd.firewallNewBl from
      congrArg Settings.firewallNewBl same.settings,
      show (periodicTask pass pd).firewallNewWl = pd.firewallNewWl from
      congrArg Settings.firewallNewWl same.settings]
  have idle : loadMalwareWhitelist pass.ndpi active (periodicTask pass pd) = periodicTask pass pd := by
    simp only [loadMalwareWhitelist, malware]
  have loaded := loadFirewallLists_kept active _ pass.ndpi distinct task
  rw [pdHousekeeping, idle]
  unfold loadDecryptionList
  split
  · exact ⟨loaded.concluded, loaded.malware, loaded.upToDate⟩
  · exact loaded

/-- A reload leaves everything as it was, or a list waits from now on. -/
theorem reloadBlocklist_cases (list : Submission) :
    (reloadBlocklist pd list).toOption.getD pd = pd ∨
      ∃ bl, (reloadBlocklist pd list).toOption.getD pd = { pd with firewallNewBl := some bl } := by
  simp only [reloadBlocklist]
  split
  · exact Or.inl rfl
  · split
    · exact Or.inl rfl
    · next bl _ => exact Or.inr ⟨bl, rfl⟩

theorem reloadFirewallWhitelist_cases (list : Submission) :
    (reloadFirewallWhitelist pd (some list)).toOption.getD pd = pd ∨
      ∃ wl, (reloadFirewallWhitelist pd (some list)).toOption.getD pd =
        { pd with
          firewallNewWl := some wl
          policy := { pd.policy with firewall := { pd.policy.firewall with wlEnabled := true } } } := by
  simp only [reloadFirewallWhitelist]
  split
  · exact Or.inl rfl
  · split
    · exact Or.inl rfl
    · next wl _ => exact Or.inr ⟨wl, rfl⟩

/-- The service throws before it gets to a native call. -/
theorem service_unchanged (mBilling : Option Bool) (mode : Bool) :
    (CaptureService.reloadBlocklist mBilling pd).toOption.getD pd = pd ∧
      (CaptureService.reloadFirewallWhitelist mBilling mode pd).toOption.getD pd = pd := by
  rcases mBilling with _ | _ | _ <;> cases mode <;> exact ⟨rfl, rfl⟩

theorem step_kept (action : Action) (distinct : (active.map Slot.data).Nodup)
    (kept : Kept active pd) (harmless : Harmless active pd action) :
    Kept active (step active pd action) := by
  cases action with
  | setFirewallEnabled enabled =>
      refine ⟨kept.concluded, kept.malware, fun settled slot member => ?_⟩
      rcases harmless with pending | unchanged
      · exact absurd pending settled
      · exact (kept.upToDate settled slot member).trans (unchanged slot member).symm
  | reloadBlocklist list =>
      rw [step]
      rcases reloadBlocklist_cases pd list with same | ⟨bl, waits⟩
      · rwa [same]
      · rw [waits]
        exact ⟨kept.concluded, kept.malware, fun settled => absurd (Or.inl rfl) settled⟩
  | reloadFirewallWhitelist list =>
      rw [step]
      rcases reloadFirewallWhitelist_cases pd list with same | ⟨wl, waits⟩
      · rwa [same]
      · rw [waits]
        exact ⟨kept.concluded, kept.malware, fun settled => absurd (Or.inr rfl) settled⟩
  | serviceReloadBlocklist mBilling =>
      rw [step, (service_unchanged pd mBilling true).1]
      exact kept
  | serviceReloadFirewallWhitelist mBilling mode =>
      rw [step, (service_unchanged pd mBilling mode).2]
      exact kept
  | housekeeping pass => exact housekeeping_kept active pd pass distinct kept

end Steps

/-- With no list waiting, every active connection is blocked exactly as a check under the
    present settings would block it. -/
theorem actions_upToDate (active : List Slot) (pd : Pd) (actions : List Action)
    (begun : Begun active pd) (harmless : Along (step active) (Harmless active) pd actions)
    (settled : ¬ Waiting (run (step active) pd actions)) :
    UpToDate active (run (step active) pd actions) := by
  have kept : Kept active (run (step active) pd actions) :=
    run_invariant (step active) (Harmless active) (Kept active)
      (fun current action holds admitted =>
        step_kept active current action begun.distinct holds admitted) pd actions harmless
      ⟨begun.concluded, begun.malware, fun _ => begun.upToDate⟩
  exact kept.upToDate settled

section Runs

open BlockDecision (adsHello httpsTuple)

def oneConn (firewall : Firewall) (toBlock : Bool) : Pd where
  heap := fun _ => { uid := 10123, toBlock := toBlock }
  created := 1
  policy := { firewall := firewall, vpnCapture := true }
  tables := adsHello.tables

def oneSlot : List Slot := [⟨httpsTuple, 0⟩]

def quietPass : Pass := { ndpi := fun _ => adsHello }

def appRule : Submission :=
  ⟨{ apps := ["10123"] }, true, .plenty, .plenty, .plenty⟩

/-- The firewall is switched on while its blocklist still waits. -/
theorem waitingList_upToDate :
    let actions := [.reloadBlocklist appRule, .serviceReloadBlocklist (some true),
      .setFirewallEnabled true, .housekeeping quietPass]
    UpToDate oneSlot (run (step oneSlot) (oneConn {} false) actions) ∧
      ((run (step oneSlot) (oneConn {} false) actions).heap 0).toBlock = true := by
  refine ⟨actions_upToDate oneSlot (oneConn {} false) _ ⟨by decide, ?_, rfl, ?_⟩
    ⟨trivial, trivial, Or.inl (Or.inl ?_), trivial, trivial⟩ ?_, by decide +kernel⟩
  · intro slot member closed
    cases closed
  · intro slot member
    obtain rfl : slot = ⟨httpsTuple, 0⟩ := by simpa [oneSlot] using member
    decide +kernel
  · decide +kernel
  · decide +kernel

/-- The firewall is switched off over a blocked connection, which stays blocked. -/
theorem switchedOff_staysBlocked :
    ¬ ∀ (active : List Slot) (pd : Pd) (actions : List Action), Begun active pd →
      ¬ Waiting (run (step active) pd actions) → UpToDate active (run (step active) pd actions) := by
  intro upToDate
  let firewall : Firewall := { enabled := true, bl := some { uids := [10123] } }
  have stale := upToDate oneSlot (oneConn firewall true)
    [.setFirewallEnabled false, .housekeeping quietPass] ⟨by decide, ?_, rfl, ?_⟩ ?_
    ⟨httpsTuple, 0⟩ List.mem_cons_self
  · revert stale
    decide +kernel
  · intro slot member closed
    cases closed
  · intro slot member
    obtain rfl : slot = ⟨httpsTuple, 0⟩ := by simpa [oneSlot] using member
    decide +kernel
  · decide +kernel

end Runs

end Ptnet.FirewallSwitch
