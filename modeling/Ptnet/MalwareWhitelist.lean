import Ptnet.CaptureClient
import Ptnet.LibpcapFrame
import Ptnet.TrafficFrame

/-!
The pass of housekeeping that installs a malware whitelist. It visits every active connection,
clears the malware flags that the list takes back and, where the code goes that far, decides again
whether the connection is blocked.
-/

namespace Ptnet.MalwareWhitelist

open Connection Detection Pcapdroid
open BlockDecision (reference recheckBlocked_eq endpointBlocked hostBlocked whitelistBlocked)
open NativeBlacklist (Blacklist)

/-- A malware reason is left. -/
def malware (data : PdConn) : Bool := data.blacklistedIp || data.blacklistedDomain

/-- A reason to block which is not malware. -/
def otherReason (firewall : Firewall) (tuple : Tuple) (data : PdConn) : Bool :=
  data.blacklistedInternal || (endpointBlocked firewall tuple data.uid ||
    hostBlocked firewall data.host || whitelistBlocked firewall tuple data.uid)

/-- `check_blocked_conn_cb` on a record. -/
def recheck (tuple : Tuple) (firewall : Firewall) (data : PdConn) : PdConn :=
  data.setToBlock (reference firewall tuple data)

/-- The malware flags which the whitelist takes back from a record. -/
def Changed (whitelist : Blacklist) (tuple : Tuple) (data : PdConn) : Prop :=
  data.blacklistedIp ≠ (clearWhitelisted whitelist tuple data).blacklistedIp ∨
    data.blacklistedDomain ≠ (clearWhitelisted whitelist tuple data).blacklistedDomain

instance (whitelist : Blacklist) (tuple : Tuple) (data : PdConn) :
    Decidable (Changed whitelist tuple data) := inferInstanceAs (Decidable (_ ∨ _))

/-- `check_blacklisted_conn_cb` on a record. -/
def screen (whitelist : Blacklist) (tuple : Tuple) (firewall : Firewall) (data : PdConn) : PdConn :=
  let cleared := clearWhitelisted whitelist tuple data
  if Changed whitelist tuple data ∧ firewall.bl.isSome then recheck tuple firewall cleared
  else cleared

section Changes

variable (whitelist : Blacklist) (tuple : Tuple) (firewall : Firewall)

theorem recheck_outgoing {first second : PdConn} (same : Outgoing first second) :
    Outgoing (recheck tuple firewall first) (recheck tuple firewall second) := by
  obtain ⟨pending, bits, chunks, rfl⟩ := same
  exact ⟨pending, bits, chunks, rfl⟩

theorem screen_outgoing {first second : PdConn} (same : Outgoing first second) :
    Outgoing (screen whitelist tuple firewall first) (screen whitelist tuple firewall second) := by
  have cleared : Outgoing (clearWhitelisted whitelist tuple first)
      (clearWhitelisted whitelist tuple second) := by
    obtain ⟨pending, bits, chunks, rfl⟩ := same
    exact ⟨pending, bits, chunks, rfl⟩
  have changed : Changed whitelist tuple first ↔ Changed whitelist tuple second := by
    obtain ⟨pending, bits, chunks, rfl⟩ := same
    exact Iff.rfl
  simp only [screen, changed]
  split
  · exact recheck_outgoing tuple firewall cleared
  · exact cleared

theorem recheck_concluded {data : PdConn} (concluded : Concluded data) :
    Concluded (recheck tuple firewall data) := concluded

theorem screen_concluded {data : PdConn} (concluded : Concluded data) :
    Concluded (screen whitelist tuple firewall data) := by
  simp only [screen]
  split <;> exact concluded

end Changes

/-- A visit of housekeeping changes the record of its connection, and no other. -/
structure Visit (pd after : Pd) (slot : Slot) (change : Firewall → PdConn → PdConn) : Prop where
  settings : after.settings = pd.settings
  own : Outgoing (change pd.policy.firewall (pd.heap slot.data)) (after.heap slot.data)
  others : ∀ other, other ≠ slot.data → Outgoing (pd.heap other) (after.heap other)

theorem Visit.later {pd between after : Pd} {slot : Slot} {change : Firewall → PdConn → PdConn}
    (visit : Visit pd between slot change) (same : SameRecords between after) :
    Visit pd after slot change :=
  ⟨same.settings.trans visit.settings, visit.own.trans (same.records _),
    fun other apart => (visit.others other apart).trans (same.records other)⟩

section Visits

variable (ndpi : Ref → Ndpi)

theorem notified_records (pd : Pd) (slot : Slot) (concluded : Concluded (pd.heap slot.data)) :
    SameRecords pd (pdNotifyConnectionUpdate (ndpi slot.data) pd slot.tuple slot.data).1 :=
  ⟨notifConnection_settings _ _ _ _ _, fun other =>
    Outgoing.of_marked (notifConnection_heap _ _ _ _ _ other concluded)⟩

theorem modify_visit (pd : Pd) (slot : Slot) (written : PdConn → PdConn)
    (change : Firewall → PdConn → PdConn)
    (same : Outgoing (change pd.policy.firewall (pd.heap slot.data)) (written (pd.heap slot.data))) :
    Visit pd ((pd.access slot.data).modify slot.data written) slot change := by
  refine ⟨by simp, by simpa using same, ?_⟩
  intro other apart
  simpa [apart] using Outgoing.refl _

theorem access_firewall (pd : Pd) (ref : Ref) : (pd.access ref).policy.firewall = pd.policy.firewall :=
  congrArg Settings.firewall (access_settings pd ref)

theorem checkBlockedConnCb_visit (pd : Pd) (slot : Slot) (concluded : Concluded (pd.heap slot.data)) :
    Visit pd (Pcapdroid.checkBlockedConnCb ndpi pd slot) slot (recheck slot.tuple) := by
  let used := pd.access slot.data
  let checked := Detection.checkBlockedConnCb used.policy slot.tuple (used.heap slot.data)
  have written : Outgoing (recheck slot.tuple pd.policy.firewall (pd.heap slot.data)) checked.1 := by
    simp only [checked, used, Detection.checkBlockedConnCb, recheckBlocked_eq, access_firewall,
      access_heap]
    split
    · exact touch_outgoing _ _
    · exact Outgoing.refl _
  have stored := modify_visit pd slot (fun _ => checked.1) (recheck slot.tuple) written
  have ended := stored.own.concluded (recheck_concluded slot.tuple _ concluded)
  simp only [Pcapdroid.checkBlockedConnCb]
  split
  · exact stored.later (notified_records ndpi _ slot ended)
  · exact stored

theorem checkBlacklistedConnCb_visit (whitelist : Blacklist) (pd : Pd) (slot : Slot)
    (concluded : Concluded (pd.heap slot.data)) :
    Visit pd (Pcapdroid.checkBlacklistedConnCb ndpi whitelist pd slot) slot
      (screen whitelist slot.tuple) := by
  let used := pd.access slot.data
  let cleared := clearWhitelisted whitelist slot.tuple (pd.heap slot.data)
  let stored := used.modify slot.data fun _ => cleared
  have clears := modify_visit pd slot (fun _ => cleared)
    (fun _ => clearWhitelisted whitelist slot.tuple) (Outgoing.refl _)
  have ended : Concluded (stored.heap slot.data) := clears.own.concluded concluded
  have firewall : stored.policy.firewall = pd.policy.firewall :=
    congrArg Settings.firewall clears.settings
  -- The touch and the notification that follow a change leave the rest of the record.
  have announced : ∀ current : Pd, Concluded (current.heap slot.data) → SameRecords current
      (pdNotifyConnectionUpdate (ndpi slot.data) (current.modify slot.data fun conn =>
        conn.touch CONN_UPDATE_STATS) slot.tuple slot.data).1 := by
    intro current concluded
    have touched : SameRecords current (current.modify slot.data fun conn =>
        conn.touch CONN_UPDATE_STATS) :=
      dumpFrame_records.modify current slot.data _ (touch_outgoing _ _)
    exact dumpFrame_records.trans _ _ _ touched
      (notified_records ndpi _ slot ((touched.records slot.data).concluded concluded))
  have same : Pcapdroid.checkBlacklistedConnCb ndpi whitelist pd slot =
      if Changed whitelist slot.tuple (pd.heap slot.data) then
        (pdNotifyConnectionUpdate (ndpi slot.data)
          ((if stored.policy.firewall.bl.isSome then Pcapdroid.checkBlockedConnCb ndpi stored slot
            else stored).modify slot.data fun conn => conn.touch CONN_UPDATE_STATS)
          slot.tuple slot.data).1
      else stored := by
    simp only [Pcapdroid.checkBlacklistedConnCb, access_heap, Changed, stored, cleared, used]
  rw [same, firewall]
  by_cases changed : Changed whitelist slot.tuple (pd.heap slot.data)
  · rw [if_pos changed]
    by_cases loaded : pd.policy.firewall.bl.isSome = true
    · rw [if_pos loaded]
      have rechecked := checkBlockedConnCb_visit ndpi stored slot ended
      have visit : Visit pd (Pcapdroid.checkBlockedConnCb ndpi stored slot) slot
          (screen whitelist slot.tuple) := by
        refine ⟨rechecked.settings.trans clears.settings, ?_, ?_⟩
        · have own := rechecked.own
          rw [firewall] at own
          simp only [screen, changed, loaded, and_self, if_true]
          exact (recheck_outgoing slot.tuple _ clears.own).trans own
        · exact fun other apart => (clears.others other apart).trans (rechecked.others other apart)
      exact visit.later (announced _ (visit.own.concluded
        (screen_concluded whitelist slot.tuple _ concluded)))
    · rw [if_neg loaded]
      have visit : Visit pd stored slot (screen whitelist slot.tuple) := by
        refine ⟨clears.settings, ?_, clears.others⟩
        simp only [screen, loaded, Bool.false_eq_true, and_false, if_false]
        exact clears.own
      exact visit.later (announced stored ended)
  · rw [if_neg changed]
    refine ⟨clears.settings, ?_, clears.others⟩
    simp only [screen, changed, false_and, if_false]
    exact clears.own

end Visits

section Loops

/-- A callback of `iter_active_connections` that does one thing to each record. -/
structure Visitor (callback : Pd → Slot → Pd) (change : Tuple → Firewall → PdConn → PdConn) :
    Prop where
  visit : ∀ pd slot, Concluded (pd.heap slot.data) →
    Visit pd (callback pd slot) slot (change slot.tuple)
  outgoing : ∀ tuple firewall first second, Outgoing first second →
    Outgoing (change tuple firewall first) (change tuple firewall second)
  concluded : ∀ tuple firewall data, Concluded data → Concluded (change tuple firewall data)

/-- What a loop over the active connections leaves. -/
structure Visited (active : List Slot) (pd after : Pd)
    (change : Tuple → Firewall → PdConn → PdConn) : Prop where
  settings : after.settings = pd.settings
  own : ∀ slot ∈ active,
    Outgoing (change slot.tuple pd.policy.firewall (pd.heap slot.data)) (after.heap slot.data)
  others : ∀ other, (∀ slot ∈ active, other ≠ slot.data) →
    Outgoing (pd.heap other) (after.heap other)

theorem Visitor.visits {callback : Pd → Slot → Pd} {change : Tuple → Firewall → PdConn → PdConn}
    (visitor : Visitor callback change) (active : List Slot) (pd : Pd)
    (distinct : (active.map Slot.data).Nodup)
    (concluded : ∀ slot ∈ active, Concluded (pd.heap slot.data)) :
    Visited active pd (active.foldl callback pd) change := by
  induction active generalizing pd with
  | nil => exact ⟨rfl, fun _ member => absurd member List.not_mem_nil, fun _ _ => Outgoing.refl _⟩
  | cons slot rest ih =>
      obtain ⟨fresh, distinctRest⟩ := List.nodup_cons.mp distinct
      have apart : ∀ later ∈ rest, later.data ≠ slot.data := by
        intro later member same
        exact fresh (same ▸ List.mem_map_of_mem member)
      have visit := visitor.visit pd slot (concluded slot List.mem_cons_self)
      have firewall : (callback pd slot).policy.firewall = pd.policy.firewall :=
        congrArg Settings.firewall visit.settings
      have later := ih (callback pd slot) distinctRest fun next member =>
        (visit.others next.data (apart next member)).concluded
          (concluded next (List.mem_cons_of_mem slot member))
      refine ⟨later.settings.trans visit.settings, fun visited member => ?_, fun other differs => ?_⟩
      · rcases List.mem_cons.mp member with rfl | member
        · exact visit.own.trans
            (later.others visited.data fun next member => Ne.symm (apart next member))
        · have untouched := visit.others visited.data (apart visited member)
          have own := later.own visited member
          rw [firewall] at own
          exact (visitor.outgoing visited.tuple _ _ _ untouched).trans own
      · exact (visit.others other (differs slot List.mem_cons_self)).trans
          (later.others other fun next member => differs next (List.mem_cons_of_mem slot member))

theorem recheck_visitor (ndpi : Ref → Ndpi) :
    Visitor (Pcapdroid.checkBlockedConnCb ndpi) recheck where
  visit := checkBlockedConnCb_visit ndpi
  outgoing tuple firewall _ _ same := recheck_outgoing tuple firewall same
  concluded tuple firewall _ ended := recheck_concluded tuple firewall ended

theorem screen_visitor (ndpi : Ref → Ndpi) (whitelist : Blacklist) :
    Visitor (Pcapdroid.checkBlacklistedConnCb ndpi whitelist) (screen whitelist) where
  visit := checkBlacklistedConnCb_visit ndpi whitelist
  outgoing tuple firewall _ _ same := screen_outgoing whitelist tuple firewall same
  concluded tuple firewall _ ended := screen_concluded whitelist tuple firewall ended

def loadedFirewall (pd : Pd) : Firewall :=
  match pd.firewallNewBl, pd.firewallNewWl with
  | some bl, _ => { pd.policy.firewall with bl := some bl }
  | none, some wl => { pd.policy.firewall with wl := some wl }
  | none, none => pd.policy.firewall

/-- What a pass of housekeeping that installs `whitelist` makes of a record. -/
def housekept (whitelist : Blacklist) (pd : Pd) (tuple : Tuple) (data : PdConn) : PdConn :=
  let screened := screen whitelist tuple pd.policy.firewall data
  if Waiting pd then recheck tuple (loadedFirewall pd) screened else screened

section Pass

variable (pass : Pass) (active : List Slot) (pd : Pd) (whitelist : Blacklist)
variable (distinct : (active.map Slot.data).Nodup)

include distinct

omit distinct in
theorem loadMalwareWhitelist_lists (settings : Settings) :
    settings.loadMalwareWhitelist.firewall = settings.firewall ∧
      settings.loadMalwareWhitelist.firewallNewBl = settings.firewallNewBl ∧
      settings.loadMalwareWhitelist.firewallNewWl = settings.firewallNewWl := by
  unfold Settings.loadMalwareWhitelist
  split <;> exact ⟨rfl, rfl, rfl⟩

theorem loadMalwareWhitelist_record (ndpi : Ref → Ndpi)
    (waiting : pd.malwareNewWl = some whitelist)
    (concluded : ∀ slot ∈ active, Concluded (pd.heap slot.data)) (slot : Slot)
    (member : slot ∈ active) :
    Outgoing (screen whitelist slot.tuple pd.policy.firewall (pd.heap slot.data))
      ((loadMalwareWhitelist ndpi active pd).heap slot.data) := by
  let installed := { pd with
    policy := { pd.policy with malware.whitelist := some whitelist }, malwareNewWl := none }
  have visited := (screen_visitor ndpi whitelist).visits active installed distinct concluded
  simp only [loadMalwareWhitelist, waiting]
  exact visited.own slot member

theorem loadFirewallLists_record (ndpi : Ref → Ndpi)
    (concluded : ∀ slot ∈ active, Concluded (pd.heap slot.data)) (slot : Slot)
    (member : slot ∈ active) :
    Outgoing
      (if Waiting pd then recheck slot.tuple (loadedFirewall pd) (pd.heap slot.data)
        else pd.heap slot.data)
      ((loadFirewallLists ndpi active pd).heap slot.data) := by
  have visited : ∀ loaded : Pd, loaded.heap = pd.heap → Outgoing
      (recheck slot.tuple loaded.policy.firewall (pd.heap slot.data))
      ((active.foldl (Pcapdroid.checkBlockedConnCb ndpi) loaded).heap slot.data) := by
    intro loaded heap
    have own := ((recheck_visitor ndpi).visits active loaded distinct
      (fun other listed => heap ▸ concluded other listed)).own slot member
    rwa [heap] at own
  rcases blocked : pd.firewallNewBl with _ | bl
  · rcases allowed : pd.firewallNewWl with _ | wl
    · have idle : ¬ Waiting pd := by simp [Waiting, blocked, allowed]
      simp only [idle, loadFirewallLists, blocked, allowed, if_false]
      exact Outgoing.refl _
    · have waits : Waiting pd := Or.inr (by simp [allowed])
      simp only [waits, loadFirewallLists, loadedFirewall, blocked, allowed, if_true]
      exact visited
        { pd with
          policy := { pd.policy with firewall.wl := some wl }, firewallNewBl := none
          firewallNewWl := none } rfl
  · have waits : Waiting pd := Or.inl (by simp [blocked])
    simp only [waits, loadFirewallLists, loadedFirewall, blocked, if_true]
    exact visited
      { pd with policy := { pd.policy with firewall.bl := some bl }, firewallNewBl := none } rfl

omit distinct in
theorem pdHousekeeping_firewall :
    (pdHousekeeping pass active pd).policy.firewall = loadedFirewall pd := by
  have loaded : ∀ settings : Settings, settings.loadDecryptionList.firewall = settings.firewall := by
    intro settings
    unfold Settings.loadDecryptionList
    split <;> rfl
  have lists : ∀ settings : Settings, settings.loadFirewallLists.firewall =
      match settings.firewallNewBl, settings.firewallNewWl with
      | some bl, _ => { settings.firewall with bl := some bl }
      | none, some wl => { settings.firewall with wl := some wl }
      | none, none => settings.firewall := by
    intro settings
    unfold Settings.loadFirewallLists
    rcases settings.firewallNewBl with _ | bl <;> rcases settings.firewallNewWl with _ | wl <;> rfl
  obtain ⟨same, newBl, newWl⟩ := loadMalwareWhitelist_lists pd.settings
  refine (congrArg Settings.firewall (pdHousekeeping_settings active pd pass)).trans ?_
  rw [loaded, lists, same, newBl, newWl]
  rfl

/-- A pass that installs a malware whitelist, on the record of an active connection. -/
theorem pdHousekeeping_record (waiting : pd.malwareNewWl = some whitelist)
    (concluded : ∀ slot ∈ active, Concluded (pd.heap slot.data)) (slot : Slot)
    (member : slot ∈ active) :
    Outgoing (housekept whitelist pd slot.tuple (pd.heap slot.data))
      ((pdHousekeeping pass active pd).heap slot.data) := by
  let dumped := periodicTask pass pd
  have dumps : SameRecords pd dumped := dumpFrame_records.periodicTask pass pd
  let screened := loadMalwareWhitelist pass.ndpi active dumped
  have settings : screened.settings = pd.settings.loadMalwareWhitelist := by
    rw [loadMalwareWhitelist_settings, dumps.settings]
  have lists : screened.policy.firewall = pd.policy.firewall ∧
      screened.firewallNewBl = pd.firewallNewBl ∧ screened.firewallNewWl = pd.firewallNewWl := by
    obtain ⟨firewall, newBl, newWl⟩ := loadMalwareWhitelist_lists pd.settings
    rw [← settings] at firewall newBl newWl
    exact ⟨firewall, newBl, newWl⟩
  have firewall : dumped.policy.firewall = pd.policy.firewall :=
    congrArg Settings.firewall dumps.settings
  have held : dumped.malwareNewWl = some whitelist :=
    (congrArg Settings.malwareNewWl dumps.settings).trans waiting
  have records : ∀ other ∈ active, Outgoing
      (screen whitelist other.tuple pd.policy.firewall (pd.heap other.data))
      (screened.heap other.data) := by
    intro other listed
    have own := loadMalwareWhitelist_record active dumped whitelist distinct pass.ndpi held
      (fun next listed => (dumps.records next.data).concluded (concluded next listed)) other listed
    rw [firewall] at own
    exact (screen_outgoing whitelist other.tuple _ (dumps.records other.data)).trans own
  have ended : ∀ other ∈ active, Concluded (screened.heap other.data) := fun other listed =>
    (records other listed).concluded
      (screen_concluded whitelist other.tuple _ (concluded other listed))
  have rechecked := loadFirewallLists_record active screened distinct pass.ndpi ended slot member
  have decrypting : ∀ current : Pd, (loadDecryptionList current).heap = current.heap := by
    intro current
    unfold loadDecryptionList
    split <;> rfl
  have same : Waiting screened ↔ Waiting pd := by simp only [Waiting, lists]
  have loaded : loadedFirewall screened = loadedFirewall pd := by simp only [loadedFirewall, lists]
  rw [pdHousekeeping, decrypting]
  refine Outgoing.trans ?_ rechecked
  simp only [housekept, same, loaded]
  split
  · exact recheck_outgoing slot.tuple _ (records slot member)
  · exact records slot member

end Pass

end Loops

section Unblocking

/-- A connection that lost its malware reasons is blocked for another reason only, and one that
    keeps a malware reason stays blocked. -/
structure Unblocks (firewall : Firewall) (tuple : Tuple) (before after : PdConn) : Prop where
  unblocked : malware before = true → malware after = false → after.toBlock = true →
    otherReason firewall tuple after = true
  kept : malware after = true → before.toBlock = true → after.toBlock = true

theorem Unblocks.outgoing {firewall : Firewall} {tuple : Tuple} {before after sent : PdConn}
    (same : Outgoing after sent) :
    Unblocks firewall tuple before sent ↔ Unblocks firewall tuple before after := by
  obtain ⟨pending, bits, chunks, rfl⟩ := same
  exact ⟨fun right => ⟨right.unblocked, right.kept⟩, fun right => ⟨right.unblocked, right.kept⟩⟩

theorem reference_other (firewall : Firewall) (tuple : Tuple) (data : PdConn) :
    reference firewall tuple data = (malware data || otherReason firewall tuple data) := by
  simp only [reference, BlockDecision.stored, malware, otherReason]
  cases data.blacklistedInternal <;> cases data.blacklistedIp <;> cases data.blacklistedDomain <;>
    simp

theorem recheck_unblocks (firewall : Firewall) (tuple : Tuple) (before data : PdConn) :
    Unblocks firewall tuple before (recheck tuple firewall data) := by
  have blocked : (recheck tuple firewall data).toBlock =
      (malware (recheck tuple firewall data) ||
        otherReason firewall tuple (recheck tuple firewall data)) :=
    reference_other firewall tuple data
  refine ⟨fun _ clean toBlock => ?_, fun dirty _ => ?_⟩
  · rwa [blocked, clean, Bool.false_or] at toBlock
  · rw [blocked, dirty, Bool.true_or]

theorem clearWhitelisted_other (firewall : Firewall) (whitelist : Blacklist) (tuple : Tuple)
    (data : PdConn) :
    otherReason firewall tuple (clearWhitelisted whitelist tuple data) =
      otherReason firewall tuple data := rfl

variable (pass : Pass) (active : List Slot) (pd : Pd) (whitelist : Blacklist)

/-- The malware reasons are taken from a connection that is blocked for nothing else. -/
def Freed (slot : Slot) : Prop :=
  let data := pd.heap slot.data
  malware data = true ∧ malware (clearWhitelisted whitelist slot.tuple data) = false ∧
    data.toBlock = true ∧ otherReason pd.policy.firewall slot.tuple data = false

theorem cleared_unblocks (slot : Slot) :
    Unblocks pd.policy.firewall slot.tuple (pd.heap slot.data)
        (clearWhitelisted whitelist slot.tuple (pd.heap slot.data)) ↔
      ¬ Freed pd whitelist slot := by
  constructor
  · rintro right ⟨dirty, clean, blocked, no⟩
    have other := right.unblocked dirty clean blocked
    rw [clearWhitelisted_other, no] at other
    cases other
  · intro held
    refine ⟨fun dirty clean blocked => ?_, fun _ blocked => blocked⟩
    rw [clearWhitelisted_other]
    by_contra no
    exact held ⟨dirty, clean, blocked, by simpa using no⟩

theorem freed_changed (slot : Slot) (freed : Freed pd whitelist slot) :
    Changed whitelist slot.tuple (pd.heap slot.data) := by
  by_contra same
  simp only [Changed, not_or, ne_eq, not_not] at same
  have clean := freed.2.1
  rw [malware, ← same.1, ← same.2] at clean
  exact absurd freed.1 (by rw [malware, clean]; exact Bool.false_ne_true)

/-- The whitelist unblocks the connections it should, and no others, exactly if a firewall blocklist
    is loaded or a firewall list waits to be, or no connection is freed of its last reason. -/
theorem whitelist_unblocks_iff (waiting : pd.malwareNewWl = some whitelist)
    (distinct : (active.map Slot.data).Nodup)
    (concluded : ∀ slot ∈ active, Concluded (pd.heap slot.data)) (slot : Slot)
    (member : slot ∈ active) :
    Unblocks (pdHousekeeping pass active pd).policy.firewall slot.tuple (pd.heap slot.data)
        ((pdHousekeeping pass active pd).heap slot.data) ↔
      (Freed pd whitelist slot → pd.policy.firewall.bl.isSome ∨ Waiting pd) := by
  rw [pdHousekeeping_firewall, Unblocks.outgoing
    (pdHousekeeping_record pass active pd whitelist distinct waiting concluded slot member)]
  by_cases waits : Waiting pd
  · simp only [housekept, waits, if_true, or_true, implies_true, iff_true]
    exact recheck_unblocks _ _ _ _
  · have idle : loadedFirewall pd = pd.policy.firewall := by
      simp only [Waiting, not_or, Bool.not_eq_true, Option.isSome_eq_false_iff,
        Option.isNone_iff_eq_none] at waits
      simp only [loadedFirewall, waits]
    simp only [housekept, waits, if_false, or_false, idle, screen]
    by_cases checked : Changed whitelist slot.tuple (pd.heap slot.data) ∧
        pd.policy.firewall.bl.isSome = true
    · rw [if_pos checked]
      exact iff_of_true (recheck_unblocks _ _ _ _) fun _ => checked.2
    · rw [if_neg checked, cleared_unblocks]
      constructor
      · exact fun held freed => absurd freed held
      · exact fun loaded freed => checked ⟨freed_changed pd whitelist slot freed, loaded freed⟩

section Example

/-- A connection of the app 10100 which is blocked for its destination, before the app is
    whitelisted. -/
def maliciousPd (bl : Option Blacklist) : Pd where
  heap _ :=
    { uid := 10100, status := .connected, ndpiFlow := none, blacklistedIp := true, toBlock := true }
  created := 1
  policy := { firewall.bl := bl }
  malwareNewWl := some { uids := [10100] }
  tables := CaptureClient.plainTables

def maliciousSlot : Slot := ⟨CaptureClient.webTuple, 0⟩

def quietPass : Pass where
  ndpi _ := CaptureClient.plainNdpi

theorem whitelistedApp_unblocked :
    Unblocks (pdHousekeeping quietPass [maliciousSlot] (maliciousPd (some {}))).policy.firewall
        maliciousSlot.tuple ((maliciousPd (some {})).heap maliciousSlot.data)
        ((pdHousekeeping quietPass [maliciousSlot] (maliciousPd (some {}))).heap
          maliciousSlot.data) ↔
      (Freed (maliciousPd (some {})) { uids := [10100] } maliciousSlot →
        (maliciousPd (some {})).policy.firewall.bl.isSome ∨ Waiting (maliciousPd (some {}))) :=
  whitelist_unblocks_iff quietPass [maliciousSlot] (maliciousPd (some {})) { uids := [10100] } rfl
    (List.nodup_singleton _)
    (fun _ _ _ => rfl) maliciousSlot List.mem_cons_self

/-- Without a firewall blocklist the connection of the whitelisted app stays blocked. -/
theorem whitelistedApp_staysBlocked :
    ¬ Unblocks (pdHousekeeping quietPass [maliciousSlot] (maliciousPd none)).policy.firewall
      maliciousSlot.tuple ((maliciousPd none).heap maliciousSlot.data)
      ((pdHousekeeping quietPass [maliciousSlot] (maliciousPd none)).heap maliciousSlot.data) := by
  intro right
  have other := right.unblocked (by decide) (by decide +kernel) (by decide +kernel)
  exact absurd other (by decide +kernel)

end Example

end Unblocking

section Capture

open LibpcapCapture

/-- The connections of a capture between two steps: their records are their own, and detection has
    ended for the closed ones. -/
structure Orderly (state : Libpcap) : Prop extends Numbered state where
  concluded : ∀ conn ∈ state.connections, Concluded (state.pd.heap conn.data)

theorem traffic_concluded {before after : PdConn} (same : SameTraffic before after)
    (concluded : Concluded before) : Concluded after := by
  intro closed
  have status : after.status = before.status := congrArg Traffic.status same.traffic
  exact same.flow (concluded (status ▸ closed))

theorem handleConnection_concluded (arrival : Arrival) (pkt : Pkt) (isTx : Bool) (state : Libpcap)
    (conn : Slot) :
    Concluded ((handleConnection arrival pkt isTx state conn).pd.heap conn.data) := by
  simp only [handleConnection, pdAccountStats]
  exact notifConnection_concluded _ _ _ _ _

theorem handleConnection_orderly (arrival : Arrival) (pkt : Pkt) (isTx : Bool) (state : Libpcap)
    (conn : Slot) (orderly : Orderly state) (listed : conn ∈ state.connections) :
    Orderly (handleConnection arrival pkt isTx state conn) := by
  obtain ⟨data, served⟩ := handleConnection_served traffic_frame.toRecordFrame arrival pkt isTx
    state conn
  refine ⟨orderly.fewer served.fewer served.created, fun other member => ?_⟩
  have known := served.fewer.subset member
  by_cases same : other.data = conn.data
  · obtain rfl := orderly.same_of_ref listed known same
    exact handleConnection_concluded arrival pkt isTx state other
  · exact traffic_concluded (served.others other.data same) (orderly.concluded other known)

theorem joined_orderly (state after : Libpcap) (fresh : List Slot) (orderly : Orderly state)
    (table : after.connections = state.connections ++ fresh)
    (records : Created SameTraffic state.pd after.pd)
    (named : fresh = [] ∨ ∃ tuple, fresh = [⟨tuple, state.pd.created⟩]) : Orderly after := by
  refine ⟨orderly.joined fresh table records.created named, fun conn member => ?_⟩
  rcases List.mem_append.mp (table ▸ member) with old | new
  · exact traffic_concluded (records.others conn.data (orderly.older conn old))
      (orderly.concluded conn old)
  · have name : conn.data = state.pd.created := by
      rcases named with rfl | ⟨tuple, rfl⟩
      · cases new
      · rw [List.mem_singleton.mp new]
    have blank : Concluded freshConn := fun closed => Bool.noConfusion closed
    exact name ▸ traffic_concluded records.fresh blank

theorem step_orderly (state : Libpcap) (event : Event) (orderly : Orderly state) :
    Orderly (step state event) := by
  have quiet : (∀ arrival, event ≠ .packet arrival) → Orderly (step state event) := by
    intro unpacketed
    have kept := step_kept traffic_frame.toQuietFrame state event unpacketed
    exact ⟨orderly.fewer kept.table kept.created, fun conn member =>
      traffic_concluded (kept.records conn member)
        (orderly.concluded conn (kept.table.subset member))⟩
  cases event with
  | packet arrival =>
    rcases handlePacket_handled traffic_frame.toQuietCreation (fun _ _ _ _ => ⟨rfl, id⟩) arrival state with
      ⟨-, ignored⟩ | ⟨conn, isTx, parsed, -, -, listed, handled⟩ |
      ⟨conn, isTx, parsed, opened, -, -, ref, records, table, handled⟩
    · rcases ignored.records with unchanged | created
      · have kept : Kept SameTraffic state (handlePacket arrival state).1 :=
          Kept.of_framed ignored.table (unchanged ▸ traffic_frame.unchanged _)
        exact ⟨orderly.fewer kept.table kept.created, fun conn member =>
          traffic_concluded (kept.records conn member)
            (orderly.concluded conn (kept.table.subset member))⟩
      · exact joined_orderly state _ [] orderly (by simp [ignored.table, step]) created (Or.inl rfl)
    · show Orderly (handlePacket arrival state).1
      rw [handled]
      exact handleConnection_orderly arrival _ isTx state conn orderly listed
    · have joined := joined_orderly state opened [conn] orderly table records
        (Or.inr ⟨conn.tuple, by rw [← ref]⟩)
      show Orderly (handlePacket arrival state).1
      rw [handled]
      exact handleConnection_orderly arrival _ isTx opened conn joined
        (table ▸ List.mem_append_right _ (List.mem_singleton.mpr rfl))
  | refreshTime nowMs => exact quiet fun _ => Event.noConfusion
  | allocator reallocs => exact quiet fun _ => Event.noConfusion
  | request wanted => exact quiet fun _ => Event.noConfusion
  | housekeeping pass => exact quiet fun _ => Event.noConfusion
  | purgeIfDue ndpi => exact quiet fun _ => Event.noConfusion

/-- What a pass of housekeeping meets in the libpcap capture, whatever has happened before. -/
theorem capture_orderly (config : Pd) (pcapFileCapture : Bool) (events : List Event) :
    Orderly (Machine.run step (start config pcapFileCapture) events) := by
  have initial : Orderly (start config pcapFileCapture) :=
    ⟨start_numbered config pcapFileCapture, fun _ member => absurd member List.not_mem_nil⟩
  exact Machine.run_invariant step (fun _ _ => True) Orderly
    (fun state event orderly _ => step_orderly state event orderly) _ events
    (Machine.along_of_forall step _ _ events fun _ _ _ => trivial) initial

end Capture

end Ptnet.MalwareWhitelist
