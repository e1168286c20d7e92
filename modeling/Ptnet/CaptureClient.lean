import Ptnet.CoreCalls
import Ptnet.Machine

/-!
A capture module as core/pcapdroid.c sees it: it calls the functions of pcapdroid.h on the
records it holds and writes its own fields into them. `active` is what
`iter_active_connections` visits, `closing` what was closed since the last housekeeping and
may still be used. A call on a record the module does not hold, or a notification of nothing,
cannot happen and is skipped.
-/

namespace Ptnet.CaptureClient

open Connection Pcapdroid
open Detection (Ndpi)
open NativeBlacklist (Blacklist)

structure Requests where
  malwareNewWl : Option Blacklist := none
  firewallNewBl : Option Blacklist := none
  firewallNewWl : Option Blacklist := none
  tlsNewList : Option Blacklist := none
  firewallEnabled : Bool := false
  wlEnabled : Bool := false
  blockPrivateDns : Bool := false
  dumpCaptureStatsNow : Bool := false
  payloadMode : PayloadMode := .none

def Requests.apply (wanted : Requests) (pd : Pd) : Pd :=
  { pd with
    malwareNewWl := wanted.malwareNewWl
    firewallNewBl := wanted.firewallNewBl
    firewallNewWl := wanted.firewallNewWl
    tlsNewList := wanted.tlsNewList
    dumpCaptureStatsNow := wanted.dumpCaptureStatsNow
    payloadMode := wanted.payloadMode
    policy := { pd.policy with
      firewall := { pd.policy.firewall with
        enabled := wanted.firewallEnabled, wlEnabled := wanted.wlEnabled }
      blockPrivateDns := wanted.blockPrivateDns } }

structure Client where
  pd : Pd
  active : List Slot := []
  closing : List Slot := []

inductive Call where
  /-- `pd_refresh_time` -/
  | refreshTime (nowMs : Nat)
  /-- The answers `realloc` is going to give. -/
  | allocator (reallocs : List Bool)
  | request (wanted : Requests)
  | newConnection (ndpi : Ndpi) (env : NewConnEnv) (tuple : Tuple) (uid : Int)
  | write (slot : Slot) (change : PdConn → PdConn)
  | processPacket (ndpi : Ndpi) (result : ChunkResult) (pctx : PktContext)
  | accountStats (ndpi : Ndpi) (pctx : PktContext)
  | notify (ndpi : Ndpi) (slot : Slot)
  | giveupDpi (ndpi : Ndpi) (slot : Slot)
  /-- `to_purge` is set and the module forgets the connection. -/
  | retire (slot : Slot)
  | purge (slot : Slot)
  | housekeeping (pass : Pass)

/-- A capture module leaves the marks of the core and the number of a record alone. -/
def ownFields (change : PdConn → PdConn) (data : PdConn) : PdConn :=
  { change data with
    pendingNotification := data.pendingNotification
    toPurge := data.toPurge
    incrId := data.incrId }

def markToPurge (data : PdConn) : PdConn := { data with toPurge := true }

def without (slots : List Slot) (ref : Ref) : List Slot := slots.filter fun slot => slot.data ≠ ref

namespace Client

def held (client : Client) : List Slot := client.active ++ client.closing

def step (client : Client) : Call → Client
  | .refreshTime nowMs => { client with pd := { client.pd with nowMs := nowMs } }
  | .allocator reallocs => { client with pd := { client.pd with reallocs := reallocs } }
  | .request wanted => { client with pd := wanted.apply client.pd }
  | .newConnection ndpi env tuple uid =>
      match pdNewConnection ndpi env client.pd tuple uid with
      | (pd, some ref) => { client with pd := pd, active := client.active ++ [⟨tuple, ref⟩] }
      | (pd, none) => { client with pd := pd }
  | .write slot change =>
      if slot ∈ client.held then
        { client with pd := client.pd.modify slot.data (ownFields change) }
      else client
  | .processPacket ndpi result pctx =>
      if ⟨pctx.tuple, pctx.data⟩ ∈ client.held then
        { client with pd := pdProcessPacket ndpi result client.pd pctx }
      else client
  | .accountStats ndpi pctx =>
      if ⟨pctx.tuple, pctx.data⟩ ∈ client.held then
        { client with pd := pdAccountStats ndpi client.pd pctx }
      else client
  | .notify ndpi slot =>
      if slot ∈ client.held ∧ (client.pd.heap slot.data).updateType ≠ 0 then
        { client with pd := (pdNotifyConnectionUpdate ndpi client.pd slot.tuple slot.data).1 }
      else client
  | .giveupDpi ndpi slot =>
      if slot ∈ client.held then
        { client with pd := pdGiveupDpi ndpi client.pd slot.data slot.tuple }
      else client
  | .retire slot =>
      if slot ∈ client.active then
        { pd := client.pd.modify slot.data markToPurge
          active := without client.active slot.data
          closing := client.closing ++ [slot] }
      else client
  | .purge slot =>
      if slot ∈ client.held ∧ (client.pd.heap slot.data).pendingNotification = false then
        { pd := pdPurgeConnection client.pd slot.data
          active := without client.active slot.data
          closing := without client.closing slot.data }
      else client
  | .housekeeping pass =>
      { client with
        pd := pdHousekeeping pass client.active client.pd
        closing := client.closing.filter fun slot =>
          !(client.pd.heap slot.data).pendingNotification }

end Client

/-- A capture that starts with the settings of `config`. -/
def start (config : Pd) : Client where
  pd := { config with
    heap := fun _ => {}
    purged := fun _ => 0
    created := 0
    misused := false
    crashed := false
    reallocs := []
    newConnId := 0
    newConns := {}
    connsUpdates := {}
    java := {} }

def unreached (results : Nat → DumpResult) : Nat → List Slot → List Slot
  | _, [] => []
  | index, _ :: rest =>
      if results index = .sent then unreached results (index + 1) rest else rest

def unreachedUpdates (jni : Jni) (pd : Pd) : List Slot :=
  if jni.arrays then unreached jni.updates 0 pd.connsUpdates.slots else pd.connsUpdates.slots

/-- The dump succeeds, or it announces no new connection and what lies behind the failure is
    about to be freed. -/
def HarmlessDump (jni : Jni) (pd : Pd) : Prop :=
  succeeds jni pd = true ∨
    pd.newConns.slots = [] ∧
      ∀ slot ∈ unreachedUpdates jni pd, (pd.heap slot.data).toPurge = true

instance (jni : Jni) (pd : Pd) : Decidable (HarmlessDump jni pd) :=
  inferInstanceAs (Decidable (_ ∨ _ ∧ _))

def Harmless (client : Client) : Call → Prop
  | .allocator reallocs => ∀ answer ∈ reallocs, answer = true
  | .housekeeping pass => dumpsConnections client.pd = true → HarmlessDump pass.jni client.pd
  | _ => True

/-- Nothing is lost: a pending record is queued, every number handed out has been delivered
    or is waiting in order, and the next change of an active record will be sent. -/
structure Intact (client : Client) : Prop where
  queued : ∀ ref, client.pd.alive ref → (client.pd.heap ref).pendingNotification = true →
    ref ∈ client.pd.queued
  known : client.pd.java.ids ++ newIds client.pd = List.range client.pd.newConnId
  reported : GrowthOk client.pd → ∀ slot ∈ client.active, ∀ ndpi,
    slot.data ∈ (pdNotifyConnectionUpdate ndpi client.pd slot.tuple slot.data).1.queued

def keptBy (slots : List Slot) : Set Ref := {ref | ∃ slot ∈ slots, slot.data = ref}

structure Valid (client : Client) : Prop where
  ledger : Ledger client.pd (keptBy client.held)
  growth : GrowthOk client.pd
  apart : (client.held.map Slot.data).Nodup
  idle : ∀ slot ∈ client.active, (client.pd.heap slot.data).toPurge = false
  closed : ∀ slot ∈ client.closing, (client.pd.heap slot.data).toPurge = true
  known : client.pd.java.ids ++ newIds client.pd = List.range client.pd.newConnId

theorem start_valid (config : Pd) : Valid (start config) where
  ledger :=
    { sound := ⟨rfl, rfl⟩
      newPacked := ConnArray.packed_empty
      updatesPacked := ConnArray.packed_empty
      distinct := List.nodup_nil
      queuedAlive := fun _ member => absurd member List.not_mem_nil
      pending := fun _ alive => absurd alive.1 (Nat.not_lt_zero _)
      keptAlive := by
        rintro ref ⟨_, member, -⟩
        exact absurd member List.not_mem_nil
      covered := fun _ alive => absurd alive.1 (Nat.not_lt_zero _)
      once := fun _ => Nat.zero_le 1
      unborn := fun _ _ => rfl }
  growth := fun _ member => absurd member List.not_mem_nil
  apart := List.nodup_nil
  idle := fun _ member => absurd member List.not_mem_nil
  closed := fun _ member => absurd member List.not_mem_nil
  known := rfl

theorem newIds_congr (before after : Pd) (slots : after.newConns.slots = before.newConns.slots)
    (named : ∀ ref ∈ before.newConns.refs, (after.heap ref).incrId = (before.heap ref).incrId) :
    newIds after = newIds before := by
  have refs : after.newConns.refs = before.newConns.refs := congrArg (List.map Slot.data) slots
  rw [newIds, newIds, refs]
  exact List.map_congr_left named

theorem mem_keptBy (slots : List Slot) (ref : Ref) :
    ref ∈ keptBy slots ↔ ∃ slot ∈ slots, slot.data = ref := Iff.rfl

theorem mem_without (slots : List Slot) (ref : Ref) (slot : Slot) :
    slot ∈ without slots ref ↔ slot ∈ slots ∧ slot.data ≠ ref := by
  simp [without]

theorem keptBy_without (first last : List Slot) (ref : Ref) :
    keptBy (without first ref ++ without last ref) = keptBy (first ++ last) \ {ref} := by
  ext other
  simp only [mem_keptBy, List.mem_append, mem_without, Set.mem_sdiff, Set.mem_singleton_iff]
  grind

theorem keptBy_retire (active closing : List Slot) (slot : Slot) (member : slot ∈ active) :
    keptBy (without active slot.data ++ (closing ++ [slot])) = keptBy (active ++ closing) := by
  ext other
  simp only [mem_keptBy, List.mem_append, mem_without, List.mem_singleton]
  grind

theorem keptBy_opened (active closing : List Slot) (slot : Slot) :
    keptBy (active ++ [slot] ++ closing) = insert slot.data (keptBy (active ++ closing)) := by
  ext other
  simp only [mem_keptBy, List.mem_append, List.mem_singleton, Set.mem_insert_iff]
  grind

theorem apart_retire (active closing : List Slot) (slot : Slot) (member : slot ∈ active)
    (apart : ((active ++ closing).map Slot.data).Nodup) :
    ((without active slot.data ++ (closing ++ [slot])).map Slot.data).Nodup := by
  have fewer : ((without active slot.data ++ closing).map Slot.data).Nodup :=
    apart.sublist (List.Sublist.map _ (List.filter_sublist.append (List.Sublist.refl _)))
  rw [← List.append_assoc, List.map_append, List.map_singleton, List.nodup_append]
  refine ⟨fewer, List.nodup_singleton _, ?_⟩
  rintro ref listed last this rfl
  rw [List.mem_singleton.mp this] at listed
  obtain ⟨other, among, same⟩ := List.mem_map.mp listed
  rcases List.mem_append.mp among with left | closed
  · exact ((mem_without _ _ _).mp left).2 same
  · rw [List.map_append] at apart
    exact (List.nodup_append.mp apart).2.2 _ (List.mem_map_of_mem member) _
      (List.mem_map_of_mem closed) same.symm

theorem apart_opened (active closing : List Slot) (slot : Slot)
    (fresh : slot.data ∉ (active ++ closing).map Slot.data)
    (apart : ((active ++ closing).map Slot.data).Nodup) :
    ((active ++ [slot] ++ closing).map Slot.data).Nodup := by
  have moved : (active ++ [slot] ++ closing).Perm (slot :: (active ++ closing)) := by
    rw [List.append_assoc]
    exact List.perm_middle
  rw [(moved.map Slot.data).nodup_iff]
  exact List.nodup_cons.mpr ⟨fresh, apart⟩

/-- Records that are queued to be freed need not be kept. -/
theorem ledger_release (pd : Pd) (kept fewer : Set Ref) (ledger : Ledger pd kept)
    (subset : fewer ⊆ kept)
    (released : ∀ ref ∈ kept, ref ∉ fewer →
      (pd.heap ref).toPurge = true ∧ (pd.heap ref).pendingNotification = true) :
    Ledger pd fewer where
  sound := ledger.sound
  newPacked := ledger.newPacked
  updatesPacked := ledger.updatesPacked
  distinct := ledger.distinct
  queuedAlive := ledger.queuedAlive
  pending := ledger.pending
  keptAlive ref member := ledger.keptAlive ref (subset member)
  covered := by
    intro ref alive
    rcases ledger.covered ref alive with member | purge
    · by_cases still : ref ∈ fewer
      · exact Or.inl still
      · obtain ⟨toPurge, pending⟩ := released ref member still
        exact Or.inr ⟨toPurge, (ledger.pending ref alive).mp pending⟩
    · exact Or.inr purge
  once := ledger.once
  unborn := ledger.unborn

theorem processed_unreached (results : Nat → DumpResult) (index : Nat) (slots : List Slot) :
    processed results index slots ++ unreached results index slots = slots := by
  induction slots generalizing index with
  | nil => rfl
  | cons slot rest ih =>
      unfold processed unreached
      split
      · rw [List.cons_append, ih (index + 1)]
      · rfl

/-- Without new connections the dump gets to all updates but the unreached ones. -/
theorem cleared_unreached (jni : Jni) (pd : Pd) (none : pd.newConns.slots = []) :
    clearedBy jni pd ++ (unreachedUpdates jni pd).map Slot.data = pd.queued := by
  unfold clearedBy unreachedUpdates Pd.queued ConnArray.refs
  cases jni.arrays with
  | false => simp [none]
  | true =>
      simp only [Bool.not_true, Bool.false_eq_true, if_false, if_true, none, completes,
        List.map_nil, List.nil_append]
      rw [← List.map_append, processed_unreached]

theorem harmlessDump_spares (jni : Jni) (pd : Pd) (harmless : HarmlessDump jni pd) :
    Spares jni pd := by
  rcases harmless with success | ⟨none, freed⟩
  · exact spares_of_succeeds jni pd success
  · intro ref member missed
    rw [← cleared_unreached jni pd none] at member
    rcases List.mem_append.mp member with reached | later
    · exact absurd reached missed
    · obtain ⟨slot, listed, rfl⟩ := List.mem_map.mp later
      exact freed slot listed

section Steps

variable (client : Client) (valid : Valid client)

include valid

theorem held_alive (slot : Slot) (member : slot ∈ client.held) : client.pd.alive slot.data :=
  valid.ledger.keptAlive slot.data ⟨slot, member, rfl⟩

theorem valid_ready : Ready client.pd :=
  ledger_ready client.pd _ valid.ledger valid.growth

theorem progress_valid (after : Pd) (progress : Progress client.pd after) :
    Valid { client with pd := after } where
  ledger := progress.ledger _ valid.ledger
  growth := progress.growth valid.growth
  apart := valid.apart
  idle slot member := (progress.toPurge slot.data).trans (valid.idle slot member)
  closed slot member := (progress.toPurge slot.data).trans (valid.closed slot member)
  known := by
    dsimp only
    rw [progress.java, newIds_congr _ _ progress.newSlots fun ref _ => progress.incrId ref,
      progress.newConnId]
    exact valid.known

theorem write_valid (slot : Slot) (change : PdConn → PdConn) (member : slot ∈ client.held) :
    Valid { client with pd := client.pd.modify slot.data (ownFields change) } := by
  have held := held_alive client valid slot member
  have same := modify_same client.pd slot.data (ownFields change) held
  have kept : ∀ ref, ((client.pd.modify slot.data (ownFields change)).heap ref).toPurge
        = (client.pd.heap ref).toPurge ∧
      ((client.pd.modify slot.data (ownFields change)).heap ref).incrId
        = (client.pd.heap ref).incrId := by
    intro ref
    by_cases this : ref = slot.data
    · subst this
      rw [Pd.modify_heap_self]
      exact ⟨rfl, rfl⟩
    · rw [Pd.modify_heap_other _ _ _ _ this]
      exact ⟨rfl, rfl⟩
  constructor
  · exact modify_ledger client.pd _ slot.data _ valid.ledger held ⟨rfl, id⟩
  · exact same.growth valid.growth
  · exact valid.apart
  · intro other active
    exact (kept other.data).1.trans (valid.idle other active)
  · intro other closing
    exact (kept other.data).1.trans (valid.closed other closing)
  · dsimp only
    rw [same.java, same.newConnId,
      newIds_congr _ _ (congrArg ConnArray.slots same.newConns) fun ref _ => (kept ref).2]
    exact valid.known

theorem retire_valid (slot : Slot) (member : slot ∈ client.active) :
    Valid
      { pd := client.pd.modify slot.data markToPurge
        active := without client.active slot.data
        closing := client.closing ++ [slot] } := by
  have held := held_alive client valid slot (List.mem_append_left _ member)
  have same := modify_same client.pd slot.data markToPurge held
  have other : ∀ ref, ref ≠ slot.data →
      (client.pd.modify slot.data markToPurge).heap ref = client.pd.heap ref :=
    fun ref differs => Pd.modify_heap_other _ _ _ _ differs
  have this : (client.pd.modify slot.data markToPurge).heap slot.data
      = markToPurge (client.pd.heap slot.data) := Pd.modify_heap_self ..
  constructor
  · dsimp only [Client.held]
    rw [keptBy_retire client.active client.closing slot member]
    exact modify_ledger client.pd _ slot.data _ valid.ledger held ⟨rfl, fun _ => rfl⟩
  · exact same.growth valid.growth
  · exact apart_retire client.active client.closing slot member valid.apart
  · intro left listed
    obtain ⟨before, differs⟩ := (mem_without _ _ _).mp listed
    dsimp only
    rw [other left.data differs]
    exact valid.idle left before
  · intro left listed
    dsimp only
    by_cases equal : left.data = slot.data
    · rw [equal, this]
      rfl
    · rw [other left.data equal]
      rcases List.mem_append.mp listed with before | last
      · exact valid.closed left before
      · exact absurd (congrArg Slot.data (List.mem_singleton.mp last)) equal
  · dsimp only
    rw [same.java, same.newConnId,
      newIds_congr client.pd _ (congrArg ConnArray.slots same.newConns)]
    · exact valid.known
    · intro ref _
      by_cases equal : ref = slot.data
      · rw [equal, this]
        rfl
      · rw [other ref equal]

theorem purge_valid (slot : Slot) (member : slot ∈ client.held)
    (idle : (client.pd.heap slot.data).pendingNotification = false) :
    Valid
      { pd := pdPurgeConnection client.pd slot.data
        active := without client.active slot.data
        closing := without client.closing slot.data } := by
  have held := held_alive client valid slot member
  have unqueued : slot.data ∉ client.pd.queued := by
    rw [← valid.ledger.pending slot.data held, idle]
    exact Bool.false_ne_true
  have freed := pdPurgeConnection_ledger client.pd _ slot.data valid.ledger held unqueued
  have equal := pdPurgeConnection_alive client.pd slot.data held
  constructor
  · dsimp only [Client.held]
    rw [keptBy_without]
    exact freed
  · rw [equal]
    exact valid.growth
  · refine valid.apart.sublist (List.Sublist.map _ ?_)
    exact List.filter_sublist.append List.filter_sublist
  · intro other listed
    rw [equal]
    exact valid.idle other ((mem_without _ _ _).mp listed).1
  · intro other listed
    rw [equal]
    exact valid.closed other ((mem_without _ _ _).mp listed).1
  · rw [equal]
    exact valid.known

omit valid in
theorem step_opened (ndpi : Ndpi) (env : NewConnEnv) (tuple : Tuple) (uid : Int) (after : Pd)
    (ref : Ref) (result : pdNewConnection ndpi env client.pd tuple uid = (after, some ref)) :
    client.step (.newConnection ndpi env tuple uid)
      = { client with pd := after, active := client.active ++ [⟨tuple, ref⟩] } := by
  unfold Client.step
  dsimp only
  rw [result]

omit valid in
theorem step_refused (ndpi : Ndpi) (env : NewConnEnv) (tuple : Tuple) (uid : Int) (after : Pd)
    (result : pdNewConnection ndpi env client.pd tuple uid = (after, none)) :
    client.step (.newConnection ndpi env tuple uid) = { client with pd := after } := by
  unfold Client.step
  dsimp only
  rw [result]

theorem newConnection_valid (ndpi : Ndpi) (env : NewConnEnv) (tuple : Tuple) (uid : Int) :
    Valid (client.step (.newConnection ndpi env tuple uid)) := by
  rcases pdNewConnection_spec ndpi env client.pd tuple uid _ valid.ledger valid.growth with
    ⟨after, ref, result, opened⟩ | ⟨after, result, refused⟩
  · rw [step_opened client ndpi env tuple uid after ref result]
    -- The reference is the next one of the allocator, which no slot has yet.
    have earlier : ∀ slot ∈ client.held, slot.data ≠ ref := by
      intro slot member same
      have born := (held_alive client valid slot member).1
      rw [same, opened.named] at born
      exact absurd born (Nat.lt_irrefl _)
    constructor
    · dsimp only [Client.held]
      rw [keptBy_opened client.active client.closing ⟨tuple, ref⟩]
      exact opened.ledger _ valid.ledger
    · exact opened.growth
    · refine apart_opened client.active client.closing ⟨tuple, ref⟩ ?_ valid.apart
      intro member
      obtain ⟨slot, listed, same⟩ := List.mem_map.mp member
      exact earlier slot listed same
    · intro slot listed
      rcases List.mem_append.mp listed with before | last
      · have differs := earlier slot (List.mem_append_left _ before)
        exact (opened.others slot.data differs).toPurge.trans (valid.idle slot before)
      · rw [List.mem_singleton.mp last]
        exact opened.toPurge
    · intro slot listed
      have differs := earlier slot (List.mem_append_right _ listed)
      exact (opened.others slot.data differs).toPurge.trans (valid.closed slot listed)
    -- Java knows the ids up to the waiting ones, and the new id is the last of these.
    · have waiting : newIds after = newIds client.pd ++ [client.pd.newConnId] := by
        have refs : after.newConns.refs = client.pd.newConns.refs ++ [ref] := by
          rw [ConnArray.refs, opened.newSlots, List.map_append]
          rfl
        rw [newIds, refs, List.map_append, List.map_singleton, opened.incrId, newIds]
        congr 1
        apply List.map_congr_left
        intro other member
        have queued := valid.ledger.queuedAlive other (List.mem_append_left _ member)
        refine (opened.others other ?_).incrId
        rintro rfl
        rw [opened.named] at queued
        exact absurd queued.1 (Nat.lt_irrefl _)
      dsimp only
      rw [opened.java, waiting, opened.newConnId, List.range_succ, ← List.append_assoc,
        valid.known]
  · rw [step_refused client ndpi env tuple uid after result]
    have ledger := refused_ledger client.pd after refused _ valid.ledger
    have same : GrowthOk after ∧ after.newConnId = client.pd.newConnId ∧
        after.java = client.pd.java ∧ after.newConns = client.pd.newConns ∧
        ∀ ref, ref < client.pd.created → after.heap ref = client.pd.heap ref := by
      rcases refused with rfl | rfl
      · exact ⟨valid.growth, rfl, rfl, rfl, fun _ _ => rfl⟩
      · have born := (allocateConn_alive client.pd _ valid.ledger client.pd.created).mpr
          (Or.inr rfl)
        rw [pdPurgeConnection_alive _ _ born]
        exact ⟨valid.growth, rfl, rfl, rfl,
          fun ref earlier => Function.update_of_ne (Nat.ne_of_lt earlier) ..⟩
    obtain ⟨growth, newConnId, java, newConns, heap⟩ := same
    constructor
    · exact ledger
    · exact growth
    · exact valid.apart
    · intro slot listed
      dsimp only
      rw [heap _ (held_alive client valid slot (List.mem_append_left _ listed)).1]
      exact valid.idle slot listed
    · intro slot listed
      dsimp only
      rw [heap _ (held_alive client valid slot (List.mem_append_right _ listed)).1]
      exact valid.closed slot listed
    · dsimp only
      rw [java, newConnId, newIds_congr _ _ (congrArg ConnArray.slots newConns)]
      · exact valid.known
      · intro ref member
        rw [heap _ (valid.ledger.queuedAlive ref (List.mem_append_left _ member)).1]

/-- A pass is a dump or no dump, and then a revision of the lists. -/
theorem housekeeping_effect (pass : Pass) :
    ∃ middle, Progress middle (pdHousekeeping pass client.active client.pd) ∧
      ((dumpsConnections client.pd = true ∧ AfterDump pass.jni client.pd middle) ∨
        (dumpsConnections client.pd = false ∧ Progress client.pd middle)) := by
  have alive := fun slot member => held_alive client valid slot (List.mem_append_left _ member)
  rw [pdHousekeeping_eq]
  refine ⟨periodicTask pass client.pd, ?_⟩
  rcases periodicTask_cases pass client.pd with ⟨dumps, equal⟩ | ⟨quiet, revised⟩
  · have after := dumpConnections_after pass.jni client.pd _ valid.ledger
    rw [← equal] at after
    refine ⟨reloadLists_progress _ _ _ ⟨?_, after.growth valid.growth⟩ ?_, Or.inl ⟨dumps, after⟩⟩
    · intro which
      cases which with
      | newConns => exact after.newPacked
      | connsUpdates => exact after.updatesPacked
    · intro slot member
      obtain ⟨born, unpurged⟩ := alive slot member
      refine ⟨after.created ▸ born, ?_⟩
      rw [after.purged, freed, if_neg]
      · exact unpurged
      · rintro ⟨-, toPurge⟩
        rw [valid.idle slot member] at toPurge
        cases toPurge
  · have progress := Progress.of_revised revised
    refine ⟨reloadLists_progress _ _ _ (progress.ready (valid_ready client valid)) ?_,
      Or.inr ⟨quiet, progress⟩⟩
    intro slot member
    exact (progress.alive slot.data).mpr (alive slot member)

theorem housekeeping_valid (pass : Pass) (harmless : Harmless client (.housekeeping pass)) :
    Valid (client.step (.housekeeping pass)) := by
  let left := client.closing.filter fun slot => !(client.pd.heap slot.data).pendingNotification
  have leftIdle : ∀ slot ∈ left, slot ∈ client.closing ∧
      (client.pd.heap slot.data).pendingNotification = false := by
    intro slot member
    simpa [left] using member
  obtain ⟨middle, revised, task⟩ := housekeeping_effect client valid pass
  -- A dump that fails forgets nothing only while no connection is new.
  have carried : GrowthOk middle ∧ middle.newConnId = client.pd.newConnId ∧
      (∀ ref, (middle.heap ref).toPurge = (client.pd.heap ref).toPurge) ∧
      middle.java.ids ++ newIds middle = List.range client.pd.newConnId := by
    rcases task with ⟨dumps, after⟩ | ⟨-, progress⟩
    · refine ⟨after.growth valid.growth, after.newConnId, after.toPurge, ?_⟩
      have empty : middle.newConns.refs = [] := (List.append_eq_nil_iff.mp after.queued).1
      have noIds : newIds middle = [] := by rw [newIds, empty, List.map_nil]
      rw [noIds, List.append_nil, after.ids, ← valid.known]
      split
      · rfl
      · rcases harmless dumps with success | ⟨none, -⟩
        · exact absurd success ‹_›
        · rw [newIds, ConnArray.refs, none, List.map_nil, List.map_nil, List.append_nil]
    · refine ⟨progress.growth valid.growth, progress.newConnId, progress.toPurge, ?_⟩
      have still := (progress_valid client valid middle progress).known
      rwa [progress.newConnId] at still
  obtain ⟨growth, newConnId, toPurge, known⟩ := carried
  -- Behind the pass the caller keeps the active slots and the closing ones that still wait.
  have released : Ledger client.pd (keptBy (client.active ++ left)) := by
    refine ledger_release client.pd _ _ valid.ledger ?_ ?_
    · rintro ref ⟨slot, member, rfl⟩
      rcases List.mem_append.mp member with active | closing
      · exact ⟨slot, List.mem_append_left _ active, rfl⟩
      · exact ⟨slot, List.mem_append_right _ (leftIdle slot closing).1, rfl⟩
    · rintro ref ⟨slot, member, rfl⟩ gone
      rcases List.mem_append.mp member with active | closing
      · exact absurd ⟨slot, List.mem_append_left _ active, rfl⟩ gone
      · refine ⟨valid.closed slot closing, ?_⟩
        by_contra idle
        refine gone ⟨slot, List.mem_append_right _ ?_, rfl⟩
        exact List.mem_filter.mpr ⟨closing, by simpa using idle⟩
  constructor
  · refine (pdHousekeeping_ledger pass client.active client.pd _ released valid.growth
      (fun dumps => harmlessDump_spares pass.jni client.pd (harmless dumps)) ?_
      fun slot member => ⟨slot, List.mem_append_left _ member, rfl⟩).1
    rintro ref ⟨slot, member, rfl⟩ marked queued
    rcases List.mem_append.mp member with active | closing
    · rw [valid.idle slot active] at marked
      cases marked
    · have alive := held_alive client valid slot (List.mem_append_right _ (leftIdle slot closing).1)
      rw [← valid.ledger.pending slot.data alive, (leftIdle slot closing).2] at queued
      cases queued
  · exact revised.growth growth
  · exact valid.apart.sublist (List.Sublist.map _ ((List.Sublist.refl _).append List.filter_sublist))
  · intro slot active
    exact (revised.toPurge slot.data).trans ((toPurge slot.data).trans (valid.idle slot active))
  · intro slot closing
    exact (revised.toPurge slot.data).trans
      ((toPurge slot.data).trans (valid.closed slot (leftIdle slot closing).1))
  · change (pdHousekeeping pass client.active client.pd).java.ids
      ++ newIds (pdHousekeeping pass client.active client.pd)
        = List.range (pdHousekeeping pass client.active client.pd).newConnId
    rw [revised.java, revised.newConnId, newConnId,
      newIds_congr _ _ revised.newSlots fun ref _ => revised.incrId ref]
    exact known

theorem valid_intact : Intact client where
  queued ref alive pending := (valid.ledger.pending ref alive).mp pending
  known := valid.known
  reported := by
    intro growth slot active ndpi
    have held := held_alive client valid slot (List.mem_append_left _ active)
    obtain ⟨after, result, notified⟩ := notifConnection_spec ndpi client.pd .connsUpdates
      slot.tuple slot.data (valid_ready client valid).packed held growth
    rw [pdNotifyConnectionUpdate, result]
    refine (notified.mem_queued slot.data).mpr ?_
    cases pending : (client.pd.heap slot.data).pendingNotification with
    | false => exact Or.inr ⟨rfl, rfl⟩
    | true => exact Or.inl ((valid.ledger.pending slot.data held).mp pending)

/-- A dump that is not harmless leaves a pending record without a queue, or it forgets a new
    connection. -/
theorem housekeeping_harmless (pass : Pass)
    (intact : Intact (client.step (.housekeeping pass))) :
    Harmless client (.housekeeping pass) := by
  intro dumps
  obtain ⟨middle, revised, ⟨-, after⟩ | ⟨quiet, -⟩⟩ := housekeeping_effect client valid pass
  · by_cases success : succeeds pass.jni client.pd = true
    · exact Or.inl success
    -- The failed dump announced nobody, and yet Java knows every connection.
    · have empty : middle.newConns.refs = [] := (List.append_eq_nil_iff.mp after.queued).1
      have known : (pdHousekeeping pass client.active client.pd).java.ids
          ++ newIds (pdHousekeeping pass client.active client.pd) = _ := intact.known
      have noIds : newIds middle = [] := by rw [newIds, empty, List.map_nil]
      rw [newIds_congr _ _ revised.newSlots fun ref _ => revised.incrId ref, noIds,
        List.append_nil, revised.java, after.ids, if_neg success] at known
      have delivered : client.pd.java.ids = List.range client.pd.newConnId := by
        rw [known]
        exact congrArg List.range (revised.newConnId.trans after.newConnId)
      have none : client.pd.newConns.slots = [] := by
        have before := valid.known
        rw [← delivered, List.append_right_eq_self] at before
        exact List.map_eq_nil_iff.mp (List.map_eq_nil_iff.mp before)
      refine Or.inr ⟨none, ?_⟩
      intro slot listed
      by_contra unmarked
      have split := cleared_unreached pass.jni client.pd none
      have queued : slot.data ∈ client.pd.queued := by
        rw [← split]
        exact List.mem_append_right _ (List.mem_map_of_mem listed)
      -- A slot that the dump did not get to stays marked, in a queue that is gone.
      have missed : slot.data ∉ clearedBy pass.jni client.pd := by
        intro reached
        have distinct := valid.ledger.distinct
        rw [← split] at distinct
        exact (List.nodup_append.mp distinct).2.2 _ reached _ (List.mem_map_of_mem listed) rfl
      have alive := valid.ledger.queuedAlive slot.data queued
      have pending : (middle.heap slot.data).pendingNotification = true := by
        rw [after.pending, if_neg missed]
        exact (valid.ledger.pending slot.data alive).mpr queued
      have still : middle.alive slot.data := by
        refine ⟨after.created ▸ alive.1, ?_⟩
        rw [after.purged, freed, if_neg]
        · exact alive.2
        · rintro ⟨-, marked⟩
          exact unmarked (by simpa using marked)
      have lost := intact.queued slot.data ((revised.alive slot.data).mpr still)
        (revised.pending slot.data pending)
      rcases revised.fresh slot.data lost with old | idle
      · rw [after.queued] at old
        cases old
      · rw [pending] at idle
        cases idle
  · rw [quiet] at dumps
    cases dumps

theorem guarded_valid (possible : Prop) [Decidable possible] (after : Client)
    (holds : possible → Valid after) : Valid (if possible then after else client) := by
  split
  · exact holds ‹_›
  · exact valid

theorem step_valid (call : Call) (harmless : Harmless client call) :
    Valid (client.step call) := by
  have ready := valid_ready client valid
  have alive := held_alive client valid
  cases call with
  | refreshTime nowMs =>
      exact progress_valid client valid _
        (relist_progress _ _ ⟨⟨rfl, rfl, rfl, rfl, rfl, rfl, rfl, rfl, id⟩, rfl, rfl⟩ rfl)
  | allocator reallocs =>
      exact progress_valid client valid _
        (relist_progress _ _ ⟨⟨rfl, rfl, rfl, rfl, rfl, rfl, rfl, rfl, fun _ => harmless⟩, rfl,
          rfl⟩ rfl)
  | request wanted =>
      exact progress_valid client valid _
        (relist_progress _ _ ⟨⟨rfl, rfl, rfl, rfl, rfl, rfl, rfl, rfl, id⟩, rfl, rfl⟩ rfl)
  | newConnection ndpi env tuple uid => exact newConnection_valid client valid ndpi env tuple uid
  | write slot change =>
      exact guarded_valid client valid _ _ (write_valid client valid slot change)
  | processPacket ndpi result pctx =>
      refine guarded_valid client valid _ _ fun member => progress_valid client valid _ ?_
      exact pdProcessPacket_progress ndpi result client.pd pctx ready (alive _ member)
  | accountStats ndpi pctx =>
      refine guarded_valid client valid _ _ fun member => progress_valid client valid _ ?_
      exact pdAccountStats_progress ndpi client.pd pctx ready (alive _ member)
  | notify ndpi slot =>
      refine guarded_valid client valid _ _ fun possible => progress_valid client valid _ ?_
      exact notify_progress ndpi client.pd slot.tuple slot.data ready (alive _ possible.1) possible.2
  | giveupDpi ndpi slot =>
      refine guarded_valid client valid _ _ fun member => progress_valid client valid _ ?_
      exact pdGiveupDpi_progress ndpi client.pd slot.tuple slot.data (alive _ member)
  | retire slot => exact guarded_valid client valid _ _ (retire_valid client valid slot)
  | purge slot =>
      exact guarded_valid client valid _ _ fun possible =>
        purge_valid client valid slot possible.1 possible.2
  | housekeeping pass => exact housekeeping_valid client valid pass harmless

end Steps

def Reaches (client after : Client) : Prop :=
  ∃ calls, Machine.Along Client.step Harmless client calls ∧
    Machine.run Client.step client calls = after

theorem Reaches.refl (client : Client) : Reaches client client := ⟨[], trivial, rfl⟩

theorem Reaches.trans {client between after : Client} (first : Reaches client between)
    (last : Reaches between after) : Reaches client after := by
  obtain ⟨calls, harmless, rfl⟩ := first
  obtain ⟨more, harmlessMore, rfl⟩ := last
  refine ⟨calls ++ more, ?_, Machine.run_append ..⟩
  exact (Machine.along_append ..).mpr ⟨harmless, harmlessMore⟩

theorem Reaches.call (client after : Client) (call : Call) (harmless : Harmless client call)
    (result : client.step call = after) : Reaches client after :=
  ⟨[call], ⟨harmless, trivial⟩, result⟩

theorem Reaches.valid {client after : Client} (reaches : Reaches client after)
    (valid : Valid client) : Valid after := by
  obtain ⟨calls, harmless, rfl⟩ := reaches
  exact Machine.run_invariant Client.step Harmless Valid
    (fun current call valid harmless => step_valid current valid call harmless)
    client calls harmless valid

theorem run_valid (config : Pd) (calls : List Call)
    (harmless : Machine.Along Client.step Harmless (start config) calls) :
    Valid (Machine.run Client.step (start config) calls) :=
  Reaches.valid ⟨calls, harmless, rfl⟩ (start_valid config)

/-- Along harmless calls nothing is lost, and the next housekeeping loses something exactly
    when its dump is not harmless. -/
theorem failedDump_losesNothing (config : Pd) (calls : List Call)
    (harmless : Machine.Along Client.step Harmless (start config) calls) (pass : Pass) :
    Intact (Machine.run Client.step (start config) calls) ∧
      (Intact (Machine.run Client.step (start config) (calls ++ [.housekeeping pass])) ↔
        Harmless (Machine.run Client.step (start config) calls) (.housekeeping pass)) := by
  have valid := run_valid config calls harmless
  refine ⟨valid_intact _ valid, ?_⟩
  rw [Machine.run_append, Machine.run_cons, Machine.run_nil]
  exact ⟨housekeeping_harmless _ valid pass,
    fun next => valid_intact _ (housekeeping_valid _ valid pass next)⟩

section Example

def plainTables : NdpiTables := ⟨fun _ => true, fun _ => true, 512, fun _ => "Unknown"⟩

def idleConfig : Pd := { tables := plainTables }

def plainNdpi : Ndpi where
  tables := plainTables
  processPacket flow := (flow, ⟨0, 0⟩)
  giveup flow := (flow, ⟨0, 0⟩)
  extraDissectionPossible _ := false
  strndupInfo := true
  strndupUrl := true

def clientIp : Ip := 0x0A000001000000000000000000000000

def serverIp : Ip := 0x08080808000000000000000000000000

def webTuple : Tuple := ⟨clientIp, serverIp, 40000, 443, 4, IPPROTO_TCP⟩

def opening : Call := .newConnection plainNdpi {} webTuple 10100

def reopened : List Call :=
  [opening, .housekeeping { ndpi := fun _ => plainNdpi }, .refreshTime 5000,
    .newConnection plainNdpi {} { webTuple with srcPort := 40001 } 10200]

/-- The next dump loses nothing, unless its arrays cannot be made. -/
theorem reopened_dump_losesNothing :
    Intact (Machine.run Client.step (start idleConfig) reopened) ∧
      Intact (Machine.run Client.step (start idleConfig)
        (reopened ++ [.housekeeping { ndpi := fun _ => plainNdpi }])) ∧
      ¬ Intact (Machine.run Client.step (start idleConfig)
        (reopened ++ [.housekeeping { jni := { arrays := false }, ndpi := fun _ => plainNdpi }])) := by
  have harmless : Machine.Along Client.step Harmless (start idleConfig) reopened :=
    ⟨trivial, fun _ => .inl (by decide +kernel), trivial, trivial, trivial⟩
  obtain ⟨intact, dumped⟩ := failedDump_losesNothing idleConfig reopened harmless
    { ndpi := fun _ => plainNdpi }
  have failed := (failedDump_losesNothing idleConfig reopened harmless
    { jni := { arrays := false }, ndpi := fun _ => plainNdpi }).2
  refine ⟨intact, dumped.mpr fun _ => .inl (by decide +kernel), fun unharmed => ?_⟩
  have due := failed.mp unharmed (by decide +kernel)
  revert due
  decide +kernel

/-- A dump without its arrays: the connection is never announced and stays pending. -/
theorem failedArrays_loseConnection :
    ¬ Intact (Machine.run Client.step (start idleConfig)
      [opening, .housekeeping { jni := { arrays := false }, ndpi := fun _ => plainNdpi }]) := by
  intro intact
  have queued := intact.queued 0 (by decide) (by decide)
  revert queued
  decide

end Example

end Ptnet.CaptureClient
