import Ptnet.Housekeeping
import Ptnet.BlockDecision

/-!
What a pass of housekeeping leaves alone. Nothing but the three loads of lists writes the
lists and switches of a capture, and nothing but the checks of active connections writes the
fields a block decision is made of.
-/

namespace Ptnet.Pcapdroid

open Connection
open BlockDecision (SameDecision)
open Detection (Firewall Ndpi)
open ConnectionMirror (ConnectionUpdate getConnUpdate)
open NativeBlacklist (Blacklist)

/-- The lists which the app replaces, the switches they depend on and the lists that wait
    for housekeeping. -/
structure Settings where
  firewall : Firewall
  malwareWhitelist : Option Blacklist
  tlsList : Option Blacklist
  vpnCapture : Bool
  malwareEnabled : Bool
  tlsEnabled : Bool
  malwareNewWl : Option Blacklist
  firewallNewBl : Option Blacklist
  firewallNewWl : Option Blacklist
  tlsNewList : Option Blacklist

def Pd.settings (pd : Pd) : Settings where
  firewall := pd.policy.firewall
  malwareWhitelist := pd.policy.malware.whitelist
  tlsList := pd.policy.tlsList
  vpnCapture := pd.policy.vpnCapture
  malwareEnabled := pd.malwareEnabled
  tlsEnabled := pd.tlsEnabled
  malwareNewWl := pd.malwareNewWl
  firewallNewBl := pd.firewallNewBl
  firewallNewWl := pd.firewallNewWl
  tlsNewList := pd.tlsNewList

section Frames

variable (pd : Pd) (ref : Ref)

@[simp] theorem access_settings : (pd.access ref).settings = pd.settings := by
  unfold Pd.access
  split <;> rfl

@[simp] theorem access_heap : (pd.access ref).heap = pd.heap := by
  unfold Pd.access
  split <;> rfl

@[simp] theorem modify_settings (change : PdConn → PdConn) :
    (pd.modify ref change).settings = pd.settings := access_settings pd ref

@[simp] theorem modify_heap (change : PdConn → PdConn) :
    (pd.modify ref change).heap = Function.update pd.heap ref (change (pd.heap ref)) := rfl

@[simp] theorem setArray_settings (which : Which) (arr : ConnArray) :
    (pd.setArray which arr).settings = pd.settings := by
  cases which <;> rfl

@[simp] theorem setArray_heap (which : Which) (arr : ConnArray) :
    (pd.setArray which arr).heap = pd.heap := by
  cases which <;> rfl

@[simp] theorem access_created : (pd.access ref).created = pd.created := by
  unfold Pd.access
  split <;> rfl

@[simp] theorem modify_created (change : PdConn → PdConn) :
    (pd.modify ref change).created = pd.created := access_created pd ref

@[simp] theorem setArray_created (which : Which) (arr : ConnArray) :
    (pd.setArray which arr).created = pd.created := by
  cases which <;> rfl

end Frames

section Notification

variable (ndpi : Ndpi) (pd : Pd) (which : Which)

theorem storeSlot_settings (slot : Slot) : (storeSlot pd which slot).settings = pd.settings := by
  simp only [storeSlot]
  split
  · rfl
  · rw [modify_settings, setArray_settings]

theorem enqueue_settings (slot : Slot) : (enqueue pd which slot).1.settings = pd.settings := by
  simp only [enqueue]
  split
  · split
    · exact (storeSlot_settings _ which slot).trans (setArray_settings pd which _)
    · exact setArray_settings pd which _
  · exact storeSlot_settings pd which slot

/-- The first part of `notif_connection`: the end of detection for a closed connection. -/
def endDetection (tuple : Tuple) (ref : Ref) : Pd :=
  if ((pd.access ref).heap ref).status.isClosed then pdGiveupDpi ndpi (pd.access ref) ref tuple
  else pd.access ref

theorem notifConnection_eq (tuple : Tuple) (ref : Ref) :
    notifConnection ndpi pd which tuple ref =
      if ((endDetection ndpi pd tuple ref).heap ref).pendingNotification then
        (endDetection ndpi pd tuple ref, true)
      else enqueue (endDetection ndpi pd tuple ref) which ⟨tuple, ref⟩ := rfl

theorem endDetection_settings (tuple : Tuple) (ref : Ref) :
    (endDetection ndpi pd tuple ref).settings = pd.settings := by
  unfold endDetection
  split <;> simp [pdGiveupDpi]

theorem notifConnection_settings (tuple : Tuple) (ref : Ref) :
    (notifConnection ndpi pd which tuple ref).1.settings = pd.settings := by
  rw [notifConnection_eq]
  split
  · exact endDetection_settings ndpi pd tuple ref
  · exact (enqueue_settings _ which _).trans (endDetection_settings ndpi pd tuple ref)

def Marked (before after : PdConn) : Prop :=
  ∃ pending, after = { before with pendingNotification := pending }

theorem storeSlot_heap (slot : Slot) (ref : Ref) :
    Marked (pd.heap ref) ((storeSlot pd which slot).heap ref) := by
  simp only [storeSlot]
  split
  · exact ⟨(pd.heap ref).pendingNotification, rfl⟩
  · by_cases own : ref = slot.data
    · subst own
      exact ⟨true, by simp⟩
    · exact ⟨(pd.heap ref).pendingNotification, by simp [own]⟩

theorem enqueue_heap (slot : Slot) (ref : Ref) :
    Marked (pd.heap ref) ((enqueue pd which slot).1.heap ref) := by
  simp only [enqueue]
  split
  · split
    · simpa using storeSlot_heap
        { pd.setArray which ((pd.array which).extend (pd.reallocs.headD true)) with
          reallocs := pd.reallocs.tail } which slot ref
    · exact ⟨(pd.heap ref).pendingNotification, by simp⟩
  · exact storeSlot_heap pd which slot ref

def Concluded (data : PdConn) : Prop := data.status.isClosed = true → data.ndpiFlow = none

theorem endDetection_heap (tuple : Tuple) (ref : Ref) (concluded : Concluded (pd.heap ref)) :
    (endDetection ndpi pd tuple ref).heap = pd.heap := by
  unfold endDetection
  split
  · next closed =>
      rw [access_heap] at closed
      simp [pdGiveupDpi, Detection.pdGiveupDpi, concluded closed]
  · exact access_heap pd ref

theorem notifConnection_heap (tuple : Tuple) (ref other : Ref) (concluded : Concluded (pd.heap ref)) :
    Marked (pd.heap other) ((notifConnection ndpi pd which tuple ref).1.heap other) := by
  have ended := endDetection_heap ndpi pd tuple ref concluded
  rw [notifConnection_eq]
  split
  · exact ⟨(pd.heap other).pendingNotification, by rw [ended]⟩
  · simpa only [ended] using enqueue_heap (endDetection ndpi pd tuple ref) which ⟨tuple, ref⟩ other

/-- A notification ends the detection for a record that is closed. -/
theorem notifConnection_concluded (tuple : Tuple) (ref : Ref) :
    Concluded ((notifConnection ndpi pd which tuple ref).1.heap ref) := by
  have ended : Concluded ((endDetection ndpi pd tuple ref).heap ref) := by
    unfold endDetection
    split
    · intro _
      simp only [pdGiveupDpi, modify_heap, Function.update_self, Detection.pdGiveupDpi]
      split
      · next none' => exact none'
      · rfl
    · next unclosed =>
      intro closed
      rw [access_heap] at unclosed closed
      exact absurd closed unclosed
  rw [notifConnection_eq]
  split
  · exact ended
  · obtain ⟨pending, same⟩ := enqueue_heap (endDetection ndpi pd tuple ref) which ⟨tuple, ref⟩ ref
    rw [same]
    exact ended

end Notification

/-- The fields of a record which decide about blocking it, and those which end detection. -/
structure SameVerdict (before after : PdConn) : Prop extends SameDecision before after where
  status : after.status = before.status
  ndpiFlow : after.ndpiFlow = before.ndpiFlow

namespace SameVerdict

theorem refl (data : PdConn) : SameVerdict data data := ⟨⟨rfl, rfl, rfl, rfl, rfl⟩, rfl, rfl⟩

theorem trans {before between after : PdConn} (first : SameVerdict before between)
    (last : SameVerdict between after) : SameVerdict before after :=
  ⟨first.toSameDecision.trans last.toSameDecision, last.status.trans first.status,
    last.ndpiFlow.trans first.ndpiFlow⟩

theorem of_marked {before after : PdConn} (marked : Marked before after) :
    SameVerdict before after := by
  obtain ⟨pending, rfl⟩ := marked
  exact ⟨⟨rfl, rfl, rfl, rfl, rfl⟩, rfl, rfl⟩

theorem concluded {before after : PdConn} (same : SameVerdict before after)
    (concluded : Concluded before) : Concluded after := by
  intro closed
  rw [same.ndpiFlow]
  exact concluded (by rwa [same.status] at closed)

end SameVerdict

structure SameVerdicts (before after : Pd) : Prop where
  settings : after.settings = before.settings
  records : ∀ ref, SameVerdict (before.heap ref) (after.heap ref)

namespace SameVerdicts

theorem refl (pd : Pd) : SameVerdicts pd pd := ⟨rfl, fun _ => SameVerdict.refl _⟩

theorem trans {before between after : Pd} (first : SameVerdicts before between)
    (last : SameVerdicts between after) : SameVerdicts before after :=
  ⟨last.settings.trans first.settings, fun ref => (first.records ref).trans (last.records ref)⟩

theorem of_heap {before after : Pd} (settings : after.settings = before.settings)
    (heap : after.heap = before.heap) : SameVerdicts before after :=
  ⟨settings, fun ref => by rw [heap]; exact SameVerdict.refl _⟩

theorem modify (pd : Pd) (ref : Ref) (change : PdConn → PdConn)
    (same : SameVerdict (pd.heap ref) (change (pd.heap ref))) :
    SameVerdicts pd (pd.modify ref change) := by
  refine ⟨modify_settings pd ref change, fun other => ?_⟩
  by_cases own : other = ref
  · subst own
    simpa using same
  · simpa [own] using SameVerdict.refl (pd.heap other)

theorem notified (ndpi : Ndpi) (pd : Pd) (which : Which) (tuple : Tuple) (ref : Ref)
    (concluded : Concluded (pd.heap ref)) :
    SameVerdicts pd (notifConnection ndpi pd which tuple ref).1 :=
  ⟨notifConnection_settings ndpi pd which tuple ref, fun other =>
    SameVerdict.of_marked (notifConnection_heap ndpi pd which tuple ref other concluded)⟩

theorem foldl (callback : Pd → Slot → Pd) (slots : List Slot) (pd : Pd)
    (keeps : ∀ current slot, SameVerdicts current (callback current slot)) :
    SameVerdicts pd (slots.foldl callback pd) := by
  induction slots generalizing pd with
  | nil => exact refl pd
  | cons slot rest ih => exact (keeps pd slot).trans (ih (callback pd slot))

end SameVerdicts

section Dump

def Outgoing (before after : PdConn) : Prop :=
  ∃ pending bits chunks, after =
    { before with pendingNotification := pending, updateType := bits, payloadChunks := chunks }

section Outgoing

variable {first second third : PdConn}

theorem Outgoing.refl (data : PdConn) : Outgoing data data := ⟨_, _, _, rfl⟩

theorem Outgoing.trans (left : Outgoing first second) (right : Outgoing second third) :
    Outgoing first third := by
  obtain ⟨pending, bits, chunks, rfl⟩ := left
  obtain ⟨pending', bits', chunks', rfl⟩ := right
  exact ⟨pending', bits', chunks', rfl⟩

theorem Outgoing.of_marked (marked : Marked first second) : Outgoing first second := by
  obtain ⟨pending, rfl⟩ := marked
  exact ⟨pending, _, _, rfl⟩

theorem touch_outgoing (data : PdConn) (bit : BitVec 8) : Outgoing data (data.touch bit) :=
  ⟨_, _, _, rfl⟩

theorem Outgoing.concluded (same : Outgoing first second) (concluded : Concluded first) :
    Concluded second := by
  obtain ⟨pending, bits, chunks, rfl⟩ := same
  exact concluded

end Outgoing

theorem getConnUpdate_dumped (tables : NdpiTables) (vpnCapture : Bool) (tuple : Tuple)
    (data : PdConn) : Outgoing data (getConnUpdate tables vpnCapture tuple data).2 := by
  simp only [getConnUpdate]
  split
  · exact ⟨data.pendingNotification, 0, none, rfl⟩
  · exact ⟨data.pendingNotification, 0, data.payloadChunks, rfl⟩

/-- A relation between states which the callback of the dump keeps: it bears with the writes to the
    fields that are dumped, with the use of a record, with a crash and with what Java gets. -/
structure DumpSteps (same : Pd → Pd → Prop) : Prop where
  refl : ∀ pd, same pd pd
  trans : ∀ before between after, same before between → same between after → same before after
  modify : ∀ pd ref change, Outgoing (pd.heap ref) (change (pd.heap ref)) →
    same pd (pd.modify ref change)
  misused : ∀ pd : Pd, same pd { pd with misused := true }
  crashed : ∀ pd : Pd, same pd { pd with crashed := true }
  sent : ∀ (pd : Pd) java, same pd { pd with java := java }

namespace DumpSteps

variable {same : Pd → Pd → Prop} (steps : DumpSteps same)

include steps

theorem access (pd : Pd) (ref : Ref) : same pd (pd.access ref) := by
  unfold Pd.access
  split
  · exact steps.refl pd
  · exact steps.misused pd

theorem foldl (callback : Pd → Slot → Pd) (slots : List Slot) (pd : Pd)
    (keeps : ∀ current slot, same current (callback current slot)) :
    same pd (slots.foldl callback pd) := by
  induction slots generalizing pd with
  | nil => exact steps.refl pd
  | cons slot rest ih => exact steps.trans _ _ _ (keeps pd slot) (ih (callback pd slot))

theorem takeUpdate (pd : Pd) (slot : Slot) : same pd (takeUpdate pd slot).2 := by
  let used := pd.access slot.data
  let built := getConnUpdate used.tables used.policy.vpnCapture slot.tuple (used.heap slot.data)
  exact steps.trans _ _ _ (steps.access pd slot.data)
    (steps.modify used slot.data (fun _ => built.2) (getConnUpdate_dumped _ _ slot.tuple _))

theorem dumpNewConnection (result : DumpResult) (pd : Pd) (slot : Slot) :
    same pd (dumpNewConnection result pd slot).1 := by
  have touched : same pd (pd.modify slot.data fun data =>
      data.touch (CONN_UPDATE_STATS ||| CONN_UPDATE_INFO)) :=
    steps.modify pd slot.data _ ⟨_, _, _, rfl⟩
  cases result with
  | noDescriptor => exact steps.refl pd
  | noUpdate => exact touched
  | exception => exact steps.trans _ _ _ touched (steps.takeUpdate _ slot)
  | sent => exact steps.trans _ _ _ touched (steps.takeUpdate _ slot)

theorem dumpConnectionUpdate (result : DumpResult) (pd : Pd) (slot : Slot) :
    same pd (dumpConnectionUpdate result pd slot).1 := by
  cases result with
  | noDescriptor => exact steps.refl pd
  | noUpdate => exact steps.refl pd
  | exception => exact steps.takeUpdate pd slot
  | sent => exact steps.takeUpdate pd slot

theorem dumpSlots (dump : DumpResult → Pd → Slot → Pd × Option ConnectionUpdate)
    (keeps : ∀ result pd slot, same pd (dump result pd slot).1)
    (results : Nat → DumpResult) (index : Nat) (slots : List Slot) (pd : Pd) :
    same pd (dumpSlots dump results index slots pd).1 := by
  induction slots generalizing index pd with
  | nil => exact steps.refl pd
  | cons slot rest ih =>
      have cleared : same pd (clearPending pd slot.data) :=
        steps.modify pd slot.data _ ⟨_, _, _, rfl⟩
      have first := steps.trans _ _ _ cleared
        (keeps (results index) (clearPending pd slot.data) slot)
      rcases outcome : dump (results index) (clearPending pd slot.data) slot with ⟨dumped, sent⟩
      rw [outcome] at first
      simp only [Pcapdroid.dumpSlots, outcome]
      cases sent with
      | none => exact first
      | some update => exact steps.trans _ _ _ first (ih (index + 1) dumped)

theorem checkArray (pd : Pd) (arr : ConnArray) : same pd (checkArray pd arr) := by
  unfold Pcapdroid.checkArray
  split
  · exact steps.crashed pd
  · exact steps.refl pd

theorem sendConnectionsDump (jni : Jni) (pd : Pd) : same pd (sendConnectionsDump jni pd) := by
  have first := steps.trans _ _ _ (steps.checkArray pd pd.newConns)
    (steps.dumpSlots Pcapdroid.dumpNewConnection steps.dumpNewConnection jni.newConns 0
      pd.newConns.slots (Pcapdroid.checkArray pd pd.newConns))
  unfold Pcapdroid.sendConnectionsDump
  split
  · exact steps.refl pd
  · rcases created : Pcapdroid.dumpSlots Pcapdroid.dumpNewConnection jni.newConns 0
        pd.newConns.slots (Pcapdroid.checkArray pd pd.newConns) with ⟨dumped, sent⟩
    rw [created] at first
    cases sent with
    | none => exact first
    | some newConns =>
        have second := steps.trans _ _ _ first
          (steps.trans _ _ _ (steps.checkArray dumped dumped.connsUpdates)
            (steps.dumpSlots Pcapdroid.dumpConnectionUpdate steps.dumpConnectionUpdate jni.updates 0
              dumped.connsUpdates.slots (Pcapdroid.checkArray dumped dumped.connsUpdates)))
        rcases updated : Pcapdroid.dumpSlots Pcapdroid.dumpConnectionUpdate jni.updates 0
            dumped.connsUpdates.slots (Pcapdroid.checkArray dumped dumped.connsUpdates) with
            ⟨finished, last⟩
        rw [updated] at second
        simp only [updated]
        cases last with
        | none => exact second
        | some updates => exact steps.trans _ _ _ second (steps.sent finished _)

end DumpSteps

/-- A relation between states which the dump keeps: it bears with writes to the fields that are
    dumped, and with everything that is neither a record nor a setting. -/
structure DumpFrame (same : Pd → Pd → Prop) : Prop where
  quiet : ∀ before after : Pd, after.heap = before.heap → after.settings = before.settings →
    after.created = before.created → same before after
  trans : ∀ before between after, same before between → same between after → same before after
  modify : ∀ pd ref change, Outgoing (pd.heap ref) (change (pd.heap ref)) →
    same pd (pd.modify ref change)

namespace DumpFrame

variable {same : Pd → Pd → Prop} (frame : DumpFrame same)

include frame

theorem steps : DumpSteps same where
  refl pd := frame.quiet pd pd rfl rfl rfl
  trans := frame.trans
  modify := frame.modify
  misused pd := frame.quiet pd _ rfl rfl rfl
  crashed pd := frame.quiet pd _ rfl rfl rfl
  sent pd _ := frame.quiet pd _ rfl rfl rfl

theorem refl (pd : Pd) : same pd pd := frame.quiet pd pd rfl rfl rfl

theorem setArray (pd : Pd) (which : Which) (arr : ConnArray) : same pd (pd.setArray which arr) :=
  frame.quiet pd _ (setArray_heap pd which arr) (setArray_settings pd which arr)
    (setArray_created pd which arr)

theorem sendConnectionsDump (jni : Jni) (pd : Pd) :
    same pd (Pcapdroid.sendConnectionsDump jni pd) := frame.steps.sendConnectionsDump jni pd

theorem connsClear (pd : Pd) (which : Which) (freeAll : Bool) :
    same pd (connsClear pd which freeAll) := by
  have cleared : same pd ((pd.array which).slots.foldl (clearSlot freeAll) pd) := by
    apply frame.steps.foldl
    intro current slot
    have accessed := frame.steps.access current slot.data
    simp only [clearSlot]
    split
    · exact frame.trans _ _ _ (frame.trans _ _ _ accessed (frame.steps.access _ slot.data))
        (frame.quiet _ _ rfl rfl rfl)
    · exact accessed
  exact frame.trans _ _ _ cleared (frame.setArray _ which {})

theorem dumpConnections (jni : Jni) (pd : Pd) : same pd (dumpConnections jni pd) := by
  have dumped := frame.trans _ _ _ (frame.trans _ _ _ (frame.sendConnectionsDump jni pd)
    (frame.connsClear _ .newConns false)) (frame.connsClear _ .connsUpdates false)
  simp only [Pcapdroid.dumpConnections]
  split
  · exact frame.trans _ _ _ dumped (frame.quiet _ _ rfl rfl rfl)
  · exact frame.quiet _ _ rfl rfl rfl

theorem periodicTask (pass : Pass) (pd : Pd) : same pd (periodicTask pass pd) := by
  unfold Pcapdroid.periodicTask
  split
  · exact frame.quiet _ _ rfl rfl rfl
  · split
    · exact frame.dumpConnections pass.jni pd
    · split
      · exact frame.refl pd
      · split
        · split
          · exact frame.quiet _ _ rfl rfl rfl
          · exact frame.refl pd
        · exact frame.refl pd

end DumpFrame

theorem dumpFrame_verdicts : DumpFrame SameVerdicts where
  quiet _ _ heap settings _ := SameVerdicts.of_heap settings heap
  trans _ _ _ := SameVerdicts.trans
  modify pd ref change dumped := by
    obtain ⟨pending, bits, chunks, same⟩ := dumped
    apply SameVerdicts.modify pd ref change
    rw [same]
    exact ⟨⟨rfl, rfl, rfl, rfl, rfl⟩, rfl, rfl⟩

structure SameRecords (before after : Pd) : Prop where
  settings : after.settings = before.settings
  records : ∀ ref, Outgoing (before.heap ref) (after.heap ref)

theorem dumpFrame_records : DumpFrame SameRecords where
  quiet _ _ heap settings _ := ⟨settings, fun ref => heap ▸ Outgoing.refl _⟩
  trans _ _ _ first last :=
    ⟨last.settings.trans first.settings, fun ref => (first.records ref).trans (last.records ref)⟩
  modify pd ref change dumped := by
    refine ⟨modify_settings pd ref change, fun other => ?_⟩
    by_cases own : other = ref
    · subst own
      simpa using dumped
    · simpa [own] using Outgoing.refl _

theorem periodicTask_verdicts (pass : Pass) (pd : Pd) : SameVerdicts pd (periodicTask pass pd) :=
  dumpFrame_verdicts.periodicTask pass pd

end Dump

namespace Settings

def loadMalwareWhitelist (settings : Settings) : Settings :=
  match settings.malwareNewWl with
  | some wl => { settings with malwareWhitelist := some wl, malwareNewWl := none }
  | none => settings

def loadFirewallLists (settings : Settings) : Settings :=
  match settings.firewallNewBl, settings.firewallNewWl with
  | some bl, _ =>
      { settings with firewall := { settings.firewall with bl := some bl }, firewallNewBl := none }
  | none, some wl =>
      { settings with firewall := { settings.firewall with wl := some wl }, firewallNewWl := none }
  | none, none => settings

def loadDecryptionList (settings : Settings) : Settings :=
  match settings.tlsNewList with
  | some list => { settings with tlsList := some list, tlsNewList := none }
  | none => settings

end Settings

section Loads

variable (ndpi : Ref → Ndpi) (active : List Slot) (pd : Pd)

theorem foldl_settings (callback : Pd → Slot → Pd)
    (keeps : ∀ current slot, (callback current slot).settings = current.settings) :
    (active.foldl callback pd).settings = pd.settings := by
  induction active generalizing pd with
  | nil => rfl
  | cons slot rest ih => exact (ih (callback pd slot)).trans (keeps pd slot)

theorem checkBlockedConnCb_settings (slot : Slot) :
    (checkBlockedConnCb ndpi pd slot).settings = pd.settings := by
  simp only [checkBlockedConnCb]
  split
  · rw [pdNotifyConnectionUpdate, notifConnection_settings, modify_settings, access_settings]
  · rw [modify_settings, access_settings]

theorem checkBlacklistedConnCb_settings (whitelist : Blacklist) (slot : Slot) :
    (checkBlacklistedConnCb ndpi whitelist pd slot).settings = pd.settings := by
  have checked (current : Pd) : (if current.policy.firewall.bl.isSome then
      checkBlockedConnCb ndpi current slot else current).settings = current.settings := by
    split
    · exact checkBlockedConnCb_settings ndpi current slot
    · rfl
  simp only [checkBlacklistedConnCb]
  split
  · rw [pdNotifyConnectionUpdate, notifConnection_settings, modify_settings, checked,
      modify_settings, access_settings]
  · rw [modify_settings, access_settings]

theorem loadMalwareWhitelist_settings :
    (loadMalwareWhitelist ndpi active pd).settings = pd.settings.loadMalwareWhitelist := by
  unfold loadMalwareWhitelist Settings.loadMalwareWhitelist
  rcases waiting : pd.malwareNewWl with _ | wl
  · simp [Pd.settings, waiting]
  · simp only [foldl_settings active _ _ fun current slot =>
      checkBlacklistedConnCb_settings ndpi current wl slot]
    simp [Pd.settings, waiting]

theorem loadFirewallLists_settings :
    (loadFirewallLists ndpi active pd).settings = pd.settings.loadFirewallLists := by
  have visited := fun current => foldl_settings active current (checkBlockedConnCb ndpi)
    fun current slot => checkBlockedConnCb_settings ndpi current slot
  unfold loadFirewallLists Settings.loadFirewallLists
  rcases blocked : pd.firewallNewBl with _ | bl
  · rcases allowed : pd.firewallNewWl with _ | wl
    · simp [Pd.settings, blocked, allowed]
    · simp only [visited]
      simp [Pd.settings, blocked, allowed]
  · simp only [visited]
    simp [Pd.settings, blocked]

theorem loadDecryptionList_settings :
    (loadDecryptionList pd).settings = pd.settings.loadDecryptionList := by
  unfold loadDecryptionList Settings.loadDecryptionList
  rcases waiting : pd.tlsNewList with _ | list <;> simp [Pd.settings, waiting]

/-- All a pass of housekeeping does to the lists of a capture. -/
theorem pdHousekeeping_settings (pass : Pass) :
    (pdHousekeeping pass active pd).settings =
      pd.settings.loadMalwareWhitelist.loadFirewallLists.loadDecryptionList := by
  rw [pdHousekeeping, loadDecryptionList_settings, loadFirewallLists_settings,
    loadMalwareWhitelist_settings, (periodicTask_verdicts pass pd).settings]

end Loads

end Ptnet.Pcapdroid
