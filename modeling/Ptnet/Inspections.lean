import Ptnet.CaptureCalls
import Ptnet.DecisionFrame
import Ptnet.NotificationArray
import Ptnet.PdFrame

/-!
The calls of nDPI on the packets of a connection. `perform_dpi` frees the flow on the packet that
completes detection; from then on no packet reaches nDPI, whatever the capture module does with the
record, and the protocol stays.
-/

namespace Ptnet.Pcapdroid

open Connection
open Detection (Policy Ndpi MAX_DPI_PACKETS)

def detection (data : PdConn) : Option NdpiFlow × Nat := (data.ndpiFlow, data.l7proto)

section Records

variable {before after : PdConn}

theorem detection_of_unjudged (same : Detection.unjudged after = Detection.unjudged before) :
    detection after = detection before :=
  Detection.same_of_view Detection.unjudged detection (fun _ => rfl) same

theorem guessAlpn_detection (tuple : Tuple) (data : PdConn) :
    detection (Detection.guessAlpn tuple data).1 = detection data :=
  detection_of_unjudged
    (Detection.unjudged_of_unlabelled (Detection.guessAlpn_unlabelled tuple data))

end Records

/-- Once detection has ended it does not start again, and the protocol stays. -/
def Settled (before after : PdConn) : Prop :=
  before.ndpiFlow = none → detection after = detection before

theorem settled_frame : CreationFrame Settled where
  refl _ _ := rfl
  trans first last ended :=
    (last ((congrArg Prod.fst (first ended)).trans ended)).trans (first ended)
  outgoing same _ := by
    obtain ⟨pending, bits, chunks, rfl⟩ := same
    rfl
  giveup policy ndpi tuple data ended := by rw [Detection.pdGiveupDpi, ended]
  inspected policy ndpi tuple pktTuple data ended := by rw [Detection.performDpi, ended]
  captured pd result pctx data _ := Detection.same_of_view uncaptured detection (fun _ => rfl)
    (recordPayload_uncaptured pd result pctx data)
  seen _ _ _ := rfl
  rechecked policy tuple data _ :=
    detection_of_unjudged (Detection.checkBlockedConnCb_unjudged policy tuple data)
  cleared _ _ _ _ := rfl
  accounted isTx _ _ _ _ := by cases isTx <;> rfl
  numbered policy uid id data _ := by
    have checked := detection_of_unjudged
      (Detection.checkWhitelistedApp_unjudged policy { data with uid := uid, incrId := id })
    exact checked
  unhosted _ _ := rfl
  hosted _ _ _ := rfl
  resolved _ _ _ _ := rfl
  domain policy data _ :=
    detection_of_unjudged (Detection.checkBlacklistedDomain_unjudged policy data)
  screened policy tuple data _ :=
    detection_of_unjudged (Detection.screen_unjudged policy tuple data)

/-- A packet on which nDPI is invoked: the policy and the record that `perform_dpi` meets, and the
    answers of nDPI. -/
structure Inspection where
  policy : Policy
  ndpi : Ndpi
  pctx : PktContext
  data : PdConn

namespace Inspection

variable (call : Inspection)

/-- The record that `perform_dpi` leaves. -/
def left : PdConn :=
  (Detection.performDpi call.policy call.ndpi call.pctx.tuple call.pctx.pkt.tuple call.data).1

def CutOff : Prop := Detection.giveup call.data = true

def Identified : Prop :=
  ∃ flow ∈ call.data.ndpiFlow,
    Detection.pdNdpi2proto call.ndpi.tables (call.ndpi.processPacket flow).2 ≠
        NDPI_PROTOCOL_UNKNOWN ∧
      call.ndpi.extraDissectionPossible (call.ndpi.processPacket flow).1 = false

/-- The test of `perform_dpi` for the last packet. -/
def Completes : Prop := call.CutOff ∨ call.Identified

theorem detectProto_eq (ndpi : Ndpi) (flow : NdpiFlow) (data : PdConn) :
    (Detection.detectProto ndpi flow data).1 = (ndpi.processPacket flow).1 ∧
      detection (Detection.detectProto ndpi flow data).2 =
        (some (ndpi.processPacket flow).1,
          Detection.pdNdpi2proto ndpi.tables (ndpi.processPacket flow).2) := by
  simp only [Detection.detectProto]
  split <;> exact ⟨rfl, rfl⟩

/-- `perform_dpi` frees the flow on a packet that completes detection, and on no other. -/
theorem left_ended (inspected : call.data.ndpiFlow.isSome) :
    call.left.ndpiFlow = none ↔ call.Completes := by
  obtain ⟨flow, begun⟩ := Option.isSome_iff_exists.mp inspected
  obtain ⟨next, detected⟩ := detectProto_eq call.ndpi flow call.data
  have proto : (Detection.detectProto call.ndpi flow call.data).2.l7proto =
      Detection.pdNdpi2proto call.ndpi.tables (call.ndpi.processPacket flow).2 :=
    congrArg Prod.snd detected
  have test : call.Completes ↔ Detection.giveup call.data = true ∨
      (Detection.detectProto call.ndpi flow call.data).2.l7proto ≠ NDPI_PROTOCOL_UNKNOWN ∧
        (!call.ndpi.extraDissectionPossible
          (Detection.detectProto call.ndpi flow call.data).1) = true := by
    simp [Completes, CutOff, Identified, begun, next, proto]
  have guessed : call.left.ndpiFlow = (Detection.inspectPacket call.policy call.ndpi
      call.pctx.pkt.tuple flow call.data).ndpiFlow := by
    rw [left, Detection.performDpi, begun]
    exact congrArg Prod.fst (guessAlpn_detection _ _)
  rw [guessed, test]
  simp only [Detection.inspectPacket]
  split
  · next completes =>
      refine iff_of_true ?_ completes
      rw [Detection.pdGiveupDpi, show (Detection.detectProto call.ndpi flow call.data).2.ndpiFlow =
        some (call.ndpi.processPacket flow).1 from congrArg Prod.fst detected]
  · next continues =>
      refine iff_of_false ?_ continues
      rw [show ∀ data, (Detection.processNdpiData call.policy call.ndpi call.pctx.pkt.tuple
        (Detection.detectProto call.ndpi flow call.data).1 data).ndpiFlow = data.ndpiFlow from
          fun data => congrArg Prod.fst
            (detection_of_unjudged (Detection.processNdpiData_unjudged _ _ _ _ data)),
        show (Detection.detectProto call.ndpi flow call.data).2.ndpiFlow =
          some (call.ndpi.processPacket flow).1 from congrArg Prod.fst detected]
      exact Option.some_ne_none _

end Inspection

/-- The call of nDPI for a packet, where the packet is one of the record `ref` and is inspected. -/
def inspections (ref : Ref) (ndpi : Ndpi) (pd : Pd) (pctx : PktContext) : List Inspection :=
  let data := setSeen pctx.ms (pd.heap pctx.data)
  if pctx.data = ref ∧ data.ndpiFlow.isSome ∧
      (!pctx.pkt.isFragment || pctx.pkt.isFirstFragment) then
    [⟨pd.policy, ndpi, pctx, data⟩]
  else []

/-- Detection on the record `ref` has ended. -/
def Ended (ref : Ref) (pd : Pd) : Prop := ref < pd.created ∧ (pd.heap ref).ndpiFlow = none

/-- What every call leaves of the detection on the record `ref`, before and after it ends. -/
structure Aside (ref : Ref) (before after : Pd) : Prop where
  created : before.created ≤ after.created
  settled : ref < before.created → Settled (before.heap ref) (after.heap ref)
  unborn : after.created ≤ ref → Settled (before.heap ref) (after.heap ref)

namespace Aside

variable {ref : Ref} {before between after : Pd}

theorem of_framed (framed : Framed Settled before after) : Aside ref before after :=
  ⟨framed.created.ge, fun _ => framed.records ref, fun _ => framed.records ref⟩

theorem of_created (created : Created Settled before after) : Aside ref before after where
  created := created.created ▸ Nat.le_succ _
  settled born := created.others ref (Nat.ne_of_lt born)
  unborn later := by
    rw [created.created] at later
    exact created.others ref (Nat.ne_of_gt later)

theorem refl (pd : Pd) : Aside ref pd pd := of_framed (settled_frame.unchanged pd)

theorem trans (first : Aside ref before between) (last : Aside ref between after) :
    Aside ref before after where
  created := Nat.le_trans first.created last.created
  settled born := settled_frame.trans (first.settled born)
    (last.settled (Nat.lt_of_lt_of_le born first.created))
  unborn later := settled_frame.trans (first.unborn (Nat.le_trans last.created later))
    (last.unborn later)

theorem ended (aside : Aside ref before after) (ended : Ended ref before) :
    Ended ref after ∧ (after.heap ref).l7proto = (before.heap ref).l7proto := by
  have same := aside.settled ended.1 ended.2
  exact ⟨⟨Nat.lt_of_lt_of_le ended.1 aside.created, (congrArg Prod.fst same).trans ended.2⟩,
    congrArg Prod.snd same⟩

end Aside

theorem CaptureCall.aside {before after : Pd} (ref : Ref) (call : CaptureCall before after) :
    Aside ref before after := by
  have quiet : ∀ {after : Pd}, after.created = before.created → after.heap = before.heap →
      Aside ref before after := fun created heap => .of_framed (settled_frame.of_heap created heap)
  cases call with
  | access own => exact .of_framed (settled_frame.access before own)
  | refreshTime nowMs => exact quiet rfl rfl
  | allocator reallocs => exact quiet rfl rfl
  | request wanted => exact quiet rfl rfl
  | write own change kept =>
      refine .of_framed (settled_frame.modify before own change fun _ => ?_)
      exact Prod.ext (congrArg CoreFields.ndpiFlow kept) (congrArg CoreFields.l7proto kept)
  | notify ndpi tuple own =>
      exact .of_framed (settled_frame.notifConnection before own ndpi .connsUpdates tuple)
  | giveup ndpi own tuple =>
      exact .of_framed (settled_frame.modify before own _ (settled_frame.giveup _ _ _ _))
  | process ndpi result pctx =>
      exact .of_framed (settled_frame.pdProcessPacket before ndpi result pctx)
  | account ndpi pctx =>
      exact .of_framed (settled_frame.toRecordFrame.pdAccountStats before ndpi pctx)
  | create ndpi env tuple uid =>
      rcases settled_frame.toQuietCreation.pdNewConnection ndpi env before tuple uid _ _ rfl with
        ⟨same, -⟩ | ⟨created, -⟩
      · exact quiet (congrArg Pd.created same) (congrArg Pd.heap same)
      · exact .of_created created
  | purge own => exact .of_framed (settled_frame.pdPurgeConnection before own)

theorem CaptureCalls.aside {before after : Pd} (ref : Ref) (calls : CaptureCalls before after) :
    Aside ref before after :=
  CaptureCalls.keep Aside.refl (fun _ _ _ => Aside.trans) (fun _ _ => CaptureCall.aside ref) calls

/-- `perform_dpi` stores what it leaves of the record, and nothing that follows in
    `pd_process_packet` starts detection again. -/
theorem pdProcessPacket_left (ndpi : Ndpi) (result : ChunkResult) (pd : Pd) (pctx : PktContext)
    (call : Inspection) (inspected : inspections pctx.data ndpi pd pctx = [call]) :
    Settled call.left ((pdProcessPacket ndpi result pd pctx).heap pctx.data) := by
  unfold inspections at inspected
  dsimp only at inspected
  split at inspected
  · next due =>
      obtain rfl := List.singleton_inj.mp inspected
      let seen := pd.modify pctx.data (setSeen pctx.ms)
      have record : (seen.access pctx.data).heap pctx.data =
          setSeen pctx.ms (pd.heap pctx.data) := by
        rw [access_heap, modify_heap, Function.update_self]
      have policy : (seen.access pctx.data).policy = pd.policy :=
        (NotificationArray.access_policy seen pctx.data).trans
          (NotificationArray.access_policy pd pctx.data)
      have test : ((seen.heap pctx.data).ndpiFlow.isSome &&
          (!pctx.pkt.isFragment || pctx.pkt.isFirstFragment)) = true := by
        rw [modify_heap, Function.update_self, due.2.1, due.2.2]
        rfl
      let stored := (seen.access pctx.data).modify pctx.data fun _ =>
        (Detection.performDpi pd.policy ndpi pctx.tuple pctx.pkt.tuple
          (setSeen pctx.ms (pd.heap pctx.data))).1
      have delayed : ∀ data, Framed Settled stored (delayForNetd stored data) := by
        intro data
        unfold delayForNetd
        split <;> exact settled_frame.of_heap rfl rfl
      have dissected : Framed Settled stored (performDpi ndpi seen pctx) := by
        simp only [performDpi, record, policy]
        split
        · exact settled_frame.later (delayed _) (settled_frame.notifConnection _ _ _ _ _)
        · exact delayed _
      have processed := (settled_frame.later dissected
        (settled_frame.processPayload _ ndpi result pctx)).records pctx.data
      rw [modify_heap, Function.update_self] at processed
      unfold pdProcessPacket
      dsimp only
      rw [if_pos test]
      exact processed
  · cases inspected

theorem inspections_cases (ref : Ref) (ndpi : Ndpi) (pd : Pd) (pctx : PktContext) :
    inspections ref ndpi pd pctx = [] ∨
      pctx.data = ref ∧ (pd.heap ref).ndpiFlow.isSome ∧
        ∃ call, inspections ref ndpi pd pctx = [call] ∧
          call.data = setSeen pctx.ms (pd.heap ref) := by
  unfold inspections
  dsimp only
  split
  · next due =>
      obtain ⟨rfl, inspected, -⟩ := due
      exact Or.inr ⟨rfl, inspected, _, rfl, rfl⟩
  · exact Or.inl rfl

def twelfth (calls : List Inspection) : Option Inspection := calls[(MAX_DPI_PACKETS - 1).toNat]?

/-- The packets of the record `ref` on which nDPI was invoked: only the last of them may have
    completed detection. -/
structure Tracked (ref : Ref) (calls : List Inspection) (pd : Pd) : Prop where
  unborn : pd.created ≤ ref → (pd.heap ref).ndpiFlow = none ∧ calls = []
  inspected : ∀ call ∈ calls, call.data.ndpiFlow.isSome
  last : ∀ index call, calls[index]? = some call → call.Completes →
    index + 1 = calls.length ∧ Ended ref pd

namespace Tracked

variable {ref : Ref} {calls : List Inspection} {before after : Pd}
variable (tracked : Tracked ref calls before)

include tracked

theorem later (aside : Aside ref before after) : Tracked ref calls after := by
  refine ⟨fun later => ?_, tracked.inspected, fun index call found completes => ?_⟩
  · obtain ⟨none, empty⟩ := tracked.unborn (Nat.le_trans aside.created later)
    exact ⟨(congrArg Prod.fst (aside.unborn later none)).trans none, empty⟩
  · obtain ⟨final, ended⟩ := tracked.last index call found completes
    exact ⟨final, (aside.ended ended).1⟩

theorem process (ndpi : Ndpi) (result : ChunkResult) (pctx : PktContext) :
    Tracked ref (calls ++ inspections ref ndpi before pctx)
      (pdProcessPacket ndpi result before pctx) := by
  rcases inspections_cases ref ndpi before pctx with none | ⟨rfl, begun, call, inspected, data⟩
  · rw [none, List.append_nil]
    exact tracked.later (CaptureCall.aside ref (.process ndpi result pctx))
  · have created : (pdProcessPacket ndpi result before pctx).created = before.created :=
      (settled_frame.pdProcessPacket before ndpi result pctx).created
    have open' : (before.heap pctx.data).ndpiFlow ≠ none := by
      intro none
      rw [none] at begun
      cases begun
    have born : pctx.data < before.created :=
      Nat.lt_of_not_le fun later => open' (tracked.unborn later).1
    have begins : call.data.ndpiFlow.isSome := data ▸ begun
    have left := pdProcessPacket_left ndpi result before pctx call inspected
    rw [inspected]
    refine ⟨fun later => ?_, fun other member => ?_, fun index other found completes => ?_⟩
    · rw [created] at later
      exact absurd born (Nat.not_lt.mpr later)
    · rcases List.mem_append.mp member with old | new
      · exact tracked.inspected other old
      · rw [List.mem_singleton.mp new]
        exact begins
    · rw [List.getElem?_append] at found
      split at found
      · exact absurd (tracked.last index other found completes).2.2 open'
      · next past =>
          obtain ⟨first, rfl⟩ := List.getElem?_eq_some_iff.mp found
          have first : index - calls.length < 1 := first
          have ended := (call.left_ended begins).mpr (by simpa using completes)
          refine ⟨?_, created ▸ born, (congrArg Prod.fst (left ended)).trans ended⟩
          rw [List.length_append, List.length_singleton]
          omega

theorem foldl {State Item : Type} (pd : State → Pd) (visit : State → Item → State)
    (observe : State → Item → List Inspection)
    (each : ∀ state item calls, Tracked ref calls (pd state) →
      Tracked ref (calls ++ observe state item) (pd (visit state item)))
    (items : List Item) (state : State) (same : pd state = before) :
    Tracked ref (calls ++ (Machine.trace visit observe state items).flatten)
      (pd (Machine.run visit state items)) := by
  induction items generalizing state calls before with
  | nil =>
      rw [Machine.run_nil, same, Machine.trace, List.flatten_nil, List.append_nil]
      exact tracked
  | cons item rest ih =>
      have first := each state item calls (same ▸ tracked)
      have last := ih first (visit state item) rfl
      rw [Machine.run_cons, Machine.trace, List.flatten_cons, ← List.append_assoc]
      exact last

end Tracked

end Ptnet.Pcapdroid
