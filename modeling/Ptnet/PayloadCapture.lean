import Ptnet.CoreCalls
import Ptnet.DecisionFrame
import Ptnet.Machine
import Ptnet.RecordLifetime

/-!
The payload of a connection: what `process_payload` stores of each packet, what `getConnUpdate`
hands to the app, and the flag that tells the app that something is missing. Nothing else of the
core writes these fields of a record.
-/

namespace Ptnet.PayloadCapture

open Connection Pcapdroid
open ConnectionMirror (ConnectionUpdate getConnUpdate)
open Detection (Policy Ndpi)
open NativeBlacklist (Blacklist)

structure Payload where
  chunks : Option (List PayloadChunk)
  truncated : Bool
  hasTx : Bool
  hasRx : Bool
  deriving DecidableEq, Repr

def payload (data : PdConn) : Payload :=
  ⟨data.payloadChunks, data.payloadTruncated, data.hasPayloadTx, data.hasPayloadRx⟩

section Elsewhere

variable (policy : Policy) (ndpi : Ndpi) (tuple : Tuple) (data : PdConn)

/-- A change that leaves the payload alone and withdraws no bit of `update_type`. -/
structure Apart (before after : PdConn) : Prop where
  payload : payload after = payload before
  bits : after.updateType &&& before.updateType = before.updateType

namespace Apart

variable {before between after : PdConn}

theorem refl (data : PdConn) : Apart data data := ⟨rfl, BitVec.and_self⟩

theorem trans (first : Apart before between) (last : Apart between after) : Apart before after := by
  refine ⟨last.payload.trans first.payload, ?_⟩
  rw [← first.bits, ← BitVec.and_assoc, last.bits]

theorem touch (bit : BitVec 8) : Apart data (data.touch bit) := ⟨rfl, touch_bits _ _⟩

theorem marked (pending : Bool) : Apart data { data with pendingNotification := pending } :=
  ⟨rfl, BitVec.and_self⟩

theorem seen (ms : Int) : Apart data (setSeen ms data) := ⟨rfl, BitVec.and_self⟩

theorem of_undetected (same : Detection.undetected after = Detection.undetected before)
    (revised : Revised before after) : Apart before after :=
  ⟨Detection.same_of_view Detection.undetected PayloadCapture.payload (fun _ => rfl) same,
    revised.bits⟩

theorem of_unjudged (same : Detection.unjudged after = Detection.unjudged before)
    (revised : Revised before after) : Apart before after :=
  of_undetected (Detection.undetected_of_unjudged same) revised

theorem inspected (pktTuple : Tuple) :
    Apart data (Detection.performDpi policy ndpi tuple pktTuple data).1 :=
  of_undetected (Detection.performDpi_undetected policy ndpi tuple data pktTuple)
    (performDpi_revised policy ndpi tuple data pktTuple)

theorem giveup : Apart data (Detection.pdGiveupDpi policy ndpi tuple data) :=
  of_undetected (Detection.pdGiveupDpi_undetected policy ndpi tuple data)
    (pdGiveupDpi_revised policy ndpi tuple data)

theorem accounted (isTx : Bool) (len l7Len : Int) :
    Apart data (Detection.accountStats isTx len l7Len data) :=
  ⟨by cases isTx <;> rfl, (accountStats_revised data isTx len l7Len).bits⟩

theorem rechecked : Apart data (Detection.checkBlockedConnCb policy tuple data).1 :=
  of_unjudged (Detection.checkBlockedConnCb_unjudged policy tuple data)
    (checkBlockedConnCb_revised policy tuple data)

theorem cleared (whitelist : Blacklist) :
    Apart data (Detection.clearWhitelisted whitelist tuple data) := ⟨rfl, BitVec.and_self⟩

theorem numbered (pd : Pd) (uid : Int) : Apart data (numberConn pd uid data) := by
  have checked := of_unjudged (Detection.checkWhitelistedApp_unjudged pd.policy _)
    (checkWhitelistedApp_revised pd.policy { data with uid := uid, incrId := pd.newConnId })
  exact ⟨checked.payload, checked.bits⟩

theorem hosted (host : String) : Apart data { data with info := some host, infoFromLru := true } :=
  ⟨rfl, BitVec.and_self⟩

theorem resolved (uid : Int) (missed : Bool) :
    Apart data { data with uid := uid, netdBlockMissed := data.netdBlockMissed || missed } :=
  ⟨rfl, BitVec.and_self⟩

theorem named : Apart data (Detection.checkBlacklistedDomain policy data) :=
  of_unjudged (Detection.checkBlacklistedDomain_unjudged policy data)
    (checkBlacklistedDomain_revised policy data)

theorem screened : Apart data (screenConn policy tuple data) :=
  of_unjudged (Detection.screen_unjudged policy tuple data) (screenConn_revised policy tuple data)

end Apart

end Elsewhere

section Machine

inductive Event where
  /-- `process_payload` -/
  | packet (pd : Pd) (result : ChunkResult) (pctx : PktContext)
  /-- `getConnUpdate` -/
  | update (tables : NdpiTables) (vpnCapture : Bool) (tuple : Tuple)
  | other (after : PdConn)

/-- A record, the packets it has met and the updates that were built from it. -/
structure Track where
  data : PdConn
  packets : List PktContext := []
  updates : List ConnectionUpdate := []

def step (track : Track) : Event → Track
  | .packet pd result pctx =>
      { track with
        data := (recordPayload pd result pctx track.data).1
        packets := track.packets ++ [pctx] }
  | .update tables vpnCapture tuple =>
      let built := getConnUpdate tables vpnCapture tuple track.data
      { track with data := built.2, updates := track.updates ++ [built.1] }
  | .other after => { track with data := after }

/-- A packet with a payload, while payload is dumped in this mode and the connection is not
    decrypted. -/
def Eligible (mode : PayloadMode) (track : Track) : Event → Prop
  | .packet pd _ pctx =>
      pd.payloadMode = mode ∧ pd.dumpsPayload = true ∧ pctx.pkt.l7 ≠ [] ∧
        ¬(pd.tlsEnabled = true ∧ track.data.proxied = true)
  | .update .. => True
  | .other after => Apart track.data after

def waiting (data : PdConn) : List PayloadChunk := data.payloadChunks.getD []

def handed (updates : List ConnectionUpdate) : List PayloadChunk :=
  updates.flatMap fun update => update.payloadChunks.getD []

/-- What became of the payload of a packet. -/
structure Outcome where
  pctx : PktContext
  chunk : Option PayloadChunk

def Outcome.storedBytes (outcome : Outcome) : Nat :=
  match outcome.chunk with
  | some chunk => chunk.payload.length
  | none => 0

def Outcome.Lost (outcome : Outcome) : Prop := outcome.storedBytes < outcome.pctx.pkt.l7.length

instance (outcome : Outcome) : Decidable outcome.Lost :=
  inferInstanceAs (Decidable (outcome.storedBytes < outcome.pctx.pkt.l7.length))

/-- The outcomes of the packets of a connection, as its record and its updates show them. -/
structure Bookkeeping (mode : PayloadMode) (track : Track) (outcomes : List Outcome) : Prop where
  packets : outcomes.map Outcome.pctx = track.packets
  /-- A chunk is in one update or waits for the next one, in the order of the packets. -/
  chunks : outcomes.filterMap Outcome.chunk = handed track.updates ++ waiting track.data
  origin : ∀ outcome ∈ outcomes, ∀ chunk ∈ outcome.chunk,
    chunk.payload <+: outcome.pctx.pkt.l7 ∧ chunk.isSent = outcome.pctx.isTx ∧
      chunk.timestamp = outcome.pctx.ms
  whole : mode = .full → ∀ outcome ∈ outcomes, ∀ chunk ∈ outcome.chunk,
    chunk.payload = outcome.pctx.pkt.l7
  capped : mode = .minimal → ∀ outcome ∈ outcomes, ∀ chunk ∈ outcome.chunk,
    chunk.payload.length ≤ MINIMAL_PAYLOAD_MAX_DIRECTION_SIZE
  once : mode = .minimal → ∀ isTx,
    ((outcomes.filterMap Outcome.chunk).filter fun chunk => chunk.isSent == isTx).length ≤ 1
  truncated : track.data.payloadTruncated = true ↔ ∃ outcome ∈ outcomes, outcome.Lost
  /-- What waits is in the next update, whole, and nothing waits behind it. -/
  next : ∀ tables vpnCapture tuple,
    waiting track.data =
        (getConnUpdate tables vpnCapture tuple track.data).1.payloadChunks.getD [] ∧
      waiting (getConnUpdate tables vpnCapture tuple track.data).2 = []

end Machine

section Packet

variable (pd : Pd) (result : ChunkResult) (pctx : PktContext) (data : PdConn)

/-- The bytes of a payload that are to be stored. -/
def dumpSize (mode : PayloadMode) (length : Nat) : Nat :=
  if mode = .minimal ∧ MINIMAL_PAYLOAD_MAX_DIRECTION_SIZE < length then
    MINIMAL_PAYLOAD_MAX_DIRECTION_SIZE
  else length

def chunkOf (size : Nat) : PayloadChunk :=
  ⟨pctx.pkt.l7.take size, if data.l7proto = NDPI_PROTOCOL_HTTP then .http else .raw, pctx.isTx,
    pctx.ms⟩

/-- The chunk that `process_payload` stores. -/
def storedChunk (mode : PayloadMode) : Option PayloadChunk :=
  if (mode = .minimal ∧ hasPayload data pctx.isTx = true) ∨ result ≠ .added then none
  else some (chunkOf pctx data (dumpSize mode pctx.pkt.l7.length))

theorem storedChunk_cases (mode : PayloadMode) :
    storedChunk result pctx data mode = none ∨
      storedChunk result pctx data mode =
          some (chunkOf pctx data (dumpSize mode pctx.pkt.l7.length)) ∧
        (mode = .minimal → hasPayload data pctx.isTx = false) := by
  unfold storedChunk
  split
  · exact Or.inl rfl
  · next stores => exact Or.inr ⟨rfl, fun minimal => by simpa [minimal] using (not_or.mp stores).1⟩

theorem dumpPayloadChunk_added (size : Nat) :
    dumpPayloadChunk .added pctx size data =
      ({ data with payloadChunks := some (waiting data ++ [chunkOf pctx data size]) }, true) := by
  unfold dumpPayloadChunk waiting
  cases chunks : data.payloadChunks with
  | none => simp [chunkOf]
  | some list => simp [chunkOf]

theorem dumpPayloadChunk_failed (size : Nat) (failed : result ≠ .added) :
    ∃ chunks, dumpPayloadChunk result pctx size data =
        ({ data with payloadChunks := chunks }, false) ∧ chunks.getD [] = waiting data := by
  unfold dumpPayloadChunk waiting
  cases chunks : data.payloadChunks with
  | none =>
      cases result with
      | noList => exact ⟨none, by simp [← chunks], rfl⟩
      | noChunk => exact ⟨some [], rfl, rfl⟩
      | added => exact absurd rfl failed
  | some list =>
      cases result with
      | noList => exact ⟨some list, by simp [← chunks], rfl⟩
      | noChunk => exact ⟨some list, by simp [← chunks], rfl⟩
      | added => exact absurd rfl failed

theorem chunkOf_length (size : Nat) (fits : size ≤ pctx.pkt.l7.length) :
    (chunkOf pctx data size).payload.length = size := by
  rw [chunkOf, List.length_take, Nat.min_eq_left fits]

theorem dumpSize_le (mode : PayloadMode) (length : Nat) : dumpSize mode length ≤ length := by
  unfold dumpSize
  split
  · next cut => exact Nat.le_of_lt cut.2
  · exact Nat.le_refl length

/-- A stored payload is cut just where it is longer than what a direction may take. -/
theorem stored_lost (mode : PayloadMode) :
    Outcome.Lost ⟨pctx, some (chunkOf pctx data (dumpSize mode pctx.pkt.l7.length))⟩ ↔
      mode = .minimal ∧ MINIMAL_PAYLOAD_MAX_DIRECTION_SIZE < pctx.pkt.l7.length := by
  simp only [Outcome.Lost, Outcome.storedBytes]
  rw [chunkOf_length pctx data _ (dumpSize_le _ _), dumpSize]
  split
  · next cut => exact ⟨fun _ => cut, fun _ => cut.2⟩
  · next short => exact ⟨fun less => absurd less (Nat.lt_irrefl _), fun cut => absurd cut short⟩

theorem missed_lost (present : pctx.pkt.l7 ≠ []) : Outcome.Lost ⟨pctx, none⟩ :=
  List.length_pos_iff.mpr present

structure Processed (before after : PdConn) (pctx : PktContext) (chunk : Option PayloadChunk) :
    Prop where
  waiting : waiting after = PayloadCapture.waiting before ++ chunk.toList
  marks : ∀ isTx, hasPayload after isTx =
    (hasPayload before isTx || (chunk.isSome && isTx == pctx.isTx))

theorem setHasPayload_marks (conn : PdConn) (isTx other : Bool) :
    hasPayload (setHasPayload conn isTx) other = (hasPayload conn other || other == isTx) := by
  cases isTx <;> cases other <;> simp [setHasPayload, hasPayload]

theorem setHasPayload_fields (conn : PdConn) (isTx : Bool) :
    waiting (setHasPayload conn isTx) = waiting conn ∧
      (setHasPayload conn isTx).payloadTruncated = conn.payloadTruncated := by
  cases isTx <;> exact ⟨rfl, rfl⟩

/-- `capturePayload` by its result: the record, whether a chunk was stored, and the flag. -/
structure Captured (before : PdConn) (outcome : PdConn × Bool × Bool) (pctx : PktContext)
    (chunk : Option PayloadChunk) : Prop extends Processed before outcome.1 pctx chunk where
  kept : outcome.1.payloadTruncated = before.payloadTruncated
  updated : outcome.2.1 = chunk.isSome
  truncated : outcome.2.2 = (before.payloadTruncated || decide (Outcome.Lost ⟨pctx, chunk⟩))

theorem capturePayload_captured (present : pctx.pkt.l7 ≠ []) :
    Captured data (capturePayload pd result pctx data) pctx
      (storedChunk result pctx data pd.payloadMode) := by
  have missed : decide (Outcome.Lost ⟨pctx, none⟩) = true :=
    decide_eq_true (missed_lost pctx present)
  unfold capturePayload
  -- In minimal mode only the first chunk of each direction is captured.
  by_cases captures : (pd.payloadMode ≠ .minimal || !hasPayload data pctx.isTx) = true
  · have free : ¬(pd.payloadMode = .minimal ∧ hasPayload data pctx.isTx = true) := by
      rintro ⟨minimal, marked⟩
      simp [minimal, marked] at captures
    rw [if_pos captures]
    by_cases added : result = .added
    · subst added
      have chunk : storedChunk .added pctx data pd.payloadMode =
          some (chunkOf pctx data (dumpSize pd.payloadMode pctx.pkt.l7.length)) := by
        rw [storedChunk, if_neg]
        rintro (taken | failed)
        · exact free taken
        · exact failed rfl
      rw [chunk]
      dsimp only
      rw [dumpPayloadChunk_added]
      dsimp only
      rw [if_pos rfl]
      obtain ⟨chunks, flag⟩ := setHasPayload_fields
        { data with
          payloadChunks := some (waiting data ++
            [chunkOf pctx data (dumpSize pd.payloadMode pctx.pkt.l7.length)]) } pctx.isTx
      refine ⟨⟨chunks, fun isTx => ?_⟩, flag, rfl, ?_⟩
      · rw [setHasPayload_marks]
        rfl
      · exact congrArg (data.payloadTruncated || ·)
          (decide_eq_decide.mpr (stored_lost pctx data pd.payloadMode).symm)
    · have chunk : storedChunk result pctx data pd.payloadMode = none := by
        rw [storedChunk, if_pos (Or.inr added)]
      rw [chunk]
      dsimp only
      obtain ⟨chunks, dumped, same⟩ := dumpPayloadChunk_failed result pctx data
        (if pd.payloadMode = .minimal ∧
            MINIMAL_PAYLOAD_MAX_DIRECTION_SIZE < pctx.pkt.l7.length then
          MINIMAL_PAYLOAD_MAX_DIRECTION_SIZE else pctx.pkt.l7.length) added
      rw [dumped]
      refine ⟨⟨?_, ?_⟩, rfl, rfl, ?_⟩
      · simpa [waiting] using same
      · intro isTx
        simp [hasPayload]
      · rw [missed, Bool.or_true]
        rfl
  · have taken : pd.payloadMode = .minimal ∧ hasPayload data pctx.isTx = true := by
      simpa using captures
    rw [if_neg captures, storedChunk, if_pos (Or.inl taken)]
    refine ⟨⟨by simp, fun isTx => by simp⟩, rfl, rfl, ?_⟩
    rw [missed, Bool.or_true]

/-- The whole of `process_payload` on an eligible packet. -/
structure Recorded (before after : PdConn) (pctx : PktContext) (chunk : Option PayloadChunk) :
    Prop extends Processed before after pctx chunk where
  truncated : after.payloadTruncated =
    (before.payloadTruncated || decide (Outcome.Lost ⟨pctx, chunk⟩))
  bits : after.updateType &&& before.updateType = before.updateType
  dirty : chunk.isSome = true → after.dirty CONN_UPDATE_PAYLOAD = true

theorem touch_payload (conn : PdConn) : (conn.touch CONN_UPDATE_PAYLOAD).dirty CONN_UPDATE_PAYLOAD =
    true := by
  have bit : (conn.updateType ||| CONN_UPDATE_PAYLOAD) &&& CONN_UPDATE_PAYLOAD =
      CONN_UPDATE_PAYLOAD := by
    rw [BitVec.or_comm]
    exact touch_bits _ _
  simp only [PdConn.dirty, PdConn.touch, bit]
  decide

theorem recordPayload_recorded (mode : PayloadMode) (proper : mode ≠ .none)
    (eligible : pd.payloadMode = mode ∧ pd.dumpsPayload = true ∧ pctx.pkt.l7 ≠ [] ∧
      ¬(pd.tlsEnabled = true ∧ data.proxied = true)) :
    Recorded data (recordPayload pd result pctx data).1 pctx (storedChunk result pctx data mode) := by
  obtain ⟨rfl, dumps, present, plain⟩ := eligible
  have bits := (recordPayload_revised data pd result pctx).bits
  have captured := capturePayload_captured pd result pctx data present
  have enters : ¬(pd.payloadMode = .none || !pd.dumpsPayload || pctx.pkt.l7.isEmpty ||
      (pd.tlsEnabled && data.proxied)) = true := by
    simp only [Bool.or_eq_true, Bool.and_eq_true, decide_eq_true_eq, dumps, List.isEmpty_iff]
    rintro (((none | silent) | empty) | decrypted)
    · exact proper none
    · cases silent
    · exact present empty
    · exact plain decrypted
  rw [recordPayload, if_neg enters] at bits ⊢
  generalize capturePayload pd result pctx data = outcome at bits captured ⊢
  obtain ⟨conn, updated, truncated⟩ := outcome
  obtain ⟨⟨chunks, marks⟩, kept, stored, flag⟩ := captured
  dsimp only at bits chunks marks kept stored flag ⊢
  have queued : updated = true → conn.payloadChunks.isSome = true := by
    intro added
    rw [stored] at added
    obtain ⟨chunk, found⟩ := Option.isSome_iff_exists.mp added
    rw [found, waiting] at chunks
    cases list : conn.payloadChunks with
    | none => simp [list] at chunks
    | some _ => rfl
  split at bits
  · next notifies =>
    rw [if_pos notifies]
    refine ⟨⟨chunks, marks⟩, ?_, bits, fun _ => touch_payload _⟩
    change (conn.payloadTruncated || truncated) = _
    rw [kept, flag, ← Bool.or_assoc, Bool.or_self]
  · next quiet =>
    rw [if_neg quiet]
    simp only [Bool.or_eq_true, Bool.and_eq_true, decide_eq_true_eq, not_or, not_and,
      Decidable.not_not] at quiet
    refine ⟨⟨chunks, marks⟩, quiet.2.symm.trans flag, bits, fun added => ?_⟩
    rw [← stored] at added
    exact absurd (queued added) (quiet.1 added)

end Packet

section Runs

variable (mode : PayloadMode)

/-- The outcomes so far, with what the next packets depend on: which directions have been captured,
    and that chunks that wait are announced. -/
structure Kept (track : Track) (outcomes : List Outcome) : Prop where
  packets : outcomes.map Outcome.pctx = track.packets
  chunks : outcomes.filterMap Outcome.chunk = handed track.updates ++ waiting track.data
  stored : ∀ outcome ∈ outcomes, ∀ chunk ∈ outcome.chunk, ∃ data : PdConn,
    chunk = chunkOf outcome.pctx data (dumpSize mode outcome.pctx.pkt.l7.length)
  marks : mode = .minimal → ∀ isTx,
    ((outcomes.filterMap Outcome.chunk).filter fun chunk => chunk.isSent == isTx).length =
      if hasPayload track.data isTx then 1 else 0
  truncated : track.data.payloadTruncated = true ↔ ∃ outcome ∈ outcomes, outcome.Lost
  dirty : waiting track.data ≠ [] → track.data.dirty CONN_UPDATE_PAYLOAD = true

theorem kept_fresh : Kept mode ⟨freshConn, [], []⟩ [] where
  packets := rfl
  chunks := rfl
  stored _ member := absurd member List.not_mem_nil
  marks _ isTx := by cases isTx <;> rfl
  truncated := by simp [freshConn]
  dirty present := absurd rfl present

theorem dirty_later (before after : PdConn)
    (bits : after.updateType &&& before.updateType = before.updateType)
    (dirty : before.dirty CONN_UPDATE_PAYLOAD = true) : after.dirty CONN_UPDATE_PAYLOAD = true := by
  simp only [PdConn.dirty, bne_iff_ne] at dirty ⊢
  intro clean
  apply dirty
  rw [← bits, BitVec.and_assoc, BitVec.and_comm before.updateType, ← BitVec.and_assoc, clean]
  exact BitVec.zero_and

theorem update_takes (tables : NdpiTables) (vpnCapture : Bool) (tuple : Tuple) (data : PdConn)
    (dirty : waiting data ≠ [] → data.dirty CONN_UPDATE_PAYLOAD = true) :
    (getConnUpdate tables vpnCapture tuple data).1.payloadChunks.getD [] = waiting data ∧
      waiting (getConnUpdate tables vpnCapture tuple data).2 = [] ∧
      (getConnUpdate tables vpnCapture tuple data).2.payloadTruncated = data.payloadTruncated ∧
      ∀ isTx, hasPayload (getConnUpdate tables vpnCapture tuple data).2 isTx = hasPayload data isTx := by
  unfold getConnUpdate
  cases announced : data.dirty CONN_UPDATE_PAYLOAD with
  | true =>
      rw [if_pos rfl]
      exact ⟨rfl, rfl, rfl, fun isTx => rfl⟩
  | false =>
      have idle : waiting data = [] := by
        by_contra present
        rw [dirty present] at announced
        cases announced
      rw [idle, if_neg Bool.false_ne_true]
      refine ⟨?_, idle, rfl, fun isTx => rfl⟩
      split <;> split <;> rfl

theorem handed_append (updates : List ConnectionUpdate) (update : ConnectionUpdate) :
    handed (updates ++ [update]) = handed updates ++ update.payloadChunks.getD [] := by
  simp [handed]

variable {mode} {track : Track} {outcomes : List Outcome}

theorem Kept.update (kept : Kept mode track outcomes) (tables : NdpiTables) (vpnCapture : Bool)
    (tuple : Tuple) : Kept mode (step track (.update tables vpnCapture tuple)) outcomes := by
  obtain ⟨taken, empty, flag, marks⟩ := update_takes tables vpnCapture tuple track.data kept.dirty
  refine ⟨kept.packets, ?_, kept.stored, fun minimal isTx => ?_, ?_, fun present => ?_⟩
  · simp only [step]
    rw [handed_append, taken, empty, List.append_nil]
    exact kept.chunks
  · rw [kept.marks minimal isTx, step, marks]
  · rw [step, flag]
    exact kept.truncated
  · exact absurd empty present

theorem Kept.other (kept : Kept mode track outcomes) (after : PdConn)
    (apart : Apart track.data after) : Kept mode (step track (.other after)) outcomes := by
  have chunks : after.payloadChunks = track.data.payloadChunks := congrArg Payload.chunks apart.payload
  have flag : after.payloadTruncated = track.data.payloadTruncated :=
    congrArg Payload.truncated apart.payload
  have same : waiting after = waiting track.data := by rw [waiting, chunks, waiting]
  have marks : ∀ isTx, hasPayload after isTx = hasPayload track.data isTx := by
    intro isTx
    cases isTx with
    | true => exact congrArg Payload.hasTx apart.payload
    | false => exact congrArg Payload.hasRx apart.payload
  refine ⟨kept.packets, ?_, kept.stored, fun minimal isTx => ?_, ?_, fun present => ?_⟩
  · simp only [step]
    rw [same]
    exact kept.chunks
  · rw [kept.marks minimal isTx, step, marks]
  · rw [step, flag]
    exact kept.truncated
  · rw [step, same] at present
    exact dirty_later _ _ apart.bits (kept.dirty present)

theorem Kept.packet (kept : Kept mode track outcomes) (proper : mode ≠ .none) (pd : Pd)
    (result : ChunkResult) (pctx : PktContext)
    (eligible : Eligible mode track (.packet pd result pctx)) :
    Kept mode (step track (.packet pd result pctx))
      (outcomes ++ [⟨pctx, storedChunk result pctx track.data mode⟩]) := by
  have recorded := recordPayload_recorded pd result pctx track.data mode proper eligible
  have collected : List.filterMap Outcome.chunk
      (outcomes ++ [⟨pctx, storedChunk result pctx track.data mode⟩]) =
        outcomes.filterMap Outcome.chunk ++ (storedChunk result pctx track.data mode).toList := by
    rw [List.filterMap_append]
    cases storedChunk result pctx track.data mode <;> rfl
  constructor
  · rw [List.map_append, kept.packets]
    rfl
  · rw [collected, kept.chunks, List.append_assoc, step, recorded.waiting]
  · intro outcome member chunk found
    rcases List.mem_append.mp member with old | new
    · exact kept.stored outcome old chunk found
    · obtain rfl := List.mem_singleton.mp new
      dsimp only at found
      rcases storedChunk_cases result pctx track.data mode with none | ⟨stores, -⟩
      · rw [none] at found
        cases found
      · rw [stores] at found
        exact ⟨track.data, (Option.some.inj found).symm⟩
  · intro minimal isTx
    rw [collected, List.filter_append, List.length_append, kept.marks minimal isTx, step,
      recorded.marks]
    rcases storedChunk_cases result pctx track.data mode with none | ⟨stores, free⟩
    · simp [none]
    · have free := free minimal
      rw [stores]
      by_cases own : isTx = pctx.isTx
      · subst own
        simp [free, chunkOf]
      · have other : ¬pctx.isTx = isTx := fun same => own same.symm
        simp [own, other, chunkOf]
  · rw [step, recorded.truncated, Bool.or_eq_true, kept.truncated, decide_eq_true_iff]
    simp only [List.mem_append, List.mem_singleton]
    constructor
    · rintro (⟨outcome, old, lost⟩ | lost)
      · exact ⟨outcome, Or.inl old, lost⟩
      · exact ⟨_, Or.inr rfl, lost⟩
    · rintro ⟨outcome, old | rfl, lost⟩
      · exact Or.inl ⟨outcome, old, lost⟩
      · exact Or.inr lost
  · intro present
    by_cases stores : (storedChunk result pctx track.data mode).isSome = true
    · exact recorded.dirty stores
    · have none : storedChunk result pctx track.data mode = Option.none := by
        simpa using stores
      rw [step, recorded.waiting, none, Option.toList_none, List.append_nil] at present
      exact dirty_later _ _ recorded.bits (kept.dirty present)

theorem Kept.step (kept : Kept mode track outcomes) (proper : mode ≠ .none) (event : Event)
    (eligible : Eligible mode track event) :
    ∃ later, Kept mode (PayloadCapture.step track event) later := by
  cases event with
  | packet pd result pctx => exact ⟨_, kept.packet proper pd result pctx eligible⟩
  | update tables vpnCapture tuple => exact ⟨_, kept.update tables vpnCapture tuple⟩
  | other after => exact ⟨_, kept.other after eligible⟩

theorem Kept.bookkeeping (kept : Kept mode track outcomes) : Bookkeeping mode track outcomes where
  packets := kept.packets
  chunks := kept.chunks
  origin outcome member chunk found := by
    obtain ⟨data, rfl⟩ := kept.stored outcome member chunk found
    exact ⟨List.take_prefix _ _, rfl, rfl⟩
  whole full outcome member chunk found := by
    obtain ⟨data, rfl⟩ := kept.stored outcome member chunk found
    simp [chunkOf, dumpSize, full]
  capped minimal outcome member chunk found := by
    obtain ⟨data, rfl⟩ := kept.stored outcome member chunk found
    rw [chunkOf_length _ _ _ (dumpSize_le _ _), dumpSize]
    split
    · exact Nat.le_refl _
    · next short =>
      rw [not_and] at short
      exact Nat.not_lt.mp (short minimal)
  once minimal isTx := by
    rw [kept.marks minimal isTx]
    split <;> omega
  truncated := kept.truncated
  next tables vpnCapture tuple := by
    obtain ⟨taken, empty, -, -⟩ := update_takes tables vpnCapture tuple track.data kept.dirty
    exact ⟨taken.symm, empty⟩

def fresh : Track := ⟨freshConn, [], []⟩

/-- The bookkeeping of a connection, whatever its packets and the answers of the allocator. -/
theorem payload_bookkeeping (mode : PayloadMode) (proper : mode ≠ .none) (events : List Event)
    (eligible : Machine.Along step (Eligible mode) fresh events) :
    ∃ outcomes, Bookkeeping mode (Machine.run step fresh events) outcomes := by
  have kept := Machine.run_invariant step (Eligible mode) (fun track => ∃ outcomes, Kept mode track outcomes)
    (fun track event ⟨_, kept⟩ eligible => kept.step proper event eligible) fresh events eligible
    ⟨[], kept_fresh mode⟩
  obtain ⟨outcomes, kept⟩ := kept
  exact ⟨outcomes, kept.bookkeeping⟩

end Runs

section Example

open CaptureClient (plainTables webTuple)

def webPacket (isTx : Bool) (l7 : List UInt8) : PktContext :=
  ⟨{ tuple := webTuple, l7 := l7 }, 7, isTx, webTuple, 0⟩

def minimalPd : Pd := { tables := plainTables, payloadMode := .minimal, dumpsPayload := true }

/-- A request that finds no memory, one that is stored and handed over, and a third one. -/
def webEvents : List Event :=
  [.packet minimalPd .noList (webPacket true [71]), .packet minimalPd .added (webPacket true [71, 69]),
    .update plainTables false webTuple, .packet minimalPd .added (webPacket true [84])]

theorem webEvents_bookkeeping :
    ∃ outcomes, Bookkeeping .minimal (Machine.run step fresh webEvents) outcomes :=
  payload_bookkeeping .minimal (by decide) webEvents
    ⟨⟨rfl, rfl, by decide, by decide⟩, ⟨rfl, rfl, by decide, by decide⟩, trivial,
      ⟨rfl, rfl, by decide, by decide⟩, trivial⟩

end Example

section Calls

variable (ndpi : Ndpi) (pd : Pd)

theorem modify_apart (ref : Ref) (change : PdConn → PdConn)
    (apart : Apart (pd.heap ref) (change (pd.heap ref))) (other : Ref) :
    Apart (pd.heap other) ((pd.modify ref change).heap other) := by
  rw [modify_heap]
  by_cases same : other = ref
  · subst same
    rwa [Function.update_self]
  · rw [Function.update_of_ne same]
    exact Apart.refl _

theorem notifConnection_apart (which : Which) (tuple : Tuple) (ref other : Ref) :
    Apart (pd.heap other) ((notifConnection ndpi pd which tuple ref).1.heap other) := by
  have ended : Apart (pd.heap other) ((endDetection ndpi pd tuple ref).heap other) := by
    simp only [endDetection]
    split
    · have given := modify_apart (pd.access ref) ref _
        (Apart.giveup (pd.access ref).policy ndpi tuple _) other
      rwa [access_heap] at given
    · rw [access_heap]
      exact Apart.refl _
  rw [notifConnection_eq]
  split
  · exact ended
  · obtain ⟨pending, marked⟩ := enqueue_heap (endDetection ndpi pd tuple ref) which ⟨tuple, ref⟩ other
    rw [marked]
    exact ended.trans (Apart.marked _ pending)

theorem performDpi_apart (pctx : PktContext) (other : Ref) :
    Apart (pd.heap other) ((performDpi ndpi pd pctx).heap other) := by
  have used : Apart (pd.heap other) ((pd.access pctx.data).heap other) := by
    rw [access_heap]
    exact Apart.refl _
  have inspected := used.trans (modify_apart (pd.access pctx.data) pctx.data (fun _ =>
    (Detection.performDpi (pd.access pctx.data).policy ndpi pctx.tuple pctx.pkt.tuple
      ((pd.access pctx.data).heap pctx.data)).1) (Apart.inspected _ _ _ _ _) other)
  have delayed : ∀ current data, (delayForNetd current data).heap = current.heap :=
    fun current data => delayForNetd_heap current data
  simp only [performDpi]
  split
  · refine Apart.trans ?_ (notifConnection_apart ndpi _ .connsUpdates pctx.tuple pctx.data other)
    rwa [delayed]
  · rwa [delayed]

theorem pdAccountStats_apart (pctx : PktContext) (other : Ref) :
    Apart (pd.heap other) ((pdAccountStats ndpi pd pctx).heap other) := by
  have counted := modify_apart pd pctx.data (Detection.accountStats pctx.isTx pctx.pkt.len
    pctx.pkt.l7.length) (Apart.accounted _ _ _ _) other
  have notified : ∀ current : Pd, Apart (pd.heap other) (current.heap other) →
      Apart (pd.heap other)
        ((pdNotifyConnectionUpdate ndpi current pctx.tuple pctx.data).1.heap other) :=
    fun current apart =>
      apart.trans (notifConnection_apart ndpi current .connsUpdates pctx.tuple pctx.data other)
  exact notified _ counted

theorem pdProcessPacket_events (result : ChunkResult) (pctx : PktContext) (track : Track)
    (own : track.data = pd.heap pctx.data) :
    ∃ before used after, Apart track.data before ∧
      Apart (recordPayload used result pctx before).1 after ∧
      (pdProcessPacket ndpi result pd pctx).heap pctx.data =
        (Machine.run step track [.other before, .packet used result pctx, .other after]).data := by
  have seen := modify_apart pd pctx.data (setSeen pctx.ms) (Apart.seen _ _) pctx.data
  have processed : ∀ current : Pd, Apart (pd.heap pctx.data) (current.heap pctx.data) →
      ∃ before used after, Apart track.data before ∧
        Apart (recordPayload used result pctx before).1 after ∧
        (processPayload ndpi result current pctx).heap pctx.data =
          (Machine.run step track [.other before, .packet used result pctx, .other after]).data := by
    intro current apart
    refine ⟨current.heap pctx.data, current.access pctx.data,
      (processPayload ndpi result current pctx).heap pctx.data, own ▸ apart, ?_, rfl⟩
    have written : ((current.access pctx.data).modify pctx.data fun _ =>
        (recordPayload (current.access pctx.data) result pctx
          ((current.access pctx.data).heap pctx.data)).1).heap pctx.data =
        (recordPayload (current.access pctx.data) result pctx (current.heap pctx.data)).1 := by
      rw [modify_heap, Function.update_self, access_heap]
    rw [← written]
    simp only [processPayload]
    split
    · exact notifConnection_apart ndpi _ .connsUpdates pctx.tuple pctx.data pctx.data
    · exact Apart.refl _
  simp only [pdProcessPacket]
  split
  · exact processed _ (seen.trans (performDpi_apart ndpi _ pctx pctx.data))
  · exact processed _ seen

theorem takeUpdate_events (slot : Slot) (track : Track) (own : track.data = pd.heap slot.data) :
    ∃ tables vpnCapture,
      (takeUpdate pd slot).2.heap slot.data =
          (step track (.update tables vpnCapture slot.tuple)).data ∧
        (step track (.update tables vpnCapture slot.tuple)).updates =
          track.updates ++ [(takeUpdate pd slot).1] := by
  refine ⟨(pd.access slot.data).tables, (pd.access slot.data).policy.vpnCapture, ?_, ?_⟩
  · rw [takeUpdate, modify_heap, Function.update_self, access_heap, step, own]
  · rw [takeUpdate, access_heap, step, own]

end Calls

end Ptnet.PayloadCapture
