import Ptnet.Inspections
import Ptnet.LibpcapDump

/-!
How often nDPI is invoked on the packets of a connection. `perform_dpi` gives up on the number of
packets that the record has accounted, so that the bound rests on the module which captures them:
libpcap accounts each packet it has processed, the VPN does not account what it blocks or drops.
-/

namespace Ptnet.Pcapdroid

open Connection
open Detection (MAX_DPI_PACKETS)

theorem tracked_start (ref : Ref) (config : Pd) :
    Tracked ref [] (CaptureClient.start config).pd where
  unborn _ := ⟨rfl, rfl⟩
  inspected _ member := absurd member List.not_mem_nil
  last _ _ found := by simp at found

/-- nDPI is invoked on at most `MAX_DPI_PACKETS` packets. The last of them frees the flow, and in
    all states that follow there is no flow and the protocol is the same. -/
structure Bounded (ref : Ref) (calls : List Inspection) (pd : Pd) (follows : Pd → Prop) : Prop where
  atMost : (calls.length : Int) ≤ MAX_DPI_PACKETS
  freed : ∀ call, twelfth calls = some call → call.left.ndpiFlow = none
  settled : (calls.length : Int) = MAX_DPI_PACKETS → ∀ after, follows after →
    (after.heap ref).ndpiFlow = none ∧ (after.heap ref).l7proto = (pd.heap ref).l7proto

/-- The bound holds just if the twelfth packet completes detection. -/
theorem Tracked.bounded_iff {ref : Ref} {calls : List Inspection} {pd : Pd}
    (tracked : Tracked ref calls pd) (follows : Pd → Prop)
    (aside : ∀ after, follows after → Aside ref pd after) :
    Bounded ref calls pd follows ↔ ∀ call, twelfth calls = some call → call.Completes := by
  have reached : ∀ call, twelfth calls = some call → call.data.ndpiFlow.isSome :=
    fun call found => tracked.inspected call (List.mem_of_getElem? found)
  constructor
  · intro bounded call found
    exact (call.left_ended (reached call found)).mp (bounded.freed call found)
  · intro completes
    have last : ∀ call, twelfth calls = some call → calls.length = 12 ∧ Ended ref pd := by
      intro call found
      obtain ⟨final, ended⟩ := tracked.last 11 call found (completes call found)
      exact ⟨final.symm, ended⟩
    have twelve : 11 < calls.length → calls.length = 12 ∧ Ended ref pd := by
      intro long
      exact last calls[11] (List.getElem?_eq_getElem long)
    refine ⟨?_, fun call found => ?_, fun full after later => ?_⟩
    · by_cases long : 11 < calls.length
      · rw [(twelve long).1]
        exact Int.le_refl _
      · change (calls.length : Int) ≤ 12
        omega
    · exact (call.left_ended (reached call found)).mpr (completes call found)
    · have full : (calls.length : Int) = 12 := full
      obtain ⟨ended, same⟩ := (aside after later).ended (twelve (by omega)).2
      exact ⟨ended.2, same⟩

end Ptnet.Pcapdroid

namespace Ptnet.LibpcapCapture

open Connection Pcapdroid
open Detection (Ndpi MAX_DPI_PACKETS)
open LibpcapDump (tally tally_congr handleConnection_tally)

section Inspections

variable (ref : Ref)

/-- The call of nDPI while `handle_packet` has its connection. -/
def connectionInspections (arrival : Arrival) (pkt : Pkt) (isTx : Bool) (state : Libpcap)
    (conn : Slot) : List Inspection :=
  let stamped := state.pd.modify conn.data fun data =>
    { data with lastUpdateMs := state.pd.nowMs }
  inspections ref arrival.ndpi stamped ⟨pkt, arrival.hdr.ms, isTx, conn.tuple, conn.data⟩

/-- The call of nDPI in `handle_packet`. -/
def packetInspections (arrival : Arrival) (state : Libpcap) : List Inspection :=
  match arrival.parsed with
  | none => []
  | some parsed =>
      if isOrphan parsed then []
      else
        match lookup state.connections arrival.hdr.isTx parsed.tuple with
        | some (conn, isTx) =>
            connectionInspections ref arrival (orient isTx parsed) isTx state conn
        | none =>
            match added arrival (orient arrival.hdr.isTx parsed) state with
            | none => []
            | some (conn, opened) =>
                connectionInspections ref arrival (orient arrival.hdr.isTx parsed) arrival.hdr.isTx
                  opened conn

def inspects (state : Libpcap) : Event → List Inspection
  | .packet arrival => packetInspections ref arrival state
  | _ => []

end Inspections

section Accounts

theorem added_created {same : PdConn → PdConn → Prop} (frame : QuietCreation same)
    (described : ∀ tlsEnabled ifidx tuple data,
      same data (describeConn tlsEnabled ifidx tuple data))
    (arrival : Arrival) (pkt : Pkt) (state opened : Libpcap) (conn : Slot)
    (found : added arrival pkt state = some (conn, opened)) :
    Created same state.pd opened.pd := by
  rw [added] at found
  split at found
  · cases found
  · rcases outcome : pdNewConnection arrival.ndpi arrival.env state.pd pkt.tuple
      (packetUid state arrival.hdr) with ⟨pd, result⟩
    have records := frame.pdNewConnection _ _ _ _ _ pd result outcome
    rw [outcome] at found
    cases result with
    | none => cases found
    | some ref =>
        obtain ⟨rfl, rfl⟩ := Prod.mk.inj (Option.some.inj found)
        rcases records with ⟨-, no⟩ | ⟨created, -⟩
        · cases no
        · exact frame.createdLater created (frame.modify pd ref _ (described _ _ _ _))

/-- A packet that adds no connection may still have had a record created, and freed. -/
theorem unadded_created {same : PdConn → PdConn → Prop} (frame : QuietCreation same)
    (arrival : Arrival) (pkt : Pkt) (state : Libpcap) (unopened : added arrival pkt state = none) :
    (openConnection arrival pkt state).1.pd = state.pd ∨
      Created same state.pd (openConnection arrival pkt state).1.pd := by
  rw [added] at unopened
  rw [openConnection]
  split
  · exact Or.inl rfl
  · next accepted =>
      rw [if_neg accepted] at unopened
      rcases outcome : pdNewConnection arrival.ndpi arrival.env state.pd pkt.tuple
        (packetUid state arrival.hdr) with ⟨pd, result⟩
      have records := frame.pdNewConnection _ _ _ _ _ pd result outcome
      rw [outcome] at unopened
      cases result with
      | some ref => cases unopened
      | none => exact records.imp And.left And.left

/-- Each packet on which nDPI was invoked has been accounted, so that the twelfth finds eleven of
    them accounted. -/
structure Accounted (ref : Ref) (calls : List Inspection) (pd : Pd) : Prop
    extends Tracked ref calls pd where
  counted : ref < pd.created → (calls.length : Int) ≤ tally (pd.heap ref)
  eleven : ∀ call, twelfth calls = some call → 11 ≤ tally call.data

namespace Accounted

variable {ref : Ref} {calls : List Inspection} {before after : Pd}
variable (accounted : Accounted ref calls before)

include accounted

theorem later (aside : Aside ref before after)
    (kept : ref < before.created → packets (after.heap ref) = packets (before.heap ref))
    (fresh : before.created ≤ ref → ref < after.created → 0 ≤ tally (after.heap ref)) :
    Accounted ref calls after where
  toTracked := accounted.toTracked.later aside
  counted born := by
    by_cases old : ref < before.created
    · rw [tally_congr (kept old)]
      exact accounted.counted old
    · rw [(accounted.unborn (Nat.not_lt.mp old)).2]
      exact fresh (Nat.not_lt.mp old) born
  eleven := accounted.eleven

theorem framed (aside : Aside ref before after)
    (framed : Framed (fun before after => packets after = packets before) before after) :
    Accounted ref calls after :=
  accounted.later aside (fun _ => framed.records ref) fun early born =>
    absurd (framed.created ▸ born) (Nat.not_lt.mpr early)

theorem created (aside : Aside ref before after)
    (created : Created (fun before after => packets after = packets before) before after) :
    Accounted ref calls after := by
  refine accounted.later aside (fun old => created.others ref (Nat.ne_of_lt old)) ?_
  intro early born
  rw [created.created] at born
  obtain rfl := Nat.le_antisymm (Nat.le_of_lt_succ born) early
  exact (tally_congr created.fresh).ge

theorem final (ndpi : Ndpi) (pctx : PktContext) (call : Inspection)
    (found : twelfth (calls ++ inspections ref ndpi before pctx) = some call) :
    11 ≤ tally call.data := by
  rcases inspections_cases ref ndpi before pctx with none | ⟨-, begun, last, inspected, data⟩
  · rw [none, List.append_nil] at found
    exact accounted.eleven call found
  · rw [inspected, twelfth, List.getElem?_append] at found
    split at found
    · exact accounted.eleven call found
    · next past =>
        obtain ⟨first, rfl⟩ := List.getElem?_eq_some_iff.mp found
        have born : ref < before.created := by
          refine Nat.lt_of_not_le fun later => ?_
          rw [(accounted.unborn later).1] at begun
          cases begun
        have counted := accounted.counted born
        have first : 11 - calls.length < 1 := first
        rw [List.getElem_singleton, data]
        change (11 : Int) ≤ tally (before.heap ref)
        omega

end Accounted

section Steps

variable {ref : Ref} {calls : List Inspection} (state : Libpcap)
variable (accounted : Accounted ref calls state.pd)

include accounted

theorem handleConnection_accounted (arrival : Arrival) (pkt : Pkt) (isTx : Bool) (conn : Slot) :
    Accounted ref (calls ++ connectionInspections ref arrival pkt isTx state conn)
      (handleConnection arrival pkt isTx state conn).pd := by
  let stamped := state.pd.modify conn.data fun data => { data with lastUpdateMs := state.pd.nowMs }
  let pinfo : PktContext := ⟨pkt, arrival.hdr.ms, isTx, conn.tuple, conn.data⟩
  let processed := pdProcessPacket arrival.ndpi arrival.payload stamped pinfo
  have stamping : Accounted ref calls stamped :=
    accounted.framed (CaptureCall.aside ref (.write conn.data _ rfl))
      (packets_frame.modify _ _ _ rfl)
  have updated : CaptureCalls processed (handleConnection arrival pkt isTx state conn).pd :=
    (updateConnectionStatus_calls { state with pd := processed } conn pkt isTx).tail (.account _ _)
  have tallied := handleConnection_tally arrival pkt isTx state conn ref
  have created : (handleConnection arrival pkt isTx state conn).pd.created = state.pd.created :=
    handleConnection_created arrival pkt isTx state conn
  refine ⟨(stamping.toTracked.process arrival.ndpi arrival.payload pinfo).later (updated.aside ref),
    fun born => ?_, fun call found => ?_⟩
  · have before := accounted.counted (created ▸ born)
    rw [tallied, List.length_append]
    rcases inspections_cases ref arrival.ndpi stamped pinfo with none | ⟨own, -, call, inspected, -⟩
    · rw [connectionInspections, none, List.length_nil]
      split <;> omega
    · rw [connectionInspections, inspected, if_pos own.symm, List.length_singleton]
      omega
  · exact stamping.final arrival.ndpi pinfo call found

theorem handlePacket_accounted (arrival : Arrival) :
    Accounted ref (calls ++ packetInspections ref arrival state)
      (handlePacket arrival state).1.pd := by
  have idle : Accounted ref (calls ++ []) state.pd := by
    rw [List.append_nil]
    exact accounted
  cases present : arrival.parsed with
  | none => simpa only [packetInspections, handlePacket, present] using idle
  | some parsed =>
      cases ported : isOrphan parsed with
      | true =>
          have orphan := ported
          unfold isOrphan at orphan
          simpa only [packetInspections, handlePacket, present, ported, orphan, if_true] using idle
      | false =>
          rw [handlePacket_parsed arrival state parsed present ported]
          simp only [packetInspections, present, ported, Bool.false_eq_true, if_false]
          cases lookup state.connections arrival.hdr.isTx parsed.tuple with
          | some found => exact handleConnection_accounted state accounted arrival _ found.2 found.1
          | none =>
              dsimp only
              cases opening : added arrival (orient arrival.hdr.isTx parsed) state with
              | none =>
                  rw [List.append_nil]
                  have aside := (openConnection_calls state arrival
                    (orient arrival.hdr.isTx parsed)).aside ref
                  rcases unadded_created packets_frame arrival _ state opening with same | created
                  · rw [same]
                    exact accounted
                  · exact accounted.created aside created
              | some entry =>
                  obtain ⟨conn, opened⟩ := entry
                  have created := added_created packets_frame (fun _ _ _ _ => rfl) arrival _ state
                    opened conn opening
                  have aside : Aside ref state.pd opened.pd := .of_created (added_created
                    settled_frame.toQuietCreation (fun _ _ _ _ _ => rfl) arrival _ state opened conn
                    opening)
                  rw [(openConnection_some arrival _ state opened conn opening).1]
                  exact handleConnection_accounted opened (accounted.created aside created)
                    arrival _ arrival.hdr.isTx conn

theorem step_accounted (event : Event) :
    Accounted ref (calls ++ inspects ref state event) (step state event).pd := by
  have idle : ∀ after, Accounted ref calls after → Accounted ref (calls ++ []) after := by
    intro after kept
    rw [List.append_nil]
    exact kept
  cases event with
  | packet arrival => exact handlePacket_accounted state accounted arrival
  | refreshTime nowMs =>
      exact idle _ (accounted.framed (CaptureCall.aside ref (.refreshTime nowMs))
        (packets_frame.of_heap rfl rfl))
  | allocator reallocs =>
      exact idle _ (accounted.framed (CaptureCall.aside ref (.allocator reallocs))
        (packets_frame.of_heap rfl rfl))
  | request wanted =>
      exact idle _ (accounted.framed (CaptureCall.aside ref (.request wanted))
        (packets_frame.of_heap rfl rfl))
  | housekeeping pass =>
      exact idle _ (accounted.framed
        (.of_framed (settled_frame.pdHousekeeping state.connections state.pd pass))
        (packets_frame.pdHousekeeping state.connections state.pd pass))
  | purgeIfDue ndpi =>
      have expires : ∀ data, packets (expireConn data) = packets data := by
        intro data
        unfold expireConn
        split <;> rfl
      refine idle _ ?_
      unfold step
      dsimp only
      split
      · exact accounted.framed ((purgeExpiredConnections_calls state ndpi false).aside ref)
          ⟨(purgeExpiredConnections_kept packets_frame.toQuietFrame ndpi false state).created,
            purgeExpiredConnections_records packets_frame.toQuietFrame expires ndpi false state⟩
      · exact accounted

end Steps

/-- What nDPI is invoked on in a run. -/
def inspected (ref : Ref) (state : Libpcap) (events : List Event) : List Inspection :=
  (Machine.trace step (inspects ref) state events).flatten

theorem run_accounted (ref : Ref) (calls : List Inspection) (state : Libpcap) (events : List Event)
    (accounted : Accounted ref calls state.pd) :
    Accounted ref (calls ++ inspected ref state events) (Machine.run step state events).pd := by
  induction events generalizing calls state with
  | nil =>
      rw [inspected, Machine.trace, List.flatten_nil, List.append_nil]
      exact accounted
  | cons event rest ih =>
      rw [inspected, Machine.trace, List.flatten_cons, ← List.append_assoc, Machine.run_cons]
      exact ih _ _ (step_accounted state accounted event)

theorem step_aside (ref : Ref) (state : Libpcap) (event : Event) :
    Aside ref state.pd (step state event).pd := by
  by_cases pass : ∃ pass, event = .housekeeping pass
  · obtain ⟨pass, rfl⟩ := pass
    exact .of_framed (settled_frame.pdHousekeeping state.connections state.pd pass)
  · exact (step_calls state event fun own same => pass ⟨own, same⟩).aside ref

end Accounts

end Ptnet.LibpcapCapture

namespace Ptnet.VpnCapture

open Connection Pcapdroid
open Detection (Ndpi Policy)
open LibpcapCapture (findConnection)

section Inspections

variable (ref : Ref)

/-- The call of nDPI in `remote2vpn`. -/
def remote2vpnInspections (reply : Reply) (vpn : Vpn) (conn : Slot) : List Inspection :=
  if !vpn.running then []
  else
    let accounted := accountForwarded reply.ndpi vpn conn.data
    inspections ref reply.ndpi { accounted.pd with nowMs := reply.nowMs }
      ⟨reply.pkt, reply.ms, false, conn.tuple, conn.data⟩

def callbackInspections (conn : Slot) (vpn : Vpn) : Callback → List Inspection
  | .sendClient reply =>
      if vpn.isOpen conn then remote2vpnInspections ref reply vpn conn else []
  | _ => []

def serveInspections (vpn : Vpn) (work : Slot × List Callback) : List Inspection :=
  if vpn.isOpen work.1 then
    (Machine.trace (callback work.1) (callbackInspections ref work.1) vpn work.2).flatten
  else []

/-- The calls of nDPI for the resets that `zdtun_conn_close` sends. -/
def closeInspections (closing : Closing) (status : ConnStatus) (vpn : Vpn) (conn : Slot) :
    List Inspection :=
  let reset := if conn.tuple.ipproto = IPPROTO_TCP then closing.reset else []
  serveInspections ref vpn (conn, reset ++ [.connectionClose closing.ndpi status])

def purgeInspections (idle : List (Slot × Closing)) (vpn : Vpn) : List Inspection :=
  (Machine.trace
    (fun current (item : Slot × Closing) => zdtunConnClose item.2 .closed current item.1)
    (fun current item => closeInspections ref item.2 .closed current item.1) vpn idle).flatten

def lookupInspections (packet : TunPacket) (vpn : Vpn) (tuple : Tuple) (create : Bool) :
    List Inspection :=
  match findConnection vpn.connections tuple with
  | some _ => []
  | none => if create then purgeInspections ref packet.forcePurge vpn else []

def firstPacketInspections (packet : TunPacket) (vpn : Vpn) (pctx : PktContext) : List Inspection :=
  let checked := checkDnsRequest vpn pctx
  let data := checked.pd.heap pctx.data
  if data.sentPkts = 0 ∧ data.toBlock ∧ data.l7proto = NDPI_PROTOCOL_DNS ∧
      pctx.tuple.ipproto = IPPROTO_UDP then
    closeInspections ref packet.closing .closed (spoofDnsReply packet checked pctx)
      ⟨pctx.tuple, pctx.data⟩
  else []

/-- The packet from the tunnel itself, and what follows from blocking it. -/
def processInspections (packet : TunPacket) (pkt : Pkt) (vpn : Vpn) (conn : Slot) :
    List Inspection :=
  let pctx : PktContext := ⟨pkt, packet.ms, true, conn.tuple, conn.data⟩
  let routed := vpn.pd.modify conn.data (routeConnection vpn.config vpn.pd.policy conn.tuple)
  let processed := { vpn with pd := pdProcessPacket packet.ndpi packet.payload routed pctx }
  inspections ref packet.ndpi routed pctx ++ firstPacketInspections ref packet processed pctx

def acceptInspections (packet : TunPacket) (vpn : Vpn) : List Inspection :=
  match packet.parsed with
  | none => []
  | some pkt =>
      if pkt.isFragment then []
      else if isIgnored vpn.config pkt.tuple then []
      else
        let create := !isTcpEstablished pkt
        lookupInspections ref packet vpn pkt.tuple create ++
          match zdtunLookup packet vpn pkt.tuple create with
          | (found, some conn) => processInspections ref packet pkt found conn
          | (_, none) => []

def forwardInspections (packet : TunPacket) (vpn : Vpn) (pctx : PktContext) : List Inspection :=
  let conn : Slot := ⟨pctx.tuple, pctx.data⟩
  let (forwarded, success) := zdtunForward packet (publish vpn pctx) conn
  serveInspections ref (publish vpn pctx) (conn, packet.forward) ++
    if !success then closeInspections ref packet.closing .error (countFailure forwarded conn) conn
    else []

def tunInspections (packet : TunPacket) (vpn : Vpn) : List Inspection :=
  acceptInspections ref packet vpn ++
    match acceptPacket packet vpn with
    | (_, none) => []
    | (admitted, some pctx) => forwardInspections ref packet admitted pctx

def inputInspections (vpn : Vpn) : Input → List Inspection
  | .tunPacket packet => tunInspections ref packet vpn
  | .readError => []
  | .sockets works => (Machine.trace serve (serveInspections ref) vpn works).flatten

def turnInspections (turn : Turn) (vpn : Vpn) : List Inspection :=
  let refreshed := vpn.refreshTime turn.nowMs
  let handled := handleInput refreshed turn.input
  let kept :=
    { handled with pd := pdHousekeeping turn.pass handled.connections handled.pd }
  inputInspections ref refreshed turn.input ++
    if kept.nextPurgeMs ≤ kept.pd.nowMs then purgeInspections ref turn.idle kept else []

def inspects (vpn : Vpn) : Event → List Inspection
  | .loopTurn turn => if vpn.running && !vpn.finalized then turnInspections ref turn vpn else []
  | .finalize closings =>
      if vpn.finalized then []
      else purgeInspections ref (vpn.connections.map fun conn => (conn, closings conn)) vpn
  | _ => []

/-- What nDPI is invoked on in a run. -/
def inspected (vpn : Vpn) (events : List Event) : List Inspection :=
  (Machine.trace step (inspects ref) vpn events).flatten

end Inspections

section Tracking

variable {ref : Ref} {calls : List Inspection} (vpn : Vpn) (tracked : Tracked ref calls vpn.pd)

include tracked

theorem idle_tracked {after : Pd} (quiet : CaptureCalls vpn.pd after) :
    Tracked ref (calls ++ []) after := by
  rw [List.append_nil]
  exact tracked.later (quiet.aside ref)

theorem remote2vpn_tracked (reply : Reply) (conn : Slot) :
    Tracked ref (calls ++ remote2vpnInspections ref reply vpn conn)
      (remote2vpn reply vpn conn).1.pd := by
  have accounted := tracked.later (CaptureCalls.aside ref
    ((accountForwarded_calls vpn reply.ndpi conn.data).tail (.refreshTime reply.nowMs)))
  have processed := accounted.process reply.ndpi reply.payload
    ⟨reply.pkt, reply.ms, false, conn.tuple, conn.data⟩
  simp only [remote2vpn, remote2vpnInspections]
  split
  · exact idle_tracked vpn tracked .refl
  · split
    -- a blocked packet has been inspected and is not accounted
    · exact processed.later ((blockPacket_calls { accountForwarded reply.ndpi vpn conn.data with
        pd := _ } reply.ndpi conn).aside ref)
    · split
      · exact processed.later (CaptureCall.aside ref (.account _ _))
      · exact processed
      · exact processed
      · exact processed

theorem callback_tracked (conn : Slot) (event : Callback) :
    Tracked ref (calls ++ callbackInspections ref conn vpn event) (callback conn vpn event).pd := by
  cases event with
  | sendClient reply =>
      simp only [callback, callbackInspections]
      split
      · exact remote2vpn_tracked vpn tracked reply conn
      · exact idle_tracked vpn tracked .refl
  | stop => exact idle_tracked vpn tracked (callback_calls vpn conn .stop)
  | advance status => exact idle_tracked vpn tracked (callback_calls vpn conn (.advance status))
  | accountPacket => exact idle_tracked vpn tracked (callback_calls vpn conn .accountPacket)
  | connectionClose ndpi status =>
      exact idle_tracked vpn tracked (callback_calls vpn conn (.connectionClose ndpi status))
  | socketError => exact idle_tracked vpn tracked (callback_calls vpn conn .socketError)

theorem serve_tracked (work : Slot × List Callback) :
    Tracked ref (calls ++ serveInspections ref vpn work) (serve vpn work).pd := by
  unfold serve serveInspections
  split
  · exact tracked.foldl Vpn.pd (callback work.1) (callbackInspections ref work.1)
      (fun current event _ kept => callback_tracked current kept work.1 event) work.2 vpn rfl
  · exact idle_tracked vpn tracked .refl

theorem zdtunConnClose_tracked (closing : Closing) (status : ConnStatus) (conn : Slot) :
    Tracked ref (calls ++ closeInspections ref closing status vpn conn)
      (zdtunConnClose closing status vpn conn).pd :=
  serve_tracked vpn tracked _

theorem zdtunPurgeExpired_tracked (idle : List (Slot × Closing)) :
    Tracked ref (calls ++ purgeInspections ref idle vpn) (zdtunPurgeExpired idle vpn).pd :=
  tracked.foldl Vpn.pd _ _ (fun current item _ kept =>
    zdtunConnClose_tracked current kept item.2 .closed item.1) idle vpn rfl

theorem zdtunLookup_tracked (packet : TunPacket) (tuple : Tuple) (create : Bool) :
    Tracked ref (calls ++ lookupInspections ref packet vpn tuple create)
      (zdtunLookup packet vpn tuple create).1.pd := by
  unfold zdtunLookup lookupInspections
  cases findConnection vpn.connections tuple with
  | some conn => exact idle_tracked vpn tracked .refl
  | none =>
      dsimp only
      split
      · have purged := zdtunPurgeExpired_tracked vpn tracked packet.forcePurge
        have opened := purged.later ((handleNewConnection_calls
          (zdtunPurgeExpired packet.forcePurge vpn) packet.ndpi packet.env packet.uid
          tuple).aside ref)
        rcases outcome : handleNewConnection packet.ndpi packet.env packet.uid
          (zdtunPurgeExpired packet.forcePurge vpn) tuple with ⟨after, result⟩
        rw [outcome] at opened
        cases result with
        | none => exact opened
        | some conn => exact opened
      · exact idle_tracked vpn tracked .refl

theorem checkFirstPacket_tracked (packet : TunPacket) (pctx : PktContext) :
    Tracked ref (calls ++ firstPacketInspections ref packet vpn pctx)
      (checkFirstPacket packet vpn pctx).pd := by
  have checked : CaptureCalls vpn.pd (checkDnsRequest vpn pctx).pd := by
    refine .single (.write pctx.data _ ?_)
    unfold Detection.checkDnsBlocked
    split <;> rfl
  have spoofed : (spoofDnsReply packet (checkDnsRequest vpn pctx) pctx).pd =
      (checkDnsRequest vpn pctx).pd := by
    unfold spoofDnsReply
    split <;> rfl
  simp only [checkFirstPacket, firstPacketInspections]
  split
  · rw [← spoofed] at checked
    exact zdtunConnClose_tracked _ (tracked.later (checked.aside ref)) packet.closing .closed _
  · exact idle_tracked vpn tracked checked

theorem processTunPacket_tracked (packet : TunPacket) (pkt : Pkt) (conn : Slot) :
    Tracked ref (calls ++ processInspections ref packet pkt vpn conn)
      (processTunPacket packet pkt vpn conn).1.pd := by
  have routed := tracked.later (CaptureCall.aside ref (.write conn.data
    (routeConnection vpn.config vpn.pd.policy conn.tuple) (routeConnection_core _ _ _ _)))
  have processed := routed.process packet.ndpi packet.payload
    ⟨pkt, packet.ms, true, conn.tuple, conn.data⟩
  have checked := checkFirstPacket_tracked { vpn with pd := _ } processed packet
    ⟨pkt, packet.ms, true, conn.tuple, conn.data⟩
  rw [List.append_assoc] at checked
  simp only [processTunPacket]
  split
  · exact checked.later ((blockPacket_calls _ packet.ndpi conn).aside ref)
  · exact checked

theorem acceptPacket_tracked (packet : TunPacket) :
    Tracked ref (calls ++ acceptInspections ref packet vpn) (acceptPacket packet vpn).1.pd := by
  unfold acceptPacket acceptInspections
  cases packet.parsed with
  | none => exact idle_tracked vpn tracked .refl
  | some pkt =>
      dsimp only
      split
      · exact idle_tracked vpn tracked .refl
      · split
        · exact idle_tracked vpn tracked .refl
        · have looked := zdtunLookup_tracked vpn tracked packet pkt.tuple (!isTcpEstablished pkt)
          rw [← List.append_assoc]
          rcases outcome : zdtunLookup packet vpn pkt.tuple (!isTcpEstablished pkt) with
            ⟨found, result⟩
          rw [outcome] at looked
          cases result with
          | some conn => exact processTunPacket_tracked found looked packet pkt conn
          | none =>
              rw [List.append_nil]
              dsimp only
              split <;> exact looked

theorem forwardPacket_tracked (packet : TunPacket) (pctx : PktContext) :
    Tracked ref (calls ++ forwardInspections ref packet vpn pctx)
      (forwardPacket packet vpn pctx).pd := by
  let conn : Slot := ⟨pctx.tuple, pctx.data⟩
  have published := tracked.later (CaptureCall.aside ref (.access pctx.data))
  have forwarded := serve_tracked (publish vpn pctx) published (conn, packet.forward)
  have counted : ∀ current : Vpn, (countFailure current conn).pd = current.pd := by
    intro current
    unfold countFailure
    split <;> rfl
  unfold forwardPacket forwardInspections zdtunForward
  dsimp only
  rw [← List.append_assoc]
  split
  · refine zdtunConnClose_tracked _ ?_ packet.closing .error conn
    rw [counted]
    exact forwarded
  · rw [List.append_nil]
    exact forwarded.later (CaptureCalls.aside ref
      ((accountForwarded_calls _ packet.ndpi conn.data).trans (recordPort_calls _ packet conn)))

theorem handleTunPacket_tracked (packet : TunPacket) :
    Tracked ref (calls ++ tunInspections ref packet vpn) (handleTunPacket packet vpn).pd := by
  have accepted := acceptPacket_tracked vpn tracked packet
  rw [tunInspections, ← List.append_assoc]
  rcases outcome : acceptPacket packet vpn with ⟨admitted, result⟩
  rw [outcome] at accepted
  simp only [handleTunPacket, outcome]
  cases result with
  | none =>
      rw [List.append_nil]
      exact accepted
  | some pctx => exact forwardPacket_tracked admitted accepted packet pctx

theorem handleInput_tracked (input : Input) :
    Tracked ref (calls ++ inputInspections ref vpn input) (handleInput vpn input).pd := by
  cases input with
  | tunPacket packet => exact handleTunPacket_tracked vpn tracked packet
  | readError => exact idle_tracked vpn tracked .refl
  | sockets works =>
      exact tracked.foldl Vpn.pd serve (serveInspections ref)
        (fun current work _ kept => serve_tracked current kept work) works vpn rfl

theorem loopTurn_tracked (turn : Turn) :
    Tracked ref (calls ++ turnInspections ref turn vpn) (loopTurn turn vpn).pd := by
  let refreshed := vpn.refreshTime turn.nowMs
  let handled := handleInput refreshed turn.input
  let kept := { handled with pd := pdHousekeeping turn.pass handled.connections handled.pd }
  have started : Tracked ref calls refreshed.pd :=
    tracked.later (CaptureCall.aside ref (.refreshTime turn.nowMs))
  have passed : Tracked ref (calls ++ inputInspections ref refreshed turn.input) kept.pd :=
    (handleInput_tracked refreshed started turn.input).later
      (.of_framed (settled_frame.pdHousekeeping handled.connections handled.pd turn.pass))
  unfold loopTurn turnInspections
  dsimp only
  rw [← List.append_assoc]
  split
  · exact zdtunPurgeExpired_tracked kept passed turn.idle
  · rw [List.append_nil]
    exact passed

theorem step_tracked (event : Event) :
    Tracked ref (calls ++ inspects ref vpn event) (step vpn event).pd := by
  cases event with
  | allocator reallocs => exact idle_tracked vpn tracked (.single (.allocator reallocs))
  | request wanted => exact idle_tracked vpn tracked (.single (.request wanted))
  | stop => exact idle_tracked vpn tracked .refl
  | loopTurn turn =>
      simp only [inspects, step]
      split
      · exact loopTurn_tracked vpn tracked turn
      · exact idle_tracked vpn tracked .refl
  | finalize closings =>
      simp only [inspects, step]
      split
      · exact idle_tracked vpn tracked .refl
      · exact zdtunPurgeExpired_tracked vpn tracked _

theorem run_tracked (events : List Event) :
    Tracked ref (calls ++ inspected ref vpn events) (Machine.run step vpn events).pd :=
  tracked.foldl Vpn.pd step (inspects ref) (fun current event _ kept =>
    step_tracked current kept event) events vpn rfl

end Tracking

theorem step_aside (ref : Ref) (vpn : Vpn) (event : Event) :
    Aside ref vpn.pd (step vpn event).pd := by
  cases event with
  | allocator reallocs => exact CaptureCall.aside ref (.allocator reallocs)
  | request wanted => exact CaptureCall.aside ref (.request wanted)
  | stop => exact Aside.refl vpn.pd
  | loopTurn turn =>
      let handled := handleInput (vpn.refreshTime turn.nowMs) turn.input
      let kept := { handled with pd := pdHousekeeping turn.pass handled.connections handled.pd }
      have passed : Aside ref vpn.pd kept.pd :=
        ((handleInput_calls vpn turn.nowMs turn.input).aside ref).trans
          (.of_framed (settled_frame.pdHousekeeping handled.connections handled.pd turn.pass))
      have purged := passed.trans ((zdtunPurgeExpired_calls kept turn.idle).aside ref)
      simp only [step, loopTurn]
      split
      · split
        · exact purged
        · exact passed
      · exact Aside.refl vpn.pd
  | finalize closings =>
      simp only [step]
      split
      · exact Aside.refl vpn.pd
      · exact (zdtunFinalize_calls vpn closings).aside ref

end Ptnet.VpnCapture

namespace Ptnet.Pcapdroid

theorem Aside.run {ref : Ref} {State Event : Type} (step : State → Event → State) (pd : State → Pd)
    (each : ∀ state event, Aside ref (pd state) (pd (step state event))) (state : State)
    (events : List Event) : Aside ref (pd state) (pd (Machine.run step state events)) := by
  induction events generalizing state with
  | nil => exact Aside.refl (pd state)
  | cons event rest ih => exact (each state event).trans (ih (step state event))

/-- Eleven packets are enough for the test, unless their number overflows. -/
theorem Inspection.cutOff_counted (call : Inspection)
    (eleven : 11 ≤ call.data.sentPkts + call.data.rcvdPkts)
    (few : call.data.sentPkts + call.data.rcvdPkts + 1 < 2 ^ 31) : call.CutOff := by
  have same : Int.bmod (call.data.sentPkts + call.data.rcvdPkts + 1) (2 ^ 32) =
      call.data.sentPkts + call.data.rcvdPkts + 1 :=
    Int.bmod_eq_of_le (by omega) (by omega)
  rw [CutOff, Detection.giveup, same, decide_eq_true_iff]
  exact Int.add_le_add_right eleven 1

/-- The bound holds in a run just if detection completes on the twelfth packet: eleven packets of
    the connection were accounted by then, or nDPI names the protocol. In libpcap eleven are
    accounted by then, so that it does unless their number overflows. -/
theorem inspection_bounded (ref : Ref) :
    (∀ config pcapFileCapture events,
      let capture := LibpcapCapture.start config pcapFileCapture
      let reached := Machine.run LibpcapCapture.step capture events
      let calls := LibpcapCapture.inspected ref capture events
      ((Bounded ref calls reached.pd fun after =>
          ∃ more, after = (Machine.run LibpcapCapture.step reached more).pd) ↔
        ∀ call, twelfth calls = some call → call.Completes) ∧
      ∀ call, twelfth calls = some call →
        call.data.sentPkts + call.data.rcvdPkts + 1 < 2 ^ 31 → call.Completes) ∧
    ∀ settings config events,
      let vpn := VpnCapture.start settings config
      let reached := Machine.run VpnCapture.step vpn events
      let calls := VpnCapture.inspected ref vpn events
      (Bounded ref calls reached.pd fun after =>
          ∃ more, after = (Machine.run VpnCapture.step reached more).pd) ↔
        ∀ call, twelfth calls = some call → call.Completes := by
  constructor
  · intro config pcapFileCapture events
    have accounted := LibpcapCapture.run_accounted ref []
      (LibpcapCapture.start config pcapFileCapture) events
      ⟨tracked_start ref config, fun _ => Int.le_refl _, fun _ found => by simp [twelfth] at found⟩
    refine ⟨accounted.toTracked.bounded_iff _ ?_, fun call found few => ?_⟩
    · rintro after ⟨more, rfl⟩
      exact Aside.run LibpcapCapture.step LibpcapCapture.Libpcap.pd
        (LibpcapCapture.step_aside ref) _ more
    · exact Or.inl (call.cutOff_counted (accounted.eleven call found) few)
  · intro settings config events
    have tracked := VpnCapture.run_tracked (VpnCapture.start settings config)
      (tracked_start ref settings) events
    refine tracked.bounded_iff _ ?_
    rintro after ⟨more, rfl⟩
    exact Aside.run VpnCapture.step VpnCapture.Vpn.pd (VpnCapture.step_aside ref) _ more

section Example

open Connection
open CaptureClient (plainTables plainNdpi webTuple)
open VpnCapture (TunPacket)

def blockingPd : Pd where
  tables := plainTables
  policy := { firewall := { enabled := true, bl := some { uids := [10100] } } }
  nextConnectionsDump := CONNECTION_DUMP_UPDATE_FREQUENCY_MS

def blockedDatagram : TunPacket where
  parsed := some { tuple := { webTuple with ipproto := IPPROTO_UDP } }
  ndpi := plainNdpi
  uid := 10100
  closing := { ndpi := plainNdpi }

def blockedTurn : VpnCapture.Event :=
  .loopTurn
    { nowMs := 0
      input := .tunPacket blockedDatagram
      pass := { ndpi := fun _ => plainNdpi } }

/-- A packet that is blocked is inspected and not accounted: nDPI gets the thirteenth as well. -/
theorem blockedDatagrams_unbounded :
    let vpn := VpnCapture.start blockingPd {}
    let events := List.replicate 13 blockedTurn
    let reached := Machine.run VpnCapture.step vpn events
    let calls := VpnCapture.inspected 0 vpn events
    calls.length = 13 ∧ (reached.pd.heap 0).ndpiFlow.isSome ∧
      ¬ Bounded 0 calls reached.pd fun after =>
        ∃ more, after = (Machine.run VpnCapture.step reached more).pd := by
  dsimp only
  have inspected : (VpnCapture.inspected 0 (VpnCapture.start blockingPd {})
      (List.replicate 13 blockedTurn)).length = 13 := by
    decide +kernel
  refine ⟨inspected, by decide +kernel, fun bounded => ?_⟩
  have atMost := bounded.atMost
  rw [inspected] at atMost
  exact absurd atMost (by decide)

end Example

end Ptnet.Pcapdroid
