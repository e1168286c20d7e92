import Mathlib.Logic.Relation
import Ptnet.VpnCapture

/-!
The calls a capture module makes to the core while it handles packets and closes connections. What
`run_libpcap` and `run_vpn` do between two passes of housekeeping is a sequence of these calls, so
that a relation each of them keeps holds along every capture.
-/

namespace Ptnet.Pcapdroid

open Connection
open CaptureClient (Requests)
open Detection (Ndpi Policy)

structure CoreFields where
  incrId : Nat
  uid : Int
  info : Option String
  l7proto : Nat
  ndpiFlow : Option NdpiFlow
  payloadChunks : Option (List PayloadChunk)
  payloadTruncated : Bool
  hasPayloadTx : Bool
  hasPayloadRx : Bool
  sentPkts : Int
  rcvdPkts : Int

def coreFields (data : PdConn) : CoreFields where
  incrId := data.incrId
  uid := data.uid
  info := data.info
  l7proto := data.l7proto
  ndpiFlow := data.ndpiFlow
  payloadChunks := data.payloadChunks
  payloadTruncated := data.payloadTruncated
  hasPayloadTx := data.hasPayloadTx
  hasPayloadRx := data.hasPayloadRx
  sentPkts := data.sentPkts
  rcvdPkts := data.rcvdPkts

inductive CaptureCall (before : Pd) : Pd → Prop where
  | access (ref : Ref) : CaptureCall before (before.access ref)
  | refreshTime (nowMs : Nat) : CaptureCall before { before with nowMs := nowMs }
  | allocator (reallocs : List Bool) : CaptureCall before { before with reallocs := reallocs }
  | request (wanted : Requests) : CaptureCall before (wanted.apply before)
  | write (ref : Ref) (change : PdConn → PdConn)
      (own : coreFields (change (before.heap ref)) = coreFields (before.heap ref)) :
      CaptureCall before (before.modify ref change)
  | notify (ndpi : Ndpi) (tuple : Tuple) (ref : Ref) :
      CaptureCall before (pdNotifyConnectionUpdate ndpi before tuple ref).1
  | giveup (ndpi : Ndpi) (ref : Ref) (tuple : Tuple) :
      CaptureCall before (pdGiveupDpi ndpi before ref tuple)
  | process (ndpi : Ndpi) (result : ChunkResult) (pctx : PktContext) :
      CaptureCall before (pdProcessPacket ndpi result before pctx)
  | account (ndpi : Ndpi) (pctx : PktContext) : CaptureCall before (pdAccountStats ndpi before pctx)
  | create (ndpi : Ndpi) (env : NewConnEnv) (tuple : Tuple) (uid : Int) :
      CaptureCall before (pdNewConnection ndpi env before tuple uid).1
  | purge (ref : Ref) : CaptureCall before (pdPurgeConnection before ref)

abbrev CaptureCalls : Pd → Pd → Prop := Relation.ReflTransGen CaptureCall

/-- A relation which every call keeps is kept by every sequence of calls. -/
theorem CaptureCalls.keep {same : Pd → Pd → Prop} (refl : ∀ pd, same pd pd)
    (trans : ∀ before between after, same before between → same between after → same before after)
    (call : ∀ before after, CaptureCall before after → same before after) {before after : Pd}
    (calls : CaptureCalls before after) : same before after := by
  induction calls with
  | refl => exact refl before
  | tail _ last ih => exact trans _ _ _ ih (call _ _ last)

theorem CaptureCalls.foldl {State Item : Type} (pd : State → Pd) (visit : State → Item → State)
    (calls : ∀ state item, CaptureCalls (pd state) (pd (visit state item))) (items : List Item)
    (state : State) : CaptureCalls (pd state) (pd (items.foldl visit state)) := by
  induction items generalizing state with
  | nil => exact .refl
  | cons item rest ih => exact (calls state item).trans (ih (visit state item))

end Ptnet.Pcapdroid

namespace Ptnet.LibpcapCapture

open Connection Pcapdroid
open Detection (Ndpi)

section Calls

variable (state : Libpcap)

theorem recordStatus_core (tuple : Tuple) (pkt : Pkt) (isTx : Bool) (data : PdConn) :
    coreFields (recordStatus tuple pkt isTx data).1 = coreFields data := by
  have tcp : coreFields (updateTcpStatus pkt isTx data) = coreFields data := by
    simp only [updateTcpStatus]
    repeat' split
    all_goals rfl
  have udp : coreFields (updateUdpStatus tuple pkt data).1 = coreFields data := by
    simp only [updateUdpStatus]
    repeat' split
    all_goals rfl
  unfold recordStatus
  split
  · rfl
  · split
    · exact tcp
    · exact udp

theorem updateConnectionStatus_calls (conn : Slot) (pkt : Pkt) (isTx : Bool) :
    CaptureCalls state.pd (updateConnectionStatus state conn pkt isTx).pd := by
  have used : CaptureCalls state.pd (state.pd.access conn.data) := .single (.access conn.data)
  have written : CaptureCall (state.pd.access conn.data) ((state.pd.access conn.data).modify
      conn.data fun _ =>
        (recordStatus conn.tuple pkt isTx ((state.pd.access conn.data).heap conn.data)).1) :=
    .write conn.data _ (recordStatus_core _ _ _ _)
  simp only [updateConnectionStatus]
  split <;> exact used.tail written

theorem handleConnection_calls (arrival : Arrival) (pkt : Pkt) (isTx : Bool) (conn : Slot) :
    CaptureCalls state.pd (handleConnection arrival pkt isTx state conn).pd := by
  have stamped : CaptureCalls state.pd (state.pd.modify conn.data fun data =>
      { data with lastUpdateMs := state.pd.nowMs }) := .single (.write conn.data _ rfl)
  have processed := stamped.tail (.process arrival.ndpi arrival.payload
    ⟨pkt, arrival.hdr.ms, isTx, conn.tuple, conn.data⟩)
  exact (processed.trans (updateConnectionStatus_calls { state with pd := _ } conn pkt isTx)).tail
    (.account _ _)

theorem openConnection_calls (arrival : Arrival) (pkt : Pkt) :
    CaptureCalls state.pd (openConnection arrival pkt state).1.pd := by
  unfold openConnection
  split
  · exact .refl
  · have created : CaptureCall state.pd _ := .create arrival.ndpi arrival.env pkt.tuple
      (packetUid state arrival.hdr)
    rcases outcome : pdNewConnection arrival.ndpi arrival.env state.pd pkt.tuple
      (packetUid state arrival.hdr) with ⟨pd, result⟩
    rw [outcome] at created
    cases result with
    | none => exact .single created
    | some ref =>
        have described := (Relation.ReflTransGen.single created).tail (.write ref
          (describeConn pd.tlsEnabled arrival.hdr.ifidx pkt.tuple) rfl)
        exact described.trans (handleConnection_calls { state with pd := _, connections := _ } arrival
          pkt arrival.hdr.isTx ⟨pkt.tuple, ref⟩)

theorem handlePacket_calls (arrival : Arrival) :
    CaptureCalls state.pd (handlePacket arrival state).1.pd := by
  unfold handlePacket
  split
  · exact .refl
  · split
    · exact .refl
    · dsimp only
      split
      · exact handleConnection_calls state arrival _ _ _
      · split
        · exact handleConnection_calls state arrival _ _ _
        · exact openConnection_calls state arrival _

theorem purgeConnection_calls (ndpi : Ref → Ndpi) (purgeAll : Bool) (conn : Slot) :
    CaptureCalls state.pd (purgeConnection ndpi purgeAll state conn).pd := by
  have used : CaptureCalls state.pd (state.pd.access conn.data) := .single (.access conn.data)
  have expired : CaptureCalls state.pd ((state.pd.access conn.data).modify conn.data expireConn) := by
    refine used.tail (.write conn.data expireConn ?_)
    unfold expireConn
    split <;> rfl
  simp only [purgeConnection]
  split
  · split
    · exact expired.tail (.purge conn.data)
    · split
      · exact expired.tail (.notify _ _ _)
      · exact (expired.tail (.notify _ _ _)).tail (.purge conn.data)
  · exact used

theorem purgeExpiredConnections_calls (ndpi : Ref → Ndpi) (purgeAll : Bool) :
    CaptureCalls state.pd (purgeExpiredConnections ndpi purgeAll state).pd :=
  CaptureCalls.foldl Libpcap.pd _ (fun current conn => purgeConnection_calls current ndpi purgeAll conn)
    state.connections state

theorem step_calls (event : Event) (busy : ∀ pass, event ≠ .housekeeping pass) :
    CaptureCalls state.pd (step state event).pd := by
  cases event with
  | refreshTime nowMs => exact .single (.refreshTime nowMs)
  | allocator reallocs => exact .single (.allocator reallocs)
  | request wanted => exact .single (.request wanted)
  | packet arrival => exact handlePacket_calls state arrival
  | housekeeping pass => exact absurd rfl (busy pass)
  | purgeIfDue ndpi =>
      simp only [step]
      split
      · exact purgeExpiredConnections_calls state ndpi false
      · exact .refl

end Calls

end Ptnet.LibpcapCapture

namespace Ptnet.VpnCapture

open Connection Pcapdroid
open Detection (Ndpi Policy)

section Calls

variable (vpn : Vpn)

theorem accountForwarded_calls (ndpi : Ndpi) (ref : Ref) :
    CaptureCalls vpn.pd (accountForwarded ndpi vpn ref).pd := by
  have used : CaptureCalls vpn.pd (vpn.pd.access ref) := .single (.access ref)
  unfold accountForwarded
  dsimp only
  split
  · exact used
  · exact used.tail (.account _ _)

theorem blockPacket_calls (ndpi : Ndpi) (conn : Slot) :
    CaptureCalls vpn.pd (blockPacket ndpi vpn conn).pd :=
  (Relation.ReflTransGen.single (.write conn.data _ rfl)).tail (.notify _ _ _)

theorem remote2vpn_calls (reply : Reply) (conn : Slot) :
    CaptureCalls vpn.pd (remote2vpn reply vpn conn).1.pd := by
  have processed := ((accountForwarded_calls vpn reply.ndpi conn.data).tail
    (.refreshTime reply.nowMs)).tail (.process reply.ndpi reply.payload
      ⟨reply.pkt, reply.ms, false, conn.tuple, conn.data⟩)
  simp only [remote2vpn]
  split
  · exact .refl
  · split
    · exact processed.trans (blockPacket_calls { accountForwarded reply.ndpi vpn conn.data with
        pd := _ } reply.ndpi conn)
    · split
      · exact processed.tail (.account _ _)
      · exact processed
      · exact processed
      · exact processed

theorem handleNewConnection_calls (ndpi : Ndpi) (env : NewConnEnv) (uid : Int) (tuple : Tuple) :
    CaptureCalls vpn.pd (handleNewConnection ndpi env uid vpn tuple).1.pd := by
  have created : CaptureCall vpn.pd _ :=
    .create ndpi env tuple (if 0 ≤ uid then uid else UID_UNKNOWN)
  rcases outcome : pdNewConnection ndpi env vpn.pd tuple (if 0 ≤ uid then uid else UID_UNKNOWN) with
    ⟨pd, result⟩
  rw [outcome] at created
  simp only [handleNewConnection, outcome]
  cases result with
  | none => exact .single created
  | some ref => exact .single created

theorem connectionClosed_calls (ndpi : Ndpi) (conn : Slot) :
    CaptureCalls vpn.pd (connectionClosed ndpi vpn conn).pd := by
  have touched : CaptureCalls vpn.pd
      (vpn.pd.modify conn.data fun data => data.touch CONN_UPDATE_STATS) :=
    .single (.write conn.data _ rfl)
  have notified := touched.tail (.notify ndpi conn.tuple conn.data)
  simp only [connectionClosed]
  split
  · exact notified.tail (.purge conn.data)
  · exact (notified.tail (.giveup ndpi conn.data conn.tuple)).tail (.write conn.data _ rfl)

theorem callback_calls (conn : Slot) (callback : Callback) :
    CaptureCalls vpn.pd (VpnCapture.callback conn vpn callback).pd := by
  cases callback with
  | stop => exact .refl
  | advance status =>
      simp only [VpnCapture.callback]
      split <;> exact .refl
  | sendClient reply =>
      simp only [VpnCapture.callback]
      split
      · exact remote2vpn_calls vpn reply conn
      · exact .refl
  | accountPacket =>
      simp only [VpnCapture.callback]
      split
      · exact .single (.write conn.data _ rfl)
      · exact .refl
  | connectionClose ndpi status =>
      exact connectionClosed_calls (vpn.setStatus conn status.closing) ndpi conn
  | socketError =>
      simp only [VpnCapture.callback]
      split <;> exact .refl

theorem serve_calls (work : Slot × List Callback) :
    CaptureCalls vpn.pd (serve vpn work).pd := by
  unfold serve
  split
  · exact CaptureCalls.foldl Vpn.pd _ (fun current callback =>
      callback_calls current work.1 callback) work.2 vpn
  · exact .refl

theorem zdtunConnClose_calls (closing : Closing) (status : ConnStatus) (conn : Slot) :
    CaptureCalls vpn.pd (zdtunConnClose closing status vpn conn).pd :=
  serve_calls vpn _

theorem zdtunPurgeExpired_calls (idle : List (Slot × Closing)) :
    CaptureCalls vpn.pd (zdtunPurgeExpired idle vpn).pd :=
  CaptureCalls.foldl Vpn.pd
    (fun current (item : Slot × Closing) => zdtunConnClose item.2 .closed current item.1)
    (fun current item => zdtunConnClose_calls current item.2 .closed item.1) idle vpn

theorem zdtunLookup_calls (packet : TunPacket) (tuple : Tuple) (create : Bool) :
    CaptureCalls vpn.pd (zdtunLookup packet vpn tuple create).1.pd := by
  unfold zdtunLookup
  split
  · exact .refl
  · split
    · have opened := (zdtunPurgeExpired_calls vpn packet.forcePurge).trans
        (handleNewConnection_calls (zdtunPurgeExpired packet.forcePurge vpn) packet.ndpi packet.env
          packet.uid tuple)
      rcases outcome : handleNewConnection packet.ndpi packet.env packet.uid
        (zdtunPurgeExpired packet.forcePurge vpn) tuple with ⟨after, result⟩
      rw [outcome] at opened
      simp only [outcome]
      cases result with
      | none => exact opened
      | some conn => exact opened
    · exact .refl

theorem checkFirstPacket_calls (packet : TunPacket) (pctx : PktContext) :
    CaptureCalls vpn.pd (checkFirstPacket packet vpn pctx).pd := by
  have checked : CaptureCalls vpn.pd (checkDnsRequest vpn pctx).pd := by
    refine .single (.write pctx.data _ ?_)
    unfold Detection.checkDnsBlocked
    split <;> rfl
  have spoofed : (spoofDnsReply packet (checkDnsRequest vpn pctx) pctx).pd =
      (checkDnsRequest vpn pctx).pd := by
    unfold spoofDnsReply
    split <;> rfl
  simp only [checkFirstPacket]
  split
  · rw [← spoofed] at checked
    exact checked.trans (zdtunConnClose_calls _ packet.closing .closed ⟨pctx.tuple, pctx.data⟩)
  · exact checked

theorem routeConnection_core (config : VpnConfig) (policy : Policy) (tuple : Tuple)
    (data : PdConn) : coreFields (routeConnection config policy tuple data) = coreFields data := by
  simp only [routeConnection, shouldProxify]
  repeat' split
  all_goals rfl

theorem processTunPacket_calls (packet : TunPacket) (pkt : Pkt) (conn : Slot) :
    CaptureCalls vpn.pd (processTunPacket packet pkt vpn conn).1.pd := by
  let pctx : PktContext := ⟨pkt, packet.ms, true, conn.tuple, conn.data⟩
  have routed : CaptureCalls vpn.pd
      (vpn.pd.modify conn.data (routeConnection vpn.config vpn.pd.policy conn.tuple)) :=
    .single (.write conn.data _ (routeConnection_core _ _ _ _))
  have processed := routed.tail (.process packet.ndpi packet.payload pctx)
  have checked := processed.trans (checkFirstPacket_calls { vpn with pd := _ } packet pctx)
  simp only [processTunPacket]
  split
  · exact checked.trans (blockPacket_calls _ packet.ndpi conn)
  · exact checked

theorem acceptPacket_calls (packet : TunPacket) :
    CaptureCalls vpn.pd (acceptPacket packet vpn).1.pd := by
  unfold acceptPacket
  cases packet.parsed with
  | none => exact .refl
  | some pkt =>
      dsimp only
      split
      · exact .refl
      · split
        · exact .refl
        · have looked := zdtunLookup_calls vpn packet pkt.tuple (!isTcpEstablished pkt)
          rcases outcome : zdtunLookup packet vpn pkt.tuple (!isTcpEstablished pkt) with ⟨found, result⟩
          rw [outcome] at looked
          cases result with
          | some conn => exact looked.trans (processTunPacket_calls found packet pkt conn)
          | none =>
              dsimp only
              split <;> exact looked

theorem recordPort_calls (packet : TunPacket) (conn : Slot) :
    CaptureCalls vpn.pd (recordPort packet vpn conn).pd := by
  refine .single (.write conn.data _ ?_)
  unfold writePort
  repeat' split
  all_goals rfl

theorem forwardPacket_calls (packet : TunPacket) (pctx : PktContext) :
    CaptureCalls vpn.pd (forwardPacket packet vpn pctx).pd := by
  let conn : Slot := ⟨pctx.tuple, pctx.data⟩
  have published : CaptureCalls vpn.pd (publish vpn pctx).pd := .single (.access pctx.data)
  have forwarded := published.trans (serve_calls (publish vpn pctx) (conn, packet.forward))
  have counted : ∀ current : Vpn, (countFailure current conn).pd = current.pd := by
    intro current
    unfold countFailure
    split <;> rfl
  unfold forwardPacket zdtunForward
  dsimp only
  split
  · have closed := zdtunConnClose_calls
      (countFailure (serve (publish vpn pctx) (conn, packet.forward)) conn) packet.closing .error conn
    rw [counted] at closed
    exact forwarded.trans closed
  · exact (forwarded.trans (accountForwarded_calls _ packet.ndpi conn.data)).trans
      (recordPort_calls _ packet conn)

theorem handleTunPacket_calls (packet : TunPacket) :
    CaptureCalls vpn.pd (handleTunPacket packet vpn).pd := by
  have accepted := acceptPacket_calls vpn packet
  rcases outcome : acceptPacket packet vpn with ⟨admitted, result⟩
  rw [outcome] at accepted
  simp only [handleTunPacket, outcome]
  cases result with
  | none => exact accepted
  | some pctx => exact accepted.trans (forwardPacket_calls admitted packet pctx)

theorem handleInput_calls (nowMs : Nat) (input : Input) :
    CaptureCalls vpn.pd (handleInput (vpn.refreshTime nowMs) input).pd := by
  have refreshed : CaptureCalls vpn.pd (vpn.refreshTime nowMs).pd := .single (.refreshTime nowMs)
  cases input with
  | tunPacket packet => exact refreshed.trans (handleTunPacket_calls _ packet)
  | readError => exact refreshed
  | sockets works =>
      exact refreshed.trans (CaptureCalls.foldl Vpn.pd _ (fun current work =>
        serve_calls current work) works (vpn.refreshTime nowMs))

theorem zdtunFinalize_calls (closings : Slot → Closing) :
    CaptureCalls vpn.pd (zdtunFinalize closings vpn).pd :=
  zdtunPurgeExpired_calls vpn _

end Calls

end Ptnet.VpnCapture
