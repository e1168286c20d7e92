import Ptnet.Housekeeping

/-!
What inspection and blocking decisions leave alone: the marks that own a record (pending,
to be purged), its identifier and its status are written by the capture modules only.
-/

namespace Ptnet.Pcapdroid

open Connection
open Detection (Policy Ndpi)

structure Steady (before after : PdConn) : Prop where
  pending : after.pendingNotification = before.pendingNotification
  toPurge : after.toPurge = before.toPurge
  incrId : after.incrId = before.incrId
  status : after.status = before.status

namespace Steady

theorem refl (data : PdConn) : Steady data data := ⟨rfl, rfl, rfl, rfl⟩

theorem trans {before between after : PdConn} (first : Steady before between)
    (last : Steady between after) : Steady before after :=
  ⟨last.pending.trans first.pending, last.toPurge.trans first.toPurge,
    last.incrId.trans first.incrId, last.status.trans first.status⟩

end Steady

/-- Between two dumps bits of `update_type` are only added. -/
structure Revised (before after : PdConn) : Prop extends Steady before after where
  bits : after.updateType &&& before.updateType = before.updateType

namespace Revised

theorem refl (data : PdConn) : Revised data data := ⟨Steady.refl data, BitVec.and_self⟩

theorem trans {before between after : PdConn} (first : Revised before between)
    (last : Revised between after) : Revised before after := by
  refine ⟨first.toSteady.trans last.toSteady, ?_⟩
  rw [← first.bits, ← BitVec.and_assoc, last.bits]

/-- A record with something to send still has something to send. -/
theorem dirty {before after : PdConn} (revised : Revised before after)
    (dirty : before.updateType ≠ 0) : after.updateType ≠ 0 := by
  intro clean
  apply dirty
  rw [← revised.bits, clean]
  exact BitVec.zero_and

end Revised

theorem touch_bits (bits bit : BitVec 8) : (bits ||| bit) &&& bits = bits := by
  ext index
  simp only [BitVec.getElem_and, BitVec.getElem_or]
  cases bits[index] <;> simp

theorem touch_revised (data : PdConn) (bit : BitVec 8) : Revised data (data.touch bit) :=
  ⟨⟨rfl, rfl, rfl, rfl⟩, touch_bits _ _⟩

theorem touch_dirty (data : PdConn) (bit : BitVec 8) (proper : bit ≠ 0) :
    (data.touch bit).updateType ≠ 0 := by
  intro clean
  apply proper
  have joined : (data.updateType ||| bit) &&& bit = bit := by
    rw [BitVec.or_comm]
    exact touch_bits bit data.updateType
  rw [← joined, show data.updateType ||| bit = 0 from clean]
  exact BitVec.zero_and

theorem setToBlock_revised (data : PdConn) (value : Bool) : Revised data (data.setToBlock value) :=
  ⟨⟨rfl, rfl, rfl, rfl⟩, BitVec.and_self⟩

section Decisions

variable (policy : Policy) (tuple : Tuple) (data : PdConn)

theorem checkBlacklistedDomain_revised :
    Revised data (Detection.checkBlacklistedDomain policy data) := by
  have malware : ∀ host, Revised data (Detection.checkMalwareDomain policy data host) := by
    intro host
    unfold Detection.checkMalwareDomain
    split <;> exact ⟨⟨rfl, rfl, rfl, rfl⟩, BitVec.and_self⟩
  have firewall : ∀ conn host, Revised conn (Detection.checkFirewallDomain policy conn host) := by
    intro conn host
    unfold Detection.checkFirewallDomain
    split <;> exact ⟨⟨rfl, rfl, rfl, rfl⟩, BitVec.and_self⟩
  unfold Detection.checkBlacklistedDomain
  split
  · exact Revised.refl data
  · exact (malware _).trans (firewall _ _)

theorem checkWhitelistModeBlock_revised :
    Revised data (Detection.checkWhitelistModeBlock policy tuple data) := by
  unfold Detection.checkWhitelistModeBlock
  split
  · exact Revised.refl data
  · split <;> exact ⟨⟨rfl, rfl, rfl, rfl⟩, BitVec.and_self⟩

theorem checkMalwareIp_revised : Revised data (Detection.checkMalwareIp policy tuple data) := by
  unfold Detection.checkMalwareIp
  dsimp only
  split <;> exact ⟨⟨rfl, rfl, rfl, rfl⟩, BitVec.and_self⟩

theorem checkFirewall_revised : Revised data (Detection.checkFirewall policy tuple data) := by
  unfold Detection.checkFirewall
  split
  · exact Revised.refl data
  · split
    · split <;> exact ⟨⟨rfl, rfl, rfl, rfl⟩, BitVec.and_self⟩
    · exact Revised.refl data

theorem checkWhitelistedApp_revised : Revised data (Detection.checkWhitelistedApp policy data) := by
  unfold Detection.checkWhitelistedApp
  split <;> exact ⟨⟨rfl, rfl, rfl, rfl⟩, BitVec.and_self⟩

theorem vpnProcessNdpi_revised : Revised data (Detection.vpnProcessNdpi policy tuple data) := by
  have quic : Revised data (Detection.blockQuic policy tuple data) := by
    unfold Detection.blockQuic
    split <;> exact ⟨⟨rfl, rfl, rfl, rfl⟩, BitVec.and_self⟩
  have dns : ∀ conn, Revised conn (Detection.blockPrivateDns policy conn) := by
    intro conn
    unfold Detection.blockPrivateDns
    split <;> exact ⟨⟨rfl, rfl, rfl, rfl⟩, BitVec.and_self⟩
  exact quic.trans (dns _)

theorem recheckBlocked_revised : Revised data (Detection.recheckBlocked policy tuple data) :=
  (setToBlock_revised data _).trans (checkWhitelistModeBlock_revised policy tuple _)

theorem checkBlockedConnCb_revised :
    Revised data (Detection.checkBlockedConnCb policy tuple data).1 := by
  unfold Detection.checkBlockedConnCb
  dsimp only
  split
  · exact (recheckBlocked_revised policy tuple data).trans (touch_revised _ _)
  · exact recheckBlocked_revised policy tuple data

end Decisions

section Inspection

variable (policy : Policy) (ndpi : Ndpi) (tuple : Tuple) (flow : NdpiFlow) (data : PdConn)

theorem readAlpn_revised : Revised data (Detection.readAlpn flow data) := by
  unfold Detection.readAlpn
  split
  · exact Revised.refl data
  · split
    · exact Revised.refl data
    · split
      · exact ⟨⟨rfl, rfl, rfl, rfl⟩, touch_bits _ _⟩
      · split
        · exact ⟨⟨rfl, rfl, rfl, rfl⟩, touch_bits _ _⟩
        · split
          · exact ⟨⟨rfl, rfl, rfl, rfl⟩, touch_bits _ _⟩
          · exact ⟨⟨rfl, rfl, rfl, rfl⟩, BitVec.and_self⟩

theorem readUrl_revised : Revised data (Detection.readUrl ndpi flow data) := by
  unfold Detection.readUrl
  split
  · exact ⟨⟨rfl, rfl, rfl, rfl⟩, touch_bits _ _⟩
  · exact ⟨⟨rfl, rfl, rfl, rfl⟩, BitVec.and_self⟩

theorem setInfo_revised (found : Option String) :
    Revised data (Detection.setInfo policy ndpi found data) := by
  unfold Detection.setInfo
  split
  · exact Revised.refl data
  · split
    · refine Revised.trans ?_ (touch_revised _ _)
      refine Revised.trans ?_ (checkBlacklistedDomain_revised policy _)
      exact ⟨⟨rfl, rfl, rfl, rfl⟩, BitVec.and_self⟩
    · exact Revised.refl data

theorem processNdpiData_revised :
    Revised data (Detection.processNdpiData policy ndpi tuple flow data) := by
  have named : Revised data
      (if data.l7proto = NDPI_PROTOCOL_TLS then Detection.readAlpn flow data else data) := by
    split
    · exact readAlpn_revised flow data
    · exact Revised.refl data
  have located : ∀ conn : PdConn, Revised conn
      (if conn.l7proto = NDPI_PROTOCOL_HTTP then Detection.readUrl ndpi flow conn else conn) := by
    intro conn
    split
    · exact readUrl_revised ndpi flow conn
    · exact Revised.refl conn
  have hosted := fun found =>
    (named.trans (located _)).trans (setInfo_revised policy ndpi _ found)
  unfold Detection.processNdpiData
  by_cases vpn : policy.vpnCapture = true
  · rw [if_pos vpn]
    exact (hosted _).trans (vpnProcessNdpi_revised policy tuple _)
  · rw [if_neg vpn]
    exact hosted _

theorem guessProto_revised : Revised data (Detection.guessProto ndpi flow data).2 := by
  unfold Detection.guessProto
  split
  · exact ⟨⟨rfl, rfl, rfl, rfl⟩, BitVec.and_self⟩
  · exact Revised.refl data

theorem pdGiveupDpi_revised : Revised data (Detection.pdGiveupDpi policy ndpi tuple data) := by
  unfold Detection.pdGiveupDpi
  split
  · exact Revised.refl data
  · exact (guessProto_revised ndpi _ data).trans
      ((processNdpiData_revised policy ndpi tuple _ _).trans ⟨⟨rfl, rfl, rfl, rfl⟩, BitVec.and_self⟩)

theorem detectProto_revised : Revised data (Detection.detectProto ndpi flow data).2 := by
  unfold Detection.detectProto
  dsimp only
  split
  · exact ⟨⟨rfl, rfl, rfl, rfl⟩, touch_bits _ _⟩
  · exact ⟨⟨rfl, rfl, rfl, rfl⟩, BitVec.and_self⟩

theorem guessAlpn_revised : Revised data (Detection.guessAlpn tuple data).1 := by
  unfold Detection.guessAlpn
  split
  · split
    · exact ⟨⟨rfl, rfl, rfl, rfl⟩, touch_bits _ _⟩
    · split
      · exact ⟨⟨rfl, rfl, rfl, rfl⟩, touch_bits _ _⟩
      · split
        · exact ⟨⟨rfl, rfl, rfl, rfl⟩, touch_bits _ _⟩
        · exact Revised.refl data
  · exact Revised.refl data

theorem inspectPacket_revised : Revised data (Detection.inspectPacket policy ndpi tuple flow data) := by
  unfold Detection.inspectPacket
  dsimp only
  split
  · exact (detectProto_revised ndpi flow data).trans (pdGiveupDpi_revised policy ndpi tuple _)
  · exact (detectProto_revised ndpi flow data).trans (processNdpiData_revised policy ndpi tuple _ _)

theorem performDpi_revised (pktTuple : Tuple) :
    Revised data (Detection.performDpi policy ndpi tuple pktTuple data).1 := by
  unfold Detection.performDpi
  split
  · exact Revised.refl data
  · exact (inspectPacket_revised policy ndpi pktTuple _ data).trans (guessAlpn_revised tuple _)

theorem accountStats_revised (isTx : Bool) (len l7Len : Int) :
    Revised data (Detection.accountStats isTx len l7Len data) := by
  unfold Detection.accountStats
  cases isTx <;> exact ⟨⟨rfl, rfl, rfl, rfl⟩, touch_bits _ _⟩

theorem accountStats_dirty (isTx : Bool) (len l7Len : Int) :
    (Detection.accountStats isTx len l7Len data).updateType ≠ 0 :=
  touch_dirty _ _ (by decide)

theorem dumpPayloadChunk_revised (result : ChunkResult) (pctx : PktContext) (size : Nat) :
    Revised data (dumpPayloadChunk result pctx size data).1 := by
  unfold dumpPayloadChunk
  dsimp only
  split <;> exact ⟨⟨rfl, rfl, rfl, rfl⟩, BitVec.and_self⟩

theorem capturePayload_revised (pd : Pd) (result : ChunkResult) (pctx : PktContext) :
    Revised data (capturePayload pd result pctx data).1 := by
  have marked : ∀ conn : PdConn, Revised conn (setHasPayload conn pctx.isTx) := by
    intro conn
    unfold setHasPayload
    split <;> exact ⟨⟨rfl, rfl, rfl, rfl⟩, BitVec.and_self⟩
  have dumped : ∀ size cut, Revised data
      (if (dumpPayloadChunk result pctx size data).2 then
        (setHasPayload (dumpPayloadChunk result pctx size data).1 pctx.isTx, true, cut)
      else ((dumpPayloadChunk result pctx size data).1, false, true)).1 := by
    intro size cut
    split
    · exact (dumpPayloadChunk_revised data result pctx size).trans (marked _)
    · exact dumpPayloadChunk_revised data result pctx size
  unfold capturePayload
  by_cases captures : pd.payloadMode ≠ .minimal || !hasPayload data pctx.isTx
  · rw [if_pos captures]
    exact dumped _ _
  · rw [if_neg captures]
    exact Revised.refl data

theorem recordPayload_revised (pd : Pd) (result : ChunkResult) (pctx : PktContext) :
    Revised data (recordPayload pd result pctx data).1 := by
  unfold recordPayload
  split
  · exact Revised.refl data
  · have captured := capturePayload_revised data pd result pctx
    dsimp only
    split
    · refine captured.trans (Revised.trans ?_ (touch_revised _ _))
      exact ⟨⟨rfl, rfl, rfl, rfl⟩, BitVec.and_self⟩
    · exact captured

theorem guessAlpn_dirty (notifies : (Detection.guessAlpn tuple data).2 = true) :
    (Detection.guessAlpn tuple data).1.updateType ≠ 0 := by
  unfold Detection.guessAlpn at notifies ⊢
  split at notifies
  · rename_i unnamed
    rw [if_pos unnamed]
    split at notifies
    · rename_i https
      rw [if_pos https]
      exact touch_dirty _ _ (by decide)
    · rename_i other
      rw [if_neg other]
      split at notifies
      · rename_i imap
        rw [if_pos imap]
        exact touch_dirty _ _ (by decide)
      · rename_i other
        rw [if_neg other]
        split at notifies
        · rename_i smtp
          rw [if_pos smtp]
          exact touch_dirty _ _ (by decide)
        · cases notifies
  · cases notifies

theorem performDpi_dirty (pktTuple : Tuple)
    (notifies : (Detection.performDpi policy ndpi tuple pktTuple data).2 = true) :
    (Detection.performDpi policy ndpi tuple pktTuple data).1.updateType ≠ 0 := by
  unfold Detection.performDpi at notifies ⊢
  cases found : data.ndpiFlow with
  | none =>
      rw [found] at notifies
      cases notifies
  | some flow =>
      rw [found] at notifies
      exact guessAlpn_dirty tuple _ notifies

theorem recordPayload_dirty (pd : Pd) (result : ChunkResult) (pctx : PktContext)
    (notifies : (recordPayload pd result pctx data).2 = true) :
    (recordPayload pd result pctx data).1.updateType ≠ 0 := by
  unfold recordPayload at notifies ⊢
  split at notifies
  · cases notifies
  · rename_i captures
    rw [if_neg captures]
    dsimp only at notifies ⊢
    split at notifies
    · rename_i changed
      rw [if_pos changed]
      exact touch_dirty _ _ (by decide)
    · cases notifies

theorem checkBlockedConnCb_dirty
    (notifies : (Detection.checkBlockedConnCb policy tuple data).2 = true) :
    (Detection.checkBlockedConnCb policy tuple data).1.updateType ≠ 0 := by
  unfold Detection.checkBlockedConnCb at notifies ⊢
  dsimp only at notifies ⊢
  split at notifies
  · rename_i changed
    rw [if_pos changed]
    exact touch_dirty _ _ (by decide)
  · cases notifies

end Inspection

end Ptnet.Pcapdroid
