import Ptnet.Pcapdroid

/-!
What inspection and the decisions write into a record: its labels, its verdicts and what nDPI has
found. The views of a record without these fields are the same before and after, and with them
everything else of the record.
-/

namespace Ptnet.Detection

open Connection

def unlabelled (data : PdConn) : PdConn := { data with alpn := 0, url := none, updateType := 0 }

def unjudged (data : PdConn) : PdConn :=
  { unlabelled data with
    info := none
    infoFromLru := false
    blacklistedInternal := false
    blacklistedIp := false
    blacklistedDomain := false
    whitelistedApp := false
    toBlock := false }

def undetected (data : PdConn) : PdConn :=
  { unjudged data with ndpiFlow := none, l7proto := NDPI_PROTOCOL_UNKNOWN, encryptedL7 := false }

section Views

variable {before after : PdConn}

theorem same_of_view {Field : Type} (view : PdConn → PdConn) (field : PdConn → Field)
    (shown : ∀ data, field (view data) = field data) (same : view after = view before) :
    field after = field before := by
  rw [← shown after, same, shown]

theorem unjudged_of_unlabelled (same : unlabelled after = unlabelled before) :
    unjudged after = unjudged before :=
  same_of_view unlabelled unjudged (fun _ => rfl) same

theorem undetected_of_unjudged (same : unjudged after = unjudged before) :
    undetected after = undetected before :=
  same_of_view unjudged undetected (fun _ => rfl) same

end Views

section Decisions

variable (policy : Policy) (tuple : Tuple) (data : PdConn)

theorem checkBlacklistedDomain_unjudged :
    unjudged (checkBlacklistedDomain policy data) = unjudged data := by
  simp only [checkBlacklistedDomain, checkFirewallDomain, checkMalwareDomain]
  repeat' split
  all_goals rfl

theorem checkWhitelistModeBlock_unjudged :
    unjudged (checkWhitelistModeBlock policy tuple data) = unjudged data := by
  simp only [checkWhitelistModeBlock]
  repeat' split
  all_goals rfl

theorem checkMalwareIp_unjudged :
    unjudged (checkMalwareIp policy tuple data) = unjudged data := by
  simp only [checkMalwareIp]
  split <;> rfl

theorem checkFirewall_unjudged :
    unjudged (checkFirewall policy tuple data) = unjudged data := by
  simp only [checkFirewall]
  repeat' split
  all_goals rfl

theorem checkWhitelistedApp_unjudged :
    unjudged (checkWhitelistedApp policy data) = unjudged data := by
  simp only [checkWhitelistedApp]
  split <;> rfl

theorem screen_unjudged :
    unjudged (checkWhitelistModeBlock policy tuple
      (checkFirewall policy tuple (checkMalwareIp policy tuple data))) = unjudged data := by
  rw [checkWhitelistModeBlock_unjudged, checkFirewall_unjudged, checkMalwareIp_unjudged]

theorem vpnProcessNdpi_unjudged :
    unjudged (vpnProcessNdpi policy tuple data) = unjudged data := by
  simp only [vpnProcessNdpi, blockPrivateDns, blockQuic]
  repeat' split
  all_goals rfl

theorem checkBlockedConnCb_unjudged :
    unjudged (checkBlockedConnCb policy tuple data).1 = unjudged data := by
  simp only [checkBlockedConnCb]
  split <;> exact checkWhitelistModeBlock_unjudged policy tuple (data.setToBlock _)

end Decisions

section Inspection

variable (policy : Policy) (ndpi : Ndpi) (tuple : Tuple) (flow : NdpiFlow) (data : PdConn)

theorem readAlpn_unlabelled : unlabelled (readAlpn flow data) = unlabelled data := by
  simp only [readAlpn]
  repeat' split
  all_goals rfl

theorem readUrl_unlabelled : unlabelled (readUrl ndpi flow data) = unlabelled data := by
  simp only [readUrl]
  split <;> rfl

theorem guessAlpn_unlabelled : unlabelled (guessAlpn tuple data).1 = unlabelled data := by
  simp only [guessAlpn]
  repeat' split
  all_goals rfl

theorem setInfo_unjudged (found : Option String) :
    unjudged (setInfo policy ndpi found data) = unjudged data := by
  simp only [setInfo]
  split
  · rfl
  · split
    · exact checkBlacklistedDomain_unjudged policy _
    · rfl

theorem processNdpiData_unjudged :
    unjudged (processNdpiData policy ndpi tuple flow data) = unjudged data := by
  have named : unjudged (if data.l7proto = NDPI_PROTOCOL_TLS then readAlpn flow data else data) =
      unjudged data := by
    split
    · exact unjudged_of_unlabelled (readAlpn_unlabelled flow data)
    · rfl
  have located : ∀ conn : PdConn, unjudged (if conn.l7proto = NDPI_PROTOCOL_HTTP then
      readUrl ndpi flow conn else conn) = unjudged conn := by
    intro conn
    split
    · exact unjudged_of_unlabelled (readUrl_unlabelled ndpi flow conn)
    · rfl
  simp only [processNdpiData]
  split
  · rw [vpnProcessNdpi_unjudged, setInfo_unjudged, located, named]
  · rw [setInfo_unjudged, located, named]

theorem guessProto_undetected : undetected (guessProto ndpi flow data).2 = undetected data := by
  simp only [guessProto]
  split <;> rfl

theorem pdGiveupDpi_undetected :
    undetected (pdGiveupDpi policy ndpi tuple data) = undetected data := by
  simp only [pdGiveupDpi]
  split
  · rfl
  · exact (undetected_of_unjudged (processNdpiData_unjudged policy ndpi tuple _ _)).trans
      (guessProto_undetected ndpi _ data)

theorem detectProto_undetected : undetected (detectProto ndpi flow data).2 = undetected data := by
  simp only [detectProto]
  split <;> rfl

theorem inspectPacket_undetected :
    undetected (inspectPacket policy ndpi tuple flow data) = undetected data := by
  simp only [inspectPacket]
  split
  · rw [pdGiveupDpi_undetected, detectProto_undetected]
  · rw [undetected_of_unjudged (processNdpiData_unjudged _ _ _ _ _), detectProto_undetected]

theorem performDpi_undetected (pktTuple : Tuple) :
    undetected (performDpi policy ndpi tuple pktTuple data).1 = undetected data := by
  simp only [performDpi]
  split
  · rfl
  · rw [undetected_of_unjudged (unjudged_of_unlabelled (guessAlpn_unlabelled tuple _)),
      inspectPacket_undetected]

end Inspection

end Ptnet.Detection

namespace Ptnet.Pcapdroid

open Connection

def uncaptured (data : PdConn) : PdConn :=
  { data with
    payloadChunks := none
    payloadTruncated := false
    hasPayloadRx := false
    hasPayloadTx := false
    updateType := 0 }

theorem recordPayload_uncaptured (pd : Pd) (result : ChunkResult) (pctx : PktContext)
    (data : PdConn) : uncaptured (recordPayload pd result pctx data).1 = uncaptured data := by
  have dumped : ∀ size, uncaptured (dumpPayloadChunk result pctx size data).1 = uncaptured data := by
    intro size
    simp only [dumpPayloadChunk]
    split <;> rfl
  have marked : ∀ conn : PdConn, uncaptured (setHasPayload conn pctx.isTx) = uncaptured conn := by
    intro conn
    rw [setHasPayload]
    split <;> rfl
  have added : ∀ size cut, uncaptured (if (dumpPayloadChunk result pctx size data).2 then
        (setHasPayload (dumpPayloadChunk result pctx size data).1 pctx.isTx, true, cut)
      else ((dumpPayloadChunk result pctx size data).1, false, true)).1 = uncaptured data := by
    intro size cut
    split
    · exact (marked _).trans (dumped size)
    · exact dumped size
  have captured : uncaptured (capturePayload pd result pctx data).1 = uncaptured data := by
    unfold capturePayload
    split
    · exact added _ _
    · rfl
  simp only [recordPayload]
  repeat' split
  · rfl
  · exact captured
  · exact captured

end Ptnet.Pcapdroid
