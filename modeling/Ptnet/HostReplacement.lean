import Ptnet.BlockDecision

/-!
Two histories of one connection, side by side: in one its host is guessed from the LRU
cache and later replaced by the host nDPI reports, in the other only the reported host is
ever known. The verdicts drawn from the guess are not withdrawn when it is replaced.
-/

namespace Ptnet.HostReplacement

open Connection Detection BlockDecision

/-- The record of a new connection, once `pd_new_connection` has checked it. -/
def created (policy : Policy) (tuple : Tuple) (lruHost : Option String) (flow : NdpiFlow)
    (uid : Int) (incrId : Nat) : PdConn :=
  checkNewConnection policy tuple lruHost
    { ndpiFlow := some flow, uid := uid, incrId := incrId, pendingNotification := true }

def Check.policy? : Check → Option Policy
  | .packet policy _ _ | .giveup policy _ _ | .vpnNdpi policy _ | .recheck policy => some policy
  | .dnsCheck _ | .account _ _ _ => none

/-- The check uses the malware and firewall lists of the creation. -/
def SameLists (creation : Policy) (check : Check) : Prop :=
  ∀ policy ∈ Check.policy? check,
    policy.malware = creation.malware ∧ policy.firewall = creation.firewall

def malwareHost (malware : MalwareDetection) (whitelistedApp : Bool) (host : Option String) :
    Bool :=
  !whitelistedApp && host.any fun name =>
    matchesDomain malware.bl name && !matchesDomain malware.whitelist name

def privateDnsHost (policy : Policy) (l7proto : Nat) (host : Option String) : Bool :=
  policy.vpnCapture && (policy.blockPrivateDns && decide (l7proto = NDPI_PROTOCOL_TLS) &&
    host.any fun name => policy.knownDnsServers.matchDomain name)

/-- What both histories have in common, as far as a decision reads it. -/
structure Traits where
  uid : Int
  whitelistedApp : Bool
  blacklistedIp : Bool
  l7proto : Nat
  ndpiFlow : Option NdpiFlow
  sentPkts : Int
  rcvdPkts : Int
  portMappingApplied : Bool

def traits (data : PdConn) : Traits :=
  ⟨data.uid, data.whitelistedApp, data.blacklistedIp, data.l7proto, data.ndpiFlow, data.sentPkts,
    data.rcvdPkts, data.portMappingApplied⟩

structure Verdict where
  info : Option String
  infoFromLru : Bool
  blacklistedDomain : Bool
  blacklistedInternal : Bool
  toBlock : Bool

def verdict (data : PdConn) : Verdict :=
  ⟨data.info, data.infoFromLru, data.blacklistedDomain, data.blacklistedInternal, data.toBlock⟩

section Views

variable (policy : Policy) (ndpi : Ndpi) (tuple pktTuple : Tuple) (flow : NdpiFlow) (data : PdConn)

theorem view_of_unlabelled {before after : PdConn} (same : unlabelled after = unlabelled before) :
    traits after = traits before ∧ verdict after = verdict before :=
  ⟨same_of_view unlabelled traits (fun _ => rfl) same,
    same_of_view unlabelled verdict (fun _ => rfl) same⟩

theorem guessProto_verdict : verdict (guessProto ndpi flow data).2 = verdict data := by
  unfold guessProto
  split <;> rfl

theorem detectProto_verdict : verdict (detectProto ndpi flow data).2 = verdict data := by
  simp only [detectProto]
  split <;> rfl

theorem detectProto_traits : traits (detectProto ndpi flow data).2
    = { traits data with
        ndpiFlow := some (ndpi.processPacket flow).1
        l7proto := pdNdpi2proto ndpi.tables (ndpi.processPacket flow).2 } := by
  simp only [detectProto]
  split <;> rfl

theorem checkBlacklistedDomain_traits : traits (checkBlacklistedDomain policy data) = traits data := by
  unfold checkBlacklistedDomain checkFirewallDomain checkMalwareDomain
  split
  · rfl
  · split
    · split <;> rfl
    · split <;> rfl

theorem setInfo_traits (found : Option String) :
    traits (setInfo policy ndpi found data) = traits data := by
  unfold setInfo
  split
  · rfl
  · split
    · exact checkBlacklistedDomain_traits policy _
    · rfl

theorem vpnProcessNdpi_traits : traits (vpnProcessNdpi policy tuple data) = traits data := by
  unfold vpnProcessNdpi blockPrivateDns blockQuic
  split
  · split <;> rfl
  · split <;> rfl

/-- The record before its host is set: only the ALPN and the URL have been read. -/
def readMetadata : PdConn :=
  let named := if data.l7proto = NDPI_PROTOCOL_TLS then readAlpn flow data else data
  if named.l7proto = NDPI_PROTOCOL_HTTP then readUrl ndpi flow named else named

theorem readMetadata_view : traits (readMetadata ndpi flow data) = traits data ∧
    verdict (readMetadata ndpi flow data) = verdict data := by
  have named : traits (if data.l7proto = NDPI_PROTOCOL_TLS then readAlpn flow data else data)
      = traits data ∧
      verdict (if data.l7proto = NDPI_PROTOCOL_TLS then readAlpn flow data else data)
      = verdict data := by
    split
    · exact view_of_unlabelled (readAlpn_unlabelled flow data)
    · exact ⟨rfl, rfl⟩
  unfold readMetadata
  generalize (if data.l7proto = NDPI_PROTOCOL_TLS then readAlpn flow data else data) = mid at named
  dsimp only
  split
  · obtain ⟨sameTraits, sameVerdict⟩ := view_of_unlabelled (readUrl_unlabelled ndpi flow mid)
    exact ⟨sameTraits.trans named.1, sameVerdict.trans named.2⟩
  · exact named

theorem processNdpiData_eq : processNdpiData policy ndpi tuple flow data
    = (fun hosted => if policy.vpnCapture then vpnProcessNdpi policy tuple hosted else hosted)
      (setInfo policy ndpi (foundInfo data.l7proto flow) (readMetadata ndpi flow data)) := by
  have proto : (readMetadata ndpi flow data).l7proto = data.l7proto :=
    congrArg Traits.l7proto (readMetadata_view ndpi flow data).1
  rw [← proto]
  rfl

theorem processNdpiData_traits :
    traits (processNdpiData policy ndpi tuple flow data) = traits data := by
  rw [processNdpiData_eq]
  dsimp only
  split
  · rw [vpnProcessNdpi_traits, setInfo_traits, (readMetadata_view ndpi flow data).1]
  · rw [setInfo_traits, (readMetadata_view ndpi flow data).1]

end Views

section Verdicts

variable (policy : Policy) (ndpi : Ndpi) (tuple : Tuple) (flow : NdpiFlow) (data : PdConn)

def Blocking (data : PdConn) : Prop := data.blacklistedDomain = true → data.toBlock = true

/-- The two flags after a host was checked: old reasons stay, the host adds its own. -/
structure Judged (malware : MalwareDetection) (firewall : Firewall) (before after : PdConn) : Prop
    where
  info : after.info = before.info
  infoFromLru : after.infoFromLru = before.infoFromLru
  internal : after.blacklistedInternal = before.blacklistedInternal
  domain : after.blacklistedDomain
    = (before.blacklistedDomain || malwareHost malware before.whitelistedApp before.host)
  toBlock : after.toBlock = (before.toBlock ||
    (malwareHost malware before.whitelistedApp before.host || hostBlocked firewall before.host))

theorem checkMalwareDomain_judged (host : String) (blocking : Blocking data) :
    (checkMalwareDomain policy data host).blacklistedDomain
        = (data.blacklistedDomain || malwareHost policy.malware data.whitelistedApp (some host)) ∧
      (checkMalwareDomain policy data host).toBlock
        = (data.toBlock || malwareHost policy.malware data.whitelistedApp (some host)) ∧
      (checkMalwareDomain policy data host).blacklistedInternal = data.blacklistedInternal := by
  unfold Blocking at blocking
  unfold checkMalwareDomain malwareHost
  rw [Option.any_some]
  cases known : data.blacklistedDomain with
  | true => simp [known, blocking known]
  | false =>
      cases data.whitelistedApp <;> cases matchesDomain policy.malware.bl host <;>
        cases matchesDomain policy.malware.whitelist host <;> simp [known]

theorem checkFirewallDomain_judged (host : String) :
    (checkFirewallDomain policy data host).blacklistedDomain = data.blacklistedDomain ∧
      (checkFirewallDomain policy data host).toBlock
        = (data.toBlock || hostBlocked policy.firewall (some host)) ∧
      (checkFirewallDomain policy data host).blacklistedInternal = data.blacklistedInternal := by
  unfold checkFirewallDomain hostBlocked
  rw [Option.any_some]
  cases policy.firewall.enabled with
  | false => simp
  | true =>
      cases rules : policy.firewall.bl with
      | none => simp [matchesDomain]
      | some bl => cases blocked : data.toBlock <;> simp [blocked, PdConn.setToBlock]

theorem checkBlacklistedDomain_judged (blocking : Blocking data) :
    Judged policy.malware policy.firewall data (checkBlacklistedDomain policy data) := by
  have kept := checkBlacklistedDomain_kept policy data
  unfold checkBlacklistedDomain at *
  cases found : data.host with
  | none =>
      constructor <;> simp [found, malwareHost, hostBlocked]
  | some host =>
      obtain ⟨domain, block, internal⟩ := checkMalwareDomain_judged policy data host blocking
      obtain ⟨domain', block', internal'⟩ :=
        checkFirewallDomain_judged policy (checkMalwareDomain policy data host) host
      rw [found] at kept
      refine ⟨kept.2.1, kept.2.2, internal'.trans internal, ?_, ?_⟩
      · rw [found, ← domain, ← domain']
      · rw [found, ← Bool.or_assoc, ← block, ← block']

/-- A reported host replaces a guess and is judged on top of the old verdict. -/
theorem setInfo_named (name : String) (takes : takesInfo data = true) (blocking : Blocking data) :
    Judged policy.malware policy.firewall
      { data with info := strndup ndpi.strndupInfo name 256, infoFromLru := false }
      (setInfo policy ndpi (some name) data) := by
  have judged := checkBlacklistedDomain_judged policy
    { data with info := strndup ndpi.strndupInfo name 256, infoFromLru := false } blocking
  rw [setInfo, if_pos takes]
  exact ⟨judged.info, judged.infoFromLru, judged.internal, judged.domain, judged.toBlock⟩

/-- The private DNS block is the only internal reason for a record with a reported host. -/
theorem vpnProcessNdpi_named (plain : data.l7proto ≠ NDPI_PROTOCOL_QUIC)
    (named : data.host = data.info) :
    verdict (if policy.vpnCapture then vpnProcessNdpi policy tuple data else data)
      = { verdict data with
          blacklistedInternal := data.blacklistedInternal ||
            (!data.toBlock && privateDnsHost policy data.l7proto data.host)
          toBlock := data.toBlock || privateDnsHost policy data.l7proto data.host } := by
  have noQuic : blockQuic policy tuple data = data := if_neg fun quic => plain quic.1
  unfold privateDnsHost
  cases policy.vpnCapture with
  | false => simp [verdict]
  | true =>
      rw [if_pos rfl, vpnProcessNdpi, noQuic, blockPrivateDns, named, Bool.true_and]
      cases blocked : data.toBlock with
      | true => simp [verdict, blocked]
      | false =>
          cases policy.blockPrivateDns <;> cases decide (data.l7proto = NDPI_PROTOCOL_TLS) <;>
            cases data.info.any fun info => policy.knownDnsServers.matchDomain info <;>
            simp [verdict, blocked]

end Verdicts

section Events

variable (ndpi : Ndpi) (flow : NdpiFlow)

theorem foundInfo_some (l7proto : Nat) (name : String) (found : foundInfo l7proto flow = some name) :
    name ≠ "" ∧ l7proto ≠ NDPI_PROTOCOL_QUIC := by
  unfold foundInfo at found
  split at found
  · rename_i known
    refine ⟨?_, by rcases known with rfl | rfl <;> decide⟩
    split at found
    · cases found
    · rename_i nonempty
      exact Option.some.inj found ▸ nonempty
  · split at found
    · rename_i http
      refine ⟨?_, by rw [http]; decide⟩
      split at found
      · cases found
      · rename_i reported
        exact Option.some.inj found ▸ fun empty => reported (Or.inl empty)
    · cases found

theorem host_strndup (malloc : Bool) (name : String) (nonempty : name ≠ "") (data : PdConn)
    (info : data.info = strndup malloc name 256) : data.host = data.info := by
  unfold PdConn.host
  rw [info]
  cases malloc with
  | false => rfl
  | true =>
      have kept : String.ofList (name.toList.take 256) ≠ "" := by
        intro empty
        have chars := congrArg String.toList empty
        rw [String.toList_ofList (l := name.toList.take 256)] at chars
        have none : name.toList = [] := by
          simpa using chars
        exact nonempty (String.toList_eq_nil_iff.mp none)
      exact if_neg kept

/-- The arguments of the `process_ndpi_data` call in `perform_dpi`, and whether the flow is
    given up. -/
def dissect (data : PdConn) : Bool × NdpiFlow × PdConn :=
  let (next, detected) := detectProto ndpi flow data
  if giveup data ∨
      detected.l7proto ≠ NDPI_PROTOCOL_UNKNOWN ∧ !ndpi.extraDissectionPossible next then
    (true, guessProto ndpi next detected)
  else (false, next, detected)

theorem detectProto_flow (data : PdConn) :
    (detectProto ndpi flow data).2.ndpiFlow = some (detectProto ndpi flow data).1 := by
  simp only [detectProto]
  split <;> rfl

def endFlow (ended : Bool) (data : PdConn) : PdConn :=
  if ended then { data with ndpiFlow := none } else data

theorem inspectPacket_eq (policy : Policy) (pktTuple : Tuple) (data : PdConn) :
    inspectPacket policy ndpi pktTuple flow data
      = endFlow (dissect ndpi flow data).1 (processNdpiData policy ndpi pktTuple
          (dissect ndpi flow data).2.1 (dissect ndpi flow data).2.2) := by
  have next := detectProto_flow ndpi flow data
  unfold inspectPacket dissect
  dsimp only
  split
  · rw [pdGiveupDpi, next]
    rfl
  · rfl

theorem dissect_verdict (data : PdConn) :
    verdict (dissect ndpi flow data).2.2 = verdict data := by
  unfold dissect
  dsimp only
  split
  · exact (guessProto_verdict ndpi _ _).trans (detectProto_verdict ndpi flow data)
  · exact detectProto_verdict ndpi flow data

theorem guessProto_app (data : PdConn) :
    (guessProto ndpi flow data).2.whitelistedApp = data.whitelistedApp := by
  unfold guessProto
  split <;> rfl

theorem dissect_app (data : PdConn) :
    (dissect ndpi flow data).2.2.whitelistedApp = data.whitelistedApp := by
  have detected : (detectProto ndpi flow data).2.whitelistedApp = data.whitelistedApp :=
    congrArg Traits.whitelistedApp (detectProto_traits ndpi flow data)
  unfold dissect
  dsimp only
  split
  · exact (guessProto_app ndpi _ _).trans detected
  · exact detected

theorem guessProto_congr (first second : PdConn) (same : traits first = traits second) :
    (guessProto ndpi flow first).1 = (guessProto ndpi flow second).1 ∧
      traits (guessProto ndpi flow first).2 = traits (guessProto ndpi flow second).2 := by
  have proto : first.l7proto = second.l7proto := congrArg Traits.l7proto same
  unfold guessProto
  rw [proto]
  split
  · refine ⟨rfl, ?_⟩
    simp only [traits, Traits.mk.injEq] at same ⊢
    simp [same]
  · exact ⟨rfl, same⟩

theorem dissect_congr (first second : PdConn) (same : traits first = traits second) :
    (dissect ndpi flow first).1 = (dissect ndpi flow second).1 ∧
      (dissect ndpi flow first).2.1 = (dissect ndpi flow second).2.1 ∧
      traits (dissect ndpi flow first).2.2 = traits (dissect ndpi flow second).2.2 := by
  have detected : traits (detectProto ndpi flow first).2 = traits (detectProto ndpi flow second).2 := by
    rw [detectProto_traits, detectProto_traits, same]
  have next : (detectProto ndpi flow first).1 = (detectProto ndpi flow second).1 := by
    simp only [detectProto]
    split <;> split <;> rfl
  have proto : (detectProto ndpi flow first).2.l7proto = (detectProto ndpi flow second).2.l7proto :=
    congrArg Traits.l7proto detected
  have sent : first.sentPkts = second.sentPkts := congrArg Traits.sentPkts same
  have rcvd : first.rcvdPkts = second.rcvdPkts := congrArg Traits.rcvdPkts same
  have last : giveup first = giveup second := by rw [giveup, giveup, sent, rcvd]
  unfold dissect
  dsimp only
  rw [last, proto, next]
  split
  · exact ⟨rfl, guessProto_congr ndpi _ _ _ detected⟩
  · exact ⟨rfl, rfl, detected⟩

/-- A call of `process_ndpi_data` on `mid`; `ended` tells whether the flow is then freed. -/
structure Inspection where
  policy : Policy
  ndpi : Ndpi
  pktTuple : Tuple
  ended : Bool
  flow : NdpiFlow
  mid : PdConn

def inspection (data : PdConn) : Check → Option Inspection
  | .packet policy ndpi pktTuple => data.ndpiFlow.map fun flow =>
      let (ended, next, mid) := dissect ndpi flow data
      ⟨policy, ndpi, pktTuple, ended, next, mid⟩
  | .giveup policy ndpi pktTuple => data.ndpiFlow.map fun flow =>
      let (next, mid) := guessProto ndpi flow data
      ⟨policy, ndpi, pktTuple, true, next, mid⟩
  | .vpnNdpi _ _ | .dnsCheck _ | .account _ _ _ | .recheck _ => none

namespace Inspection

def result (call : Inspection) : PdConn :=
  endFlow call.ended (processNdpiData call.policy call.ndpi call.pktTuple call.flow call.mid)

def found (call : Inspection) : Option String := foundInfo call.mid.l7proto call.flow

end Inspection

variable (tuple : Tuple) (check : Check)

theorem step_inspected (data : PdConn) (call : Inspection)
    (called : inspection data check = some call) :
    traits (step tuple data check) = traits call.result ∧
      verdict (step tuple data check) = verdict call.result ∧
      verdict call.mid = verdict data ∧ call.mid.whitelistedApp = data.whitelistedApp ∧
      call.policy ∈ Check.policy? check := by
  cases check with
  | packet policy ndpi pktTuple =>
      rw [inspection, Option.map_eq_some_iff] at called
      obtain ⟨flow, running, rfl⟩ := called
      have view := view_of_unlabelled
        (guessAlpn_unlabelled tuple (inspectPacket policy ndpi pktTuple flow data))
      rw [inspectPacket_eq] at view
      have stepped : step tuple data (.packet policy ndpi pktTuple)
          = (guessAlpn tuple (inspectPacket policy ndpi pktTuple flow data)).1 := by
        rw [step, performDpi, running]
      rw [stepped, inspectPacket_eq]
      exact ⟨view.1, view.2, dissect_verdict ndpi flow data, dissect_app ndpi flow data, rfl⟩
  | giveup policy ndpi pktTuple =>
      rw [inspection, Option.map_eq_some_iff] at called
      obtain ⟨flow, running, rfl⟩ := called
      have stepped : step tuple data (.giveup policy ndpi pktTuple)
          = { processNdpiData policy ndpi pktTuple (guessProto ndpi flow data).1
                (guessProto ndpi flow data).2 with ndpiFlow := none } := by
        rw [step, pdGiveupDpi, running]
      rw [stepped]
      exact ⟨rfl, rfl, guessProto_verdict ndpi flow data, guessProto_app ndpi flow data, rfl⟩
  | vpnNdpi | dnsCheck | account | recheck => cases called

theorem inspection_congr (first second : PdConn) (same : traits first = traits second)
    (call : Inspection) (called : inspection first check = some call) :
    ∃ mid, inspection second check = some { call with mid := mid } ∧
      traits call.mid = traits mid := by
  have running : first.ndpiFlow = second.ndpiFlow := congrArg Traits.ndpiFlow same
  cases check with
  | packet policy ndpi pktTuple =>
      rw [inspection, Option.map_eq_some_iff] at called
      obtain ⟨flow, found, rfl⟩ := called
      obtain ⟨ended, next, mid⟩ := dissect_congr ndpi flow first second same
      refine ⟨(dissect ndpi flow second).2.2, ?_, mid⟩
      rw [inspection, ← running, found, Option.map_some]
      dsimp only
      rw [ended, next]
  | giveup policy ndpi pktTuple =>
      rw [inspection, Option.map_eq_some_iff] at called
      obtain ⟨flow, found, rfl⟩ := called
      obtain ⟨next, mid⟩ := guessProto_congr ndpi flow first second same
      refine ⟨(guessProto ndpi flow second).2, ?_, mid⟩
      rw [inspection, ← running, found, Option.map_some]
      dsimp only
      rw [next]
  | vpnNdpi | dnsCheck | account | recheck => cases called

theorem step_uninspected (data : PdConn) (uncalled : inspection data check = none) :
    (step tuple data check).info = data.info ∧
      (step tuple data check).infoFromLru = data.infoFromLru ∧
      (step tuple data check).blacklistedDomain = data.blacklistedDomain ∧
      (step tuple data check).whitelistedApp = data.whitelistedApp := by
  cases check with
  | packet policy ndpi pktTuple =>
      rw [inspection, Option.map_eq_none_iff] at uncalled
      rw [step, performDpi, uncalled]
      exact ⟨rfl, rfl, rfl, rfl⟩
  | giveup policy ndpi pktTuple =>
      rw [inspection, Option.map_eq_none_iff] at uncalled
      rw [step, pdGiveupDpi, uncalled]
      exact ⟨rfl, rfl, rfl, rfl⟩
  | vpnNdpi policy pktTuple =>
      rw [step, vpnProcessNdpi]
      unfold blockPrivateDns blockQuic
      split
      · split <;> exact ⟨rfl, rfl, rfl, rfl⟩
      · split <;> exact ⟨rfl, rfl, rfl, rfl⟩
  | dnsCheck allowed =>
      rw [step, checkDnsBlocked]
      split <;> exact ⟨rfl, rfl, rfl, rfl⟩
  | account isTx len l7Len =>
      cases isTx <;> exact ⟨rfl, rfl, rfl, rfl⟩
  | recheck policy =>
      rw [step, checkBlockedConnCb, recheckBlocked_eq]
      split <;> exact ⟨rfl, rfl, rfl, rfl⟩

end Events

section Twins

variable (tuple : Tuple) (check : Check)

theorem result_traits (call : Inspection) :
    traits call.result = { traits call.mid with
      ndpiFlow := if call.ended then none else (traits call.mid).ndpiFlow } := by
  have same := processNdpiData_traits call.policy call.ndpi call.pktTuple call.flow call.mid
  unfold Inspection.result endFlow
  cases call.ended with
  | false => exact same
  | true =>
      rw [← same]
      rfl

theorem step_traits (first second : PdConn) (same : traits first = traits second) :
    traits (step tuple first check) = traits (step tuple second check) := by
  cases called : inspection first check with
  | some call =>
      obtain ⟨mid, called', mids⟩ := inspection_congr check first second same call called
      rw [(step_inspected tuple check first call called).1,
        (step_inspected tuple check second _ called').1, result_traits, result_traits, mids]
  | none =>
      have running : first.ndpiFlow = second.ndpiFlow := congrArg Traits.ndpiFlow same
      cases check with
      | packet policy ndpi pktTuple =>
          rw [inspection, Option.map_eq_none_iff] at called
          rw [step, step, performDpi, performDpi, ← running, called]
          exact same
      | giveup policy ndpi pktTuple =>
          rw [inspection, Option.map_eq_none_iff] at called
          rw [step, step, pdGiveupDpi, pdGiveupDpi, ← running, called]
          exact same
      | vpnNdpi policy pktTuple =>
          rw [step, step, vpnProcessNdpi_traits, vpnProcessNdpi_traits, same]
      | dnsCheck allowed =>
          have kept (data : PdConn) : traits (checkDnsBlocked allowed data) = traits data := by
            unfold checkDnsBlocked
            split <;> rfl
          rw [step, step, kept, kept, same]
      | account isTx len l7Len =>
          simp only [traits, Traits.mk.injEq] at same
          cases isTx <;> simp [step, traits, accountStats, PdConn.touch, same]
      | recheck policy =>
          have kept (data : PdConn) :
              traits (checkBlockedConnCb policy tuple data).1 = traits data := by
            rw [checkBlockedConnCb, recheckBlocked_eq]
            split <;> rfl
          rw [step, step, kept, kept, same]

structure Twins (creation : Policy) (guess : String) (before twin : PdConn) : Prop where
  same : traits before = traits twin
  guess : before.info = some guess
  guessed : before.infoFromLru = true
  nameless : twin.info = none
  unguessed : twin.infoFromLru = false
  domain : before.blacklistedDomain
    = malwareHost creation.malware before.whitelistedApp before.host
  twinDomain : twin.blacklistedDomain = false
  internal : twin.blacklistedInternal = true → before.blacklistedInternal = true
  agrees : Agrees creation.firewall tuple before
  twinAgrees : Agrees creation.firewall tuple twin

theorem Agrees.blocking (firewall : Firewall) (data : PdConn)
    (agrees : Agrees firewall tuple data) : Blocking data := by
  intro listed
  rw [agrees, reference, stored, listed]
  simp

/-- A call that reports no host leaves the host and its blacklisting alone. -/
theorem result_unnamed (call : Inspection) (unnamed : call.found = none) :
    call.result.info = call.mid.info ∧ call.result.infoFromLru = call.mid.infoFromLru ∧
      call.result.blacklistedDomain = call.mid.blacklistedDomain := by
  have metadata := (readMetadata_view call.ndpi call.flow call.mid).2
  simp only [verdict, Verdict.mk.injEq] at metadata
  unfold Inspection.found at unnamed
  unfold Inspection.result endFlow
  rw [processNdpiData_eq, unnamed, setInfo]
  dsimp only
  have kept (data : PdConn) : (vpnProcessNdpi call.policy call.pktTuple data).info = data.info ∧
      (vpnProcessNdpi call.policy call.pktTuple data).infoFromLru = data.infoFromLru ∧
      (vpnProcessNdpi call.policy call.pktTuple data).blacklistedDomain
        = data.blacklistedDomain := by
    unfold vpnProcessNdpi blockPrivateDns blockQuic
    split
    · split <;> exact ⟨rfl, rfl, rfl⟩
    · split <;> exact ⟨rfl, rfl, rfl⟩
  have all : ∀ data : PdConn, (if call.policy.vpnCapture then
        vpnProcessNdpi call.policy call.pktTuple data else data).info = data.info ∧
      (if call.policy.vpnCapture then
        vpnProcessNdpi call.policy call.pktTuple data else data).infoFromLru = data.infoFromLru ∧
      (if call.policy.vpnCapture then
        vpnProcessNdpi call.policy call.pktTuple data else data).blacklistedDomain
        = data.blacklistedDomain := by
    intro data
    split
    · exact kept data
    · exact ⟨rfl, rfl, rfl⟩
  obtain ⟨info, fromLru, domain⟩ := all (readMetadata call.ndpi call.flow call.mid)
  rw [metadata.1] at info
  rw [metadata.2.1] at fromLru
  rw [metadata.2.2.1] at domain
  split <;> exact ⟨info, fromLru, domain⟩

/-- A call that reports a host for a record that takes it: the verdicts are those of the host
    on top of the earlier ones. -/
theorem result_named (call : Inspection) (name : String) (named : call.found = some name)
    (takes : takesInfo call.mid = true) (blocking : Blocking call.mid) :
    call.result.info = strndup call.ndpi.strndupInfo name 256 ∧
      call.result.infoFromLru = false ∧
      call.result.blacklistedDomain = (call.mid.blacklistedDomain ||
        malwareHost call.policy.malware call.mid.whitelistedApp call.result.host) ∧
      call.result.toBlock = (call.mid.toBlock ||
        (malwareHost call.policy.malware call.mid.whitelistedApp call.result.host ||
          hostBlocked call.policy.firewall call.result.host) ||
        privateDnsHost call.policy call.mid.l7proto call.result.host) := by
  obtain ⟨sameTraits, sameVerdict⟩ := readMetadata_view call.ndpi call.flow call.mid
  obtain ⟨nonempty, plain⟩ := foundInfo_some call.flow call.mid.l7proto name named
  have unfolded := processNdpiData_eq call.policy call.ndpi call.pktTuple call.flow call.mid
  unfold Inspection.found at named
  unfold Inspection.result
  rw [named] at unfolded
  generalize readMetadata call.ndpi call.flow call.mid = read at *
  simp only [verdict, Verdict.mk.injEq] at sameVerdict
  obtain ⟨info, fromLru, domain, _, block⟩ := sameVerdict
  have app : read.whitelistedApp = call.mid.whitelistedApp :=
    congrArg Traits.whitelistedApp sameTraits
  have readTakes : takesInfo read = true := by
    rw [takesInfo, info, fromLru]
    exact takes
  have readBlocking : Blocking read := by
    rw [Blocking, domain, block]
    exact blocking
  have judged := setInfo_named call.policy call.ndpi read name readTakes readBlocking
  have hostedTraits := setInfo_traits call.policy call.ndpi read (some name)
  generalize setInfo call.policy call.ndpi (some name) read = hosted at *
  have proto : hosted.l7proto = call.mid.l7proto :=
    (congrArg Traits.l7proto hostedTraits).trans (congrArg Traits.l7proto sameTraits)
  have hostInfo := host_strndup call.ndpi.strndupInfo name nonempty hosted judged.info
  -- The VPN check sees the reported host, on top of the malware and the firewall check.
  have final := vpnProcessNdpi_named call.policy call.pktTuple hosted (by rw [proto]; exact plain)
    hostInfo
  have sameHost : ({ read with
      info := strndup call.ndpi.strndupInfo name 256, infoFromLru := false } : PdConn).host
      = hosted.host := by
    unfold PdConn.host
    rw [judged.info]
  have hostedDomain := judged.domain
  have hostedBlock := judged.toBlock
  rw [sameHost] at hostedDomain hostedBlock
  dsimp only at unfolded
  rw [← unfolded] at final
  generalize processNdpiData call.policy call.ndpi call.pktTuple call.flow call.mid = after at *
  simp only [verdict, Verdict.mk.injEq] at final
  obtain ⟨afterInfo, afterLru, afterDomain, _, afterBlock⟩ := final
  have ended : verdict (endFlow call.ended after) = verdict after := by
    unfold endFlow
    split <;> rfl
  simp only [verdict, Verdict.mk.injEq] at ended
  obtain ⟨endInfo, endLru, endDomain, _, endBlock⟩ := ended
  have endHost : (endFlow call.ended after).host = hosted.host := by
    unfold PdConn.host
    rw [endInfo, afterInfo]
  rw [endInfo, endLru, endDomain, endBlock, endHost, afterInfo, afterLru, afterDomain, afterBlock,
    hostedDomain, hostedBlock, domain, block, app, proto]
  exact ⟨judged.info, judged.infoFromLru, rfl, rfl⟩

/-- A record without a host is blocked internally only where one with a guess is. -/
theorem blockQuic_internal (policy : Policy) (pktTuple : Tuple) (first second : PdConn)
    (same : traits first = traits second) (nameless : second.info = none)
    (internal : second.blacklistedInternal = true → first.blacklistedInternal = true)
    (blocked : (blockQuic policy pktTuple second).blacklistedInternal = true) :
    (blockQuic policy pktTuple first).blacklistedInternal = true := by
  have proto : first.l7proto = second.l7proto := congrArg Traits.l7proto same
  have uid : first.uid = second.uid := congrArg Traits.uid same
  have listed : matchesDecryptionWhitelist policy pktTuple second = true →
      matchesDecryptionWhitelist policy pktTuple first = true := by
    unfold matchesDecryptionWhitelist
    cases policy.tlsList with
    | none => exact id
    | some list =>
        rw [nameless, uid]
        dsimp only [Option.any_none]
        rw [Bool.or_false]
        intro found
        rw [found, Bool.true_or]
  unfold blockQuic at *
  by_cases quic : second.l7proto = NDPI_PROTOCOL_QUIC ∧ (policy.blockQuicMode = .always ∨
      policy.blockQuicMode = .toDecrypt ∧ matchesDecryptionWhitelist policy pktTuple second = true)
  · rw [if_pos]
    refine ⟨proto ▸ quic.1, quic.2.imp_right fun decrypt => ⟨decrypt.1, listed decrypt.2⟩⟩
  · rw [if_neg quic] at blocked
    split
    · rfl
    · exact internal blocked

theorem vpnProcessNdpi_internal (policy : Policy) (pktTuple : Tuple) (first second : PdConn)
    (same : traits first = traits second) (nameless : second.info = none)
    (internal : second.blacklistedInternal = true → first.blacklistedInternal = true)
    (blocked : (vpnProcessNdpi policy pktTuple second).blacklistedInternal = true) :
    (vpnProcessNdpi policy pktTuple first).blacklistedInternal = true := by
  have noDns : blockPrivateDns policy (blockQuic policy pktTuple second)
      = blockQuic policy pktTuple second := by
    have info : (blockQuic policy pktTuple second).info = none := by
      unfold blockQuic
      split <;> exact nameless
    unfold blockPrivateDns
    rw [info]
    simp
  rw [vpnProcessNdpi, noDns] at blocked
  have quic := blockQuic_internal policy pktTuple first second same nameless internal blocked
  unfold vpnProcessNdpi blockPrivateDns
  split
  · rfl
  · exact quic

theorem result_internal (call : Inspection) (mid : PdConn) (same : traits call.mid = traits mid)
    (unnamed : call.found = none) (nameless : mid.info = none)
    (internal : mid.blacklistedInternal = true → call.mid.blacklistedInternal = true)
    (blocked : ({ call with mid := mid } : Inspection).result.blacklistedInternal = true) :
    call.result.blacklistedInternal = true := by
  have proto : call.mid.l7proto = mid.l7proto := congrArg Traits.l7proto same
  have ended (data : PdConn) : (endFlow call.ended data).blacklistedInternal
      = data.blacklistedInternal := by
    unfold endFlow
    split <;> rfl
  obtain ⟨firstTraits, firstVerdict⟩ := readMetadata_view call.ndpi call.flow call.mid
  obtain ⟨secondTraits, secondVerdict⟩ := readMetadata_view call.ndpi call.flow mid
  simp only [verdict, Verdict.mk.injEq] at firstVerdict secondVerdict
  unfold Inspection.found at unnamed
  unfold Inspection.result at blocked ⊢
  dsimp only at blocked
  rw [ended, processNdpiData_eq, ← proto, unnamed, setInfo] at blocked
  rw [ended, processNdpiData_eq, unnamed, setInfo]
  generalize readMetadata call.ndpi call.flow call.mid = first at *
  generalize readMetadata call.ndpi call.flow mid = second at *
  have readInternal : second.blacklistedInternal = true → first.blacklistedInternal = true := by
    rw [firstVerdict.2.2.2.1, secondVerdict.2.2.2.1]
    exact internal
  dsimp only at *
  split
  · rename_i vpn
    rw [if_pos vpn] at blocked
    exact vpnProcessNdpi_internal call.policy call.pktTuple first second
      (firstTraits.trans (same.trans secondTraits.symm)) (secondVerdict.1.trans nameless)
      readInternal blocked
  · rename_i libpcap
    rw [if_neg libpcap] at blocked
    exact readInternal blocked

theorem checkDnsBlocked_internal (allowed : Bool) (first second : PdConn)
    (same : traits first = traits second)
    (internal : second.blacklistedInternal = true → first.blacklistedInternal = true)
    (blocked : (checkDnsBlocked allowed second).blacklistedInternal = true) :
    (checkDnsBlocked allowed first).blacklistedInternal = true := by
  have sent : first.sentPkts = second.sentPkts := congrArg Traits.sentPkts same
  have mapped : first.portMappingApplied = second.portMappingApplied :=
    congrArg Traits.portMappingApplied same
  unfold checkDnsBlocked at *
  rw [sent, mapped]
  by_cases unsent : second.sentPkts = 0
  · rw [if_pos unsent] at blocked ⊢
    dsimp only at blocked ⊢
    by_cases redirected : second.portMappingApplied = true
    · rw [if_pos redirected] at blocked ⊢
      exact internal blocked
    · rw [if_neg redirected, Bool.or_eq_true] at blocked ⊢
      exact blocked.imp_left internal
  · rw [if_neg unsent] at blocked ⊢
    exact internal blocked

def Unnamed (data : PdConn) (check : Check) : Prop :=
  ∀ call, inspection data check = some call → call.found = none

theorem unnamed_congr (first second : PdConn) (same : traits first = traits second)
    (unnamed : Unnamed first check) : Unnamed second check := by
  intro call called
  obtain ⟨mid, called', mids⟩ := inspection_congr check second first same.symm call called
  have quiet := unnamed _ called'
  have proto : call.mid.l7proto = mid.l7proto := congrArg Traits.l7proto mids
  unfold Inspection.found at *
  rw [proto]
  exact quiet

theorem step_unnamed (data : PdConn) (unnamed : Unnamed data check) :
    (step tuple data check).info = data.info ∧
      (step tuple data check).infoFromLru = data.infoFromLru ∧
      (step tuple data check).blacklistedDomain = data.blacklistedDomain ∧
      (step tuple data check).whitelistedApp = data.whitelistedApp := by
  cases called : inspection data check with
  | none => exact step_uninspected tuple check data called
  | some call =>
      obtain ⟨sameTraits, verdicts, midVerdict, app, _⟩ :=
        step_inspected tuple check data call called
      obtain ⟨info, fromLru, domain⟩ := result_unnamed call (unnamed call called)
      have sameApp : (step tuple data check).whitelistedApp = call.mid.whitelistedApp :=
        congrArg Traits.whitelistedApp (sameTraits.trans (result_traits call))
      simp only [verdict, Verdict.mk.injEq] at verdicts midVerdict
      refine ⟨verdicts.1.trans (info.trans midVerdict.1),
        verdicts.2.1.trans (fromLru.trans midVerdict.2.1),
        verdicts.2.2.1.trans (domain.trans midVerdict.2.2.1), sameApp.trans app⟩

theorem step_internal (before twin : PdConn) (same : traits before = traits twin)
    (nameless : twin.info = none)
    (internal : twin.blacklistedInternal = true → before.blacklistedInternal = true)
    (unnamed : Unnamed before check)
    (blocked : (step tuple twin check).blacklistedInternal = true) :
    (step tuple before check).blacklistedInternal = true := by
  cases called : inspection before check with
  | some call =>
      obtain ⟨mid, called', mids⟩ := inspection_congr check before twin same call called
      obtain ⟨_, verdicts, midVerdict, _⟩ := step_inspected tuple check before call called
      obtain ⟨_, verdicts', midVerdict', _⟩ := step_inspected tuple check twin _ called'
      simp only [verdict, Verdict.mk.injEq] at verdicts verdicts' midVerdict midVerdict'
      rw [verdicts'.2.2.2.1] at blocked
      rw [verdicts.2.2.2.1]
      apply result_internal call mid mids (unnamed call called) (midVerdict'.1.trans nameless) _
        blocked
      rw [midVerdict.2.2.2.1, midVerdict'.2.2.2.1]
      exact internal
  | none =>
      -- Without an inspection the step reads nothing that the two records differ in.
      cases check with
      | packet policy ndpi pktTuple =>
          have stopped := (congrArg Traits.ndpiFlow same).symm
          rw [inspection, Option.map_eq_none_iff] at called
          change twin.ndpiFlow = before.ndpiFlow at stopped
          rw [step, performDpi, called]
          rw [step, performDpi, stopped, called] at blocked
          exact internal blocked
      | giveup policy ndpi pktTuple =>
          have stopped := (congrArg Traits.ndpiFlow same).symm
          rw [inspection, Option.map_eq_none_iff] at called
          change twin.ndpiFlow = before.ndpiFlow at stopped
          rw [step, pdGiveupDpi, called]
          rw [step, pdGiveupDpi, stopped, called] at blocked
          exact internal blocked
      | vpnNdpi policy pktTuple =>
          exact vpnProcessNdpi_internal policy pktTuple before twin same nameless internal blocked
      | dnsCheck allowed =>
          exact checkDnsBlocked_internal allowed before twin same internal blocked
      | account isTx len l7Len =>
          cases isTx <;> exact internal blocked
      | recheck policy =>
          have kept (data : PdConn) : (checkBlockedConnCb policy tuple data).1.blacklistedInternal
              = data.blacklistedInternal := by
            rw [checkBlockedConnCb, recheckBlocked_eq]
            split <;> rfl
          rw [step, kept] at blocked ⊢
          exact internal blocked

/-- A record with a guess takes the host that a call reports. -/
theorem step_replaces (data : PdConn) (call : Inspection)
    (called : inspection data check = some call) (name : String) (named : call.found = some name)
    (guessed : data.infoFromLru = true) (blocking : Blocking data) :
    (step tuple data check).infoFromLru = false := by
  obtain ⟨_, verdicts, midVerdict, _⟩ := step_inspected tuple check data call called
  simp only [verdict, Verdict.mk.injEq] at verdicts midVerdict
  have takes : takesInfo call.mid = true := by
    rw [takesInfo, midVerdict.2.1, guessed, Bool.or_true]
  have midBlocking : Blocking call.mid := by
    rw [Blocking, midVerdict.2.2.1, midVerdict.2.2.2.2]
    exact blocking
  exact verdicts.2.1.trans (result_named call name named takes midBlocking).2.1

/-- A step that does not replace the guess keeps the two histories side by side. -/
theorem step_twins (creation : Policy) (guess : String) (before twin : PdConn)
    (twins : Twins tuple creation guess before twin) (lists : SameLists creation check)
    (kept : (step tuple before check).infoFromLru = true) :
    Twins tuple creation guess (step tuple before check) (step tuple twin check) := by
  have fixed : ∀ used ∈ check.firewall?, used = creation.firewall := by
    intro used member
    cases check with
    | packet policy | giveup policy | recheck policy =>
        cases member
        exact (lists policy rfl).2
    | vpnNdpi | dnsCheck | account => cases member
  have unnamed : Unnamed before check := by
    intro call called
    cases named : call.found with
    | none => rfl
    | some name =>
        have replaced := step_replaces tuple check before call called name named twins.guessed
          (Agrees.blocking tuple creation.firewall before twins.agrees)
        exact absurd (kept.symm.trans replaced) (by decide)
  obtain ⟨info, _, domain, app⟩ := step_unnamed tuple check before unnamed
  obtain ⟨twinInfo, twinLru, twinDomain, _⟩ := step_unnamed tuple check twin
    (unnamed_congr check before twin twins.same unnamed)
  have host : (step tuple before check).host = before.host := by
    unfold PdConn.host
    rw [info]
  exact {
    same := step_traits tuple check before twin twins.same
    guess := info.trans twins.guess
    guessed := kept
    nameless := twinInfo.trans twins.nameless
    unguessed := twinLru.trans twins.unguessed
    domain := by rw [domain, app, host]; exact twins.domain
    twinDomain := twinDomain.trans twins.twinDomain
    internal := step_internal tuple check before twin twins.same twins.nameless twins.internal
      unnamed
    agrees := step_agrees creation.firewall tuple before check twins.agrees
      ⟨fixed, fun _ => kept⟩
    twinAgrees := step_agrees creation.firewall tuple twin check twins.twinAgrees
      ⟨fixed, fun guessed => absurd (guessed.symm.trans twins.unguessed) (by decide)⟩ }

/-- The later checks of `pd_new_connection` add their own reasons only. -/
theorem laterChecks_view (policy : Policy) (data : PdConn) :
    let after := checkWhitelistModeBlock policy tuple
      (checkFirewall policy tuple (checkMalwareIp policy tuple data))
    after.info = data.info ∧ after.infoFromLru = data.infoFromLru ∧
      after.blacklistedDomain = data.blacklistedDomain ∧
      after.blacklistedInternal = data.blacklistedInternal ∧
      traits after = { traits data with
        blacklistedIp := (traits (checkMalwareIp policy tuple data)).blacklistedIp } := by
  have ip : (checkMalwareIp policy tuple data).info = data.info ∧
      (checkMalwareIp policy tuple data).infoFromLru = data.infoFromLru ∧
      (checkMalwareIp policy tuple data).blacklistedDomain = data.blacklistedDomain ∧
      (checkMalwareIp policy tuple data).blacklistedInternal = data.blacklistedInternal ∧
      traits (checkMalwareIp policy tuple data) = { traits data with
        blacklistedIp := (traits (checkMalwareIp policy tuple data)).blacklistedIp } := by
    unfold checkMalwareIp
    dsimp only
    split <;> exact ⟨rfl, rfl, rfl, rfl, rfl⟩
  have rules (mid : PdConn) : ∃ blocked, checkFirewall policy tuple mid = mid.setToBlock blocked := by
    unfold checkFirewall
    split
    · exact ⟨mid.toBlock, rfl⟩
    · split
      · split <;> exact ⟨_, rfl⟩
      · exact ⟨mid.toBlock, rfl⟩
  obtain ⟨blocked, ruled⟩ := rules (checkMalwareIp policy tuple data)
  dsimp only
  rw [checkWhitelistModeBlock_eq, ruled]
  exact ip

theorem checkMalwareIp_ip (policy : Policy) (first second : PdConn)
    (same : traits first = traits second) :
    (traits (checkMalwareIp policy tuple first)).blacklistedIp
      = (traits (checkMalwareIp policy tuple second)).blacklistedIp := by
  have app : first.whitelistedApp = second.whitelistedApp := congrArg Traits.whitelistedApp same
  have ip : first.blacklistedIp = second.blacklistedIp := congrArg Traits.blacklistedIp same
  unfold checkMalwareIp
  rw [app]
  dsimp only
  split
  · rfl
  · exact ip

theorem created_twins (creation : Policy) (guess : String) (flow : NdpiFlow) (uid : Int)
    (incrId : Nat) :
    Twins tuple creation guess (created creation tuple (some guess) flow uid incrId)
      (created creation tuple none flow uid incrId) := by
  have agrees := fun lruHost => checkNewConnection_agrees creation tuple lruHost
    { ndpiFlow := some flow, uid := uid, incrId := incrId, pendingNotification := true } rfl rfl
  have fresh : (checkWhitelistedApp creation
      { ndpiFlow := some flow, uid := uid, incrId := incrId, pendingNotification := true
        }).blacklistedDomain = false ∧
      (checkWhitelistedApp creation
      { ndpiFlow := some flow, uid := uid, incrId := incrId, pendingNotification := true
        }).blacklistedInternal = false ∧
      (checkWhitelistedApp creation
      { ndpiFlow := some flow, uid := uid, incrId := incrId, pendingNotification := true
        }).infoFromLru = false := by
    unfold checkWhitelistedApp
    split <;> exact ⟨rfl, rfl, rfl⟩
  unfold created checkNewConnection
  unfold checkNewConnection at agrees
  generalize checkWhitelistedApp creation
    { ndpiFlow := some flow, uid := uid, incrId := incrId, pendingNotification := true } = known
    at fresh agrees
  have judged := checkBlacklistedDomain_judged creation
    { known with info := some guess, infoFromLru := true }
    (fun listed => absurd (listed.symm.trans fresh.1) (by decide))
  have guessedTraits := checkBlacklistedDomain_traits creation
    { known with info := some guess, infoFromLru := true }
  have guessView := laterChecks_view tuple creation (guessHost creation (some guess) known)
  have twinView := laterChecks_view tuple creation (guessHost creation none known)
  have sameTraits : traits (guessHost creation (some guess) known)
      = traits (guessHost creation none known) := guessedTraits
  dsimp only at guessView twinView ⊢
  obtain ⟨info, fromLru, domain, internal, view⟩ := guessView
  obtain ⟨twinInfo, twinLru, twinDomain, twinInternal, twinView⟩ := twinView
  have app : (checkWhitelistModeBlock creation tuple (checkFirewall creation tuple
      (checkMalwareIp creation tuple (guessHost creation (some guess) known)))).whitelistedApp
      = known.whitelistedApp :=
    (congrArg Traits.whitelistedApp view).trans (congrArg Traits.whitelistedApp guessedTraits)
  have host : (checkWhitelistModeBlock creation tuple (checkFirewall creation tuple
      (checkMalwareIp creation tuple (guessHost creation (some guess) known)))).host
      = ({ known with info := some guess, infoFromLru := true } : PdConn).host := by
    unfold PdConn.host
    rw [info, guessHost, judged.info]
  exact {
    same := by
      rw [view, twinView, sameTraits,
        checkMalwareIp_ip tuple creation _ _ sameTraits]
    guess := info.trans judged.info
    guessed := fromLru.trans judged.infoFromLru
    nameless := twinInfo
    unguessed := twinLru.trans fresh.2.2
    domain := by
      rw [domain, app, host]
      exact judged.domain.trans (by rw [fresh.1, Bool.false_or])
    twinDomain := twinDomain.trans fresh.1
    internal := fun blocked =>
      absurd (blocked.symm.trans (twinInternal.trans fresh.2.1)) (by decide)
    agrees := agrees (some guess)
    twinAgrees := agrees none }

/-- The lists stay those of the creation and the guess is not replaced. -/
def Guessing (creation : Policy) (data : PdConn) (check : Check) : Prop :=
  SameLists creation check ∧ (step tuple data check).infoFromLru = true

theorem run_twins (creation : Policy) (guess : String) (before twin : PdConn)
    (checks : List Check) (twins : Twins tuple creation guess before twin)
    (guessing : Machine.Along (step tuple) (Guessing tuple creation) before checks) :
    Twins tuple creation guess (Machine.run (step tuple) before checks)
      (Machine.run (step tuple) twin checks) := by
  induction checks generalizing before twin with
  | nil => exact twins
  | cons check rest ih =>
      obtain ⟨⟨lists, kept⟩, later⟩ := guessing
      exact ih _ _ (step_twins tuple check creation guess before twin twins lists kept) later

end Twins

section Replacement

def hostOf (name : String) : Option String := if name = "" then none else some name

/-- The private DNS block of the step's own policy applies to the host. -/
def privateDnsReason (check : Check) (l7proto : Nat) (host : Option String) : Bool :=
  (Check.policy? check).any fun policy => privateDnsHost policy l7proto host

theorem step_named (tuple : Tuple) (creation : Policy) (check : Check) (data : PdConn)
    (call : Inspection) (called : inspection data check = some call) (name : String)
    (named : call.found = some name) (lists : SameLists creation check)
    (takes : takesInfo data = true) (agrees : Agrees creation.firewall tuple data) :
    (step tuple data check).info = strndup call.ndpi.strndupInfo name 256 ∧
      (step tuple data check).blacklistedDomain = (data.blacklistedDomain ||
        malwareHost creation.malware data.whitelistedApp (step tuple data check).host) ∧
      (step tuple data check).toBlock = (data.toBlock ||
        (malwareHost creation.malware data.whitelistedApp (step tuple data check).host ||
          hostBlocked creation.firewall (step tuple data check).host) ||
        privateDnsHost call.policy (step tuple data check).l7proto
          (step tuple data check).host) := by
  obtain ⟨sameTraits, verdicts, midVerdict, app, member⟩ :=
    step_inspected tuple check data call called
  obtain ⟨malware, firewall⟩ := lists call.policy member
  have proto : (step tuple data check).l7proto = call.mid.l7proto :=
    congrArg Traits.l7proto (sameTraits.trans (result_traits call))
  simp only [verdict, Verdict.mk.injEq] at verdicts midVerdict
  obtain ⟨afterInfo, _, afterDomain, _, afterBlock⟩ := verdicts
  obtain ⟨midInfo, midLru, midDomain, _, midBlock⟩ := midVerdict
  have midTakes : takesInfo call.mid = true := by
    rw [takesInfo, midInfo, midLru]
    exact takes
  have blocking : Blocking call.mid := by
    rw [Blocking, midDomain, midBlock]
    exact Agrees.blocking tuple creation.firewall data agrees
  obtain ⟨info, _, domain, block⟩ := result_named call name named midTakes blocking
  have host : (step tuple data check).host = call.result.host := by
    unfold PdConn.host
    rw [afterInfo]
  rw [afterInfo, afterDomain, afterBlock, host, proto, ← midDomain, ← midBlock, ← app, ← malware,
    ← firewall]
  exact ⟨info, domain, block⟩

theorem reasons_agree (guessed real guessRule realRule dns internal internal' base : Bool)
    (monotone : internal' = true → internal = true) :
    ((guessed || real) = real ∧
        ((internal || guessed || guessRule || base) || (real || realRule) || dns)
          = ((internal' || base) || (real || realRule) || dns)) ↔
      (guessed = true → real = true) ∧
        (guessed = true ∨ guessRule = true ∨ internal = true →
          (internal' || base) = true ∨ real = true ∨ realRule = true ∨ dns = true) := by
  cases internal' with
  | true =>
      have blocked := monotone rfl
      subst blocked
      cases guessed <;> cases real <;> simp
  | false =>
      cases base <;> cases real <;> cases realRule <;> cases dns <;> simp
      all_goals cases guessed <;> cases guessRule <;> cases internal <;> simp

/-- The two verdicts agree after the replacement exactly when the reported host confirms what
    the guess alone decided. -/
theorem replaced_verdict (creation : Policy) (tuple : Tuple) (guess real : String)
    (flow : NdpiFlow) (uid : Int) (incrId : Nat) (checks : List Check) (last : Check)
    (guessing : Machine.Along (step tuple) (Guessing tuple creation)
      (created creation tuple (some guess) flow uid incrId) checks)
    (lists : SameLists creation last) :
    let before := Machine.run (step tuple)
      (created creation tuple (some guess) flow uid incrId) checks
    let twin := Machine.run (step tuple) (created creation tuple none flow uid incrId) checks
    (step tuple before last).infoFromLru = false →
    (step tuple before last).info = some real →
    (((step tuple before last).blacklistedDomain = (step tuple twin last).blacklistedDomain ∧
        (step tuple before last).toBlock = (step tuple twin last).toBlock) ↔
      (malwareHost creation.malware before.whitelistedApp (hostOf guess) = true →
        malwareHost creation.malware before.whitelistedApp (hostOf real) = true) ∧
      (malwareHost creation.malware before.whitelistedApp (hostOf guess) = true ∨
          hostBlocked creation.firewall (hostOf guess) = true ∨
          before.blacklistedInternal = true →
        twin.toBlock = true ∨
          malwareHost creation.malware before.whitelistedApp (hostOf real) = true ∨
          hostBlocked creation.firewall (hostOf real) = true ∨
          privateDnsReason last (step tuple before last).l7proto (hostOf real) = true)) := by
  intro before twin replaced renamed
  have twins : Twins tuple creation guess before twin :=
    run_twins tuple creation guess _ _ checks (created_twins tuple creation guess flow uid incrId)
      guessing
  -- The name changed, so the check reached nDPI and nDPI named a host.
  obtain ⟨call, name, called, named⟩ : ∃ call name, inspection before last = some call ∧
      call.found = some name := by
    by_contra none
    have unnamed : Unnamed before last := by
      intro call called
      cases named : call.found with
      | none => rfl
      | some name => exact absurd ⟨call, name, called, named⟩ none
    have kept := (step_unnamed tuple last before unnamed).2.1
    rw [replaced, twins.guessed] at kept
    cases kept
  -- The twin without the guess inspects the same traits and is told the same name.
  obtain ⟨mid, called', mids⟩ := inspection_congr last before twin twins.same call called
  have named' : ({ call with mid := mid } : Inspection).found = some name := by
    have proto : call.mid.l7proto = mid.l7proto := congrArg Traits.l7proto mids
    unfold Inspection.found at *
    rw [← proto]
    exact named
  have takes : takesInfo before = true := by rw [takesInfo, twins.guessed, Bool.or_true]
  have takes' : takesInfo twin = true := by rw [takesInfo, twins.nameless]; rfl
  obtain ⟨info, domain, block⟩ := step_named tuple creation last before call called name named
    lists takes twins.agrees
  obtain ⟨info', domain', block'⟩ := step_named tuple creation last twin _ called' name named'
    lists takes' twins.twinAgrees
  have stepTraits := step_traits tuple last before twin twins.same
  have proto : (step tuple twin last).l7proto = (step tuple before last).l7proto :=
    (congrArg Traits.l7proto stepTraits).symm
  have app : twin.whitelistedApp = before.whitelistedApp :=
    (congrArg Traits.whitelistedApp twins.same).symm
  have real_host : (step tuple before last).host = hostOf real := by
    unfold PdConn.host
    rw [renamed]
    rfl
  have real_host' : (step tuple twin last).host = hostOf real := by
    unfold PdConn.host
    rw [info', ← info, renamed]
    rfl
  have guess_host : before.host = hostOf guess := by
    unfold PdConn.host
    rw [twins.guess]
    rfl
  -- Both verdicts, before and after, are now written over the reported and the guessed host.
  have reason : privateDnsReason last (step tuple before last).l7proto (hostOf real)
      = privateDnsHost call.policy (step tuple before last).l7proto (hostOf real) := by
    have member := (step_inspected tuple last before call called).2.2.2.2
    rw [privateDnsReason, Option.mem_def.mp member, Option.any_some]
  have decision := twins.agrees
  have decision' := twins.twinAgrees
  have ip : twin.blacklistedIp = before.blacklistedIp :=
    (congrArg Traits.blacklistedIp twins.same).symm
  have sameUid : twin.uid = before.uid := (congrArg Traits.uid twins.same).symm
  have nobody : twin.host = none := by
    unfold PdConn.host
    rw [twins.nameless]
  unfold Agrees reference stored at decision decision'
  rw [twins.domain, guess_host] at decision
  rw [twins.twinDomain, ip, sameUid, nobody] at decision'
  rw [real_host, twins.domain, guess_host] at domain
  rw [real_host', app, twins.twinDomain] at domain'
  rw [real_host] at block
  rw [real_host', proto, app] at block'
  have quiet : hostBlocked creation.firewall none = false := by simp [hostBlocked]
  have base : ∀ internal guessed rule : Bool,
      (internal || before.blacklistedIp || guessed ||
        (endpointBlocked creation.firewall tuple before.uid || rule ||
          whitelistBlocked creation.firewall tuple before.uid))
      = (internal || guessed || rule || (before.blacklistedIp ||
        (endpointBlocked creation.firewall tuple before.uid ||
          whitelistBlocked creation.firewall tuple before.uid))) := by
    intro internal guessed rule
    cases internal <;> cases guessed <;> cases rule <;> simp
  rw [base] at decision decision'
  rw [quiet, Bool.or_false, Bool.or_false] at decision'
  -- What is left is a statement about the eight reasons to block.
  rw [domain, domain', block, block', reason, decision, decision', Bool.false_or]
  exact reasons_agree _ _ _ _ _ _ _ _ twins.internal

def evilPolicy : Policy :=
  { malware := { bl := some { domains := ["evil.example"] } } }

def helloOf (name : String) : Ndpi where
  tables := ⟨fun _ => false, fun _ => true, 1024, fun _ => ""⟩
  processPacket _ := (⟨name, none, none⟩, ⟨NDPI_PROTOCOL_TLS, 0⟩)
  giveup flow := (flow, ⟨0, 0⟩)
  extraDissectionPossible _ := true
  strndupInfo := true
  strndupUrl := true

def helloPacket (name : String) : Check := .packet evilPolicy (helloOf name) httpsTuple

theorem helloPacket_lists (name : String) : SameLists evilPolicy (helloPacket name) := by
  intro policy used
  cases used
  exact ⟨rfl, rfl⟩

theorem confirmed_verdict :
    let before := created evilPolicy httpsTuple (some "evil.example") ⟨"", none, none⟩ 10123 0
    let twin := created evilPolicy httpsTuple none ⟨"", none, none⟩ 10123 0
    let last := helloPacket "www.evil.example"
    (step httpsTuple before last).blacklistedDomain = (step httpsTuple twin last).blacklistedDomain ∧
      (step httpsTuple before last).toBlock = (step httpsTuple twin last).toBlock := by
  have verdict := replaced_verdict evilPolicy httpsTuple "evil.example" "www.evil.example"
    ⟨"", none, none⟩ 10123 0 [] (helloPacket "www.evil.example") trivial (helloPacket_lists _)
    (by decide +kernel) (by decide +kernel)
  apply verdict.mpr
  decide +kernel

/-- A host guessed as blacklisted and then replaced by a harmless one stays blacklisted. -/
theorem staleVerdict_remains :
    ¬ ∀ (creation : Policy) (tuple : Tuple) (guess real : String) (flow : NdpiFlow) (uid : Int)
        (incrId : Nat) (checks : List Check) (last : Check),
      Machine.Along (step tuple) (Guessing tuple creation)
        (created creation tuple (some guess) flow uid incrId) checks →
      SameLists creation last →
      (step tuple (Machine.run (step tuple)
        (created creation tuple (some guess) flow uid incrId) checks) last).infoFromLru = false →
      (step tuple (Machine.run (step tuple)
        (created creation tuple (some guess) flow uid incrId) checks) last).info = some real →
      (step tuple (Machine.run (step tuple)
          (created creation tuple (some guess) flow uid incrId) checks) last).blacklistedDomain
        = (step tuple (Machine.run (step tuple)
          (created creation tuple none flow uid incrId) checks) last).blacklistedDomain ∧
      (step tuple (Machine.run (step tuple)
          (created creation tuple (some guess) flow uid incrId) checks) last).toBlock
        = (step tuple (Machine.run (step tuple)
          (created creation tuple none flow uid incrId) checks) last).toBlock := by
  intro agree
  have same := agree evilPolicy httpsTuple "evil.example" "www.good.example" ⟨"", none, none⟩
    10123 0 [] (helloPacket "www.good.example") trivial (helloPacket_lists _)
    (by decide +kernel) (by decide +kernel)
  revert same
  decide +kernel

end Replacement

end Ptnet.HostReplacement
