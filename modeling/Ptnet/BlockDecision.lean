import Ptnet.DecisionFrame
import Ptnet.Machine

/-!
The block decision of a connection: kept incrementally by the detection code and computed
from scratch by `check_blocked_conn_cb`. With the firewall fixed, both are the disjunction
`reference` of the stored malware and internal flags, the firewall rules and the whitelist
mode.
-/

namespace Ptnet.BlockDecision

open Connection Detection

def stored (data : PdConn) : Bool :=
  data.blacklistedInternal || data.blacklistedIp || data.blacklistedDomain

def endpointBlocked (firewall : Firewall) (tuple : Tuple) (uid : Int) : Bool :=
  firewall.enabled && firewall.bl.any fun bl =>
    bl.matchIp tuple.dstIp tuple.ipver || bl.matchUid uid

def hostBlocked (firewall : Firewall) (host : Option String) : Bool :=
  firewall.enabled && host.any fun name => matchesDomain firewall.bl name

def whitelistBlocked (firewall : Firewall) (tuple : Tuple) (uid : Int) : Bool :=
  firewall.enabled && firewall.wlEnabled && (!isDns tuple || !unspecifiedApp uid) &&
    firewall.wl.any fun wl => !wl.matchUid uid

def reference (firewall : Firewall) (tuple : Tuple) (data : PdConn) : Bool :=
  stored data || (endpointBlocked firewall tuple data.uid || hostBlocked firewall data.host ||
    whitelistBlocked firewall tuple data.uid)

@[simp] theorem stored_setToBlock (data : PdConn) (value : Bool) :
    stored (data.setToBlock value) = stored data := rfl

@[simp] theorem host_setToBlock (data : PdConn) (value : Bool) :
    (data.setToBlock value).host = data.host := rfl

theorem checkWhitelistModeBlock_eq (policy : Policy) (tuple : Tuple) (data : PdConn) :
    checkWhitelistModeBlock policy tuple data =
      data.setToBlock (data.toBlock || whitelistBlocked policy.firewall tuple data.uid) := by
  unfold checkWhitelistModeBlock whitelistBlocked
  cases policy.firewall.wl with
  | none => simp [PdConn.setToBlock_same]
  | some wl =>
      cases blocked : data.toBlock with
      | true => simp [data.setToBlock_same true blocked]
      | false =>
          cases policy.firewall.enabled <;> cases policy.firewall.wlEnabled <;>
            cases !isDns tuple || !unspecifiedApp data.uid <;>
            simp [data.setToBlock_same false blocked]

theorem recheckBlocked_eq (policy : Policy) (tuple : Tuple) (data : PdConn) :
    recheckBlocked policy tuple data =
      data.setToBlock (reference policy.firewall tuple data) := by
  have rules : (policy.firewall.bl.any fun bl =>
      bl.matchUid data.uid || bl.matchIp tuple.dstIp tuple.ipver ||
        data.host.any fun host => bl.matchDomain host) =
      ((policy.firewall.bl.any fun bl =>
        bl.matchIp tuple.dstIp tuple.ipver || bl.matchUid data.uid) ||
      data.host.any fun name => matchesDomain policy.firewall.bl name) := by
    cases policy.firewall.bl with
    | none => cases data.host <;> simp [matchesDomain]
    | some bl => cases data.host <;> simp [matchesDomain, Bool.or_comm]
  simp only [recheckBlocked, rules, checkWhitelistModeBlock_eq, PdConn.setToBlock_toBlock,
    PdConn.setToBlock_uid, PdConn.setToBlock_twice]
  congr 1
  unfold reference stored endpointBlocked hostBlocked
  cases data.blacklistedInternal || data.blacklistedIp || data.blacklistedDomain <;>
    cases policy.firewall.enabled <;> simp

/-- The flag is decided by the stored flags and the `known` other reasons. -/
def Decided (known : Bool) (data : PdConn) : Prop := data.toBlock = (stored data || known)

theorem checkMalwareDomain_decided (policy : Policy) (known : Bool) (data : PdConn)
    (host : String) (decided : Decided known data) :
    Decided known (checkMalwareDomain policy data host) := by
  unfold checkMalwareDomain
  split
  · simp [Decided, stored]
  · exact decided

/-- Adding a reason to an undecided record, and leaving a blocked one alone, adds the
    reason to the decision. -/
theorem setToBlock_decided (known reason : Bool) (data : PdConn) (decided : Decided known data) :
    Decided (known || reason) (if data.toBlock then data else data.setToBlock reason) := by
  unfold Decided at *
  cases blocked : data.toBlock with
  | true =>
      have why : (stored data || known) = true := by rw [← decided, blocked]
      simp [blocked, ← Bool.or_assoc, why]
  | false =>
      have quiet : (stored data || known) = false := by rw [← decided, blocked]
      simp [← Bool.or_assoc, quiet]

theorem checkFirewallDomain_decided (policy : Policy) (known : Bool) (data : PdConn)
    (host : String) (decided : Decided known data) :
    Decided (known || hostBlocked policy.firewall (some host))
      (checkFirewallDomain policy data host) := by
  have added := setToBlock_decided known (matchesDomain policy.firewall.bl host) data decided
  unfold checkFirewallDomain hostBlocked
  cases policy.firewall.enabled with
  | false => simpa using decided
  | true =>
      cases blocks : policy.firewall.bl with
      | none => simpa [matchesDomain] using decided
      | some bl => cases blocked : data.toBlock <;> simpa [blocks, blocked] using added

theorem checkBlacklistedDomain_decided (policy : Policy) (known : Bool) (data : PdConn)
    (decided : Decided known data) :
    Decided (known || hostBlocked policy.firewall data.host)
      (checkBlacklistedDomain policy data) := by
  unfold checkBlacklistedDomain
  cases data.host with
  | none => simpa [hostBlocked] using decided
  | some host =>
      exact checkFirewallDomain_decided policy known _ host
        (checkMalwareDomain_decided policy known data host decided)

theorem checkMalwareIp_decided (policy : Policy) (tuple : Tuple) (known : Bool) (data : PdConn)
    (decided : Decided known data) : Decided known (checkMalwareIp policy tuple data) := by
  simp only [checkMalwareIp]
  split
  · simp [Decided, stored]
  · exact decided

theorem checkFirewall_decided (policy : Policy) (tuple : Tuple) (known : Bool) (data : PdConn)
    (decided : Decided known data) :
    Decided (known || endpointBlocked policy.firewall tuple data.uid)
      (checkFirewall policy tuple data) := by
  unfold checkFirewall endpointBlocked
  cases blocks : policy.firewall.bl with
  | none => simpa using decided
  | some bl =>
      cases policy.firewall.enabled with
      | false => simpa using decided
      | true =>
          have added := setToBlock_decided known
            (bl.matchIp tuple.dstIp tuple.ipver || bl.matchUid data.uid) data decided
          cases blocked : data.toBlock <;>
            cases ip : bl.matchIp tuple.dstIp tuple.ipver <;> simpa [blocked, ip] using added

/-- With the firewall fixed, the flag is the one a recheck would compute. -/
def Agrees (firewall : Firewall) (tuple : Tuple) (data : PdConn) : Prop :=
  data.toBlock = reference firewall tuple data

structure SameDecision (before after : PdConn) : Prop where
  toBlock : after.toBlock = before.toBlock
  stored : stored after = stored before
  uid : after.uid = before.uid
  info : after.info = before.info
  infoFromLru : after.infoFromLru = before.infoFromLru

theorem SameDecision.trans {first second third : PdConn} (left : SameDecision first second)
    (right : SameDecision second third) : SameDecision first third :=
  ⟨right.toBlock.trans left.toBlock, right.stored.trans left.stored, right.uid.trans left.uid,
    right.info.trans left.info, right.infoFromLru.trans left.infoFromLru⟩

theorem SameDecision.agrees {before after : PdConn} (same : SameDecision before after)
    {firewall : Firewall} {tuple : Tuple} (holds : Agrees firewall tuple before) :
    Agrees firewall tuple after := by
  have host : after.host = before.host := by simp [PdConn.host, same.info]
  unfold Agrees reference at *
  rw [same.toBlock, same.stored, same.uid, host]
  exact holds

section Creation

variable (policy : Policy) (tuple : Tuple)

theorem checkMalwareDomain_kept (data : PdConn) (host : String) :
    (checkMalwareDomain policy data host).uid = data.uid ∧
    (checkMalwareDomain policy data host).info = data.info ∧
    (checkMalwareDomain policy data host).infoFromLru = data.infoFromLru := by
  unfold checkMalwareDomain
  split <;> exact ⟨rfl, rfl, rfl⟩

theorem checkBlacklistedDomain_kept (data : PdConn) :
    (checkBlacklistedDomain policy data).uid = data.uid ∧
    (checkBlacklistedDomain policy data).info = data.info ∧
    (checkBlacklistedDomain policy data).infoFromLru = data.infoFromLru := by
  unfold checkBlacklistedDomain
  cases data.host with
  | none => exact ⟨rfl, rfl, rfl⟩
  | some host =>
      have kept := checkMalwareDomain_kept policy data host
      simp only [checkFirewallDomain]
      split <;> simpa using kept

theorem checkMalwareIp_kept (data : PdConn) :
    (checkMalwareIp policy tuple data).uid = data.uid ∧
    (checkMalwareIp policy tuple data).info = data.info := by
  simp only [checkMalwareIp]
  split <;> exact ⟨rfl, rfl⟩

theorem checkFirewall_kept (data : PdConn) :
    (checkFirewall policy tuple data).uid = data.uid ∧
    (checkFirewall policy tuple data).info = data.info := by
  unfold checkFirewall
  split
  · exact ⟨rfl, rfl⟩
  · split
    · split <;> exact ⟨rfl, rfl⟩
    · exact ⟨rfl, rfl⟩

theorem guessHost_decided (lruHost : Option String) (data : PdConn)
    (decided : Decided false data) :
    Decided (hostBlocked policy.firewall (guessHost policy lruHost data).host)
      (guessHost policy lruHost data) := by
  cases lruHost with
  | none =>
      have quiet : hostBlocked policy.firewall none = false := by simp [hostBlocked]
      change Decided (hostBlocked policy.firewall none) _
      rw [quiet]
      exact decided
  | some host =>
      have checked := checkBlacklistedDomain_decided policy false
        { data with info := some host, infoFromLru := true } decided
      have kept := checkBlacklistedDomain_kept policy
        { data with info := some host, infoFromLru := true }
      simpa [guessHost, PdConn.host, kept.2.1] using checked

/-- `pd_new_connection` leaves a record whose flag is the reference decision. -/
theorem checkNewConnection_agrees (lruHost : Option String) (data : PdConn)
    (fresh : stored data = false) (unblocked : data.toBlock = false) :
    Agrees policy.firewall tuple (checkNewConnection policy tuple lruHost data) := by
  have known : Decided false (checkWhitelistedApp policy data) := by
    unfold checkWhitelistedApp Decided
    split
    · rw [unblocked, fresh]; rfl
    · exact unblocked.trans (by rw [Bool.or_false]; exact fresh.symm)
  have guessed := guessHost_decided policy lruHost _ known
  have malware := checkMalwareIp_decided policy tuple _ _ guessed
  have firewall := checkFirewall_decided policy tuple _ _ malware
  obtain ⟨malwareUid, malwareInfo⟩ := checkMalwareIp_kept policy tuple
    (guessHost policy lruHost (checkWhitelistedApp policy data))
  obtain ⟨firewallUid, firewallInfo⟩ := checkFirewall_kept policy tuple
    (checkMalwareIp policy tuple (guessHost policy lruHost (checkWhitelistedApp policy data)))
  have host : (checkFirewall policy tuple (checkMalwareIp policy tuple
      (guessHost policy lruHost (checkWhitelistedApp policy data)))).host =
      (guessHost policy lruHost (checkWhitelistedApp policy data)).host := by
    simp [PdConn.host, firewallInfo, malwareInfo]
  unfold Decided at firewall
  simp only [Agrees, checkNewConnection, checkWhitelistModeBlock_eq, reference,
    PdConn.setToBlock_toBlock, PdConn.setToBlock_uid, stored_setToBlock, host_setToBlock, host,
    firewallUid]
  rw [firewall]
  cases hostBlocked policy.firewall
      (guessHost policy lruHost (checkWhitelistedApp policy data)).host <;> simp [Bool.or_assoc]

end Creation

/-- One change of a record: unless it replaces a guessed host, it keeps the agreement. -/
structure Evolves (firewall : Firewall) (tuple : Tuple) (before after : PdConn) : Prop where
  guess : after.infoFromLru = true → before.infoFromLru = true
  agrees : (before.infoFromLru = true → after.infoFromLru = true) →
    Agrees firewall tuple before → Agrees firewall tuple after

section Changes

variable {firewall : Firewall} {tuple : Tuple}

theorem SameDecision.evolves {before after : PdConn} (same : SameDecision before after) :
    Evolves firewall tuple before after :=
  ⟨fun guessed => by rw [← same.infoFromLru]; exact guessed, fun _ holds => same.agrees holds⟩

theorem Evolves.trans {first second third : PdConn} (left : Evolves firewall tuple first second)
    (right : Evolves firewall tuple second third) : Evolves firewall tuple first third where
  guess guessed := left.guess (right.guess guessed)
  agrees kept holds :=
    right.agrees (fun guessed => kept (left.guess guessed))
      (left.agrees (fun guessed => right.guess (kept guessed)) holds)

theorem touch_same (data : PdConn) (bit : BitVec 8) : SameDecision data (data.touch bit) :=
  ⟨rfl, rfl, rfl, rfl, rfl⟩

theorem SameDecision.of_unlabelled {before after : PdConn}
    (same : unlabelled after = unlabelled before) : SameDecision before after where
  toBlock := same_of_view unlabelled PdConn.toBlock (fun _ => rfl) same
  stored := same_of_view unlabelled BlockDecision.stored (fun _ => rfl) same
  uid := same_of_view unlabelled PdConn.uid (fun _ => rfl) same
  info := same_of_view unlabelled PdConn.info (fun _ => rfl) same
  infoFromLru := same_of_view unlabelled PdConn.infoFromLru (fun _ => rfl) same

theorem guessProto_same (ndpi : Ndpi) (flow : NdpiFlow) (data : PdConn) :
    SameDecision data (guessProto ndpi flow data).2 := by
  unfold guessProto
  split <;> exact ⟨rfl, rfl, rfl, rfl, rfl⟩

theorem detectProto_same (ndpi : Ndpi) (flow : NdpiFlow) (data : PdConn) :
    SameDecision data (detectProto ndpi flow data).2 := by
  simp only [detectProto]
  split <;> exact ⟨rfl, rfl, rfl, rfl, rfl⟩

theorem accountStats_same (isTx : Bool) (len l7Len : Int) (data : PdConn) :
    SameDecision data (accountStats isTx len l7Len data) := by
  cases isTx <;> exact ⟨rfl, rfl, rfl, rfl, rfl⟩

/-- Blocking for an internal reason is agreed on at once. -/
theorem blockInternal_evolves (data : PdConn) :
    Evolves firewall tuple data { data with blacklistedInternal := true, toBlock := true } :=
  ⟨fun guessed => guessed, fun _ _ => by simp [Agrees, reference, stored]⟩

theorem evolves_refl (data : PdConn) : Evolves firewall tuple data data :=
  ⟨fun guessed => guessed, fun _ holds => holds⟩

theorem vpnProcessNdpi_evolves (policy : Policy) (pktTuple : Tuple) (data : PdConn) :
    Evolves firewall tuple data (vpnProcessNdpi policy pktTuple data) := by
  have quic : Evolves firewall tuple data (blockQuic policy pktTuple data) := by
    unfold blockQuic
    split
    · exact blockInternal_evolves data
    · exact evolves_refl data
  have dns (mid : PdConn) : Evolves firewall tuple mid (blockPrivateDns policy mid) := by
    unfold blockPrivateDns
    split
    · exact blockInternal_evolves mid
    · exact evolves_refl mid
  exact quic.trans (dns _)

theorem checkDnsBlocked_evolves (allowed : Bool) (data : PdConn) :
    Evolves firewall tuple data (checkDnsBlocked allowed data) := by
  unfold checkDnsBlocked
  split
  · refine ⟨fun guessed => guessed, fun _ holds => ?_⟩
    unfold Agrees reference stored at *
    rw [holds]
    cases data.blacklistedInternal <;> cases data.portMappingApplied <;> cases allowed <;> simp
    all_goals
      cases data.blacklistedIp || data.blacklistedDomain <;>
        simp [PdConn.host]
  · exact evolves_refl data

/-- A record without a guessed host takes a reported one only if it has none: its host
    reason is added to the decision. -/
theorem setInfo_evolves (policy : Policy) (fixed : policy.firewall = firewall) (ndpi : Ndpi)
    (found : Option String) (data : PdConn) :
    Evolves firewall tuple data (setInfo policy ndpi found data) := by
  subst fixed
  unfold setInfo
  cases found with
  | none => exact evolves_refl data
  | some info =>
      by_cases takes : takesInfo data = true
      · simp only [takes, ↓reduceIte]
        generalize renamed : ({ data with
          info := strndup ndpi.strndupInfo info 256, infoFromLru := false } : PdConn) = next
        have kept := checkBlacklistedDomain_kept policy next
        have unguessed : (checkBlacklistedDomain policy next).infoFromLru = false := by
          rw [kept.2.2, ← renamed]
        refine ⟨fun guessed => ?_, fun keeps holds => ?_⟩
        · exact absurd (guessed.symm.trans unguessed) (by decide)
        · have own : data.infoFromLru = false := by
            cases guessed : data.infoFromLru with
            | false => rfl
            | true => exact absurd ((keeps guessed).symm.trans unguessed) (by decide)
          have nameless : data.host = none := by
            have absent : data.info = none := by simpa [takesInfo, own] using takes
            simp [PdConn.host, absent]
          have before : Decided (endpointBlocked policy.firewall tuple next.uid ||
              whitelistBlocked policy.firewall tuple next.uid) next := by
            rw [← renamed]
            simpa [Agrees, Decided, reference, stored, nameless, hostBlocked] using holds
          have after := checkBlacklistedDomain_decided policy _ next before
          have host : (checkBlacklistedDomain policy next).host = next.host := by
            simp [PdConn.host, kept.2.1]
          apply (touch_same _ _).agrees
          unfold Agrees reference
          rw [kept.1, host, after]
          cases hostBlocked policy.firewall next.host <;> simp
      · simp only [takes]
        exact evolves_refl data

theorem processNdpiData_evolves (policy : Policy) (fixed : policy.firewall = firewall)
    (ndpi : Ndpi) (pktTuple : Tuple) (flow : NdpiFlow) (data : PdConn) :
    Evolves firewall tuple data (processNdpiData policy ndpi pktTuple flow data) := by
  have named (mid : PdConn) : Evolves firewall tuple mid
      (if mid.l7proto = NDPI_PROTOCOL_TLS then readAlpn flow mid else mid) := by
    split
    · exact (SameDecision.of_unlabelled (readAlpn_unlabelled flow mid)).evolves
    · exact evolves_refl mid
  have located (mid : PdConn) : Evolves firewall tuple mid
      (if mid.l7proto = NDPI_PROTOCOL_HTTP then readUrl ndpi flow mid else mid) := by
    split
    · exact (SameDecision.of_unlabelled (readUrl_unlabelled ndpi flow mid)).evolves
    · exact evolves_refl mid
  have hosted (found : Option String) := ((named data).trans (located _)).trans
    (setInfo_evolves policy fixed ndpi found _)
  simp only [processNdpiData]
  split
  · exact (hosted _).trans (vpnProcessNdpi_evolves policy pktTuple _)
  · exact hosted _

theorem pdGiveupDpi_evolves (policy : Policy) (fixed : policy.firewall = firewall)
    (ndpi : Ndpi) (pktTuple : Tuple) (data : PdConn) :
    Evolves firewall tuple data (pdGiveupDpi policy ndpi pktTuple data) := by
  unfold pdGiveupDpi
  cases data.ndpiFlow with
  | none => exact evolves_refl data
  | some flow =>
      have guessed : Evolves firewall tuple data (guessProto ndpi flow data).2 :=
        (guessProto_same ndpi flow data).evolves
      have processed := guessed.trans (processNdpiData_evolves policy fixed ndpi pktTuple
        (guessProto ndpi flow data).1 _)
      exact processed.trans (SameDecision.evolves ⟨rfl, rfl, rfl, rfl, rfl⟩)

theorem performDpi_evolves (policy : Policy) (fixed : policy.firewall = firewall)
    (ndpi : Ndpi) (connTuple pktTuple : Tuple) (data : PdConn) :
    Evolves firewall tuple data (performDpi policy ndpi connTuple pktTuple data).1 := by
  unfold performDpi
  cases data.ndpiFlow with
  | none => exact evolves_refl data
  | some flow =>
      refine Evolves.trans ?_ (SameDecision.of_unlabelled
        (guessAlpn_unlabelled connTuple _)).evolves
      have detected : Evolves firewall tuple data (detectProto ndpi flow data).2 :=
        (detectProto_same ndpi flow data).evolves
      simp only [inspectPacket]
      split
      · exact detected.trans (pdGiveupDpi_evolves policy fixed ndpi pktTuple _)
      · exact detected.trans (processNdpiData_evolves policy fixed ndpi pktTuple _ _)

end Changes

section Blocked

variable (policy : Policy) (ndpi : Ndpi) (tuple : Tuple) (flow : NdpiFlow) (data : PdConn)

theorem checkBlacklistedDomain_blocked (blocked : data.toBlock = true) :
    (checkBlacklistedDomain policy data).toBlock = true := by
  unfold checkBlacklistedDomain
  split
  · exact blocked
  · next host _ =>
    have malware : (checkMalwareDomain policy data host).toBlock = true := by
      unfold checkMalwareDomain
      split
      · rfl
      · exact blocked
    simp [checkFirewallDomain, malware]

theorem setInfo_blocked (found : Option String) (blocked : data.toBlock = true) :
    (setInfo policy ndpi found data).toBlock = true := by
  unfold setInfo
  split
  · exact blocked
  · split
    · exact checkBlacklistedDomain_blocked policy _ blocked
    · exact blocked

theorem vpnProcessNdpi_blocked (blocked : data.toBlock = true) :
    (vpnProcessNdpi policy tuple data).toBlock = true := by
  have quic : (blockQuic policy tuple data).toBlock = true := by
    unfold blockQuic
    split
    · rfl
    · exact blocked
  unfold vpnProcessNdpi blockPrivateDns
  split
  · rfl
  · exact quic

theorem processNdpiData_blocked (blocked : data.toBlock = true) :
    (processNdpiData policy ndpi tuple flow data).toBlock = true := by
  have named : (if data.l7proto = NDPI_PROTOCOL_TLS then readAlpn flow data
      else data).toBlock = true := by
    split
    · exact (SameDecision.of_unlabelled (readAlpn_unlabelled flow data)).toBlock.trans blocked
    · exact blocked
  have located : ∀ conn : PdConn, conn.toBlock = true →
      (if conn.l7proto = NDPI_PROTOCOL_HTTP then readUrl ndpi flow conn
        else conn).toBlock = true := by
    intro conn blocked
    split
    · exact (SameDecision.of_unlabelled (readUrl_unlabelled ndpi flow conn)).toBlock.trans blocked
    · exact blocked
  have hosted := fun found => setInfo_blocked policy ndpi _ found (located _ named)
  simp only [processNdpiData]
  split
  · exact vpnProcessNdpi_blocked policy tuple _ (hosted _)
  · exact hosted _

theorem pdGiveupDpi_blocked (blocked : data.toBlock = true) :
    (pdGiveupDpi policy ndpi tuple data).toBlock = true := by
  unfold pdGiveupDpi
  split
  · exact blocked
  · next flow _ =>
    exact processNdpiData_blocked policy ndpi tuple _ _
      ((guessProto_same ndpi flow data).toBlock.trans blocked)

end Blocked

/-- What can happen to a connection once it exists. Lists other than the firewall's, nDPI
    and the packets may differ from step to step. -/
inductive Check where
  | packet (policy : Policy) (ndpi : Ndpi) (pktTuple : Tuple)
  | giveup (policy : Policy) (ndpi : Ndpi) (pktTuple : Tuple)
  | vpnNdpi (policy : Policy) (pktTuple : Tuple)
  | dnsCheck (allowed : Bool)
  | account (isTx : Bool) (len l7Len : Int)
  | recheck (policy : Policy)

def step (tuple : Tuple) (data : PdConn) : Check → PdConn
  | .packet policy ndpi pktTuple => (performDpi policy ndpi tuple pktTuple data).1
  | .giveup policy ndpi pktTuple => pdGiveupDpi policy ndpi pktTuple data
  | .vpnNdpi policy pktTuple => vpnProcessNdpi policy pktTuple data
  | .dnsCheck allowed => checkDnsBlocked allowed data
  | .account isTx len l7Len => accountStats isTx len l7Len data
  | .recheck policy => (checkBlockedConnCb policy tuple data).1

def Check.firewall? : Check → Option Firewall
  | .packet policy _ _ | .giveup policy _ _ | .recheck policy => some policy.firewall
  | .vpnNdpi _ _ | .dnsCheck _ | .account _ _ _ => none

/-- The firewall stays as it was and no guessed host is replaced. -/
def Admitted (firewall : Firewall) (tuple : Tuple) (data : PdConn) (check : Check) : Prop :=
  (∀ used ∈ check.firewall?, used = firewall) ∧
    (data.infoFromLru = true → (step tuple data check).infoFromLru = true)

theorem checkBlockedConnCb_idle (policy : Policy) (tuple : Tuple) (data : PdConn)
    (agrees : Agrees policy.firewall tuple data) :
    checkBlockedConnCb policy tuple data = (data, false) := by
  have same : recheckBlocked policy tuple data = data := by
    rw [recheckBlocked_eq]
    exact data.setToBlock_same _ agrees
  simp [checkBlockedConnCb, same]

theorem step_agrees (firewall : Firewall) (tuple : Tuple) (data : PdConn) (check : Check)
    (holds : Agrees firewall tuple data) (admitted : Admitted firewall tuple data check) :
    Agrees firewall tuple (step tuple data check) := by
  obtain ⟨fixed, kept⟩ := admitted
  cases check with
  | packet policy ndpi pktTuple =>
      exact (performDpi_evolves policy (fixed _ rfl) ndpi tuple pktTuple data).agrees kept holds
  | giveup policy ndpi pktTuple =>
      exact (pdGiveupDpi_evolves policy (fixed _ rfl) ndpi pktTuple data).agrees kept holds
  | vpnNdpi policy pktTuple =>
      exact (vpnProcessNdpi_evolves policy pktTuple data).agrees kept holds
  | dnsCheck allowed => exact (checkDnsBlocked_evolves allowed data).agrees kept holds
  | account isTx len l7Len => exact (accountStats_same isTx len l7Len data).agrees holds
  | recheck policy =>
      have same : policy.firewall = firewall := fixed _ rfl
      subst same
      rw [step, checkBlockedConnCb_idle policy tuple data holds]
      exact holds

/-- After the creation of a connection and every later step, a recheck of its block
    decision changes nothing and asks for no notification. -/
theorem incremental_decision (creation : Policy) (tuple : Tuple) (lruHost : Option String)
    (flow : NdpiFlow) (uid : Int) (incrId : Nat) (checks : List Check)
    (admitted : Machine.Along (step tuple) (Admitted creation.firewall tuple)
      (checkNewConnection creation tuple lruHost
        { ndpiFlow := some flow, uid := uid, incrId := incrId, pendingNotification := true })
      checks)
    (policy : Policy) (fixed : policy.firewall = creation.firewall) :
    let data := Machine.run (step tuple)
      (checkNewConnection creation tuple lruHost
        { ndpiFlow := some flow, uid := uid, incrId := incrId, pendingNotification := true })
      checks
    data.toBlock = (recheckBlocked policy tuple data).toBlock ∧
      checkBlockedConnCb policy tuple data = (data, false) := by
  intro data
  have agrees : Agrees creation.firewall tuple data :=
    Machine.run_invariant (step tuple) _ (Agrees creation.firewall tuple)
      (fun state event holds admits => step_agrees _ _ state event holds admits) _ checks admitted
      (checkNewConnection_agrees creation tuple lruHost _ rfl rfl)
  rw [← fixed] at agrees
  refine ⟨?_, checkBlockedConnCb_idle policy tuple data agrees⟩
  rw [recheckBlocked_eq]
  exact agrees

def adsFirewall : Policy := { firewall := { enabled := true, bl := some { domains := ["ads.example"] } } }

def adsHello : Ndpi where
  tables := ⟨fun _ => false, fun _ => true, 1024, fun _ => ""⟩
  processPacket _ := (⟨"www.ads.example", some "http/1.1", none⟩, ⟨NDPI_PROTOCOL_TLS, 0⟩)
  giveup flow := (flow, ⟨0, 0⟩)
  extraDissectionPossible _ := true
  strndupInfo := true
  strndupUrl := true

def httpsTuple : Tuple := ⟨1, 2, 40000, 443, 4, IPPROTO_TCP⟩

def httpsConn : PdConn :=
  { ndpiFlow := some ⟨"", none, none⟩, uid := 10123, incrId := 0, pendingNotification := true }

theorem incremental_decision_ads :
    let data := Machine.run (step httpsTuple)
      (checkNewConnection adsFirewall httpsTuple none httpsConn)
      [.packet adsFirewall adsHello httpsTuple, .dnsCheck true]
    data.toBlock = true ∧ checkBlockedConnCb adsFirewall httpsTuple data = (data, false) := by
  have admitted : Machine.Along (step httpsTuple) (Admitted adsFirewall.firewall httpsTuple)
      (checkNewConnection adsFirewall httpsTuple none httpsConn)
      [.packet adsFirewall adsHello httpsTuple, .dnsCheck true] := by
    simp only [Machine.along_cons, Machine.along_nil, and_true]
    exact ⟨⟨by simp [Check.firewall?], by decide⟩, ⟨by simp [Check.firewall?], by decide⟩⟩
  exact ⟨by decide, (incremental_decision adsFirewall httpsTuple none ⟨"", none, none⟩ 10123 0 _
    admitted adsFirewall rfl).2⟩

end Ptnet.BlockDecision
