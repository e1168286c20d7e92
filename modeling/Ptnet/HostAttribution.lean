import Ptnet.BlockDecision
import Ptnet.DnsAddresses
import Ptnet.IpLru
import Ptnet.DnsExchange

/-!
The hosts that new connections get from the cache which DNS replies fill: `process_dns_reply` and
`pd_new_connection` of core/pcapdroid.c over core/ip_lru.c. The state carries the replies that were
processed, so that a host can be traced back to the record it comes from.
-/

namespace Ptnet.HostAttribution

open Connection Pcapdroid
open Detection (Ndpi)
open DnsMessage (Octets Datagram Holds)
open DnsReply (Memory Answered processDnsReply)
open DnsLearning (addressOf)
open DnsAddresses (Skipped)
open IpLru (Alloc)

def MAX_HOST_LRU_SIZE : Nat := 256

/-- A reply that `process_dns_reply` was called for: `host_server_name` and the payload. -/
structure Reply where
  query : String
  l7 : Octets
  deriving DecidableEq

def memoryOf (l7 : Octets) (behind : Memory) : Memory := fun offset =>
  if offset < l7.length then l7.getD offset 0 else behind offset

/-- The address record is in one of the answers of the reply. -/
def Reply.Contains (reply : Reply) (ipver : Nat) (ip : Ip) : Prop :=
  ∃ datagram : Datagram, reply.l7 = datagram.encode ∧
    ∃ answer ∈ datagram.answers, addressOf answer.record = some (ipver, ip)

section Cache

/-- The additions of one reply, in order. -/
def addHosts (lru : IpLru) (query : String) : List (Nat × Ip) → List Alloc → IpLru
  | [], _ => lru
  | (_, ip) :: rest, allocs =>
      addHosts (lru.add ip query (allocs.headD {})) query rest allocs.tail

end Cache

structure State where
  pd : Pd
  ipToHost : IpLru
  /-- The replies so far. -/
  replies : List Reply := []

/-- A call that uses the cache, with the answers of nDPI and of the allocator; or what the rest of
    the capture makes of the state, which leaves the cache alone. -/
inductive Event where
  | newConnection (ndpi : Ndpi) (env : NewConnEnv) (tuple : Tuple) (uid : Int) (strdup : Bool)
  | packet (ndpi : Ndpi) (result : ChunkResult) (pctx : PktContext) (behind : Memory)
      (allocs : List Alloc)
  | elsewhere (pd : Pd)

/-- `pd_new_connection` with its lookup. -/
def newConnection (state : State) (ndpi : Ndpi) (env : NewConnEnv) (tuple : Tuple) (uid : Int)
    (strdup : Bool) : State × Option Ref :=
  let (ipToHost, host) := state.ipToHost.find tuple.dstIp strdup
  match pdNewConnection ndpi { env with lruHost := host } state.pd tuple uid with
  | (pd, none) => ({ state with pd := pd }, none)
  | (pd, some ref) => ({ state with pd := pd, ipToHost := ipToHost }, some ref)

/-- The reply for which `perform_dpi` calls `process_dns_reply`. -/
def replyOf (ndpi : Ndpi) (pd : Pd) (pctx : PktContext) : Option Reply :=
  let data := pd.heap pctx.data
  data.ndpiFlow.bind fun flow =>
    let (next, detected) := Detection.detectProto ndpi flow data
    if (!pctx.pkt.isFragment || pctx.pkt.isFirstFragment) && !pctx.isTx &&
        detected.l7proto = NDPI_PROTOCOL_DNS then
      some ⟨next.hostServerName, pctx.pkt.l7⟩
    else none

/-- `pd_process_packet` with `process_dns_reply`. -/
def processPacket (state : State) (ndpi : Ndpi) (result : ChunkResult) (pctx : PktContext)
    (behind : Memory) (allocs : List Alloc) : State :=
  let pd := pdProcessPacket ndpi result state.pd pctx
  match replyOf ndpi state.pd pctx with
  | none => { state with pd := pd }
  | some reply =>
      let walk := processDnsReply (memoryOf reply.l7 behind) reply.l7.length reply.query
      { pd := pd
        ipToHost := addHosts state.ipToHost reply.query walk.learned allocs
        replies := state.replies ++ [reply] }

def step (state : State) : Event → State
  | .newConnection ndpi env tuple uid strdup => (newConnection state ndpi env tuple uid strdup).1
  | .packet ndpi result pctx behind allocs => processPacket state ndpi result pctx behind allocs
  | .elsewhere pd => { state with pd := pd }

/-- The state that `pd_run` begins with. -/
def start (pd : Pd) : State := { pd, ipToHost := IpLru.init MAX_HOST_LRU_SIZE }

/-- A new connection has a host only if a reply for the host had a record of its address. -/
def Attributes (state : State) : Event → Prop
  | .newConnection ndpi env tuple uid strdup =>
      ∀ after ref host, newConnection state ndpi env tuple uid strdup = (after, some ref) →
        (after.pd.heap ref).info = some host →
        ∃ reply ∈ state.replies, reply.query = host ∧ reply.Contains tuple.ipver tuple.dstIp
  | .packet .. => True
  | .elsewhere _ => True

/-- The walk over a reply finds the ends of its names, and a new connection goes to an address of
    which no reply had a record of the other IP version with the same bytes. -/
def Unambiguous (state : State) : Event → Prop
  | .newConnection _ _ tuple _ _ =>
      ∀ reply ∈ state.replies, ∀ ipver, reply.Contains ipver tuple.dstIp → ipver = tuple.ipver
  | .packet ndpi _ pctx behind _ =>
      ∀ reply, replyOf ndpi state.pd pctx = some reply →
        Answered (memoryOf reply.l7 behind) reply.l7.length reply.query →
        ∃ datagram, reply.l7 = datagram.encode ∧ Skipped datagram
  | .elsewhere _ => True

/-- Each entry of the cache comes from a reply for its host. -/
def Sourced (state : State) : Prop :=
  ∀ ip host, (ip, host) ∈ state.ipToHost.cache →
    ∃ reply ∈ state.replies, reply.query = host ∧ ∃ ipver, reply.Contains ipver ip

section Creation

theorem modify_info (pd : Pd) (ref : Ref) (change : PdConn → PdConn)
    (kept : (change (pd.heap ref)).info = (pd.heap ref).info) (other : Ref) :
    ((pd.modify ref change).heap other).info = (pd.heap other).info := by
  by_cases same : other = ref
  · subst same
    simp [Pd.modify, kept]
  · simp [Pd.modify, same]

theorem resolveNetd_info (uid : Int) (info : Option String) (pd : Pd) (slot : Slot) (ref : Ref) :
    ((resolveNetd uid info pd slot).heap ref).info = (pd.heap ref).info := by
  have resolved : ∀ missed, (((pd.access slot.data).modify slot.data fun conn =>
      { conn with uid := uid, netdBlockMissed := conn.netdBlockMissed || missed }).heap ref).info =
        (pd.heap ref).info := by
    intro missed
    rw [modify_info (pd.access slot.data) slot.data _ rfl ref, access_heap]
  simp only [resolveNetd]
  split
  · split <;> exact resolved _
  · rw [access_heap]

theorem attributeHost_info (pd : Pd) (ref : Ref) (lruHost : Option String) :
    ((attributeHost pd ref lruHost).heap ref).info = lruHost := by
  cases lruHost with
  | none => simp [attributeHost, Pd.modify]
  | some host =>
      have loop : ∀ (slots : List Slot) (current : Pd) (uid : Int),
          ((slots.foldl (resolveNetd uid (some host)) current).heap ref).info =
            (current.heap ref).info := by
        intro slots
        induction slots with
        | nil => exact fun _ _ => rfl
        | cons slot rest ih =>
            exact fun current uid => (ih _ uid).trans (resolveNetd_info uid _ current slot ref)
      have guessed : ((pd.modify ref fun data =>
          { data with info := some host, infoFromLru := true }).heap ref).info = some host := by
        simp [Pd.modify]
      simp only [attributeHost]
      rw [modify_info _ ref _ (BlockDecision.checkBlacklistedDomain_kept pd.policy _).2.1 ref]
      split
      · exact (loop _ _ _).trans guessed
      · exact guessed

theorem pdNewConnection_info (ndpi : Ndpi) (env : NewConnEnv) (pd : Pd) (tuple : Tuple)
    (uid : Int) (created : Pd) (ref : Ref)
    (made : pdNewConnection ndpi env pd tuple uid = (created, some ref)) :
    (created.heap ref).info = env.lruHost := by
  rw [pdNewConnection] at made
  split at made
  · cases made
  · simp only at made
    split at made
    · cases made
    · split at made
      · cases made
      · obtain ⟨rfl, same⟩ := Prod.mk.inj made
        obtain rfl := Option.some.inj same
        rw [modify_info _ pd.created _ ?_ pd.created, attributeHost_info]
        rw [BlockDecision.checkWhitelistModeBlock_eq, PdConn.setToBlock_info,
          (BlockDecision.checkFirewall_kept pd.policy tuple _).2,
          (BlockDecision.checkMalwareIp_kept pd.policy tuple _).2]

end Creation

section Runs

theorem addHosts_mem (lru : IpLru) (query : String) (learned : List (Nat × Ip))
    (allocs : List Alloc) (entry : Ip × String)
    (member : entry ∈ (addHosts lru query learned allocs).cache) :
    entry ∈ lru.cache ∨ entry.2 = query ∧ ∃ ipver, (ipver, entry.1) ∈ learned := by
  induction learned generalizing lru allocs with
  | nil => exact .inl member
  | cons pair rest ih =>
      rcases ih (lru.add pair.2 query (allocs.headD {})) allocs.tail member with
        kept | ⟨host, ipver, later⟩
      · rcases IpLru.add_mem lru pair.2 query _ entry kept with before | rfl
        · exact .inl before
        · exact .inr ⟨rfl, pair.1, List.mem_cons_self⟩
      · exact .inr ⟨host, ipver, List.mem_cons_of_mem pair later⟩

theorem memoryOf_holds (l7 : Octets) (behind : Memory) : Holds (memoryOf l7 behind) 0 l7 := by
  rw [DnsMessage.holds_iff]
  intro index inside
  rw [Nat.zero_add, memoryOf, if_pos inside]

/-- What is added from a reply that the walk keeps step with is in one of its answers. -/
theorem learned_contained (reply : Reply) (behind : Memory) (ipver : Nat) (ip : Ip)
    (kept : Answered (memoryOf reply.l7 behind) reply.l7.length reply.query →
      ∃ datagram, reply.l7 = datagram.encode ∧ Skipped datagram)
    (learned : (ipver, ip) ∈
      (processDnsReply (memoryOf reply.l7 behind) reply.l7.length reply.query).learned) :
    reply.Contains ipver ip := by
  by_cases answered : Answered (memoryOf reply.l7 behind) reply.l7.length reply.query
  · obtain ⟨datagram, octets, skipped⟩ := kept answered
    have held := memoryOf_holds reply.l7 behind
    rw [octets] at held answered learned
    rw [DnsAddresses.skipped_learned datagram _ skipped held reply.query answered] at learned
    obtain ⟨answer, listed, address⟩ := List.mem_filterMap.mp learned
    exact ⟨datagram, octets, answer, List.mem_of_mem_take listed, address⟩
  · rw [(DnsReply.processDnsReply_ignored _ _ reply.query answered).2] at learned
    cases learned

variable (state : State)

theorem newConnection_state (ndpi : Ndpi) (env : NewConnEnv) (tuple : Tuple) (uid : Int)
    (strdup : Bool) (entry : Ip × String) :
    (newConnection state ndpi env tuple uid strdup).1.replies = state.replies ∧
      (entry ∈ (newConnection state ndpi env tuple uid strdup).1.ipToHost.cache ↔
        entry ∈ state.ipToHost.cache) := by
  simp only [newConnection]
  split
  · exact ⟨rfl, Iff.rfl⟩
  · exact ⟨rfl, IpLru.find_mem state.ipToHost tuple.dstIp strdup entry⟩

theorem newConnection_host (ndpi : Ndpi) (env : NewConnEnv) (tuple : Tuple) (uid : Int)
    (strdup : Bool) (after : State) (ref : Ref)
    (made : newConnection state ndpi env tuple uid strdup = (after, some ref)) :
    (after.pd.heap ref).info = (state.ipToHost.find tuple.dstIp strdup).2 := by
  simp only [newConnection] at made
  split at made
  · cases made
  · next pd other outcome =>
      obtain ⟨rfl, same⟩ := Prod.mk.inj made
      obtain rfl := Option.some.inj same
      exact pdNewConnection_info ndpi _ state.pd tuple uid pd other outcome

variable (sourced : Sourced state)

include sourced

theorem step_sourced (event : Event) (clear : Unambiguous state event) :
    Sourced (step state event) := by
  cases event with
  | newConnection ndpi env tuple uid strdup =>
      intro ip host member
      obtain ⟨replies, cache⟩ := newConnection_state state ndpi env tuple uid strdup (ip, host)
      rw [step, replies]
      exact sourced ip host (cache.mp member)
  | packet ndpi result pctx behind allocs =>
      intro ip host member
      simp only [step, processPacket] at member ⊢
      split at member
      · exact sourced ip host member
      · next reply processed =>
          rcases addHosts_mem _ _ _ _ _ member with before | ⟨known, ipver, learned⟩
          · obtain ⟨earlier, listed, source⟩ := sourced ip host before
            exact ⟨earlier, List.mem_append_left _ listed, source⟩
          · exact ⟨reply, List.mem_append_right _ (List.mem_singleton.mpr rfl), known.symm, ipver,
              learned_contained reply behind ipver ip (clear reply processed) learned⟩
  | elsewhere pd => exact sourced

theorem step_attributes (event : Event) (clear : Unambiguous state event) :
    Attributes state event := by
  cases event with
  | newConnection ndpi env tuple uid strdup =>
      intro after ref host made info
      rw [newConnection_host state ndpi env tuple uid strdup after ref made] at info
      obtain ⟨reply, listed, query, ipver, contained⟩ :=
        sourced tuple.dstIp host (IpLru.find_host state.ipToHost tuple.dstIp strdup host info)
      exact ⟨reply, listed, query, clear reply listed ipver contained ▸ contained⟩
  | packet => trivial
  | elsewhere => trivial

omit sourced

/-- In a run whose replies are walked over right, and whose new connections go to addresses of which
    no reply had a record of the other IP version, each host comes from a record of its address. -/
theorem run_attributes (pd : Pd) (events : List Event)
    (clear : Machine.Along step Unambiguous (start pd) events) :
    Machine.Along step Attributes (start pd) events :=
  Machine.along_of_invariant step Unambiguous Attributes Sourced
    (fun state event sourced clear => step_sourced state sourced event clear)
    (fun state event sourced clear => step_attributes state sourced event clear)
    (start pd) events clear fun _ _ member => absurd member List.not_mem_nil

end Runs

section Example

open CaptureClient (idleConfig)

/-- A reply with an AAAA record is not shorter than header, root name, fixed fields and data. -/
theorem contains_ipver (reply : Reply) (ipver : Nat) (ip : Ip) (contains : reply.Contains ipver ip)
    (short : reply.l7.length < 39) : ipver = 4 := by
  obtain ⟨datagram, octets, answer, listed, address⟩ := contains
  obtain ⟨before, after, parts⟩ := List.append_of_mem listed
  have size := DnsAddresses.datagram_length datagram
  have name := DnsMessage.isName_length answer.name answer.named
  have data := DnsAddresses.encode_length answer
  rw [← octets, parts, List.flatMap_append, List.flatMap_cons, List.length_append,
    List.length_append, DnsAddresses.answersStart] at size
  rw [addressOf] at address
  split at address
  · exact (Prod.mk.inj (Option.some.inj address)).1.symm
  · split at address
    · next aaaa => omega
    · cases address

theorem one_short (octet : UInt8) : [octet].length ≤ 63 := show 1 ≤ 63 by decide

theorem two_short (first second : UInt8) : [first, second].length ≤ 63 := show 2 ≤ 63 by decide

/-- `a.aa` -/
theorem asked_named : DnsMessage.IsName [1, 97, 2, 97, 97, 0] :=
  .label [97] [2, 97, 97, 0] (List.cons_ne_nil _ _) (one_short 97)
    (.label [97, 97] [0] (List.cons_ne_nil _ _) (two_short 97 97) .root)

theorem marked : (0xC0 : UInt8) ≤ 0xC0 := by decide

def hostAnswer : DnsMessage.WireAnswer :=
  ⟨[0xC0, 12], .pointer 0xC0 12 marked, 1, 1, 300, [8, 8, 8, 8], DnsLearning.address_fits 8 8 8 8⟩

theorem one_query (query : DnsMessage.WireQuery) : [query].length < 65536 :=
  show 1 < 65536 by decide

theorem one_answer (answer : DnsMessage.WireAnswer) : [answer].length ≤ (1 : BitVec 16).toNat :=
  show 1 ≤ 1 by decide

/-- The host `a.aa` has the address 8.8.8.8. -/
def hostReply : Datagram where
  id := 0x1234
  flags := 0x8180
  response := DnsLearning.answer_response
  queries := [⟨[1, 97, 2, 97, 97, 0], asked_named, 1, 1⟩]
  announced := 1
  authorities := 0
  additionals := 0
  answers := [hostAnswer]
  rest := []
  fewQueries := one_query _
  fewAnswers := one_answer _

theorem hostReply_skipped : Skipped hostReply where
  queries query listed := by
    rw [List.mem_singleton.mp listed]
    exact ⟨[1, 97, 2, 97, 97], by decide, rfl⟩
  answers answer listed := by
    rw [List.mem_singleton.mp (List.mem_of_mem_take listed)]
    exact ⟨[], by decide, by decide, .inr ⟨12, rfl⟩⟩
  whole := .inr rfl

def dnsNdpi : Ndpi :=
  { CaptureClient.plainNdpi with
    processPacket flow := ({ flow with hostServerName := "a.aa" }, ⟨NDPI_PROTOCOL_DNS, 0⟩) }

def replyPacket : PktContext where
  pkt := { tuple := DnsExchange.dnsTuple, l7 := hostReply.encode }
  ms := 0
  isTx := false
  tuple := DnsExchange.dnsTuple
  data := 0

def resolution : List Event :=
  [.newConnection dnsNdpi {} DnsExchange.dnsTuple 10100 true,
    .packet dnsNdpi .noList replyPacket (fun _ => 0) []]

/-- A connection to the address with the bytes 8.8.8.8 and then zeros. -/
def visit (ipver : Nat) : Event :=
  .newConnection dnsNdpi {}
    ⟨CaptureClient.clientIp, CaptureClient.serverIp, 40001, 443, ipver, IPPROTO_TCP⟩ 10100 true

theorem resolution_replies : (Machine.run step (start idleConfig) resolution).replies =
    [⟨"a.aa", hostReply.encode⟩] := by decide +kernel

/-- The reply is too short for an AAAA record. -/
theorem resolution_contains (reply : Reply)
    (listed : reply ∈ (Machine.run step (start idleConfig) resolution).replies) (ipver : Nat)
    (ip : Ip) (contains : reply.Contains ipver ip) : ipver = 4 := by
  rw [resolution_replies] at listed
  refine contains_ipver reply ipver ip contains ?_
  rw [List.mem_singleton.mp listed]
  decide

theorem resolution_unambiguous :
    Machine.Along step Unambiguous (start idleConfig) (resolution ++ [visit 4]) := by
  refine ⟨fun reply listed => absurd listed List.not_mem_nil, ?_, ?_, trivial⟩
  · intro reply processed _
    obtain rfl : (⟨"a.aa", hostReply.encode⟩ : Reply) = reply :=
      Option.some.inj (Eq.trans (by decide +kernel) processed)
    exact ⟨hostReply, rfl, hostReply_skipped⟩
  · exact fun reply listed ipver contains =>
      resolution_contains reply listed ipver _ contains

/-- A connection over IPv4 gets the host of the reply. -/
theorem resolvedHost_attributed :
    Machine.Along step Unambiguous (start idleConfig) (resolution ++ [visit 4]) ∧
      Machine.Along step Attributes (start idleConfig) (resolution ++ [visit 4]) :=
  ⟨resolution_unambiguous,
    run_attributes idleConfig (resolution ++ [visit 4]) resolution_unambiguous⟩

/-- A connection to 808:808:: over IPv6 gets the host that has the IPv4 address 8.8.8.8. -/
theorem otherFamily_attributed :
    ¬ Machine.Along step Attributes (start idleConfig) (resolution ++ [visit 6]) := by
  rw [Machine.along_append]
  rintro ⟨-, attributes, -⟩
  obtain ⟨reply, listed, -, contains⟩ := attributes
    (step (Machine.run step (start idleConfig) resolution) (visit 6)) 1 "a.aa"
    (Prod.ext rfl (by decide +kernel)) (by decide +kernel)
  exact absurd (resolution_contains reply listed 6 _ contains) (by decide)

end Example

end Ptnet.HostAttribution
