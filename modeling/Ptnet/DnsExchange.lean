import Ptnet.LibpcapFrame
import Ptnet.TrafficFrame
import Ptnet.ZdtunPacket

/-!
The DNS messages of a UDP connection to port 53 in the libpcap capture. A run is watched with the
messages which every connection has seen so far, told apart by the QR bit of their headers; the
code counts the pending queries in one byte and closes the connection when that byte is 0 again.
-/

namespace Ptnet.DnsExchange

open Connection Pcapdroid LibpcapCapture
open ByteMemory (decodeLe)
open ZdtunPacket (slice)
open Detection (isDns)

/-- The QR bit. -/
def isResponse (l7 : List UInt8) : Bool := 128 ≤ (l7.getD 2 0).toNat

/-- The RA bit. -/
def recursionAvailable (l7 : List UInt8) : Bool := 128 ≤ (l7.getD 3 0).toNat

def Loaded (pkt : Pkt) : Prop := pkt.dnsFlags = BitVec.ofNat 16 (decodeLe (slice pkt.l7 2 2))

/-- The DNS message in a packet: `true` for a response. -/
def message (tuple : Tuple) (pkt : Pkt) : Option Bool :=
  if isDnsPacket tuple pkt && !pkt.isFragment then some (isResponse pkt.l7) else none

def pending (messages : List Bool) : Int := messages.count false - messages.count true

/-- The last message is a response, after which every query has been answered. -/
def Settled (messages : List Bool) : Prop :=
  messages.getLast? = some true ∧ messages.count false ≤ messages.count true

instance (messages : List Bool) : Decidable (Settled messages) :=
  inferInstanceAs (Decidable (_ ∧ _))

section Messages

variable (messages : List Bool)

theorem pending_query : pending (messages ++ [false]) = pending messages + 1 := by
  simp [pending]
  omega

theorem pending_response : pending (messages ++ [true]) = pending messages - 1 := by
  simp [pending]
  omega

theorem settled_query : ¬ Settled (messages ++ [false]) := by simp [Settled]

theorem settled_response : Settled (messages ++ [true]) ↔ pending (messages ++ [true]) ≤ 0 := by
  simp [Settled, pending]
  omega

end Messages

section Flags

theorem parsed_loaded (id2ports : ZdtunPacket.Id2ports) (buf : List UInt8) (pkt : Pkt)
    (parsed : (ZdtunPacket.zdtunParsePkt id2ports buf).2 = some pkt) : Loaded pkt := by
  unfold ZdtunPacket.zdtunParsePkt at parsed
  split at parsed
  · cases parsed
  · simp only at parsed
    split at parsed
    · obtain rfl := Option.some.inj parsed
      rfl
    · split at parsed
      · cases parsed
      · obtain rfl := Option.some.inj parsed
        rfl

theorem topBit (flags : BitVec 16) :
    flags &&& DNS_FLAGS_MASK = if 32768 ≤ flags.toNat then DNS_TYPE_RESPONSE else DNS_TYPE_REQUEST := by
  have mask : DNS_FLAGS_MASK = BitVec.twoPow 16 15 := by decide
  have bounded := flags.isLt
  have top : flags.getLsbD 15 = decide (32768 ≤ flags.toNat) := by
    rw [BitVec.getLsbD, Nat.testBit_eq_decide_div_mod_eq]
    apply decide_eq_decide.mpr
    omega
  rw [mask, BitVec.and_twoPow, top]
  simp only [decide_eq_true_eq]
  rfl

/-- The mask meets the top bit of the second byte of the flags, which is RA. -/
theorem loaded_flags (pkt : Pkt) (loaded : Loaded pkt) (long : DNS_PACKET_SIZE ≤ pkt.l7.length) :
    pkt.dnsFlags &&& DNS_FLAGS_MASK =
      if recursionAvailable pkt.l7 then DNS_TYPE_RESPONSE else DNS_TYPE_REQUEST := by
  rw [topBit, loaded]
  match l7 : pkt.l7, long with
  | first :: second :: low :: high :: rest, _ =>
    have lowBound := low.toNat_lt
    have highBound := high.toNat_lt
    have value : decodeLe (slice (first :: second :: low :: high :: rest) 2 2) =
        low.toNat + 256 * high.toNat := by simp [slice, decodeLe]
    have top : 32768 ≤ (BitVec.ofNat 16 (low.toNat + 256 * high.toNat)).toNat ↔
        128 ≤ high.toNat := by
      rw [BitVec.toNat_ofNat, Nat.mod_eq_of_lt (by omega)]
      omega
    simp only [value, top, recursionAvailable, List.getD_cons_succ, List.getD_cons_zero,
      decide_eq_true_eq]

end Flags

section Records

variable (tuple : Tuple) (pkt : Pkt) (isTx : Bool) (data : PdConn)

structure Counted (data : PdConn) (messages : List Bool) : Prop where
  unclosed : data.status.isClosed = false
  count : (data.lastAck.toNat : Int) = pending messages
  unsettled : ¬ Settled messages

theorem Counted.of_traffic {data other : PdConn} {messages : List Bool}
    (counted : Counted data messages) (same : traffic other = traffic data) :
    Counted other messages := by
  simp only [traffic, Traffic.mk.injEq] at same
  exact ⟨same.1 ▸ counted.unclosed, same.2.1 ▸ counted.count, counted.unsettled⟩

def connect (data : PdConn) : PdConn :=
  if data.status.code < ConnStatus.connected.code then { data with status := .connected } else data

theorem connect_unclosed (unclosed : data.status.isClosed = false) :
    (connect data).status.isClosed = false := by
  unfold connect
  split
  · rfl
  · exact unclosed

theorem connect_lastAck : (connect data).lastAck = data.lastAck := by
  unfold connect
  split <;> rfl

variable (dns : isDns tuple = true) (unclosed : data.status.isClosed = false)

include dns unclosed

theorem recordStatus_dns :
    recordStatus tuple pkt isTx data =
      if pkt.isFragment then (data, false) else updateUdpStatus tuple pkt data := by
  have udp : tuple.ipproto = IPPROTO_UDP := by
    simp only [isDns, Bool.and_eq_true, decide_eq_true_eq] at dns
    exact dns.1
  have other : ¬ IPPROTO_UDP = IPPROTO_TCP := by decide
  simp [recordStatus, unclosed, udp, other]

theorem recordStatus_silent (silent : message tuple pkt = none) :
    recordStatus tuple pkt isTx data = (data, false) ∨
      recordStatus tuple pkt isTx data = (connect data, false) := by
  rw [recordStatus_dns tuple pkt isTx data dns unclosed]
  by_cases fragment : pkt.isFragment
  · exact Or.inl (if_pos fragment)
  · rw [if_neg fragment]
    have short : isDnsPacket tuple pkt = false := by
      simpa [message, fragment] using silent
    exact Or.inr (by simp [updateUdpStatus, short, connect])

theorem recordStatus_message (kind : Bool) (brought : message tuple pkt = some kind)
    (loaded : Loaded pkt) :
    recordStatus tuple pkt isTx data =
      if recursionAvailable pkt.l7 then
        if data.lastAck - 1 = 0 then
          ({ connect data with lastAck := data.lastAck - 1, status := .closed, toPurge := true }, true)
        else ({ connect data with lastAck := data.lastAck - 1 }, false)
      else ({ connect data with lastAck := data.lastAck + 1 }, false) := by
  have whole : isDnsPacket tuple pkt = true ∧ pkt.isFragment = false := by
    by_contra other
    have none' : message tuple pkt = none := by
      simp only [message, ite_eq_right_iff, Bool.and_eq_true, Bool.not_eq_true']
      exact fun both => absurd both other
    rw [none'] at brought
    cases brought
  have long : DNS_PACKET_SIZE ≤ pkt.l7.length := by
    have parts := whole.1
    simp only [isDnsPacket, Bool.and_eq_true, decide_eq_true_eq] at parts
    exact parts.1.2
  rw [recordStatus_dns tuple pkt isTx data dns unclosed, if_neg (by simp [whole.2])]
  have flags := loaded_flags pkt loaded long
  have lastAck := connect_lastAck data
  unfold connect at lastAck ⊢
  simp only [updateUdpStatus, whole.1, if_true, flags, lastAck]
  cases recursionAvailable pkt.l7 with
  | true =>
    have differ : ¬ DNS_TYPE_RESPONSE = DNS_TYPE_REQUEST := by decide
    simp [differ]
  | false => simp

end Records

theorem byte_next (count : BitVec 8) (room : count.toNat < 255) :
    (count + 1).toNat = count.toNat + 1 := by
  have one : (1 : BitVec 8).toNat = 1 := rfl
  rw [BitVec.toNat_add, one]
  omega

theorem byte_previous (count : BitVec 8) (positive : 0 < count.toNat) :
    (count - 1).toNat = count.toNat - 1 := by
  have one : (1 : BitVec 8).toNat = 1 := rfl
  have bounded := count.isLt
  rw [BitVec.toNat_sub, one]
  omega

theorem byte_zero (count : BitVec 8) : count = 0 ↔ count.toNat = 0 :=
  ⟨fun zero => by rw [zero]; rfl, fun zero => BitVec.eq_of_toNat_eq zero⟩

/-- A message that the code counts as it should: RA is set as QR is, a response comes while a
    query is pending, and the byte has room for another query. -/
structure Timely (messages : List Bool) (pkt : Pkt) : Prop where
  flags : recursionAvailable pkt.l7 = isResponse pkt.l7
  asked : isResponse pkt.l7 = true → 0 < pending messages
  room : isResponse pkt.l7 = false → pending messages < 255

instance (messages : List Bool) (pkt : Pkt) : Decidable (Timely messages pkt) :=
  decidable_of_iff (recursionAvailable pkt.l7 = isResponse pkt.l7 ∧
      (isResponse pkt.l7 = true → 0 < pending messages) ∧
      (isResponse pkt.l7 = false → pending messages < 255))
    ⟨fun timely => ⟨timely.1, timely.2.1, timely.2.2⟩,
      fun timely => ⟨timely.flags, timely.asked, timely.room⟩⟩

theorem message_kind (tuple : Tuple) (pkt : Pkt) (kind : Bool)
    (brought : message tuple pkt = some kind) : isResponse pkt.l7 = kind := by
  unfold message at brought
  split at brought
  · exact Option.some.inj brought
  · cases brought

/-- What the record of a connection becomes with a packet; the result tells whether the connection
    is removed. -/
structure Follows (after : PdConn × Bool) (messages : List Bool) : Prop where
  settled : after.2 = true ↔ Settled messages
  closed : after.2 = true → after.1.status = .closed
  counted : after.2 = false → Counted after.1 messages

section Status

variable (tuple : Tuple) (pkt : Pkt) (isTx : Bool) (data : PdConn) (messages : List Bool)
variable (dns : isDns tuple = true) (counted : Counted data messages) (loaded : Loaded pkt)

include dns counted loaded

theorem recordStatus_follows
    (timely : ∀ kind, message tuple pkt = some kind → Timely messages pkt) :
    Follows (recordStatus tuple pkt isTx data) (messages ++ (message tuple pkt).toList) := by
  cases brought : message tuple pkt with
  | none =>
    rw [Option.toList_none, List.append_nil]
    have connected : Counted (connect data) messages :=
      ⟨connect_unclosed data counted.unclosed, connect_lastAck data ▸ counted.count,
        counted.unsettled⟩
    rcases recordStatus_silent tuple pkt isTx data dns counted.unclosed brought with same | same
    · rw [same]
      exact ⟨by simpa using counted.unsettled, by simp, fun _ => counted⟩
    · rw [same]
      exact ⟨by simpa using counted.unsettled, by simp, fun _ => connected⟩
  | some kind =>
    have good := timely kind brought
    have kind' := message_kind tuple pkt kind brought
    have count := counted.count
    rw [recordStatus_message tuple pkt isTx data dns counted.unclosed kind brought loaded,
      good.flags, kind', Option.toList_some]
    cases kind with
    | false =>
      have room := good.room kind'
      have next := byte_next data.lastAck (by omega)
      rw [if_neg Bool.false_ne_true]
      refine ⟨by simpa using settled_query messages, by simp, fun _ => ?_⟩
      refine ⟨connect_unclosed data counted.unclosed, ?_, settled_query messages⟩
      rw [pending_query, ← count]
      exact congrArg Nat.cast next
    | true =>
      have asked := good.asked kind'
      have next := byte_previous data.lastAck (by omega)
      have left : ((data.lastAck - 1).toNat : Int) = pending (messages ++ [true]) := by
        rw [pending_response, next]
        omega
      have last : data.lastAck - 1 = 0 ↔ Settled (messages ++ [true]) := by
        rw [settled_response, ← left, byte_zero]
        omega
      by_cases done : data.lastAck - 1 = 0
      · rw [if_pos rfl, if_pos done]
        exact ⟨by simpa using last.mp done, fun _ => rfl, by simp⟩
      · rw [if_pos rfl, if_neg done]
        refine ⟨by simpa using mt last.mpr done, by simp, fun _ => ?_⟩
        exact ⟨connect_unclosed data counted.unclosed, left, mt last.mpr done⟩

/-- A message which the code does not count as it should is not followed. -/
theorem recordStatus_timely (kind : Bool) (brought : message tuple pkt = some kind)
    (follows : Follows (recordStatus tuple pkt isTx data) (messages ++ [kind])) :
    Timely messages pkt := by
  have kind' := message_kind tuple pkt kind brought
  have count := counted.count
  have bounded := data.lastAck.isLt
  rw [recordStatus_message tuple pkt isTx data dns counted.unclosed kind brought loaded] at follows
  cases available : recursionAvailable pkt.l7 with
  | false =>
    -- The code has counted a query.
    rw [available, if_neg Bool.false_ne_true] at follows
    have next : ((data.lastAck + 1).toNat : Int) = pending (messages ++ [kind]) :=
      (follows.counted rfl).count
    have unsettled := (follows.counted rfl).unsettled
    have one : (1 : BitVec 8).toNat = 1 := rfl
    rw [BitVec.toNat_add, one] at next
    cases kind with
    | false =>
      rw [pending_query] at next
      exact ⟨available.trans kind'.symm, fun response => by simp [kind'] at response,
        fun _ => by omega⟩
    | true =>
      rw [settled_response] at unsettled
      rw [pending_response] at next unsettled
      omega
  | true =>
    rw [available, if_pos rfl] at follows
    have one : (1 : BitVec 8).toNat = 1 := rfl
    by_cases done : data.lastAck - 1 = 0
    · rw [if_pos done] at follows
      have settled := follows.settled.mp rfl
      cases kind with
      | false => exact absurd settled (settled_query messages)
      | true =>
        have single : data.lastAck.toNat = 1 := by
          rw [byte_zero, BitVec.toNat_sub, one] at done
          omega
        exact ⟨available.trans kind'.symm, fun _ => by omega, fun query => by simp [kind'] at query⟩
    · rw [if_neg done] at follows
      have next : ((data.lastAck - 1).toNat : Int) = pending (messages ++ [kind]) :=
        (follows.counted rfl).count
      have unsettled := (follows.counted rfl).unsettled
      rw [BitVec.toNat_sub, one] at next
      cases kind with
      | false =>
        rw [pending_query] at next
        omega
      | true =>
        rw [settled_response] at unsettled
        rw [pending_response] at next unsettled
        exact ⟨available.trans kind'.symm, fun _ => by omega, fun query => by simp [kind'] at query⟩

end Status

section Runs

structure Watched where
  lib : Libpcap
  messages : Ref → List Bool := fun _ => []

/-- The packet an event brings, with the connection it is attributed to. -/
def brought (state : Libpcap) : Event → Option (Slot × Pkt)
  | .packet arrival =>
      (attribution arrival state).bind fun found =>
        arrival.parsed.map fun parsed => (found.1, orient found.2 parsed)
  | _ => none

def watch (watched : Watched) (event : Event) : Watched where
  lib := step watched.lib event
  messages :=
    match brought watched.lib event with
    | some (conn, pkt) =>
        Function.update watched.messages conn.data
          (watched.messages conn.data ++ (message conn.tuple pkt).toList)
    | none => watched.messages

/-- The flags of the packet the event brings are loaded as on a little-endian host. -/
def Loads (watched : Watched) (event : Event) : Prop :=
  ∀ conn pkt, brought watched.lib event = some (conn, pkt) → Loaded pkt

/-- The messages the event brings are ones that the code counts as it should. -/
def Regular (watched : Watched) (event : Event) : Prop :=
  ∀ conn pkt kind, brought watched.lib event = some (conn, pkt) →
    message conn.tuple pkt = some kind → Timely (watched.messages conn.data) pkt

instance (watched : Watched) (event : Event) : Decidable (Regular watched event) :=
  decidable_of_iff (∀ found ∈ brought watched.lib event,
      (message found.1.tuple found.2).isSome = true →
        Timely (watched.messages found.1.data) found.2)
    ⟨fun regular conn pkt kind brings counted =>
        regular (conn, pkt) brings (by rw [counted]; rfl),
      fun regular found brings counted =>
        have ⟨kind, same⟩ := Option.isSome_iff_exists.mp counted
        regular found.1 found.2 kind brings same⟩

/-- The records of the connections in the table agree with the messages. -/
structure Tracks (watched : Watched) : Prop extends Numbered watched.lib where
  unseen : ∀ ref, watched.lib.pd.created ≤ ref → watched.messages ref = []
  counted : ∀ conn ∈ watched.lib.connections, isDns conn.tuple = true →
    Counted (watched.lib.pd.heap conn.data) (watched.messages conn.data)

/-- A connection whose exchange is over is closed and out of the table; the others are counted
    right, and stay in the table unless they are purged. -/
structure ClosesOnTime (before : Watched) (event : Event) : Prop where
  counted : ∀ conn ∈ (watch before event).lib.connections, isDns conn.tuple = true →
    Counted ((watch before event).lib.pd.heap conn.data) ((watch before event).messages conn.data)
  closed : ∀ conn ∈ before.lib.connections, isDns conn.tuple = true →
    Settled ((watch before event).messages conn.data) →
      ((watch before event).lib.pd.heap conn.data).status = .closed ∧
        conn ∉ (watch before event).lib.connections
  stays : (∀ ndpi, event ≠ .purgeIfDue ndpi) → ∀ conn ∈ before.lib.connections,
    isDns conn.tuple = true → ¬ Settled ((watch before event).messages conn.data) →
      conn ∈ (watch before event).lib.connections

section Served

variable {watched : Watched} {pkt : Pkt} {isTx : Bool} {conn : Slot} {lib : Libpcap} {data : PdConn}
variable (tracks : Tracks watched)
variable (served : LibpcapCapture.Served SameTraffic watched.lib pkt isTx conn lib data)
variable (listed : conn ∈ watched.lib.connections)

include tracks served listed

theorem served_counted (dns : isDns conn.tuple = true) :
    Counted data (watched.messages conn.data) := by
  have counted := tracks.counted conn listed dns
  have stamped : Counted { watched.lib.pd.heap conn.data with
      lastUpdateMs := watched.lib.pd.nowMs } (watched.messages conn.data) :=
    ⟨counted.unclosed, counted.count, counted.unsettled⟩
  exact stamped.of_traffic served.stamped.traffic

variable (loaded : Loaded pkt)
variable (messages : Ref → List Bool)
variable (extended : messages = Function.update watched.messages conn.data
  (watched.messages conn.data ++ (message conn.tuple pkt).toList))

include loaded extended

theorem served_follows (timely : ∀ kind, message conn.tuple pkt = some kind →
      Timely (watched.messages conn.data) pkt) :
    Tracks ⟨lib, messages⟩ ∧
      ∀ other ∈ watched.lib.connections, isDns other.tuple = true →
        (Settled (messages other.data) →
          (lib.pd.heap other.data).status = .closed ∧ other ∉ lib.connections) ∧
        (¬ Settled (messages other.data) → other ∈ lib.connections) := by
  have otherMessages : ∀ ref, ref ≠ conn.data → messages ref = watched.messages ref := by
    intro ref apart
    rw [extended, Function.update_of_ne apart]
  -- Only the messages of this connection get one more.
  have follows : isDns conn.tuple = true →
      Follows (recordStatus conn.tuple pkt isTx data) (messages conn.data) := by
    intro dns
    rw [extended, Function.update_self]
    exact recordStatus_follows conn.tuple pkt isTx data _ dns (served_counted tracks served listed dns)
      loaded timely
  refine ⟨⟨tracks.fewer served.fewer served.created, ?_, ?_⟩, ?_⟩
  · intro ref unborn
    have fresh : watched.lib.pd.created ≤ ref := served.created ▸ unborn
    have apart : ref ≠ conn.data := fun same =>
      absurd (tracks.born conn listed) (Nat.not_lt.mpr (same ▸ fresh))
    exact (otherMessages ref apart).trans (tracks.unseen ref fresh)
  · intro other member dns
    by_cases same : other.data = conn.data
    · obtain rfl := tracks.same_of_ref listed (served.fewer.subset member) same
      have kept : (recordStatus other.tuple pkt isTx data).2 = false := by
        by_contra settled
        exact served.removed (by simpa using settled) member
      exact ((follows dns).counted kept).of_traffic served.own.traffic
    · simp only [otherMessages _ same]
      exact (tracks.counted other (served.fewer.subset member) dns).of_traffic (served.others _ same).traffic
  · intro other member dns
    by_cases same : other.data = conn.data
    · obtain rfl := tracks.same_of_ref listed member same
      constructor
      · intro settled
        have answered := (follows dns).settled.mpr settled
        have status := congrArg Traffic.status served.own.traffic
        exact ⟨status.trans ((follows dns).closed answered), served.removed answered⟩
      · intro unsettled
        have kept : (recordStatus other.tuple pkt isTx data).2 = false := by
          by_contra answered
          exact unsettled ((follows dns).settled.mp (by simpa using answered))
        exact served.remains other member (Or.inr kept)
    · rw [otherMessages _ same]
      exact ⟨fun settled => absurd settled (tracks.counted other member dns).unsettled,
        fun _ => served.remains other member (Or.inl same)⟩

/-- A message after which the connection is as it should be was counted as it should be. -/
theorem served_timely (kind : Bool) (brought : message conn.tuple pkt = some kind)
    (dns : isDns conn.tuple = true)
    (counted : conn ∈ lib.connections → Counted (lib.pd.heap conn.data) (messages conn.data))
    (closed : Settled (messages conn.data) →
      (lib.pd.heap conn.data).status = .closed ∧ conn ∉ lib.connections)
    (stays : ¬ Settled (messages conn.data) → conn ∈ lib.connections) :
    Timely (watched.messages conn.data) pkt := by
  have kept : (recordStatus conn.tuple pkt isTx data).2 = false → conn ∈ lib.connections :=
    fun unanswered => served.remains conn listed (Or.inr unanswered)
  have follows : Follows (recordStatus conn.tuple pkt isTx data) (messages conn.data) := by
    refine ⟨⟨?_, ?_⟩, ?_, ?_⟩
    · intro answered
      by_contra unsettled
      exact served.removed answered (stays unsettled)
    · intro settled
      by_contra unanswered
      exact (closed settled).2 (kept (by simpa using unanswered))
    · intro answered
      have settled : Settled (messages conn.data) := by
        by_contra unsettled
        exact served.removed answered (stays unsettled)
      exact (congrArg Traffic.status served.own.traffic).symm.trans (closed settled).1
    · intro unanswered
      exact (counted (kept unanswered)).of_traffic served.own.traffic.symm
  rw [extended, Function.update_self, brought, Option.toList_some] at follows
  exact recordStatus_timely conn.tuple pkt isTx data _ dns (served_counted tracks served listed dns) loaded kind brought
    follows

end Served

theorem quiet_follows (watched : Watched) (tracks : Tracks watched) (lib : Libpcap)
    (kept : Kept SameTraffic watched.lib lib) : Tracks ⟨lib, watched.messages⟩ where
  toNumbered := tracks.fewer kept.table kept.created
  unseen ref unborn := tracks.unseen ref (kept.created ▸ unborn)
  counted conn member dns :=
    (tracks.counted conn (kept.table.subset member) dns).of_traffic (kept.records conn member).traffic

theorem created_follows (watched : Watched) (tracks : Tracks watched) (lib : Libpcap)
    (fresh : List Slot) (table : lib.connections = watched.lib.connections ++ fresh)
    (records : Created SameTraffic watched.lib.pd lib.pd)
    (named : fresh = [] ∨ ∃ tuple, fresh = [⟨tuple, watched.lib.pd.created⟩]) :
    Tracks ⟨lib, watched.messages⟩ := by
  have names : ∀ conn ∈ fresh, conn.data = watched.lib.pd.created := by
    rcases named with rfl | ⟨tuple, rfl⟩ <;> simp
  refine ⟨tracks.joined fresh table records.created named, ?_, ?_⟩
  · intro ref unborn
    have one := records.created
    simp only at unborn
    exact tracks.unseen ref (by omega)
  · intro conn member dns
    rcases List.mem_append.mp (table ▸ member) with old | new
    · exact (tracks.counted conn old dns).of_traffic
        (records.others conn.data (tracks.older conn old)).traffic
    · have none' := tracks.unseen conn.data (Nat.le_of_eq (names conn new).symm)
      have blank : Counted freshConn [] := ⟨rfl, rfl, by decide⟩
      simp only [none']
      exact blank.of_traffic (names conn new ▸ records.fresh.traffic)

theorem message_dns (tuple : Tuple) (pkt : Pkt) (kind : Bool)
    (brought : message tuple pkt = some kind) : isDns tuple = true := by
  unfold message at brought
  split at brought
  · next both =>
    simp only [isDnsPacket, Bool.and_eq_true, decide_eq_true_eq] at both
    simp [isDns, both.1.1.1, both.1.2]
  · cases brought

/-- The first message of a connection never removes it. -/
theorem recordStatus_first (tuple : Tuple) (pkt : Pkt) (isTx : Bool) (data : PdConn) (kind : Bool)
    (brought : message tuple pkt = some kind) (counted : Counted data []) (loaded : Loaded pkt) :
    (recordStatus tuple pkt isTx data).2 = false := by
  have zero : data.lastAck = 0 := by
    rw [byte_zero]
    have count := counted.count
    simp only [pending, List.count_nil, Nat.cast_zero, sub_zero] at count
    omega
  rw [recordStatus_message tuple pkt isTx data (message_dns tuple pkt kind brought) counted.unclosed
    kind brought loaded, zero]
  cases recursionAvailable pkt.l7 with
  | false => rfl
  | true => rfl

section Steps

variable (watched : Watched) (tracks : Tracks watched)

theorem watch_packet (arrival : Arrival) (conn : Slot) (isTx : Bool) (parsed : Pkt)
    (present : arrival.parsed = some parsed)
    (attributed : attribution arrival watched.lib = some (conn, isTx)) :
    brought watched.lib (.packet arrival) = some (conn, orient isTx parsed) ∧
      watch watched (.packet arrival) =
        ⟨(handlePacket arrival watched.lib).1, Function.update watched.messages conn.data
          (watched.messages conn.data ++ (message conn.tuple (orient isTx parsed)).toList)⟩ := by
  have packet : brought watched.lib (.packet arrival) = some (conn, orient isTx parsed) := by
    simp [brought, attributed, present]
  exact ⟨packet, by simp [watch, packet, step]⟩

theorem loads_parsed (arrival : Arrival) (id2ports : ZdtunPacket.Id2ports) (buf : List UInt8)
    (parsed : arrival.parsed = (ZdtunPacket.zdtunParsePkt id2ports buf).2) :
    Loads watched (.packet arrival) := by
  intro conn pkt packet
  obtain ⟨found, -, present⟩ := Option.bind_eq_some_iff.mp packet
  obtain ⟨plain, is, same⟩ := Option.map_eq_some_iff.mp present
  obtain ⟨-, rfl⟩ := Prod.mk.inj same
  exact parsed_loaded id2ports buf plain (parsed.symm.trans is)

include tracks

theorem packet_follows (arrival : Arrival) (loads : Loads watched (.packet arrival)) :
    (ClosesOnTime watched (.packet arrival) ↔ Regular watched (.packet arrival)) ∧
      (Regular watched (.packet arrival) → Tracks (watch watched (.packet arrival))) := by
  rcases handlePacket_handled traffic_frame.toQuietCreation describeConn_traffic arrival watched.lib with
    ⟨unattributed, same⟩ | ⟨conn, isTx, parsed, present, attributed, listed, handled⟩ |
    ⟨conn, isTx, parsed, opened, present, attributed, ref, records, table, handled⟩
  -- No connection takes the packet: it brings no message.
  · have silent : brought watched.lib (.packet arrival) = none := by simp [brought, unattributed]
    have after : watch watched (.packet arrival) =
        ⟨(handlePacket arrival watched.lib).1, watched.messages⟩ := by
      simp [watch, silent, step]
    have next : Tracks ⟨(handlePacket arrival watched.lib).1, watched.messages⟩ := by
      rcases same.records with unchanged | created
      · refine quiet_follows watched tracks _ (Kept.of_framed same.table ?_)
        rw [unchanged]
        exact traffic_frame.unchanged _
      · exact created_follows watched tracks _ [] (by simp [same.table]) created (Or.inl rfl)
    have regular : Regular watched (.packet arrival) := by
      intro conn pkt kind packet
      rw [silent] at packet
      cases packet
    refine ⟨iff_of_true ⟨after ▸ next.counted, ?_, ?_⟩ regular, fun _ => after ▸ next⟩
    · intro conn member dns settled
      rw [after] at settled
      exact absurd settled (tracks.counted conn member dns).unsettled
    · intro _ conn member _ _
      rw [after]
      exact same.table ▸ member
  · obtain ⟨packet, after⟩ := watch_packet watched arrival conn isTx parsed present attributed
    have loaded := loads conn _ packet
    obtain ⟨data, served⟩ := handleConnection_served traffic_frame.toRecordFrame arrival
      (orient isTx parsed) isTx watched.lib conn
    rw [← handled] at served
    have forward := served_follows tracks served listed loaded _ rfl
    refine ⟨⟨?_, ?_⟩, ?_⟩
    · intro closes other pkt kind brought' message'
      obtain ⟨rfl, rfl⟩ := Prod.mk.inj (Option.some.inj (packet.symm.trans brought'))
      have dns := message_dns _ _ kind message'
      have counted := closes.counted conn
      have closed := closes.closed conn listed dns
      have stays := closes.stays (fun _ => Event.noConfusion) conn listed dns
      rw [after] at counted closed stays
      exact served_timely tracks served listed loaded _ rfl kind message' dns
        (fun member => counted member dns) closed stays
    · intro regular
      obtain ⟨next, exchange⟩ := forward fun kind => regular conn _ kind packet
      refine ⟨after ▸ next.counted, ?_, ?_⟩
      · exact fun other member dns => after ▸ (exchange other member dns).1
      · exact fun _ other member dns => after ▸ (exchange other member dns).2
    · exact fun regular => after ▸ (forward fun kind => regular conn _ kind packet).1
  · obtain ⟨packet, after⟩ := watch_packet watched arrival conn isTx parsed present attributed
    have loaded := loads conn _ packet
    -- The record of the new connection is fresh, so that it joins the table with no messages.
    have joined : Tracks ⟨opened, watched.messages⟩ := by
      refine created_follows watched tracks opened [conn] table records (Or.inr ⟨conn.tuple, ?_⟩)
      rw [← ref]
    have member : ∀ other ∈ watched.lib.connections ++ [conn], other ∈ opened.connections :=
      fun other listed => table ▸ listed
    have listed : conn ∈ opened.connections := member conn (by simp)
    obtain ⟨data, served⟩ := handleConnection_served traffic_frame.toRecordFrame arrival
      (orient isTx parsed) isTx opened conn
    rw [← handled] at served
    have forward := served_follows joined served listed loaded _ rfl
    refine ⟨⟨?_, ?_⟩, ?_⟩
    · intro closes other pkt kind brought' message'
      obtain ⟨rfl, rfl⟩ := Prod.mk.inj (Option.some.inj (packet.symm.trans brought'))
      have dns := message_dns _ _ kind message'
      have blank : watched.messages conn.data = [] :=
        tracks.unseen conn.data (Nat.le_of_eq ref.symm)
      have fresh := served_counted joined served listed dns
      simp only [blank] at fresh
      have first := recordStatus_first conn.tuple (orient isTx parsed) isTx data kind message' fresh
        loaded
      have stays := served.remains conn listed (Or.inr first)
      have counted := closes.counted conn (after ▸ stays) dns
      rw [after] at counted
      -- The first message settles nothing, so that only the count is left to compare.
      have timely := served_timely joined served listed loaded _ rfl kind message' dns (fun _ => counted)
        (fun settled => absurd settled counted.unsettled) fun _ => stays
      exact timely
    · intro regular
      obtain ⟨next, exchange⟩ := forward fun kind => regular conn _ kind packet
      refine ⟨after ▸ next.counted, ?_, ?_⟩
      · exact fun other known dns =>
          after ▸ (exchange other (member other (List.mem_append_left _ known)) dns).1
      · exact fun _ other known dns =>
          after ▸ (exchange other (member other (List.mem_append_left _ known)) dns).2
    · exact fun regular => after ▸ (forward fun kind => regular conn _ kind packet).1

/-- A step closes the connections on time exactly if its message is counted as it should be. -/
theorem step_follows (event : Event) (loads : Loads watched event) :
    (ClosesOnTime watched event ↔ Regular watched event) ∧
      (Regular watched event → Tracks (watch watched event)) := by
  -- A step without a packet keeps every connection that it leaves in the table.
  have quiet : (silent : brought watched.lib event = none) →
      (∀ arrival, event ≠ .packet arrival) →
      ((∀ ndpi, event ≠ .purgeIfDue ndpi) →
        (step watched.lib event).connections = watched.lib.connections) →
      (ClosesOnTime watched event ↔ Regular watched event) ∧
        (Regular watched event → Tracks (watch watched event)) := by
    intro silent unpacketed table
    have kept := step_kept traffic_frame.toQuietFrame watched.lib event unpacketed
    have after : watch watched event = ⟨step watched.lib event, watched.messages⟩ := by
      simp [watch, silent]
    have next := quiet_follows watched tracks _ kept
    have regular : Regular watched event := by
      intro conn pkt kind packet
      rw [silent] at packet
      cases packet
    refine ⟨iff_of_true ⟨after ▸ next.counted, ?_, ?_⟩ regular, fun _ => after ▸ next⟩
    · intro conn member dns settled
      rw [after] at settled
      exact absurd settled (tracks.counted conn member dns).unsettled
    · intro unpurged conn member _ _
      rw [after]
      exact (table unpurged).symm ▸ member
  cases event with
  | packet arrival => exact packet_follows watched tracks arrival loads
  | refreshTime nowMs => exact quiet rfl (fun _ => Event.noConfusion) fun _ => rfl
  | allocator reallocs => exact quiet rfl (fun _ => Event.noConfusion) fun _ => rfl
  | request wanted => exact quiet rfl (fun _ => Event.noConfusion) fun _ => rfl
  | housekeeping pass => exact quiet rfl (fun _ => Event.noConfusion) fun _ => rfl
  | purgeIfDue ndpi => exact quiet rfl (fun _ => Event.noConfusion) fun unpurged => (unpurged ndpi rfl).elim

end Steps

def opening (config : Pd) (pcapFileCapture : Bool) : Watched := { lib := start config pcapFileCapture }

theorem opening_tracks (config : Pd) (pcapFileCapture : Bool) :
    Tracks (opening config pcapFileCapture) where
  toNumbered := start_numbered config pcapFileCapture
  unseen _ _ := rfl
  counted _ member := absurd member (List.not_mem_nil)

/-- Every DNS connection of a run is counted right, and is closed and taken out of the table by the
    first response after which all queries are answered and not before, exactly if every message
    has RA as QR, answers a pending query if it is a response, and comes while fewer than 255
    queries are pending if it is a query. -/
theorem exchange_closes_iff (config : Pd) (pcapFileCapture : Bool) (events : List Event)
    (loads : Machine.Along watch Loads (opening config pcapFileCapture) events) :
    Machine.Along watch ClosesOnTime (opening config pcapFileCapture) events ↔
      Machine.Along watch Regular (opening config pcapFileCapture) events := by
  have tracks := opening_tracks config pcapFileCapture
  revert loads tracks
  generalize opening config pcapFileCapture = watched
  intro loads tracks
  induction events generalizing watched with
  | nil => exact Iff.rfl
  | cons event rest ih =>
    obtain ⟨closes, next⟩ := step_follows watched tracks event loads.1
    simp only [Machine.along_cons, closes]
    exact and_congr_right fun regular => ih (watch watched event) loads.2 (next regular)

end Runs

section Example

open CaptureClient (idleConfig)

def dnsTuple : Tuple := ⟨CaptureClient.clientIp, CaptureClient.serverIp, 40000, 53, 4, IPPROTO_UDP⟩

/-- The IPv4 packet with a DNS header of the given flags, from the client or to it. -/
def dnsBytes (isTx : Bool) (flags : List UInt8) : List UInt8 :=
  let client := [10, 0, 0, 1]
  let server := [8, 8, 8, 8]
  [0x45, 0, 0, 40, 0, 0, 0, 0, 64, 17, 0, 0] ++
    (if isTx then client ++ server ++ [0x9C, 0x40, 0, 53] else server ++ client ++ [0, 53, 0x9C, 0x40])
    ++ [0, 20, 0, 0, 0x12, 0x34] ++ flags ++ [0, 1, 0, 0, 0, 0, 0, 0]

def dnsEvent (isTx : Bool) (flags : List UInt8) : Event :=
  .packet
    { hdr := ⟨10100, isTx, 0, none, none⟩
      parsed := (ZdtunPacket.zdtunParsePkt (fun _ => (0, 0)) (dnsBytes isTx flags)).2
      ndpi := CaptureClient.plainNdpi }

/-- A query, and the answer of a resolver that offers recursion. -/
def recursiveExchange : List Event := [dnsEvent true [0x01, 0x00], dnsEvent false [0x81, 0x80]]

theorem recursiveExchange_closes :
    Machine.Along watch ClosesOnTime (opening idleConfig false) recursiveExchange :=
  have loads : Machine.Along watch Loads (opening idleConfig false) recursiveExchange :=
    ⟨loads_parsed _ _ _ _ rfl, loads_parsed _ _ _ _ rfl, trivial⟩
  (exchange_closes_iff idleConfig false recursiveExchange loads).mpr (by decide +kernel)

/-- The answer of an authoritative server has RA clear, and is counted as another query. -/
theorem authoritativeAnswer_missed :
    ¬ Machine.Along watch ClosesOnTime (opening idleConfig false)
      [dnsEvent true [0x01, 0x00], dnsEvent false [0x85, 0x00]] := by
  rintro ⟨-, closes, -⟩
  have closed := closes.closed ⟨dnsTuple, 0⟩ (by decide +kernel) (by decide) (by decide +kernel)
  exact closed.2 (by decide +kernel)

end Example

end Ptnet.DnsExchange
