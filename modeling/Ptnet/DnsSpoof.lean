import Ptnet.DnsLearning

/-!
`spoof_dns_reply` of core/capture_vpn.c, with the headers and checksums of
submodules/zdtun/zdtun.c that it puts before the reply. Reads of the query are recorded as in
`process_dns_reply`; what is written into the tunnel is the list of its bytes.
-/

namespace Ptnet.DnsSpoof

open ByteMemory (Bytes)
open Connection (Ip Tuple IPPROTO_ICMP)
open DnsMessage (word16 word16_length Holds holds_append holds_getD holds_map)
open DnsReply (Memory DNS_PACKET_SIZE DNS_TYPE_A DNS_TYPE_AAAA bytesAt ntohsAt)
open DnsLearning (ntohsAt_eq)
open ZdtunPacket (IPV4_HEADER_LEN IPV6_HEADER_LEN UDP_HEADER_LEN IPPROTO_ICMPV6 byteAt be16 slice)

def VPN_BUFFER_SIZE : Nat := 32768

section Headers

def ipBytes (ip : Ip) (count : Nat) : Bytes :=
  (List.range count).map fun index => UInt8.ofNat (ip >>> (120 - 8 * index)).toNat

/-- The sum of the 16-bit words, each as the processor reads it. -/
def sumWords : Bytes → Nat
  | [] => 0
  | [last] => last.toNat
  | low :: high :: rest => low.toNat + 256 * high.toNat + sumWords rest

/-- `calc_checksum`: two rounds bring a sum of 32 bits below 2^16. -/
def calcChecksum (start : Nat) (buffer : Bytes) : Nat :=
  let sum := start + sumWords buffer
  let once := sum % 65536 + sum / 65536
  once % 65536 + once / 65536

/-- The complement of a sum, as it is stored. -/
def storedSum (sum : Nat) : Bytes :=
  [UInt8.ofNat (65535 - sum), UInt8.ofNat ((65535 - sum) / 256)]

/-- `zdtun_conn_t`: its tuple, and the IP version that `sock_ipver` returns. -/
structure ZdtunConn where
  tuple : Tuple
  sockIpver : Nat

namespace ZdtunConn

variable (conn : ZdtunConn)

def iphdrLen : Nat := if conn.sockIpver = 4 then IPV4_HEADER_LEN else IPV6_HEADER_LEN

def ipv4Header (totLen check : Bytes) : Bytes :=
  [0x45, 0] ++ (totLen ++ ([0, 0, 0x40, 0, 64, UInt8.ofNat conn.tuple.ipproto] ++ (check ++
    (ipBytes conn.tuple.dstIp 4 ++ ipBytes conn.tuple.srcIp 4))))

def makeIphdr (l3Len : Nat) : Bytes :=
  if conn.sockIpver = 4 then
    let totLen := word16 (l3Len + IPV4_HEADER_LEN)
    conn.ipv4Header totLen (storedSum (calcChecksum 0 (conn.ipv4Header totLen [0, 0])))
  else
    let nexthdr := if conn.tuple.ipproto ≠ IPPROTO_ICMP then conn.tuple.ipproto else IPPROTO_ICMPV6
    [0x60, 0, 0, 0] ++ (word16 l3Len ++ ([UInt8.ofNat nexthdr, 64] ++
      (ipBytes conn.tuple.dstIp 16 ++ ipBytes conn.tuple.srcIp 16)))

def l3Checksum (l3 : Bytes) : Bytes :=
  let ipproto := conn.tuple.ipproto
  let pseudo :=
    if conn.sockIpver = 4 then
      ipBytes conn.tuple.dstIp 4 ++ (ipBytes conn.tuple.srcIp 4 ++
        ([0, UInt8.ofNat ipproto] ++ word16 l3.length))
    else
      let nxt := if conn.sockIpver = 6 ∧ ipproto = IPPROTO_ICMP then IPPROTO_ICMPV6 else ipproto
      ipBytes conn.tuple.dstIp 16 ++ (ipBytes conn.tuple.srcIp 16 ++
        (word16 l3.length ++ [0, 0, 0, 0, 0, UInt8.ofNat nxt]))
  storedSum (calcChecksum (calcChecksum 0 l3) pseudo)

end ZdtunConn

end Headers

section Spoofing

structure Scan where
  qlen : Nat := 0
  reads : List Nat := []
  deriving DecidableEq, Repr

/-- The offset of a byte of `queries`. -/
def queryAt (index : Nat) : Nat := DNS_PACKET_SIZE + index

/-- The loop over the name; the number is `remaining` less four. -/
def scanName (memory : Memory) : Nat → Scan → Scan
  | 0, scan => scan
  | more + 1, scan =>
      let seen := { scan with reads := scan.reads ++ [queryAt scan.qlen] }
      if memory (queryAt scan.qlen) = 0 then seen
      else scanName memory more { seen with qlen := scan.qlen + 1 }

/-- The test of the bytes behind the name, which stops at the first that fails. -/
def validQuestion (memory : Memory) (qlen : Nat) : Bool × List Nat :=
  if memory (queryAt qlen) ≠ 0 then (false, [queryAt qlen])
  else if memory (queryAt (qlen + 1)) ≠ 0 then (false, [queryAt qlen, queryAt (qlen + 1)])
  else if memory (queryAt (qlen + 3)) ≠ 0 then
    (false, [queryAt qlen, queryAt (qlen + 1), queryAt (qlen + 3)])
  else
    (memory (queryAt (qlen + 4)) = 1,
      [queryAt qlen, queryAt (qlen + 1), queryAt (qlen + 3), queryAt (qlen + 4)])

def addressLength (qtype : UInt8) : Nat := if qtype = 0x01 then 4 else 16

/-- The DNS part of the reply. -/
def dnsReply (memory : Memory) (qlen : Nat) (qtype : UInt8) : Bytes :=
  let alen := addressLength qtype
  bytesAt memory 0 2 ++ (word16 0x8180 ++ (bytesAt memory 4 2 ++ (bytesAt memory 4 2 ++
    ([0, 0, 0, 0] ++ (bytesAt memory (queryAt 0) (qlen + 5) ++
      ([0xc0, 0x0c, 0x00, qtype, 0x00, 0x01, 0, 0, 0, 10, 0x00, UInt8.ofNat alen] ++
        List.replicate alen 0))))))

def udpHeader (tuple : Tuple) (length : Nat) (sum : Bytes) : Bytes :=
  word16 tuple.dstPort ++ (word16 tuple.srcPort ++ (word16 length ++ sum))

def spoofedPacket (memory : Memory) (conn : ZdtunConn) (qlen : Nat) (qtype : UInt8) : Bytes :=
  let dns := dnsReply memory qlen qtype
  let length := UDP_HEADER_LEN + dns.length
  let sum := conn.l3Checksum (udpHeader conn.tuple length [0, 0] ++ dns)
  conn.makeIphdr length ++ (udpHeader conn.tuple length sum ++ dns)

/-- What was read of the query, and the packet if the function returns true. -/
structure Spoof where
  reads : List Nat := []
  packet : Option Bytes := none

/-- What follows the loop over the name. -/
def answerQuestion (memory : Memory) (conn : ZdtunConn) (scan : Scan) : Spoof :=
  let (valid, tested) := validQuestion memory scan.qlen
  if !valid then { reads := scan.reads ++ tested }
  else
    let qtype := memory (queryAt (scan.qlen + 2))
    let reads := scan.reads ++ (tested ++ [queryAt (scan.qlen + 2)])
    if qtype ≠ 0x01 ∧ qtype ≠ 0x1c then { reads := reads }
    else
      { reads := reads ++ ([0, 1, 4, 5] ++ List.range' (queryAt 0) (scan.qlen + 5))
        packet := some (spoofedPacket memory conn scan.qlen qtype) }

def spoofDnsReply (memory : Memory) (l7Len : Nat) (conn : ZdtunConn) : Spoof :=
  if l7Len < DNS_PACKET_SIZE + 5 then {}
  else if ntohsAt memory 4 ≠ 1 then { reads := [4, 5] }
  else
    answerQuestion memory conn (scanName memory (l7Len - DNS_PACKET_SIZE - 4) { reads := [4, 5] })

end Spoofing

section Question

def DNS_CLASS_IN : Nat := 1

variable (memory : Memory) (l7Len : Nat)

/-- A message with one question for an address. Its name is what precedes the first zero, and all
    of it is inside the payload. -/
structure Asks (qlen qtype : Nat) : Prop where
  single : ntohsAt memory 4 = 1
  name : ∀ index < qlen, memory (queryAt index) ≠ 0
  terminated : memory (queryAt qlen) = 0
  inside : queryAt qlen + 5 ≤ l7Len
  type : ntohsAt memory (queryAt qlen + 1) = qtype
  address : qtype = DNS_TYPE_A ∨ qtype = DNS_TYPE_AAAA
  internet : ntohsAt memory (queryAt qlen + 3) = DNS_CLASS_IN

structure Blank (qlen : Nat) : Prop where
  terminated : memory (queryAt qlen) = 0
  typeHigh : memory (queryAt (qlen + 1)) = 0
  classHigh : memory (queryAt (qlen + 3)) = 0

structure Cut : Prop where
  long : DNS_PACKET_SIZE + 5 ≤ l7Len
  single : ntohsAt memory 4 = 1
  name : ∀ index < l7Len - DNS_PACKET_SIZE - 4, memory (queryAt index) ≠ 0
  blank : Blank memory (l7Len - DNS_PACKET_SIZE - 4)

theorem ntohsAt_byte (start value : Nat) (small : value < 256) :
    ntohsAt memory start = value ↔ memory start = 0 ∧ (memory (start + 1)).toNat = value := by
  have high := (memory start).toNat_lt
  have low := (memory (start + 1)).toNat_lt
  rw [ntohsAt, ← UInt8.toNat_inj]
  simp
  omega

/-- What the loop over the name leaves. -/
structure Scanned (more : Nat) (scan last : Scan) : Prop where
  grows : scan.qlen ≤ last.qlen
  short : last.qlen ≤ scan.qlen + more
  name : ∀ index, scan.qlen ≤ index → index < last.qlen → memory (queryAt index) ≠ 0
  stop : last.qlen < scan.qlen + more → memory (queryAt last.qlen) = 0
  reads : ∀ offset ∈ last.reads, offset ∈ scan.reads ∨ offset < queryAt (scan.qlen + more)

theorem scanName_scanned (more : Nat) (scan : Scan) :
    Scanned memory more scan (scanName memory more scan) := by
  induction more generalizing scan with
  | zero =>
      exact ⟨Nat.le_refl _, Nat.le_refl _, fun index low high => absurd low (by
        simp only [scanName] at high
        omega), fun inside => absurd inside (Nat.lt_irrefl _), fun _ read => .inl read⟩
  | succ more ih =>
      have split (offset : Nat) (read : offset ∈ scan.reads ++ [queryAt scan.qlen]) :
          offset ∈ scan.reads ∨ offset < queryAt (scan.qlen + (more + 1)) := by
        rcases List.mem_append.mp read with before | now
        · exact .inl before
        · rw [List.mem_singleton.mp now, queryAt, queryAt]
          exact .inr (by omega)
      by_cases zero : memory (queryAt scan.qlen) = 0
      · simp only [scanName, zero, if_true]
        exact ⟨Nat.le_refl _, Nat.le_add_right _ _, fun index low high => by simp at high; omega,
          fun _ => zero, split⟩
      · simp only [scanName, zero, if_false]
        have later := ih { scan with
          reads := scan.reads ++ [queryAt scan.qlen], qlen := scan.qlen + 1 }
        refine ⟨Nat.le_of_succ_le later.grows, ?_, ?_, ?_, ?_⟩
        · have short := later.short
          simp only at short
          omega
        · intro index low high
          rcases Nat.eq_or_lt_of_le low with here | behind
          · rw [← here]
            exact zero
          · exact later.name index behind high
        · intro inside
          exact later.stop (by simp only; omega)
        · intro offset read
          rcases later.reads offset read with seen | bound
          · exact split offset seen
          · exact .inr (by simp only [queryAt] at bound ⊢; omega)

theorem validQuestion_iff (qlen : Nat) : (validQuestion memory qlen).1 = true ↔
    Blank memory qlen ∧ memory (queryAt (qlen + 4)) = 1 := by
  by_cases terminated : memory (queryAt qlen) = 0
  · by_cases typeHigh : memory (queryAt (qlen + 1)) = 0
    · by_cases classHigh : memory (queryAt (qlen + 3)) = 0
      · have blank : Blank memory qlen := ⟨terminated, typeHigh, classHigh⟩
        simp [validQuestion, terminated, typeHigh, classHigh, blank]
      · have other : ¬ Blank memory qlen := fun blank => classHigh blank.classHigh
        simp [validQuestion, terminated, typeHigh, classHigh, other]
    · have other : ¬ Blank memory qlen := fun blank => typeHigh blank.typeHigh
      simp [validQuestion, terminated, typeHigh, other]
  · have other : ¬ Blank memory qlen := fun blank => terminated blank.terminated
    simp [validQuestion, terminated, other]

/-- Only behind a blank question is the last byte read. -/
theorem validQuestion_reads (qlen offset : Nat) (read : offset ∈ (validQuestion memory qlen).2) :
    offset < queryAt (qlen + 4) ∨ offset = queryAt (qlen + 4) ∧ Blank memory qlen := by
  by_cases terminated : memory (queryAt qlen) = 0
  · by_cases typeHigh : memory (queryAt (qlen + 1)) = 0
    · by_cases classHigh : memory (queryAt (qlen + 3)) = 0
      · have blank : Blank memory qlen := ⟨terminated, typeHigh, classHigh⟩
        simp [validQuestion, terminated, typeHigh, classHigh] at read
        simp only [queryAt, blank, and_true] at read ⊢
        omega
      · simp [validQuestion, terminated, typeHigh, classHigh] at read
        exact .inl (by simp only [queryAt] at read ⊢; omega)
    · simp [validQuestion, terminated, typeHigh] at read
      exact .inl (by simp only [queryAt] at read ⊢; omega)
  · simp [validQuestion, terminated] at read
    exact .inl (by simp only [queryAt] at read ⊢; omega)

theorem validQuestion_last (qlen : Nat) (blank : Blank memory qlen) :
    queryAt (qlen + 4) ∈ (validQuestion memory qlen).2 := by
  simp [validQuestion, blank.terminated, blank.typeHigh, blank.classHigh]

end Question

section Packet

def contents (packet : Bytes) : Memory := fun offset => packet.getD offset 0

def ZdtunConn.dnsStart (conn : ZdtunConn) : Nat := conn.iphdrLen + UDP_HEADER_LEN

def dataLength (qtype : Nat) : Nat := if qtype = DNS_TYPE_A then 4 else 16

variable (memory : Memory) (l7Len : Nat) (conn : ZdtunConn) (qlen qtype : Nat)

/-- A DNS message that answers the question: the one answer has the type that was asked for and an
    address of zeros. -/
structure Replies (sent : Memory) (start : Nat) : Prop where
  transactionId : bytesAt sent start 2 = bytesAt memory 0 2
  flags : ntohsAt sent (start + 2) = 0x8180
  questions : ntohsAt sent (start + 4) = 1
  answers : ntohsAt sent (start + 6) = 1
  authorities : ntohsAt sent (start + 8) = 0
  additionals : ntohsAt sent (start + 10) = 0
  queries : bytesAt sent (start + queryAt 0) (qlen + 5) = bytesAt memory (queryAt 0) (qlen + 5)
  name : ntohsAt sent (start + queryAt (qlen + 5)) = 0xC000 + queryAt 0
  type : ntohsAt sent (start + queryAt (qlen + 5) + 2) = qtype
  internet : ntohsAt sent (start + queryAt (qlen + 5) + 4) = DNS_CLASS_IN
  addrLen : ntohsAt sent (start + queryAt (qlen + 5) + 10) = dataLength qtype
  data : bytesAt sent (start + queryAt (qlen + 5) + 12) (dataLength qtype) =
    List.replicate (dataLength qtype) 0

/-- The lengths in the headers are those of the bytes written, which end with the answer. -/
structure Carries (packet : Bytes) : Prop where
  ipLength : (if conn.sockIpver = 4 then ntohsAt (contents packet) 2
    else IPV6_HEADER_LEN + ntohsAt (contents packet) 4) = packet.length
  udpLength : conn.iphdrLen + ntohsAt (contents packet) (conn.iphdrLen + 4) = packet.length
  dns : Replies memory qlen qtype (contents packet) conn.dnsStart
  finished : conn.dnsStart + queryAt (qlen + 5) + 12 + dataLength qtype = packet.length

theorem bytesAt_length (start count : Nat) : (bytesAt memory start count).length = count := by
  rw [bytesAt, List.length_map, List.length_range]

theorem ipBytes_length (ip : Ip) (count : Nat) : (ipBytes ip count).length = count := by
  rw [ipBytes, List.length_map, List.length_range]

theorem storedSum_length (sum : Nat) : (storedSum sum).length = 2 := rfl

theorem makeIphdr_length (l3Len : Nat) : (conn.makeIphdr l3Len).length = conn.iphdrLen := by
  by_cases four : conn.sockIpver = 4
  · simp [ZdtunConn.makeIphdr, ZdtunConn.ipv4Header, ZdtunConn.iphdrLen, four, word16_length,
      storedSum_length, ipBytes_length, IPV4_HEADER_LEN]
  · simp [ZdtunConn.makeIphdr, ZdtunConn.iphdrLen, four, word16_length, ipBytes_length,
      IPV6_HEADER_LEN]

theorem udpHeader_length (tuple : Tuple) (length : Nat) (l3 : Bytes) :
    (udpHeader tuple length (conn.l3Checksum l3)).length = UDP_HEADER_LEN := rfl

theorem dnsReply_length (kind : UInt8) : (dnsReply memory qlen kind).length =
    queryAt (qlen + 5) + 12 + addressLength kind := by
  simp [dnsReply, bytesAt_length, word16_length, queryAt, DNS_PACKET_SIZE]
  omega

theorem makeIphdr_total (packet : Bytes) (l3Len : Nat) (small : l3Len + IPV4_HEADER_LEN < 65536)
    (held : Holds (contents packet) 0 (conn.makeIphdr l3Len)) :
    (if conn.sockIpver = 4 then ntohsAt (contents packet) 2
      else IPV6_HEADER_LEN + ntohsAt (contents packet) 4) = conn.iphdrLen + l3Len := by
  by_cases four : conn.sockIpver = 4
  · simp only [ZdtunConn.makeIphdr, ZdtunConn.ipv4Header, four, if_true, holds_append] at held
    have total : ntohsAt (contents packet) 2 = l3Len + IPV4_HEADER_LEN :=
      ntohsAt_eq _ _ _ held.2.1 small
    rw [if_pos four, total, ZdtunConn.iphdrLen, if_pos four, Nat.add_comm]
  · simp only [ZdtunConn.makeIphdr, four, if_false, holds_append] at held
    have total : ntohsAt (contents packet) 4 = l3Len :=
      ntohsAt_eq _ _ _ held.2.1 (Nat.lt_of_le_of_lt (Nat.le_add_right _ _) small)
    rw [if_neg four, total, ZdtunConn.iphdrLen, if_neg four]

theorem ntohsAt_copied (sent : Memory) (start source : Nat)
    (held : Holds sent start (bytesAt memory source 2)) :
    ntohsAt sent start = ntohsAt memory source := by
  have first : sent start = memory source := held.1
  have last : sent (start + 1) = memory (source + 1) := held.2.1
  rw [ntohsAt, first, last, ntohsAt]

theorem bytesAt_held (sent : Memory) (start : Nat) (octets : Bytes)
    (held : Holds sent start octets) : bytesAt sent start octets.length = octets :=
  holds_map sent start octets held

theorem ntohsAt_held (sent : Memory) (start : Nat) (high low : UInt8) (rest : Bytes)
    (held : Holds sent start (high :: low :: rest)) :
    ntohsAt sent start = high.toNat * 256 + low.toNat := by
  rw [ntohsAt, held.1, held.2.1]

theorem asks_kind (asks : Asks memory l7Len qlen qtype) :
    (memory (queryAt (qlen + 2))).toNat = qtype ∧
      addressLength (memory (queryAt (qlen + 2))) = dataLength qtype := by
  have small : qtype < 256 := by
    rcases asks.address with a | aaaa
    · rw [a]
      decide
    · rw [aaaa]
      decide
  have kind := ((ntohsAt_byte memory _ _ small).mp asks.type).2
  refine ⟨kind, ?_⟩
  have same : memory (queryAt (qlen + 2)) = 0x01 ↔ qtype = DNS_TYPE_A := by
    rw [← UInt8.toNat_inj, show (memory (queryAt (qlen + 2))).toNat = qtype from kind]
    rfl
  simp only [addressLength, dataLength, same]

theorem dnsReply_replies (sent : Memory) (start : Nat) (asks : Asks memory l7Len qlen qtype)
    (held : Holds sent start (dnsReply memory qlen (memory (queryAt (qlen + 2))))) :
    Replies memory qlen qtype sent start := by
  obtain ⟨kind, size⟩ := asks_kind memory l7Len qlen qtype asks
  have small : dataLength qtype < 256 := by
    rw [dataLength]
    split <;> omega
  simp only [dnsReply, size] at held
  generalize memory (queryAt (qlen + 2)) = byte at kind held
  simp only [holds_append, bytesAt_length, List.length_cons, List.length_nil,
    word16_length] at held
  obtain ⟨id, flags, questions, answers, counts, queries, answer, data⟩ := held
  have counted : ∀ place, Holds sent place (bytesAt memory 4 2) → ntohsAt sent place = 1 :=
    fun place copied => (ntohsAt_copied memory sent place 4 copied).trans asks.single
  have question := bytesAt_held sent _ _ queries
  have address := bytesAt_held sent _ _ data
  rw [bytesAt_length] at question
  rw [List.length_replicate] at address
  have place : start + queryAt (qlen + 5) = start + queryAt 0 + (qlen + 5) := by
    simp only [queryAt]
    omega
  constructor
  · exact bytesAt_held sent _ _ id
  · exact ntohsAt_eq sent _ _ flags (by decide)
  · exact counted _ questions
  · exact counted _ answers
  · exact ntohsAt_held sent _ _ _ _ counts
  · exact ntohsAt_held sent _ _ _ _ counts.2.2
  · exact question
  · rw [place]
    exact ntohsAt_held sent _ _ _ _ answer
  · rw [place]
    exact (ntohsAt_held sent _ _ _ _ answer.2.2).trans (by simpa using kind)
  · rw [place]
    exact ntohsAt_held sent _ _ _ _ answer.2.2.2.2
  · rw [place]
    refine (ntohsAt_held sent _ _ _ _ answer.2.2.2.2.2.2.2.2.2.2).trans ?_
    rw [UInt8.toNat_ofNat', Nat.mod_eq_of_lt small, UInt8.toNat_zero, Nat.zero_mul, Nat.zero_add]
  · rw [place]
    exact address

theorem spoofedPacket_carries (asks : Asks memory l7Len qlen qtype)
    (buffer : l7Len ≤ VPN_BUFFER_SIZE) :
    Carries memory conn qlen qtype
      (spoofedPacket memory conn qlen (memory (queryAt (qlen + 2)))) := by
  obtain ⟨-, size⟩ := asks_kind memory l7Len qlen qtype asks
  have inside := asks.inside
  have few : dataLength qtype ≤ 16 := by
    rw [dataLength]
    split <;> omega
  generalize sent : spoofedPacket memory conn qlen (memory (queryAt (qlen + 2))) = packet
  have held : Holds (contents packet) 0 packet := holds_getD [] packet
  nth_rewrite 2 [← sent] at held
  have written := congrArg List.length sent
  simp only [spoofedPacket, holds_append, List.length_append, makeIphdr_length, Nat.zero_add,
    udpHeader_length, dnsReply_length, size] at held written
  obtain ⟨ip, udp, dns⟩ := held
  have small : UDP_HEADER_LEN + (queryAt (qlen + 5) + 12 + dataLength qtype) + IPV4_HEADER_LEN <
      65536 := by
    simp only [UDP_HEADER_LEN, IPV4_HEADER_LEN, queryAt, VPN_BUFFER_SIZE] at *
    omega
  have total := makeIphdr_total conn packet _ small ip
  simp only [udpHeader, holds_append] at udp
  have udpTotal := ntohsAt_eq _ _ _ udp.2.2.1 (Nat.lt_of_le_of_lt (Nat.le_add_right _ _) small)
  constructor
  · rw [total, written]
  · rw [← written]
    exact congrArg (conn.iphdrLen + ·) udpTotal
  · exact dnsReply_replies memory l7Len qlen qtype _ _ asks dns
  · rw [← written, ZdtunConn.dnsStart]
    omega

end Packet

section Spoofs

variable (memory : Memory) (l7Len : Nat) (conn : ZdtunConn)

/-- The reads are inside the payload, the questions that are answered are those for an address, and
    the packet is a reply to the question. -/
structure Spoofs : Prop where
  inside : ∀ offset ∈ (spoofDnsReply memory l7Len conn).reads, offset < l7Len
  returns : (spoofDnsReply memory l7Len conn).packet.isSome ↔
    ∃ qlen qtype, Asks memory l7Len qlen qtype
  reply : ∀ packet, (spoofDnsReply memory l7Len conn).packet = some packet →
    ∃ qlen qtype, Asks memory l7Len qlen qtype ∧ Carries memory conn qlen qtype packet

def scanned : Scan := scanName memory (l7Len - DNS_PACKET_SIZE - 4) { reads := [4, 5] }

theorem scanned_spec : Scanned memory (l7Len - DNS_PACKET_SIZE - 4) { reads := [4, 5] }
    (scanned memory l7Len) := scanName_scanned memory _ _

/-- The scan stops where the name of a question ends. -/
theorem scanned_asks (qlen qtype : Nat) (asks : Asks memory l7Len qlen qtype) :
    (scanned memory l7Len).qlen = qlen := by
  have spec := scanned_spec memory l7Len
  have inside := asks.inside
  have short := spec.short
  simp only [queryAt, DNS_PACKET_SIZE, Nat.zero_add] at inside short
  rcases Nat.lt_trichotomy (scanned memory l7Len).qlen qlen with before | same | behind
  · exact absurd (spec.stop (by simp only [DNS_PACKET_SIZE]; omega)) (asks.name _ before)
  · exact same
  · exact absurd asks.terminated (spec.name qlen (Nat.zero_le _) behind)

structure Found (scan : Scan) : Prop where
  blank : Blank memory scan.qlen
  last : memory (queryAt (scan.qlen + 4)) = 1
  kind : memory (queryAt (scan.qlen + 2)) = 0x01 ∨ memory (queryAt (scan.qlen + 2)) = 0x1c

theorem answerQuestion_found (scan : Scan) (found : Found memory scan) :
    (answerQuestion memory conn scan).packet =
      some (spoofedPacket memory conn scan.qlen (memory (queryAt (scan.qlen + 2)))) := by
  have passed := (validQuestion_iff memory scan.qlen).mpr ⟨found.blank, found.last⟩
  rcases found.kind with a | aaaa
  · simp [answerQuestion, passed, a]
  · simp [answerQuestion, passed, aaaa]

theorem answerQuestion_other (scan : Scan) (other : ¬ Found memory scan) :
    (answerQuestion memory conn scan).packet = none := by
  by_cases passed : (validQuestion memory scan.qlen).1 = true
  · obtain ⟨blank, last⟩ := (validQuestion_iff memory scan.qlen).mp passed
    have kinds := fun kind => other ⟨blank, last, kind⟩
    simp [answerQuestion, passed, not_or.mp kinds]
  · simp [answerQuestion, passed]

theorem answerQuestion_reads (scan : Scan) (offset : Nat)
    (read : offset ∈ (answerQuestion memory conn scan).reads) :
    offset ∈ scan.reads ∨ offset ∈ (validQuestion memory scan.qlen).2 ∨
      Blank memory scan.qlen ∧ offset < queryAt (scan.qlen + 5) := by
  by_cases passed : (validQuestion memory scan.qlen).1 = true
  · have blank := ((validQuestion_iff memory scan.qlen).mp passed).1
    by_cases kind : memory (queryAt (scan.qlen + 2)) ≠ 0x01 ∧
        memory (queryAt (scan.qlen + 2)) ≠ 0x1c
    · simp only [answerQuestion, passed, Bool.not_true, Bool.false_eq_true, if_false, kind,
        ne_eq, not_false_eq_true, and_self, if_true, List.mem_append, List.mem_singleton] at read
      rcases read with seen | tested | type
      · exact .inl seen
      · exact .inr (.inl tested)
      · exact .inr (.inr ⟨blank, by simp only [queryAt] at type ⊢; omega⟩)
    · simp only [answerQuestion, passed, Bool.not_true, Bool.false_eq_true, if_false, kind,
        List.mem_append, List.mem_cons, List.not_mem_nil, or_false, List.mem_range'_1] at read
      rcases read with (seen | tested | type) | copied
      · exact .inl seen
      · exact .inr (.inl tested)
      · exact .inr (.inr ⟨blank, by simp only [queryAt] at type ⊢; omega⟩)
      · exact .inr (.inr ⟨blank, by simp only [queryAt, DNS_PACKET_SIZE] at copied ⊢; omega⟩)
  · simp only [answerQuestion, passed, Bool.not_false, if_true, List.mem_append] at read
    exact read.imp_right .inl

theorem answerQuestion_tested (scan : Scan) (offset : Nat)
    (tested : offset ∈ (validQuestion memory scan.qlen).2) :
    offset ∈ (answerQuestion memory conn scan).reads := by
  simp only [answerQuestion]
  split
  · exact List.mem_append_right _ tested
  · split
    · exact List.mem_append_right _ (List.mem_append_left _ tested)
    · exact List.mem_append_left _ (List.mem_append_right _ (List.mem_append_left _ tested))

theorem spoofDnsReply_long (long : DNS_PACKET_SIZE + 5 ≤ l7Len)
    (single : ntohsAt memory 4 = 1) :
    spoofDnsReply memory l7Len conn = answerQuestion memory conn (scanned memory l7Len) := by
  rw [spoofDnsReply, if_neg (Nat.not_lt.mpr long), if_neg (not_not.mpr single), scanned]

/-- Unless the payload is cut, a blank question has its last byte inside. -/
theorem blank_whole (long : DNS_PACKET_SIZE + 5 ≤ l7Len) (single : ntohsAt memory 4 = 1)
    (complete : ¬ Cut memory l7Len) (blank : Blank memory (scanned memory l7Len).qlen) :
    (scanned memory l7Len).qlen < l7Len - DNS_PACKET_SIZE - 4 := by
  have spec := scanned_spec memory l7Len
  have short := spec.short
  rw [Nat.zero_add] at short
  refine Nat.lt_of_le_of_ne short fun ends => complete ⟨long, single, ?_, ends ▸ blank⟩
  rw [← ends]
  exact fun index inside => spec.name index (Nat.zero_le _) inside

theorem complete_inside (complete : ¬ Cut memory l7Len) :
    ∀ offset ∈ (spoofDnsReply memory l7Len conn).reads, offset < l7Len := by
  intro offset read
  by_cases long : DNS_PACKET_SIZE + 5 ≤ l7Len
  · have bound : 17 ≤ l7Len := long
    by_cases single : ntohsAt memory 4 = 1
    · have spec := scanned_spec memory l7Len
      have short := spec.short
      rw [spoofDnsReply_long memory l7Len conn long single] at read
      rcases answerQuestion_reads memory conn _ offset read with scan | tested | ⟨blank, rest⟩
      · rcases spec.reads offset scan with header | name
        · simp only [List.mem_cons, List.not_mem_nil, or_false] at header
          omega
        · simp only [queryAt, DNS_PACKET_SIZE] at name
          omega
      · rcases validQuestion_reads memory _ offset tested with before | ⟨last, blank⟩
        · simp only [queryAt, DNS_PACKET_SIZE] at before short
          omega
        · have whole := blank_whole memory l7Len long single complete blank
          simp only [queryAt, DNS_PACKET_SIZE] at last whole
          omega
      · have whole := blank_whole memory l7Len long single complete blank
        simp only [queryAt, DNS_PACKET_SIZE] at rest whole
        omega
    · rw [spoofDnsReply, if_neg (Nat.not_lt.mpr long), if_pos single] at read
      simp only [List.mem_cons, List.not_mem_nil, or_false] at read
      omega
  · rw [spoofDnsReply, if_pos (Nat.not_le.mp long)] at read
    exact absurd read List.not_mem_nil

/-- The last byte of a cut question is behind the payload. -/
theorem cut_overrun (cut : Cut memory l7Len) :
    l7Len ∈ (spoofDnsReply memory l7Len conn).reads := by
  have spec := scanned_spec memory l7Len
  have short := spec.short
  have long := cut.long
  rw [Nat.zero_add] at short
  have ends : (scanned memory l7Len).qlen = l7Len - DNS_PACKET_SIZE - 4 := by
    refine Nat.le_antisymm short (Nat.not_lt.mp fun before => ?_)
    exact cut.name _ before (spec.stop (by simpa using before))
  have last := validQuestion_last memory _ cut.blank
  have offset : queryAt (l7Len - DNS_PACKET_SIZE - 4 + 4) = l7Len := by
    simp only [queryAt, DNS_PACKET_SIZE] at long ⊢
    omega
  rw [spoofDnsReply_long memory l7Len conn long cut.single]
  apply answerQuestion_tested
  rw [ends]
  rwa [offset] at last

theorem asks_found (qlen qtype : Nat) (asks : Asks memory l7Len qlen qtype) :
    Found memory (scanned memory l7Len) := by
  have kind := (asks_kind memory l7Len qlen qtype asks).1
  have typeHigh := ((ntohsAt_byte memory _ _ (UInt8.toNat_lt _)).mp (asks.type.trans kind.symm)).1
  have internet := (ntohsAt_byte memory _ _ (by decide)).mp asks.internet
  have place := scanned_asks memory l7Len qlen qtype asks
  constructor
  · rw [place]
    exact ⟨asks.terminated, typeHigh, internet.1⟩
  · rw [place]
    exact UInt8.toNat_inj.mp internet.2
  · rw [place]
    rcases asks.address with a | aaaa
    · exact .inl (UInt8.toNat_inj.mp (kind.trans a))
    · exact .inr (UInt8.toNat_inj.mp (kind.trans aaaa))

theorem found_asks (long : DNS_PACKET_SIZE + 5 ≤ l7Len) (single : ntohsAt memory 4 = 1)
    (complete : ¬ Cut memory l7Len) (found : Found memory (scanned memory l7Len)) :
    Asks memory l7Len (scanned memory l7Len).qlen
      (memory (queryAt ((scanned memory l7Len).qlen + 2))).toNat := by
  have spec := scanned_spec memory l7Len
  have whole := blank_whole memory l7Len long single complete found.blank
  constructor
  · exact single
  · exact fun index inside => spec.name index (Nat.zero_le _) inside
  · exact found.blank.terminated
  · simp only [queryAt, DNS_PACKET_SIZE] at whole long ⊢
    omega
  · exact (ntohsAt_byte memory _ _ (UInt8.toNat_lt _)).mpr ⟨found.blank.typeHigh, rfl⟩
  · exact found.kind.imp (congrArg UInt8.toNat) (congrArg UInt8.toNat)
  · exact (ntohsAt_byte memory _ _ (by decide)).mpr
      ⟨found.blank.classHigh, congrArg UInt8.toNat found.last⟩

/-- Without a question for an address nothing is written. -/
theorem spoofDnsReply_unasked (complete : ¬ Cut memory l7Len)
    (unasked : ¬ ∃ qlen qtype, Asks memory l7Len qlen qtype) :
    (spoofDnsReply memory l7Len conn).packet = none := by
  by_cases long : DNS_PACKET_SIZE + 5 ≤ l7Len
  · by_cases single : ntohsAt memory 4 = 1
    · rw [spoofDnsReply_long memory l7Len conn long single]
      exact answerQuestion_other memory conn _ fun found =>
        unasked ⟨_, _, found_asks memory l7Len long single complete found⟩
    · rw [spoofDnsReply, if_neg (Nat.not_lt.mpr long), if_pos single]
  · rw [spoofDnsReply, if_pos (Nat.not_le.mp long)]

theorem spoofDnsReply_asked (qlen qtype : Nat) (asks : Asks memory l7Len qlen qtype) :
    (spoofDnsReply memory l7Len conn).packet =
      some (spoofedPacket memory conn qlen (memory (queryAt (qlen + 2)))) := by
  have inside := asks.inside
  have long : DNS_PACKET_SIZE + 5 ≤ l7Len := by
    simp only [queryAt] at inside
    omega
  rw [spoofDnsReply_long memory l7Len conn long asks.single,
    answerQuestion_found memory conn _ (asks_found memory l7Len qlen qtype asks),
    scanned_asks memory l7Len qlen qtype asks]

/-- The reads stay inside and exactly the questions for an address are answered, with their reply,
    unless the payload is cut before the last byte of the question. -/
theorem spoofs_iff (buffer : l7Len ≤ VPN_BUFFER_SIZE) :
    Spoofs memory l7Len conn ↔ ¬ Cut memory l7Len := by
  constructor
  · exact fun spoofs cut =>
      Nat.lt_irrefl _ (spoofs.inside l7Len (cut_overrun memory l7Len conn cut))
  · intro complete
    by_cases asked : ∃ qlen qtype, Asks memory l7Len qlen qtype
    · obtain ⟨qlen, qtype, asks⟩ := asked
      have packet := spoofDnsReply_asked memory l7Len conn qlen qtype asks
      refine ⟨complete_inside memory l7Len conn complete, ?_, fun sent written => ?_⟩
      · exact iff_of_true (packet ▸ rfl) ⟨qlen, qtype, asks⟩
      · refine ⟨qlen, qtype, asks, ?_⟩
        rw [← Option.some.inj (packet.symm.trans written)]
        exact spoofedPacket_carries memory l7Len conn qlen qtype asks buffer
    · have packet := spoofDnsReply_unasked memory l7Len conn complete asked
      refine ⟨complete_inside memory l7Len conn complete, ?_, fun sent written => ?_⟩
      · exact iff_of_false (packet ▸ Bool.false_ne_true) asked
      · exact absurd (packet.symm.trans written) nofun

/-- A query for the addresses of a host with one letter, as a resolver sends it. -/
def hostQuery : Bytes := [0x12, 0x34, 1, 0, 0, 1, 0, 0, 0, 0, 0, 0, 1, 97, 0, 0, 1, 0, 1]

def resolverConn : ZdtunConn :=
  { tuple := ⟨0x0A000001000000000000000000000000, 0x08080808000000000000000000000000, 40000, 53, 4,
      Connection.IPPROTO_UDP⟩
    sockIpver := 4 }

theorem hostQuery_fits : hostQuery.length ≤ VPN_BUFFER_SIZE := by decide

theorem hostQuery_spoofed : Spoofs (contents hostQuery) hostQuery.length resolverConn :=
  (spoofs_iff _ _ _ hostQuery_fits).mpr fun cut => absurd cut.blank.classHigh (by decide)

/-- Without its last byte the query is read behind its end. -/
theorem cutQuery_overrun :
    ¬ Spoofs (contents hostQuery.dropLast) hostQuery.dropLast.length resolverConn := by
  intro spoofs
  exact absurd (spoofs.inside 18 (by decide)) (by decide)

end Spoofs

end Ptnet.DnsSpoof
