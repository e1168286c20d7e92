import Ptnet.TunnelPackets

/-!
The checksums of the packets which zdtun builds, as the client verifies them: the IP version, the
addresses and the length for the pseudo header are read from the packet. Sums are compared modulo
65535, where carrying a bit around leaves a sum what it was.
-/

namespace Ptnet.PacketSums

open ByteMemory (Bytes)
open Connection (IPPROTO_ICMP IPPROTO_TCP IPPROTO_UDP)
open DnsMessage (word16 word32 word16_length)
open DnsSpoof (ZdtunConn ipBytes ipBytes_length sumWords calcChecksum storedSum udpHeader)
open TunnelPackets
open ZdtunPacket

section Sums

theorem sumWords_append (front back : Bytes) (even : front.length % 2 = 0) :
    sumWords (front ++ back) = sumWords front + sumWords back := by
  fun_induction sumWords front with
  | case1 => rw [List.nil_append, Nat.zero_add]
  | case2 last => simp at even
  | case3 low high rest ih =>
      have shorter : rest.length % 2 = 0 := by
        simp only [List.length_cons] at even
        omega
      rw [List.cons_append, List.cons_append, sumWords, ih shorter]
      omega

theorem sumWords_le (bytes : Bytes) : sumWords bytes ≤ 65535 * ((bytes.length + 1) / 2) := by
  fun_induction sumWords bytes with
  | case1 => exact Nat.zero_le _
  | case2 last =>
      have small := last.toNat_lt
      simp only [List.length_singleton]
      omega
  | case3 low high rest ih =>
      have first := low.toNat_lt
      have second := high.toNat_lt
      simp only [List.length_cons]
      omega

theorem calcChecksum_modEq (start : Nat) (bytes : Bytes) :
    calcChecksum start bytes ≡ start + sumWords bytes [MOD 65535] := by
  simp only [calcChecksum, Nat.ModEq]
  omega

theorem calcChecksum_zero (start : Nat) (bytes : Bytes) (zero : calcChecksum start bytes = 0) :
    start = 0 ∧ sumWords bytes = 0 := by
  simp only [calcChecksum] at zero
  omega

/-- Two rounds are enough for what fits into a packet. -/
theorem calcChecksum_le (start : Nat) (bytes : Bytes) (small : start ≤ 65535)
    (short : bytes.length < 65536) : calcChecksum start bytes ≤ 65535 := by
  have bound := sumWords_le bytes
  have sum : start + sumWords bytes ≤ 65535 * 32769 := by omega
  simp only [calcChecksum]
  omega

theorem calcChecksum_ones (start : Nat) (bytes : Bytes) (small : start ≤ 65535)
    (short : bytes.length < 65536) (some : 0 < start) :
    calcChecksum start bytes = 65535 ↔ (start + sumWords bytes) % 65535 = 0 := by
  have bounded := calcChecksum_le start bytes small short
  have residue := calcChecksum_modEq start bytes
  have positive : calcChecksum start bytes ≠ 0 := by
    intro zero
    have nothing := calcChecksum_zero start bytes zero
    omega
  simp only [Nat.ModEq] at residue
  omega

theorem sumWords_storedSum (sum : Nat) (small : sum ≤ 65535) :
    sumWords (storedSum sum) = 65535 - sum := by
  have low : (UInt8.ofNat (65535 - sum)).toNat = (65535 - sum) % 256 := rfl
  have high : (UInt8.ofNat ((65535 - sum) / 256)).toNat = (65535 - sum) / 256 % 256 := rfl
  simp only [storedSum, sumWords, low, high]
  omega

theorem be16_storedSum (sum : Nat) (rest : Bytes) :
    be16 (storedSum sum ++ rest) 0 = 0 ↔ 65535 ≤ sum := by
  have low : (UInt8.ofNat (65535 - sum)).toNat = (65535 - sum) % 256 := rfl
  have high : (UInt8.ofNat ((65535 - sum) / 256)).toNat = (65535 - sum) / 256 % 256 := rfl
  have stored : be16 (storedSum sum ++ rest) 0 = (UInt8.ofNat (65535 - sum)).toNat * 256 +
      (UInt8.ofNat ((65535 - sum) / 256)).toNat := by
    simp only [storedSum, be16, byteAt, List.cons_append, List.getD_cons_zero, List.getD_cons_succ]
  rw [stored, low, high]
  omega

/-- With the complement of its sum at an even place, the sum is that of all ones. -/
theorem stored_verifies (front back pseudo : Bytes) (even : front.length % 2 = 0)
    (short : front.length + 2 + back.length < 65536) (few : pseudo.length < 65536) :
    calcChecksum (calcChecksum 0 (front ++ (storedSum (calcChecksum (calcChecksum 0
      (front ++ ([0, 0] ++ back))) pseudo) ++ back))) pseudo = 65535 := by
  generalize blank : calcChecksum 0 (front ++ ([0, 0] ++ back)) = first
  generalize summed : calcChecksum first pseudo = sum
  have firstSmall : first ≤ 65535 :=
    blank ▸ calcChecksum_le 0 _ (Nat.zero_le _) (by simp; omega)
  have small : sum ≤ 65535 := summed ▸ calcChecksum_le first pseudo firstSmall few
  have whole : sumWords (front ++ (storedSum sum ++ back)) =
      sumWords front + ((65535 - sum) + sumWords back) := by
    rw [sumWords_append front _ even, sumWords_append (storedSum sum) back
      (by rw [DnsSpoof.storedSum_length]),
      sumWords_storedSum sum small]
  have cleared : sumWords (front ++ ([0, 0] ++ back)) = sumWords front + sumWords back := by
    rw [sumWords_append front _ even]
    simp [sumWords]
  generalize stored : calcChecksum 0 (front ++ (storedSum sum ++ back)) = second
  have secondSmall : second ≤ 65535 :=
    stored ▸ calcChecksum_le 0 _ (Nat.zero_le _) (by simp [DnsSpoof.storedSum_length]; omega)
  have firstSum : first ≡ sumWords front + sumWords back [MOD 65535] := by
    have residue := calcChecksum_modEq 0 (front ++ ([0, 0] ++ back))
    rwa [blank, cleared, Nat.zero_add] at residue
  have secondSum : second ≡ sumWords front + ((65535 - sum) + sumWords back) [MOD 65535] := by
    have residue := calcChecksum_modEq 0 (front ++ (storedSum sum ++ back))
    rwa [stored, whole, Nat.zero_add] at residue
  have sumOf := calcChecksum_modEq first pseudo
  have last := calcChecksum_modEq second pseudo
  have bounded := calcChecksum_le second pseudo secondSmall few
  -- A sum of zero would be the sum of zeros alone, whose complement is not zero.
  have positive : calcChecksum second pseudo ≠ 0 := by
    intro zero
    obtain ⟨none, nothing⟩ := calcChecksum_zero second pseudo zero
    have empty := calcChecksum_zero 0 (front ++ (storedSum sum ++ back)) (stored.trans none)
    have cleared : first = 0 := by
      rw [← blank, calcChecksum, cleared]
      omega
    rw [cleared, calcChecksum, nothing] at summed
    omega
  simp only [Nat.ModEq, summed] at firstSum secondSum sumOf last
  omega

theorem stored_alone (front back : Bytes) (even : front.length % 2 = 0)
    (short : front.length + 2 + back.length < 65536) :
    calcChecksum 0 (front ++ (storedSum (calcChecksum 0 (front ++ ([0, 0] ++ back))) ++ back)) =
      65535 := by
  have folded (sum : Nat) (small : sum ≤ 65535) : calcChecksum sum [] = sum := by
    simp only [calcChecksum, sumWords]
    omega
  have bound (middle : Bytes) (two : middle.length = 2) :
      calcChecksum 0 (front ++ (middle ++ back)) ≤ 65535 := by
    apply calcChecksum_le 0 _ (Nat.zero_le _)
    rw [List.length_append, List.length_append, two, ← Nat.add_assoc]
    exact short
  have stored := stored_verifies front back [] even short (by decide)
  rwa [folded _ (bound _ (DnsSpoof.storedSum_length _)), folded _ (bound _ rfl)] at stored

end Sums

section Receiving

/-- The pseudo header of a packet for the sum of what follows the IP header. -/
def pseudoHeader (packet : Bytes) : Bytes :=
  if byteAt packet 0 / 16 = 4 then
    slice packet 12 8 ++ ([0, packet.getD 9 0] ++ word16 (packet.length - IPV4_HEADER_LEN))
  else
    slice packet 8 32 ++ ([0, 0] ++ (word16 (packet.length - IPV6_HEADER_LEN) ++
      [0, 0, 0, packet.getD 6 0]))

def l4Of (packet : Bytes) : Bytes :=
  packet.drop (if byteAt packet 0 / 16 = 4 then IPV4_HEADER_LEN else IPV6_HEADER_LEN)

/-- The sum of what follows the IP header, with that of the pseudo header. -/
def l4Sum (packet : Bytes) : Nat :=
  calcChecksum (calcChecksum 0 (l4Of packet)) (pseudoHeader packet)

/-- The checksums of a packet, as the one who gets it verifies them. A datagram of UDP with a zero
    is without a checksum, which IPv4 allows and IPv6 does not; a message of ICMP over IPv4 has no
    pseudo header. -/
structure Verified (packet : Bytes) (ipproto : Nat) : Prop where
  ip : byteAt packet 0 / 16 = 4 →
    calcChecksum 0 (packet.take IPV4_HEADER_LEN) = 65535
  tcp : ipproto = IPPROTO_TCP → l4Sum packet = 65535
  udp : ipproto = IPPROTO_UDP →
    if be16 (l4Of packet) 6 = 0 then byteAt packet 0 / 16 = 4 else l4Sum packet = 65535
  icmp : ipproto = IPPROTO_ICMP →
    (if byteAt packet 0 / 16 = 4 then calcChecksum 0 (l4Of packet) else l4Sum packet) = 65535

variable (conn : ZdtunConn) (l4 : Bytes)

/-- The pseudo header as `zdtun_l3_checksum` lays it out. -/
def ownPseudoHeader (length : Nat) : Bytes :=
  if conn.sockIpver = 4 then
    ipBytes conn.tuple.dstIp 4 ++ (ipBytes conn.tuple.srcIp 4 ++
      ([0, UInt8.ofNat conn.tuple.ipproto] ++ word16 length))
  else
    ipBytes conn.tuple.dstIp 16 ++ (ipBytes conn.tuple.srcIp 16 ++
      (word16 length ++ [0, 0, 0, 0, 0, UInt8.ofNat
        (if conn.sockIpver = 6 ∧ conn.tuple.ipproto = IPPROTO_ICMP then IPPROTO_ICMPV6
          else conn.tuple.ipproto)]))

theorem l3Checksum_eq (l3 : Bytes) : conn.l3Checksum l3 =
    storedSum (calcChecksum (calcChecksum 0 l3) (ownPseudoHeader conn l3.length)) := rfl

theorem ownPseudoHeader_short (length : Nat) : (ownPseudoHeader conn length).length < 65536 := by
  simp only [ownPseudoHeader]
  split <;> simp [ipBytes_length, word16_length]

/-- What the receiver reads from the IP header in front of `l4`. -/
structure Reads (packet : Bytes) : Prop where
  version : byteAt packet 0 / 16 = conn.sockIpver
  behind : l4Of packet = l4
  pseudo : sumWords (pseudoHeader packet) = sumWords (ownPseudoHeader conn l4.length)

theorem ipv4Header_reads (check : Bytes) (two : check.length = 2) (socket : conn.sockIpver = 4) :
    Reads conn l4 (conn.ipv4Header (word16 (l4.length + IPV4_HEADER_LEN)) check ++ l4) := by
  let front : Bytes := [0x45, 0] ++ (word16 (l4.length + IPV4_HEADER_LEN) ++
    ([0, 0, 0x40, 0, 64, UInt8.ofNat conn.tuple.ipproto] ++ check))
  let ends : Bytes := ipBytes conn.tuple.dstIp 4 ++ ipBytes conn.tuple.srcIp 4
  have frontLength : front.length = 12 := by simp [front, word16_length, two]
  have endsLength : ends.length = 8 := by simp [ends, ipBytes_length]
  generalize built :
    conn.ipv4Header (word16 (l4.length + IPV4_HEADER_LEN)) check ++ l4 = packet
  have shape : packet = front ++ (ends ++ l4) := by
    simp [← built, ZdtunConn.ipv4Header, front, ends]
  have head : byteAt packet 0 = 0x45 := by
    rw [shape]
    rfl
  have version : byteAt packet 0 / 16 = 4 := by rw [head]
  have protocol : packet.getD 9 0 = UInt8.ofNat conn.tuple.ipproto := by
    rw [shape]
    rfl
  have own : ownPseudoHeader conn l4.length =
      ends ++ ([0, UInt8.ofNat conn.tuple.ipproto] ++ word16 l4.length) := by
    rw [ownPseudoHeader, if_pos socket]
    simp [ends]
  clear_value front ends
  have long : packet.length = l4.length + IPV4_HEADER_LEN := by
    rw [shape, List.length_append, List.length_append, frontLength, endsLength, IPV4_HEADER_LEN]
    omega
  have addresses : slice packet 12 8 = ends := by
    rw [shape, ← frontLength, ← endsLength]
    exact slice_after front ends l4
  have pseudo : pseudoHeader packet = ownPseudoHeader conn l4.length := by
    rw [pseudoHeader, if_pos version, own, addresses, protocol, long, Nat.add_sub_cancel]
  constructor
  · rw [version, socket]
  · rw [l4Of, if_pos version, shape, ← List.append_assoc]
    exact List.drop_left' (by rw [List.length_append, frontLength, endsLength]; rfl)
  · rw [pseudo]

theorem ipv6Header_reads (socket : conn.sockIpver = 6) :
    Reads conn l4 (conn.makeIphdr l4.length ++ l4) := by
  have other : conn.sockIpver ≠ 4 := by
    rw [socket]
    decide
  let nexthdr : Nat :=
    if conn.tuple.ipproto ≠ IPPROTO_ICMP then conn.tuple.ipproto else IPPROTO_ICMPV6
  let front : Bytes := [0x60, 0, 0, 0] ++ (word16 l4.length ++ [UInt8.ofNat nexthdr, 64])
  let ends : Bytes := ipBytes conn.tuple.dstIp 16 ++ ipBytes conn.tuple.srcIp 16
  have frontLength : front.length = 8 := by simp [front, word16_length]
  have endsLength : ends.length = 32 := by simp [ends, ipBytes_length]
  generalize built : conn.makeIphdr l4.length ++ l4 = packet
  have shape : packet = front ++ (ends ++ l4) := by
    simp [← built, ZdtunConn.makeIphdr, other, front, ends, nexthdr]
  have head : byteAt packet 0 = 0x60 := by
    rw [shape]
    rfl
  have version : byteAt packet 0 / 16 = 6 := by rw [head]
  have newer : ¬ byteAt packet 0 / 16 = 4 := by
    rw [version]
    decide
  have protocol : packet.getD 6 0 = UInt8.ofNat nexthdr := by
    rw [shape]
    rfl
  have next : (if conn.sockIpver = 6 ∧ conn.tuple.ipproto = IPPROTO_ICMP then IPPROTO_ICMPV6
      else conn.tuple.ipproto) = nexthdr := by
    by_cases icmp : conn.tuple.ipproto = IPPROTO_ICMP
    · simp [nexthdr, icmp, socket]
    · simp [nexthdr, icmp]
  have own : ownPseudoHeader conn l4.length = ends ++ (word16 l4.length ++
      [0, 0, 0, 0, 0, UInt8.ofNat nexthdr]) := by
    rw [ownPseudoHeader, if_neg other, next]
    simp [ends]
  clear_value front ends nexthdr
  have long : packet.length = l4.length + IPV6_HEADER_LEN := by
    rw [shape, List.length_append, List.length_append, frontLength, endsLength, IPV6_HEADER_LEN]
    omega
  have addresses : slice packet 8 32 = ends := by
    rw [shape, ← frontLength, ← endsLength]
    exact slice_after front ends l4
  have pseudo : pseudoHeader packet = ends ++ ([0, 0] ++ (word16 l4.length ++
      [0, 0, 0, UInt8.ofNat nexthdr])) := by
    rw [pseudoHeader, if_neg newer, addresses, protocol, long, Nat.add_sub_cancel]
  have even : ends.length % 2 = 0 := by rw [endsLength]
  constructor
  · rw [version, socket]
  · rw [l4Of, if_neg newer, shape, ← List.append_assoc]
    exact List.drop_left' (by rw [List.length_append, frontLength, endsLength]; rfl)
  -- The words of the length and of the zeros change places.
  · rw [pseudo, own, sumWords_append ends _ even, sumWords_append ends _ even]
    simp [sumWords, word16]

theorem calcChecksum_congr (start : Nat) (first second : Bytes)
    (same : sumWords first = sumWords second) :
    calcChecksum start first = calcChecksum start second := by
  rw [calcChecksum, calcChecksum, same]

/-- The header of a packet has the sum of all ones, whatever length was put into it. -/
theorem makeIphdr_verified (l3Len : Nat) (four : conn.sockIpver = 4) :
    calcChecksum 0 ((conn.makeIphdr l3Len ++ l4).take IPV4_HEADER_LEN) = 65535 := by
  have length : (conn.makeIphdr l3Len).length = IPV4_HEADER_LEN := by
    rw [DnsSpoof.makeIphdr_length, ZdtunConn.iphdrLen, if_pos four]
  rw [← length, List.take_left, ZdtunConn.makeIphdr, if_pos four]
  let front : Bytes := [0x45, 0] ++ (word16 (l3Len + IPV4_HEADER_LEN) ++
    [0, 0, 0x40, 0, 64, UInt8.ofNat conn.tuple.ipproto])
  let ends : Bytes := ipBytes conn.tuple.dstIp 4 ++ ipBytes conn.tuple.srcIp 4
  have shape (check : Bytes) : conn.ipv4Header (word16 (l3Len + IPV4_HEADER_LEN)) check =
      front ++ (check ++ ends) := by
    simp [ZdtunConn.ipv4Header, front, ends]
  have frontLength : front.length = 10 := by simp [front, word16_length]
  have endsLength : ends.length = 8 := by simp [ends, ipBytes_length]
  clear_value front ends
  simp only [shape]
  exact stored_alone front ends (by rw [frontLength]) (by rw [frontLength, endsLength]; decide)

theorem makeIphdr_version (l3Len : Nat) (other : conn.sockIpver ≠ 4) :
    byteAt (conn.makeIphdr l3Len ++ l4) 0 / 16 = 6 := by
  have head : byteAt (conn.makeIphdr l3Len ++ l4) 0 = 0x60 := by
    rw [ZdtunConn.makeIphdr, if_neg other]
    rfl
  rw [head]

theorem reply_ip_verified (reply : Reply) (four : byteAt (reply.packet conn) 0 / 16 = 4) :
    calcChecksum 0 ((reply.packet conn).take IPV4_HEADER_LEN) = 65535 := by
  obtain ⟨l4, length, built⟩ : ∃ (l4 : Bytes) (length : Nat), reply.packet conn =
      conn.makeIphdr length ++ l4 := by
    cases reply with
    | tcp segment => exact ⟨_, _, rfl⟩
    | udp payload => exact ⟨_, _, rfl⟩
    | icmp data => exact ⟨_, _, rfl⟩
  rw [built] at four ⊢
  by_cases socket : conn.sockIpver = 4
  · exact makeIphdr_verified conn l4 length socket
  · rw [makeIphdr_version conn l4 length socket] at four
    exact absurd four (by decide)

variable (version : conn.sockIpver = 4 ∨ conn.sockIpver = 6)

include version

theorem makeIphdr_reads : Reads conn l4 (conn.makeIphdr l4.length ++ l4) := by
  rcases version with four | six
  · have header : conn.makeIphdr l4.length = conn.ipv4Header (word16 (l4.length + IPV4_HEADER_LEN))
        (storedSum (calcChecksum 0 (conn.ipv4Header (word16 (l4.length + IPV4_HEADER_LEN))
          [0, 0]))) := by
      rw [ZdtunConn.makeIphdr, if_pos four]
    rw [header]
    exact ipv4Header_reads conn l4 _ (DnsSpoof.storedSum_length _) four
  · exact ipv6Header_reads conn l4 six

/-- A checksum over the pseudo header is verified with it. -/
theorem l3Checksum_verified (front back : Bytes) (even : front.length % 2 = 0)
    (short : front.length + 2 + back.length < 65536)
    (stored : l4 = front ++ (conn.l3Checksum (front ++ ([0, 0] ++ back)) ++ back)) :
    l4Sum (conn.makeIphdr l4.length ++ l4) = 65535 := by
  have reads := makeIphdr_reads conn l4 version
  have few := ownPseudoHeader_short conn l4.length
  have blank : (front ++ ([0, 0] ++ back)).length = l4.length := by
    simp only [stored, l3Checksum_eq, List.length_append, DnsSpoof.storedSum_length,
      List.length_cons, List.length_nil]
  rw [l4Sum, reads.behind, calcChecksum_congr _ _ _ reads.pseudo]
  rw [l3Checksum_eq, blank] at stored
  have verified := stored_verifies front back (ownPseudoHeader conn l4.length) even short few
  rwa [← stored] at verified

theorem tcp_verified (segment : TcpSegment)
    (short : TCP_HEADER_LEN + segment.opts.length + segment.payload.length < 65536) :
    l4Sum (buildReplyTcpip conn segment) = 65535 := by
  let front : Bytes := word16 conn.tuple.dstPort ++ word16 conn.tuple.srcPort ++
    word32 segment.seq.toNat ++ word32 segment.ack.toNat ++
      [UInt8.ofNat (segment.off * 16), UInt8.ofNat segment.flags.toNat] ++
        word16 segment.win.toNat
  let back : Bytes := [0, 0] ++ (segment.opts ++ segment.payload)
  have shape (sum : Bytes) : tcpHeader conn.tuple segment sum ++ segment.payload =
      front ++ (sum ++ back) := by
    simp [tcpHeader, front, back]
  have frontLength : front.length = 16 := by simp [front, word16_length, word32]
  have backLength : back.length = 2 + segment.opts.length + segment.payload.length := by
    simp [back]
    omega
  clear_value front back
  simp only [TCP_HEADER_LEN] at short
  have small : front.length + 2 + back.length < 65536 := by
    rw [frontLength, backLength]
    omega
  have blank : (front ++ ([0, 0] ++ back)).length % 65536 = (front ++ ([0, 0] ++ back)).length := by
    apply Nat.mod_eq_of_lt
    simp only [List.length_append, List.length_cons, List.length_nil]
    omega
  have size : (front ++ ([0, 0] ++ back)).length =
      (front ++ (conn.l3Checksum (front ++ ([0, 0] ++ back)) ++ back)).length := by
    simp only [List.length_append, l3Checksum_length, List.length_cons, List.length_nil]
  rw [buildReplyTcpip]
  simp only [shape, blank, List.take_length]
  rw [size]
  exact l3Checksum_verified conn _ version front back (by rw [frontLength]) small rfl

/-- The words of the datagram and of its pseudo header add up to a multiple of 65535: the checksum
    is a zero. -/
def ZeroSum (payload : Bytes) : Prop :=
  (sumWords (udpHeader conn.tuple (UDP_HEADER_LEN + payload.length) [0, 0] ++ payload) +
    sumWords (ownPseudoHeader conn (UDP_HEADER_LEN + payload.length))) % 65535 = 0

instance (payload : Bytes) : Decidable (ZeroSum conn payload) :=
  inferInstanceAs (Decidable (_ = 0))

omit version in
theorem udpHeader_length (length : Nat) (check : Bytes) (two : check.length = 2) :
    (udpHeader conn.tuple length check).length = UDP_HEADER_LEN := by
  simp [udpHeader, word16_length, two, UDP_HEADER_LEN]

omit version in
theorem udp_ipv4 (payload : Bytes) (four : conn.sockIpver = 4) :
    byteAt (udpReply conn payload) 0 / 16 = 4 ∧ be16 (l4Of (udpReply conn payload)) 6 = 0 := by
  let l4 := udpHeader conn.tuple (UDP_HEADER_LEN + payload.length) [0, 0] ++ payload
  have length : UDP_HEADER_LEN + payload.length = l4.length := by
    rw [List.length_append, udpHeader_length conn _ [0, 0] rfl]
  have built : udpReply conn payload = conn.makeIphdr l4.length ++ l4 := by
    rw [udpReply, if_pos four, ← length]
  have reads := makeIphdr_reads conn l4 (.inl four)
  rw [built, reads.behind]
  exact ⟨reads.version.trans four, by simp [l4, udpHeader, word16, be16, byteAt]⟩

theorem udp_ipv6 (payload : Bytes) (six : conn.sockIpver = 6)
    (short : UDP_HEADER_LEN + payload.length < 65536) :
    l4Sum (udpReply conn payload) = 65535 ∧
      (be16 (l4Of (udpReply conn payload)) 6 = 0 ↔ ZeroSum conn payload) := by
  let length := UDP_HEADER_LEN + payload.length
  let front : Bytes := word16 conn.tuple.dstPort ++ (word16 conn.tuple.srcPort ++ word16 length)
  have frontLength : front.length = 6 := by simp [front, word16_length]
  have shape (sum : Bytes) : udpHeader conn.tuple length sum ++ payload =
      front ++ (sum ++ payload) := by
    simp [udpHeader, front]
  -- The length field alone keeps the sum from being zero.
  have positive : 0 < sumWords (front ++ ([0, 0] ++ payload)) := by
    have header : 0 < sumWords front := by
      have high : (UInt8.ofNat (length / 256)).toNat = length / 256 % 256 := rfl
      have low : (UInt8.ofNat length).toNat = length % 256 := rfl
      have several : 0 < length ∧ length < 65536 := ⟨by simp [length, UDP_HEADER_LEN], short⟩
      simp only [front, word16, List.cons_append, List.nil_append, sumWords, high, low]
      omega
    rw [sumWords_append front _ (by rw [frontLength])]
    omega
  have zeroSum : ZeroSum conn payload ↔ (sumWords (front ++ ([0, 0] ++ payload)) +
      sumWords (ownPseudoHeader conn length)) % 65535 = 0 := by
    rw [ZeroSum, ← shape]
  clear_value front
  have blank : (front ++ ([0, 0] ++ payload)).length = length := by
    simp only [List.length_append, List.length_cons, List.length_nil, frontLength, length,
      UDP_HEADER_LEN]
    omega
  let check := conn.l3Checksum (front ++ ([0, 0] ++ payload))
  have long : (front ++ (check ++ payload)).length = length := by
    rw [← blank]
    simp only [List.length_append, List.length_cons, List.length_nil]
    rfl
  have built : udpReply conn payload =
      conn.makeIphdr (front ++ (check ++ payload)).length ++ (front ++ (check ++ payload)) := by
    have own : check = conn.l3Checksum (udpHeader conn.tuple length [0, 0] ++ payload) :=
      congrArg conn.l3Checksum (shape [0, 0]).symm
    rw [long, own, ← shape, udpReply, if_neg (by rw [six]; decide)]
  have reads := makeIphdr_reads conn (front ++ (check ++ payload)) version
  have small : front.length + 2 + payload.length < 65536 := by
    rw [frontLength]
    simpa [UDP_HEADER_LEN] using short
  rw [built]
  refine ⟨l3Checksum_verified conn _ version front payload (by rw [frontLength]) small rfl, ?_⟩
  have field := be16_after front (check ++ payload) 0
  rw [frontLength] at field
  rw [reads.behind, field, zeroSum]
  have first : calcChecksum 0 (front ++ ([0, 0] ++ payload)) ≤ 65535 :=
    calcChecksum_le 0 _ (Nat.zero_le _) (by rw [blank]; exact short)
  have few := ownPseudoHeader_short conn length
  have sum : check = storedSum (calcChecksum (calcChecksum 0 (front ++ ([0, 0] ++ payload)))
      (ownPseudoHeader conn length)) := by
    rw [← blank]
    exact l3Checksum_eq conn _
  have bounded := calcChecksum_le _ _ first few
  have some : 0 < calcChecksum 0 (front ++ ([0, 0] ++ payload)) := by
    by_contra none
    have nothing := calcChecksum_zero 0 _ (Nat.eq_zero_of_not_pos none)
    omega
  -- A sum in 1..65535 is stored as zero just if it is a multiple of 65535.
  have ones := calcChecksum_ones _ (ownPseudoHeader conn length) first few (by omega)
  have residue := calcChecksum_modEq 0 (front ++ ([0, 0] ++ payload))
  rw [sum, be16_storedSum]
  simp only [Nat.ModEq] at residue
  omega

/-- A datagram is accepted but for a checksum of zero over IPv6. -/
theorem udp_verified (payload : Bytes) (short : UDP_HEADER_LEN + payload.length < 65536) :
    (if be16 (l4Of (udpReply conn payload)) 6 = 0 then byteAt (udpReply conn payload) 0 / 16 = 4
      else l4Sum (udpReply conn payload) = 65535) ↔
      ¬ (conn.sockIpver = 6 ∧ ZeroSum conn payload) := by
  by_cases six : conn.sockIpver = 6
  · obtain ⟨verified, zero⟩ := udp_ipv6 conn version payload six short
    have newer : byteAt (udpReply conn payload) 0 / 16 = 6 :=
      makeIphdr_version conn _ _ (by rw [six]; decide)
    by_cases sum : ZeroSum conn payload
    · simp [six, sum, zero, newer]
    · simp [six, sum, zero, verified]
  · obtain ⟨four, zero⟩ := udp_ipv4 conn payload (version.resolve_right six)
    simp [six, zero, four]

theorem icmp_verified (data : Bytes) (long : ICMP_HEADER_LEN ≤ data.length)
    (short : data.length < 65536) :
    (if byteAt (icmpReply conn data) 0 / 16 = 4 then calcChecksum 0 (l4Of (icmpReply conn data))
      else l4Sum (icmpReply conn data)) = 65535 := by
  let front : Bytes := data.take 2
  let back : Bytes := word16 conn.tuple.srcPort ++ data.drop 6
  have shape (sum : Bytes) : icmpMessage conn data sum = front ++ (sum ++ back) := by
    simp [icmpMessage, front, back]
  simp only [ICMP_HEADER_LEN] at long
  have frontLength : front.length = 2 := by
    simp [front]
    omega
  have backLength : back.length = data.length - 4 := by
    simp [back, word16_length]
    omega
  clear_value front back
  have small : front.length + 2 + back.length < 65536 := by
    rw [frontLength, backLength]
    omega
  have length (sum : Bytes) (two : sum.length = 2) :
      data.length = (front ++ (sum ++ back)).length := by
    simp only [List.length_append, two, frontLength, backLength]
    omega
  rw [icmpReply]
  by_cases four : conn.sockIpver = 4
  · simp only [four, if_true, shape]
    rw [length _ (DnsSpoof.storedSum_length _)]
    have reads := makeIphdr_reads conn
      (front ++ (storedSum (calcChecksum 0 (front ++ ([0, 0] ++ back))) ++ back)) version
    rw [if_pos (reads.version.trans four), reads.behind]
    exact stored_alone front back (by rw [frontLength]) small
  · simp only [four, if_false, shape]
    rw [length (conn.l3Checksum (front ++ ([0, 0] ++ back))) rfl]
    have reads := makeIphdr_reads conn
      (front ++ (conn.l3Checksum (front ++ ([0, 0] ++ back)) ++ back)) version
    rw [if_neg (reads.version ▸ four)]
    exact l3Checksum_verified conn _ version front back (by rw [frontLength]) small rfl

/-- All the checksums of a packet for the client are right, but for a datagram over IPv6 whose
    checksum is a zero. -/
theorem reply_verified (reply : Reply) (valid : reply.Valid)
    (fits : conn.iphdrLen + reply.length < 65536) :
    Verified (reply.packet conn) reply.ipproto ↔
      ∀ payload, reply = .udp payload → ¬ (conn.sockIpver = 6 ∧ ZeroSum conn payload) := by
  have ip := reply_ip_verified conn reply
  have udpTcp : IPPROTO_UDP ≠ IPPROTO_TCP := by decide
  have icmpTcp : IPPROTO_ICMP ≠ IPPROTO_TCP := by decide
  have icmpUdp : IPPROTO_ICMP ≠ IPPROTO_UDP := by decide
  cases reply with
  | tcp segment =>
      simp only [Reply.length] at fits
      refine iff_of_true ⟨ip, fun _ => ?_, fun other => absurd other.symm udpTcp,
        fun other => absurd other.symm icmpTcp⟩ nofun
      exact tcp_verified conn version segment (by omega)
  | udp payload =>
      simp only [Reply.length] at fits
      have datagram := udp_verified conn version payload (by omega)
      constructor
      · rintro verified _ ⟨⟩
        exact datagram.mp (verified.udp rfl)
      · intro checked
        exact ⟨ip, fun other => absurd other udpTcp, fun _ => datagram.mpr (checked payload rfl),
          fun other => absurd other.symm icmpUdp⟩
  | icmp data =>
      simp only [Reply.length] at fits
      refine iff_of_true ⟨ip, fun other => absurd other icmpTcp,
        fun other => absurd other icmpUdp, fun _ => ?_⟩ nofun
      exact icmp_verified conn version data valid.1 (by omega)

def resolver : ZdtunConn :=
  ⟨⟨BitVec.ofNat 128 0xFD000000000000000000000000000002,
    BitVec.ofNat 128 0x20010DB8000000000000000000000001, 40000, 53, 6, IPPROTO_UDP⟩, 6⟩

omit version in
/-- Of two answers the one whose words add up to 65535 is lost. -/
theorem reply_verified_resolver :
    Verified ((Reply.udp [1, 2, 3]).packet resolver) IPPROTO_UDP ∧
      ¬ Verified ((Reply.udp [56, 168]).packet resolver) IPPROTO_UDP := by
  have answered := reply_verified resolver (.inr rfl) (.udp [1, 2, 3]) trivial (by decide)
  have lost := reply_verified resolver (.inr rfl) (.udp [56, 168]) trivial (by decide)
  have other : ¬ ZeroSum resolver [1, 2, 3] := by decide +kernel
  have zero : ZeroSum resolver [56, 168] := by decide +kernel
  refine ⟨answered.mpr ?_, fun verified => lost.mp verified _ rfl ⟨rfl, zero⟩⟩
  rintro _ ⟨⟩ ⟨-, sum⟩
  exact other sum

end Receiving

end Ptnet.PacketSums
