import Ptnet.DnsSpoof

/-!
submodules/zdtun/zdtun.c: the packets which zdtun builds for the client. `build_reply_tcpip`,
`handle_udp_reply` and `handle_icmp_reply` put headers before what came from the server;
`send_to_client` gives the result to the parser of the packets of the client. Here the parser gets
back what was put in; it finds the tuple with its ends exchanged exactly where the socket has the
IP version of the client.
-/

namespace Ptnet.TunnelPackets

open ByteMemory (Bytes decodeLe encodeLe)
open Connection (Ip Tuple IPPROTO_ICMP IPPROTO_TCP IPPROTO_UDP)
open DnsMessage (word16 word32 word16_length word16_read)
open DnsSpoof (ZdtunConn ipBytes ipBytes_length sumWords calcChecksum storedSum udpHeader)
open Pcapdroid (Pkt)
open ZdtunPacket

/-- `struct tcphdr` behind the ports, the options and the payload. -/
structure TcpSegment where
  seq : BitVec 32
  ack : BitVec 32
  flags : BitVec 8
  win : BitVec 16
  opts : Bytes := []
  payload : Bytes := []
  deriving DecidableEq, Repr

def TcpSegment.off (segment : TcpSegment) : Nat := 5 + segment.opts.length / 4

section Building

def be32 (bytes : Bytes) (index : Nat) : Nat := be16 bytes index * 65536 + be16 bytes (index + 2)

def readTcp (l4 : Bytes) : TcpSegment :=
  let hdrLen := byteAt l4 12 / 16 * 4
  { seq := BitVec.ofNat 32 (be32 l4 4)
    ack := BitVec.ofNat 32 (be32 l4 8)
    flags := BitVec.ofNat 8 (byteAt l4 13)
    win := BitVec.ofNat 16 (be16 l4 14)
    opts := slice l4 TCP_HEADER_LEN (hdrLen - TCP_HEADER_LEN)
    payload := l4.drop hdrLen }

def tcpHeader (tuple : Tuple) (segment : TcpSegment) (sum : Bytes) : Bytes :=
  (word16 tuple.dstPort ++ word16 tuple.srcPort ++ word32 segment.seq.toNat ++
    word32 segment.ack.toNat ++ [UInt8.ofNat (segment.off * 16), UInt8.ofNat segment.flags.toNat] ++
    word16 segment.win.toNat) ++ (sum ++ ([0, 0] ++ segment.opts))

variable (conn : ZdtunConn)

/-- `build_reply_tcpip`; the length for the checksum is that of a `uint16_t`. -/
def buildReplyTcpip (segment : TcpSegment) : Bytes :=
  let blank := tcpHeader conn.tuple segment [0, 0] ++ segment.payload
  let sum := conn.l3Checksum (blank.take (blank.length % 65536))
  conn.makeIphdr blank.length ++ (tcpHeader conn.tuple segment sum ++ segment.payload)

/-- The datagram of `handle_udp_reply`. -/
def udpReply (payload : Bytes) : Bytes :=
  let length := UDP_HEADER_LEN + payload.length
  let sum :=
    if conn.sockIpver = 4 then [0, 0]
    else conn.l3Checksum (udpHeader conn.tuple length [0, 0] ++ payload)
  conn.makeIphdr length ++ (udpHeader conn.tuple length sum ++ payload)

def icmpMessage (data sum : Bytes) : Bytes :=
  data.take 2 ++ (sum ++ (word16 conn.tuple.srcPort ++ data.drop 6))

/-- The message of `handle_icmp_reply`, whose checksum covers no pseudo header for IPv4. -/
def icmpReply (data : Bytes) : Bytes :=
  let blank := icmpMessage conn data [0, 0]
  let sum :=
    if conn.sockIpver = 4 then storedSum (calcChecksum 0 blank)
    else conn.l3Checksum blank
  conn.makeIphdr data.length ++ icmpMessage conn data sum

end Building

inductive Reply where
  | tcp (segment : TcpSegment)
  | udp (payload : Bytes)
  | icmp (data : Bytes)

namespace Reply

def ipproto : Reply → Nat
  | .tcp _ => IPPROTO_TCP
  | .udp _ => IPPROTO_UDP
  | .icmp _ => IPPROTO_ICMP

def length : Reply → Nat
  | .tcp segment => TCP_HEADER_LEN + segment.opts.length + segment.payload.length
  | .udp payload => UDP_HEADER_LEN + payload.length
  | .icmp data => data.length

def packet (conn : ZdtunConn) : Reply → Bytes
  | .tcp segment => buildReplyTcpip conn segment
  | .udp payload => udpReply conn payload
  | .icmp data => icmpReply conn data

/-- What the functions make sure of before they build the packet. -/
def Valid : Reply → Prop
  | .tcp segment => segment.opts.length % 4 = 0 ∧ segment.opts.length ≤ 40
  | .udp _ => True
  | .icmp data => ICMP_HEADER_LEN ≤ data.length ∧ isEchoReply (byteAt data 0) = true

def l7 : Reply → Bytes
  | .tcp segment => segment.payload
  | .udp payload => payload
  | .icmp data => data.drop ICMP_HEADER_LEN

end Reply

def reversed (tuple : Tuple) : Tuple :=
  { tuple with
    srcIp := tuple.dstIp, dstIp := tuple.srcIp, srcPort := tuple.dstPort, dstPort := tuple.srcPort }

def addressSize (ipver : Nat) : Nat := if ipver = 4 then 4 else 16

/-- The tuple which a packet that is built for a connection parses to: it has the IP version of the
    socket, and a message of ICMP has but one port. -/
def received (conn : ZdtunConn) : Tuple :=
  { srcIp := address (ipBytes conn.tuple.dstIp (addressSize conn.sockIpver))
    dstIp := address (ipBytes conn.tuple.srcIp (addressSize conn.sockIpver))
    srcPort := if conn.tuple.ipproto = IPPROTO_ICMP then 0 else conn.tuple.dstPort % 65536
    dstPort := conn.tuple.srcPort % 65536
    ipver := if conn.sockIpver = 4 then 4 else 6
    ipproto := conn.tuple.ipproto }

structure Readable (tuple : Tuple) : Prop where
  version : tuple.ipver = 4 ∨ tuple.ipver = 6
  source : ∃ bytes : Bytes, bytes.length = addressSize tuple.ipver ∧ tuple.srcIp = address bytes
  destination : ∃ bytes : Bytes,
    bytes.length = addressSize tuple.ipver ∧ tuple.dstIp = address bytes
  srcPort : tuple.srcPort < 65536
  dstPort : tuple.dstPort < 65536

section Words

theorem word_wraps (value : Nat) :
    (UInt8.ofNat (value / 256)).toNat * 256 + (UInt8.ofNat value).toNat = value % 65536 := by
  have high : (UInt8.ofNat (value / 256)).toNat = value / 256 % 256 := rfl
  have low : (UInt8.ofNat value).toNat = value % 256 := rfl
  rw [high, low]
  omega

theorem byteAt_after (front back : Bytes) (index : Nat) :
    byteAt (front ++ back) (front.length + index) = byteAt back index := by
  rw [byteAt, byteAt, List.getD_eq_getElem?_getD, List.getD_eq_getElem?_getD,
    List.getElem?_append_right (Nat.le_add_right _ _), Nat.add_sub_cancel_left]

theorem be16_after (front back : Bytes) (index : Nat) :
    be16 (front ++ back) (front.length + index) = be16 back index := by
  rw [be16, be16, byteAt_after, Nat.add_assoc, byteAt_after]

theorem be16_word16 (value : Nat) (rest : Bytes) (small : value < 65536) :
    be16 (word16 value ++ rest) 0 = value :=
  word16_read value small

theorem be32_word32 (value : Nat) (rest : Bytes) (small : value < 2 ^ 32) :
    be32 (word32 value ++ rest) 0 = value := by
  have high : be16 (word32 value ++ rest) 0 = value / 65536 := by
    rw [word32, List.append_assoc]
    exact be16_word16 _ _ (by omega)
  have low : be16 (word32 value ++ rest) 2 = value % 65536 := by
    have same : word16 value = word16 (value % 65536) := by
      rw [word16, word16, List.cons.injEq, List.cons.injEq]
      refine ⟨UInt8.toNat_inj.mp ?_, UInt8.toNat_inj.mp ?_, rfl⟩
      · show value / 256 % 256 = value % 65536 / 256 % 256
        omega
      · show value % 256 = value % 65536 % 256
        omega
    rw [word32, List.append_assoc, same]
    have behind := be16_after (word16 (value / 65536)) (word16 (value % 65536) ++ rest) 0
    exact behind.trans (be16_word16 _ _ (Nat.mod_lt _ (by decide)))
  rw [be32, high, low]
  omega

theorem slice_after (front middle back : Bytes) :
    slice (front ++ (middle ++ back)) front.length middle.length = middle := by
  simp [slice]

end Words

section Addresses

theorem decodeLe_digit (bytes : Bytes) (index : Nat) :
    decodeLe bytes / 256 ^ index % 256 = (bytes.getD index 0).toNat := by
  induction bytes generalizing index with
  | nil => simp [decodeLe]
  | cons byte rest ih =>
      have small := byte.toNat_lt
      cases index with
      | zero =>
          simp only [decodeLe, pow_zero, Nat.div_one, List.getD_cons_zero]
          omega
      | succ index =>
          have next : (byte.toNat + 256 * decodeLe rest) / 256 = decodeLe rest := by omega
          rw [List.getD_cons_succ, ← ih index, decodeLe, pow_succ', ← Nat.div_div_eq_div_mul, next]

theorem decodeLe_lt (bytes : Bytes) : decodeLe bytes < 256 ^ bytes.length := by
  induction bytes with
  | nil => simp [decodeLe]
  | cons byte rest ih =>
      have small := byte.toNat_lt
      rw [decodeLe, List.length_cons, pow_succ']
      omega

theorem ipBytes_address (bytes : Bytes) (long : bytes.length ≤ 16) :
    ipBytes (address bytes) bytes.length = bytes := by
  apply List.ext_getElem
  · rw [ipBytes_length]
  · intro index first second
    have below : decodeLe bytes.reverse < 256 ^ bytes.length := by
      simpa using decodeLe_lt bytes.reverse
    have room : (256 : Nat) ^ bytes.length * 2 ^ (128 - 8 * bytes.length) = 2 ^ 128 := by
      rw [show (256 : Nat) = 2 ^ 8 from rfl, ← pow_mul, ← pow_add]
      congr 1
      omega
    have shifted : decodeLe bytes.reverse * 2 ^ (128 - 8 * bytes.length) < 2 ^ 128 := by
      rw [← room]
      exact Nat.mul_lt_mul_of_pos_right below (Nat.two_pow_pos _)
    have small : decodeLe bytes.reverse < 2 ^ 128 :=
      Nat.lt_of_le_of_lt (Nat.le_mul_of_pos_right _ (Nat.two_pow_pos _)) shifted
    have value : (address bytes).toNat =
        decodeLe bytes.reverse * 2 ^ (128 - 8 * bytes.length) := by
      rw [address, BitVec.toNat_shiftLeft, BitVec.toNat_ofNat, Nat.mod_eq_of_lt small,
        Nat.shiftLeft_eq, Nat.mod_eq_of_lt shifted]
    have split : 120 - 8 * index = (128 - 8 * bytes.length) + 8 * (bytes.length - 1 - index) := by
      omega
    have digit : (address bytes >>> (120 - 8 * index)).toNat =
        decodeLe bytes.reverse / 256 ^ (bytes.length - 1 - index) := by
      rw [BitVec.toNat_ushiftRight, Nat.shiftRight_eq_div_pow, value, split, pow_add,
        ← Nat.div_div_eq_div_mul, Nat.mul_div_cancel _ (Nat.two_pow_pos _), pow_mul,
        show (2 : Nat) ^ 8 = 256 from rfl]
    have read := decodeLe_digit bytes.reverse (bytes.length - 1 - index)
    apply UInt8.toNat_inj.mp
    rw [show (ipBytes (address bytes) bytes.length)[index] =
      UInt8.ofNat (address bytes >>> (120 - 8 * index)).toNat by simp [ipBytes], digit]
    have low : (UInt8.ofNat (decodeLe bytes.reverse / 256 ^ (bytes.length - 1 - index))).toNat =
        decodeLe bytes.reverse / 256 ^ (bytes.length - 1 - index) % 256 := rfl
    rw [low, read, List.getD_eq_getElem?_getD, List.getElem?_reverse (by omega)]
    have back : bytes.length - 1 - (bytes.length - 1 - index) = index := by omega
    rw [back, List.getElem?_eq_getElem second, Option.getD_some]

end Addresses

section IpHeaders

variable (conn : ZdtunConn) (l4 : Bytes)

/-- What the parser sees of the IP header in front of `length` bytes. -/
def replyHeader (length : Nat) : IpHeader :=
  { hdrLen := conn.iphdrLen
    len := conn.iphdrLen + length
    srcIp := (received conn).srcIp
    dstIp := (received conn).dstIp
    ipver := (received conn).ipver
    ipproto := conn.tuple.ipproto }

theorem address_kept (ip : Ip) (size : Nat) (small : size ≤ 16)
    (readable : ∃ bytes : Bytes, bytes.length = size ∧ ip = address bytes) :
    address (ipBytes ip size) = ip := by
  obtain ⟨bytes, rfl, rfl⟩ := readable
  rw [ipBytes_address bytes small]

theorem upper_small (ipproto : Nat) (upper : isUpperLayer ipproto = true) : ipproto < 256 := by
  simp only [isUpperLayer, Bool.or_eq_true] at upper
  rcases upper with ((tcp | udp) | icmp) | icmpv6
  · exact of_decide_eq_true tcp ▸ by decide
  · exact of_decide_eq_true udp ▸ by decide
  · exact of_decide_eq_true icmp ▸ by decide
  · exact of_decide_eq_true icmpv6 ▸ by decide

theorem parseIp_ipv4 (check : Bytes) (upper : isUpperLayer conn.tuple.ipproto = true)
    (four : conn.sockIpver = 4) (two : check.length = 2) (small : l4.length + IPV4_HEADER_LEN < 65536) :
    parseIp (conn.ipv4Header (word16 (l4.length + IPV4_HEADER_LEN)) check ++ l4) =
      some (replyHeader conn l4.length) := by
  have proto : (UInt8.ofNat conn.tuple.ipproto).toNat = conn.tuple.ipproto :=
    Nat.mod_eq_of_lt (upper_small _ upper)
  obtain ⟨first, second, rfl⟩ := List.length_eq_two.mp two
  let front : Bytes := [0x45, 0] ++ (word16 (l4.length + IPV4_HEADER_LEN) ++
    ([0, 0, 0x40, 0, 64, UInt8.ofNat conn.tuple.ipproto] ++ [first, second]))
  generalize built :
    conn.ipv4Header (word16 (l4.length + IPV4_HEADER_LEN)) [first, second] ++ l4 = packet
  have shape : packet =
      front ++ (ipBytes conn.tuple.dstIp 4 ++ (ipBytes conn.tuple.srcIp 4 ++ l4)) := by
    simp [← built, ZdtunConn.ipv4Header, front]
  have long : packet.length = l4.length + IPV4_HEADER_LEN := by
    rw [shape]
    simp [front, ipBytes_length, word16_length, IPV4_HEADER_LEN]
    omega
  have dst : slice packet 12 4 = ipBytes conn.tuple.dstIp 4 := by
    have cut := slice_after front (ipBytes conn.tuple.dstIp 4) (ipBytes conn.tuple.srcIp 4 ++ l4)
    rw [ipBytes_length] at cut
    rw [shape]
    exact cut
  have src : slice packet 16 4 = ipBytes conn.tuple.srcIp 4 := by
    have cut := slice_after (front ++ ipBytes conn.tuple.dstIp 4) (ipBytes conn.tuple.srcIp 4) l4
    rw [ipBytes_length, List.length_append, ipBytes_length, List.append_assoc] at cut
    rw [shape]
    exact cut
  have version : byteAt packet 0 = 0x45 := by
    rw [shape]
    rfl
  have total : be16 packet 2 = l4.length + IPV4_HEADER_LEN := by
    rw [shape]
    exact word16_read _ small
  have fragment : be16 packet 6 = 0x4000 := by
    rw [shape]
    simp [front, be16, byteAt, word16]
  have protocol : byteAt packet 9 = conn.tuple.ipproto := by
    rw [shape]
    exact proto
  have header : conn.iphdrLen = IPV4_HEADER_LEN := by
    rw [ZdtunConn.iphdrLen, if_pos four]
  rw [parseIp, if_neg (by rw [long]; omega), version, if_pos (by decide), parseIpv4]
  simp only [version, total, fragment, protocol, dst, src, long, replyHeader, received, addressSize,
    header, IPV4_HEADER_LEN, four]
  simp [Nat.add_comm]

theorem parseIp_ipv6 (nexthdr : Nat) (upper : isUpperLayer conn.tuple.ipproto = true)
    (converted : conn.tuple.ipproto ≠ IPPROTO_ICMPV6) (other : conn.sockIpver ≠ 4)
    (next : nexthdr =
      if conn.tuple.ipproto ≠ IPPROTO_ICMP then conn.tuple.ipproto else IPPROTO_ICMPV6)
    (small : l4.length < 65536) :
    parseIp ([0x60, 0, 0, 0] ++ (word16 l4.length ++ ([UInt8.ofNat nexthdr, 64] ++
      (ipBytes conn.tuple.dstIp 16 ++ ipBytes conn.tuple.srcIp 16))) ++ l4) =
        some (replyHeader conn l4.length) := by
  have upper : isUpperLayer nexthdr = true ∧
      (if nexthdr = IPPROTO_ICMPV6 then IPPROTO_ICMP else nexthdr) = conn.tuple.ipproto := by
    by_cases icmp : conn.tuple.ipproto = IPPROTO_ICMP
    · rw [next, icmp]
      decide
    · rw [next, if_pos icmp, if_neg converted]
      exact ⟨upper, rfl⟩
  have proto : (UInt8.ofNat nexthdr).toNat = nexthdr :=
    Nat.mod_eq_of_lt (upper_small _ upper.1)
  let front : Bytes := [0x60, 0, 0, 0] ++ (word16 l4.length ++ [UInt8.ofNat nexthdr, 64])
  generalize built : [0x60, 0, 0, 0] ++ (word16 l4.length ++ ([UInt8.ofNat nexthdr, 64] ++
    (ipBytes conn.tuple.dstIp 16 ++ ipBytes conn.tuple.srcIp 16))) ++ l4 = packet
  have shape : packet =
      front ++ (ipBytes conn.tuple.dstIp 16 ++ (ipBytes conn.tuple.srcIp 16 ++ l4)) := by
    simp [← built, front]
  have long : packet.length = IPV6_HEADER_LEN + l4.length := by
    rw [shape]
    simp [front, ipBytes_length, word16_length, IPV6_HEADER_LEN]
    omega
  have dst : slice packet 24 16 = ipBytes conn.tuple.srcIp 16 := by
    have cut := slice_after (front ++ ipBytes conn.tuple.dstIp 16) (ipBytes conn.tuple.srcIp 16) l4
    rw [ipBytes_length, List.length_append, ipBytes_length, List.append_assoc] at cut
    rw [shape]
    exact cut
  have src : slice packet 8 16 = ipBytes conn.tuple.dstIp 16 := by
    have cut := slice_after front (ipBytes conn.tuple.dstIp 16) (ipBytes conn.tuple.srcIp 16 ++ l4)
    rw [ipBytes_length] at cut
    rw [shape]
    exact cut
  have version : byteAt packet 0 = 0x60 := by
    rw [shape]
    rfl
  have payload : be16 packet 4 = l4.length := by
    rw [shape]
    exact word16_read l4.length small
  have protocol : byteAt packet 6 = nexthdr := by
    rw [shape]
    exact proto
  have header : conn.iphdrLen = IPV6_HEADER_LEN := by
    rw [ZdtunConn.iphdrLen, if_neg other]
  have enough : ¬ packet.length < IPV4_HEADER_LEN := by
    rw [long, IPV4_HEADER_LEN, IPV6_HEADER_LEN]
    omega
  rw [parseIp, if_neg enough, version, if_neg (by decide), if_pos (by decide), parseIpv6]
  simp only [protocol, upper, src, dst, payload, long, replyHeader, received, addressSize, header,
    other]
  simp [Nat.add_comm]

theorem parseIp_reply (upper : isUpperLayer conn.tuple.ipproto = true)
    (converted : conn.tuple.ipproto ≠ IPPROTO_ICMPV6)
    (fits : conn.iphdrLen + l4.length < 65536) :
    parseIp (conn.makeIphdr l4.length ++ l4) = some (replyHeader conn l4.length) := by
  by_cases four : conn.sockIpver = 4
  · rw [ZdtunConn.iphdrLen, if_pos four] at fits
    rw [ZdtunConn.makeIphdr, if_pos four]
    exact parseIp_ipv4 conn l4 _ upper four rfl (by omega)
  · rw [ZdtunConn.iphdrLen, if_neg four] at fits
    rw [ZdtunConn.makeIphdr, if_neg four]
    exact parseIp_ipv6 conn l4 _ upper converted four rfl (by omega)

/-- A packet that was built parses to what its L4 header says. -/
theorem zdtunParsePkt_reply (id2ports : Id2ports) (header : L4Header)
    (upper : isUpperLayer conn.tuple.ipproto = true)
    (converted : conn.tuple.ipproto ≠ IPPROTO_ICMPV6)
    (fits : conn.iphdrLen + l4.length < 65536)
    (l4Header : parseL4 conn.tuple.ipproto l4 = some header) :
    zdtunParsePkt id2ports (conn.makeIphdr l4.length ++ l4) =
      (id2ports, some (describe (replyHeader conn l4.length) l4 header)) := by
  have behind : slice (conn.makeIphdr l4.length ++ l4) conn.iphdrLen l4.length = l4 := by
    rw [← DnsSpoof.makeIphdr_length conn l4.length]
    simp [slice]
  rw [zdtunParsePkt, parseIp_reply conn l4 upper converted fits]
  simp only [replyHeader, Nat.add_sub_cancel_left, behind, l4Header]
  rfl

/-- The ends are exchanged exactly if the socket has the version of the client. -/
theorem received_reversed (readable : Readable conn.tuple)
    (version : conn.sockIpver = 4 ∨ conn.sockIpver = 6)
    (echo : conn.tuple.ipproto = IPPROTO_ICMP → conn.tuple.dstPort = 0) :
    received conn = reversed conn.tuple ↔ conn.sockIpver = conn.tuple.ipver := by
  have ipver : (received conn).ipver = conn.sockIpver := by
    rcases version with four | six
    · simp [received, four]
    · simp [received, six]
  constructor
  · intro exchanged
    rw [← ipver, exchanged]
    rfl
  · intro same
    have small : addressSize conn.tuple.ipver ≤ 16 := by
      rw [addressSize]
      split <;> decide
    have source := address_kept conn.tuple.srcIp _ small readable.source
    have destination := address_kept conn.tuple.dstIp _ small readable.destination
    have port : (if conn.tuple.ipproto = IPPROTO_ICMP then 0 else conn.tuple.dstPort % 65536) =
        conn.tuple.dstPort := by
      split
      · next icmp => exact (echo icmp).symm
      · exact Nat.mod_eq_of_lt readable.dstPort
    rw [show (received conn).ipver = if conn.sockIpver = 4 then 4 else 6 from rfl] at ipver
    rw [received, reversed, ipver, port, same, source, destination,
      Nat.mod_eq_of_lt readable.srcPort]

end IpHeaders

section L4Headers

theorem be32_after (front back : Bytes) (index : Nat) :
    be32 (front ++ back) (front.length + index) = be32 back index := by
  rw [be32, be32, be16_after, Nat.add_assoc, be16_after]

variable (tuple : Tuple) (segment : TcpSegment) (sum : Bytes)

theorem tcpHeader_length (two : sum.length = 2) :
    (tcpHeader tuple segment sum).length = TCP_HEADER_LEN + segment.opts.length := by
  simp [tcpHeader, word16_length, word32, two, TCP_HEADER_LEN]
  omega

theorem readTcp_header (two : sum.length = 2) (whole : segment.opts.length % 4 = 0)
    (short : segment.opts.length ≤ 40) :
    readTcp (tcpHeader tuple segment sum ++ segment.payload) = segment ∧
      byteAt (tcpHeader tuple segment sum ++ segment.payload) 12 / 16 * 4 =
        TCP_HEADER_LEN + segment.opts.length := by
  let ports : Bytes := word16 tuple.dstPort ++ word16 tuple.srcPort
  let numbers : Bytes := ports ++ word32 segment.seq.toNat ++ word32 segment.ack.toNat
  let marks : Bytes := [UInt8.ofNat (segment.off * 16), UInt8.ofNat segment.flags.toNat]
  let rest : Bytes := sum ++ ([0, 0] ++ (segment.opts ++ segment.payload))
  generalize built : tcpHeader tuple segment sum ++ segment.payload = l4
  have shape : l4 = numbers ++ (marks ++ (word16 segment.win.toNat ++ rest)) := by
    simp [← built, tcpHeader, numbers, ports, marks, rest]
  have seq : be32 l4 4 = segment.seq.toNat := by
    have field := be32_after ports (word32 segment.seq.toNat ++ (word32 segment.ack.toNat ++
      (marks ++ (word16 segment.win.toNat ++ rest)))) 0
    rw [shape, show numbers = ports ++ (word32 segment.seq.toNat ++ word32 segment.ack.toNat) by
      simp [numbers], List.append_assoc, List.append_assoc]
    exact field.trans (be32_word32 _ _ segment.seq.isLt)
  have ack : be32 l4 8 = segment.ack.toNat := by
    have field := be32_after (ports ++ word32 segment.seq.toNat) (word32 segment.ack.toNat ++
      (marks ++ (word16 segment.win.toNat ++ rest))) 0
    rw [shape, show numbers = ports ++ word32 segment.seq.toNat ++ word32 segment.ack.toNat from
      rfl, List.append_assoc]
    exact field.trans (be32_word32 _ _ segment.ack.isLt)
  have win : be16 l4 14 = segment.win.toNat := by
    have field := be16_after (numbers ++ marks) (word16 segment.win.toNat ++ rest) 0
    rw [shape, ← List.append_assoc]
    exact field.trans (be16_word16 _ _ segment.win.isLt)
  have off : byteAt l4 12 = segment.off * 16 := by
    have field := byteAt_after numbers (marks ++ (word16 segment.win.toNat ++ rest)) 0
    rw [shape]
    refine field.trans (Nat.mod_eq_of_lt ?_)
    rw [TcpSegment.off]
    omega
  have flags : byteAt l4 13 = segment.flags.toNat := by
    have field := byteAt_after numbers (marks ++ (word16 segment.win.toNat ++ rest)) 1
    rw [shape]
    exact field.trans (Nat.mod_eq_of_lt segment.flags.isLt)
  have hdrLen : byteAt l4 12 / 16 * 4 = TCP_HEADER_LEN + segment.opts.length := by
    rw [off, TcpSegment.off, TCP_HEADER_LEN]
    omega
  let fixed : Bytes := numbers ++ (marks ++ (word16 segment.win.toNat ++ (sum ++ [0, 0])))
  have fixedLength : fixed.length = TCP_HEADER_LEN := by
    simp [fixed, numbers, ports, marks, word16_length, word32, two, TCP_HEADER_LEN]
  have split : l4 = fixed ++ (segment.opts ++ segment.payload) := by
    simp [shape, fixed, rest]
  have opts : slice l4 TCP_HEADER_LEN segment.opts.length = segment.opts := by
    rw [split, ← fixedLength]
    exact slice_after fixed segment.opts segment.payload
  have payload : l4.drop (TCP_HEADER_LEN + segment.opts.length) = segment.payload := by
    rw [split, ← fixedLength, ← List.length_append, ← List.append_assoc, List.drop_left]
  refine ⟨?_, hdrLen⟩
  simp only [readTcp, seq, ack, flags, win, hdrLen, Nat.add_sub_cancel_left, opts, payload,
    BitVec.ofNat_toNat, BitVec.setWidth_eq]

theorem tcpHeader_ports (rest : Bytes) :
    be16 (tcpHeader tuple segment sum ++ rest) 0 = tuple.dstPort % 65536 ∧
      be16 (tcpHeader tuple segment sum ++ rest) 2 = tuple.srcPort % 65536 :=
  ⟨word_wraps _, word_wraps _⟩

theorem parseL4_tcp (two : sum.length = 2) (whole : segment.opts.length % 4 = 0)
    (short : segment.opts.length ≤ 40) :
    parseL4 IPPROTO_TCP (tcpHeader tuple segment sum ++ segment.payload) =
      some ⟨TCP_HEADER_LEN + segment.opts.length, tuple.dstPort % 65536, tuple.srcPort % 65536⟩ := by
  obtain ⟨first, second⟩ := tcpHeader_ports tuple segment sum segment.payload
  have long : (tcpHeader tuple segment sum ++ segment.payload).length =
      TCP_HEADER_LEN + segment.opts.length + segment.payload.length := by
    rw [List.length_append, tcpHeader_length tuple segment sum two]
  rw [parseL4, if_pos rfl]
  simp only [(readTcp_header tuple segment sum two whole short).2, long, first, second]
  rw [if_neg (by omega), if_neg (by omega)]

theorem parseL4_udp (payload : Bytes) (length : Nat) (two : sum.length = 2) :
    parseL4 IPPROTO_UDP (udpHeader tuple length sum ++ payload) =
      some ⟨UDP_HEADER_LEN, tuple.dstPort % 65536, tuple.srcPort % 65536⟩ := by
  have first : be16 (udpHeader tuple length sum ++ payload) 0 = tuple.dstPort % 65536 :=
    word_wraps _
  have second : be16 (udpHeader tuple length sum ++ payload) 2 = tuple.srcPort % 65536 :=
    word_wraps _
  have long : ¬ (udpHeader tuple length sum ++ payload).length < UDP_HEADER_LEN := by
    simp [udpHeader, word16_length, two, UDP_HEADER_LEN]
    omega
  rw [parseL4, if_neg (by decide), if_pos rfl, if_neg long, first, second]

theorem icmpMessage_length (conn : ZdtunConn) (data : Bytes) (two : sum.length = 2)
    (long : ICMP_HEADER_LEN ≤ data.length) : (icmpMessage conn data sum).length = data.length := by
  simp only [ICMP_HEADER_LEN] at long
  simp [icmpMessage, two, word16_length]
  omega

theorem parseL4_icmp (conn : ZdtunConn) (data : Bytes) (two : sum.length = 2)
    (long : ICMP_HEADER_LEN ≤ data.length) (reply : isEchoReply (byteAt data 0) = true) :
    parseL4 IPPROTO_ICMP (icmpMessage conn data sum) =
      some ⟨ICMP_HEADER_LEN, 0, conn.tuple.srcPort % 65536⟩ := by
  have length := icmpMessage_length sum conn data two long
  simp only [ICMP_HEADER_LEN] at long
  obtain ⟨first, second, others, rfl⟩ : ∃ first second others, data = first :: second :: others :=
    match data, long with
    | first :: second :: others, _ => ⟨first, second, others, rfl⟩
  have type : byteAt (icmpMessage conn (first :: second :: others) sum) 0 =
      byteAt (first :: second :: others) 0 := rfl
  have id : be16 (icmpMessage conn (first :: second :: others) sum) 4 =
      conn.tuple.srcPort % 65536 := by
    obtain ⟨low, high, rfl⟩ := List.length_eq_two.mp two
    exact word_wraps _
  have echo : isEcho (byteAt (first :: second :: others) 0) = false := by
    simp only [isEchoReply, isEcho, Bool.or_eq_true, decide_eq_true_eq, Bool.or_eq_false_iff,
      decide_eq_false_iff_not] at reply ⊢
    omega
  rw [parseL4, if_neg (by decide), if_neg (by decide), if_pos rfl]
  simp only [type, id, length, echo, reply]
  rw [if_neg (by rw [ICMP_HEADER_LEN]; omega)]
  rfl

end L4Headers

section RoundTrip

variable (conn : ZdtunConn)

/-- The packet is accepted, with all that was put in. -/
structure Arrives (id2ports : Id2ports) (reply : Reply) (pkt : Pkt) : Prop where
  parsed : zdtunParsePkt id2ports (reply.packet conn) = (id2ports, some pkt)
  tuple : pkt.tuple = received conn
  whole : pkt.isFragment = false
  len : pkt.len = (reply.packet conn).length
  l7 : pkt.l7 = reply.l7
  segment : ∀ segment, reply = .tcp segment →
    readTcp ((reply.packet conn).drop conn.iphdrLen) = segment ∧ pkt.thFlags = segment.flags

theorem reply_upper (reply : Reply) :
    isUpperLayer reply.ipproto = true ∧ reply.ipproto ≠ IPPROTO_ICMPV6 := by
  cases reply with
  | tcp => exact ⟨rfl, show IPPROTO_TCP ≠ IPPROTO_ICMPV6 by decide⟩
  | udp => exact ⟨rfl, show IPPROTO_UDP ≠ IPPROTO_ICMPV6 by decide⟩
  | icmp => exact ⟨rfl, show IPPROTO_ICMP ≠ IPPROTO_ICMPV6 by decide⟩

theorem describe_arrives (id2ports : Id2ports) (reply : Reply) (l4 : Bytes) (header : L4Header)
    (same : conn.tuple.ipproto = reply.ipproto) (fits : conn.iphdrLen + l4.length < 65536)
    (built : reply.packet conn = conn.makeIphdr l4.length ++ l4)
    (l4Header : parseL4 conn.tuple.ipproto l4 = some header)
    (srcPort : header.srcPort = (received conn).srcPort)
    (dstPort : header.dstPort = (received conn).dstPort)
    (l7 : l4.drop header.hdrLen = reply.l7)
    (segment : ∀ segment, reply = .tcp segment →
      readTcp l4 = segment ∧ BitVec.ofNat 8 (byteAt l4 13) = segment.flags) :
    Arrives conn id2ports reply (describe (replyHeader conn l4.length) l4 header) where
  parsed := by
    obtain ⟨upper, converted⟩ := reply_upper reply
    rw [← same] at upper converted
    rw [built]
    exact zdtunParsePkt_reply conn l4 id2ports header upper converted fits l4Header
  tuple := by
    simp only [describe, replyHeader, srcPort, dstPort]
    rfl
  whole := rfl
  len := by
    rw [built, List.length_append, DnsSpoof.makeIphdr_length]
    rfl
  l7 := l7
  segment other same := by
    have behind : (conn.makeIphdr l4.length ++ l4).drop conn.iphdrLen = l4 := by
      rw [← DnsSpoof.makeIphdr_length conn l4.length, List.drop_left]
    rw [built, behind]
    exact segment other same

theorem l3Checksum_length (l3 : Bytes) : (conn.l3Checksum l3).length = 2 := rfl

theorem reply_arrives (id2ports : Id2ports) (reply : Reply)
    (same : conn.tuple.ipproto = reply.ipproto) (valid : reply.Valid)
    (fits : conn.iphdrLen + reply.length < 65536) :
    ∃ pkt, Arrives conn id2ports reply pkt := by
  have ported (other : reply.ipproto ≠ IPPROTO_ICMP) :
      (received conn).srcPort = conn.tuple.dstPort % 65536 := if_neg (same ▸ other)
  cases reply with
  -- The checksum is a variable: no field is read from it, only its two bytes count.
  | tcp segment =>
      obtain ⟨whole, short⟩ := valid
      generalize sum : conn.l3Checksum ((tcpHeader conn.tuple segment [0, 0] ++
        segment.payload).take ((tcpHeader conn.tuple segment [0, 0] ++
          segment.payload).length % 65536)) = check
      have two : check.length = 2 := sum ▸ l3Checksum_length conn _
      have long : (tcpHeader conn.tuple segment check ++ segment.payload).length =
          TCP_HEADER_LEN + segment.opts.length + segment.payload.length := by
        rw [List.length_append, tcpHeader_length conn.tuple segment check two]
      have blank : (tcpHeader conn.tuple segment [0, 0] ++ segment.payload).length =
          (tcpHeader conn.tuple segment check ++ segment.payload).length := by
        rw [long, List.length_append, tcpHeader_length conn.tuple segment [0, 0] rfl]
      obtain ⟨read, hdrLen⟩ := readTcp_header conn.tuple segment check two whole short
      refine ⟨_, describe_arrives conn id2ports _ (tcpHeader conn.tuple segment check ++
        segment.payload) _ same (by rw [long]; exact fits) ?_ (by
          rw [same]
          exact parseL4_tcp conn.tuple segment check two whole short)
        (ported (show IPPROTO_TCP ≠ IPPROTO_ICMP by decide)).symm rfl ?_ ?_⟩
      · show buildReplyTcpip conn segment = _
        rw [← blank, buildReplyTcpip, sum]
      · have payload := congrArg TcpSegment.payload read
        rw [readTcp, hdrLen] at payload
        exact payload
      · rintro other ⟨⟩
        exact ⟨read, congrArg TcpSegment.flags read⟩
  | udp payload =>
      generalize sum : (if conn.sockIpver = 4 then [0, 0]
        else conn.l3Checksum (udpHeader conn.tuple (UDP_HEADER_LEN + payload.length) [0, 0] ++
          payload)) = check
      have two : check.length = 2 := by
        rw [← sum]
        split <;> rfl
      have header : (udpHeader conn.tuple (UDP_HEADER_LEN + payload.length) check).length =
          UDP_HEADER_LEN := by
        simp [udpHeader, word16_length, two, UDP_HEADER_LEN]
      have long : (udpHeader conn.tuple (UDP_HEADER_LEN + payload.length) check ++
          payload).length = UDP_HEADER_LEN + payload.length := by
        rw [List.length_append, header]
      refine ⟨_, describe_arrives conn id2ports _ (udpHeader conn.tuple
        (UDP_HEADER_LEN + payload.length) check ++ payload) _ same (by rw [long]; exact fits) ?_
        (by
          rw [same]
          exact parseL4_udp conn.tuple check payload _ two)
        (ported (show IPPROTO_UDP ≠ IPPROTO_ICMP by decide)).symm rfl ?_ ?_⟩
      · show udpReply conn payload = _
        rw [long, ← sum, udpReply]
      · show List.drop UDP_HEADER_LEN _ = payload
        exact List.drop_left' header
      · rintro other ⟨⟩
  | icmp data =>
      obtain ⟨long, type⟩ := valid
      generalize sum : (if conn.sockIpver = 4 then storedSum (calcChecksum 0 (icmpMessage conn data
        [0, 0])) else conn.l3Checksum (icmpMessage conn data [0, 0])) = check
      have two : check.length = 2 := by
        rw [← sum]
        split <;> rfl
      have length := icmpMessage_length check conn data two long
      refine ⟨_, describe_arrives conn id2ports _ (icmpMessage conn data check) _ same
        (by rw [length]; exact fits) ?_ (by
          rw [same]
          exact parseL4_icmp check conn data two long type) (if_pos same).symm rfl ?_ ?_⟩
      · show icmpReply conn data = _
        rw [length, ← sum, icmpReply]
      · show List.drop ICMP_HEADER_LEN _ = data.drop ICMP_HEADER_LEN
        obtain ⟨low, high, rfl⟩ := List.length_eq_two.mp two
        simp only [ICMP_HEADER_LEN] at long ⊢
        -- The identifier is written over, so that only what lies behind the header is kept.
        have front : (data.take 2 ++ ([low, high] ++ word16 conn.tuple.srcPort)).length = 6 := by
          simp [word16_length]
          omega
        rw [show icmpMessage conn data [low, high] =
          (data.take 2 ++ ([low, high] ++ word16 conn.tuple.srcPort)) ++ data.drop 6 by
            simp [icmpMessage], List.drop_append, front, List.drop_eq_nil_of_le (by omega),
          List.nil_append, List.drop_drop]
      · rintro other ⟨⟩

end RoundTrip

section Parsed

theorem address_readable (buf : Bytes) (start size : Nat) (inside : start + size ≤ buf.length) :
    ∃ bytes : Bytes, bytes.length = size ∧ address (slice buf start size) = address bytes :=
  ⟨slice buf start size, by rw [slice, List.length_take, List.length_drop]; omega, rfl⟩

theorem be16_lt (bytes : Bytes) (index : Nat) : be16 bytes index < 65536 := by
  have high := (bytes.getD index 0).toNat_lt
  have low := (bytes.getD (index + 1) 0).toNat_lt
  rw [be16, byteAt, byteAt]
  omega

structure ReadableHeader (ip : IpHeader) : Prop where
  version : ip.ipver = 4 ∨ ip.ipver = 6
  source : ∃ bytes : Bytes, bytes.length = addressSize ip.ipver ∧ ip.srcIp = address bytes
  destination : ∃ bytes : Bytes, bytes.length = addressSize ip.ipver ∧ ip.dstIp = address bytes

theorem parseIp_readable (buf : Bytes) (ip : IpHeader) (parsed : parseIp buf = some ip) :
    ReadableHeader ip := by
  have long := parseIp_long buf ip parsed
  simp only [IPV4_HEADER_LEN] at long
  simp only [parseIp, parseIpv4, parseIpv6] at parsed
  split at parsed
  · cases parsed
  · split at parsed
    · split at parsed
      · cases parsed
      · split at parsed
        · cases parsed
        · cases parsed
          exact ⟨.inl rfl, address_readable buf 12 4 (by omega), address_readable buf 16 4 (by omega)⟩
    · split at parsed
      · split at parsed
        · cases parsed
        · next room =>
            simp only [IPV6_HEADER_LEN] at room
            split at parsed
            · cases parsed
            · cases parsed
              exact ⟨.inr rfl, address_readable buf 8 16 (by omega),
                address_readable buf 24 16 (by omega)⟩
      · cases parsed

theorem parseL4_ports (ipproto : Nat) (l4 : Bytes) (header : L4Header)
    (parsed : parseL4 ipproto l4 = some header) :
    header.srcPort < 65536 ∧ header.dstPort < 65536 := by
  have word := be16_lt l4
  rw [parseL4] at parsed
  split at parsed
  · next tcp =>
      subst tcp
      simp only at parsed
      split at parsed
      · cases parsed
      · split at parsed
        · cases parsed
        · cases parsed
          exact ⟨word 0, word 2⟩
  · split at parsed
    · next udp =>
        subst udp
        split at parsed
        · cases parsed
        · cases parsed
          exact ⟨word 0, word 2⟩
    · split at parsed
      · next icmp =>
          subst icmp
          simp only at parsed
          split at parsed
          · cases parsed
          · split at parsed
            · cases parsed
              exact ⟨word 4, Nat.two_pow_pos 16⟩
            · split at parsed
              · cases parsed
                exact ⟨Nat.two_pow_pos 16, word 4⟩
              · cases parsed
      · cases parsed

theorem parsed_readable (id2ports : Id2ports) (buf : Bytes) (pkt : Pkt)
    (parsed : (zdtunParsePkt id2ports buf).2 = some pkt)
    (first : pkt.isFragment = true → pkt.isFirstFragment = true) : Readable pkt.tuple := by
  rw [zdtunParsePkt] at parsed
  cases header : parseIp buf with
  | none => simp [header] at parsed
  | some ip =>
      have readable := parseIp_readable buf ip header
      simp only [header] at parsed
      split at parsed
      · next later =>
          cases parsed
          simp only [describe] at first
          rw [Bool.and_eq_true] at later
          simp [first later.1] at later
      · split at parsed
        · cases parsed
        · next l4 found =>
            cases parsed
            obtain ⟨srcPort, dstPort⟩ := parseL4_ports _ _ l4 found
            exact ⟨readable.version, readable.source, readable.destination, srcPort, dstPort⟩

/-- What comes back for a packet of the client is accepted, and parses to the tuple of the packet
    with the ends exchanged exactly if the socket has the version of the client. -/
theorem reply_roundTrip (id2ports later : Id2ports) (buf : Bytes) (pkt : Pkt) (reply : Reply)
    (sockIpver : Nat) (version : sockIpver = 4 ∨ sockIpver = 6)
    (parsed : (zdtunParsePkt id2ports buf).2 = some pkt)
    (first : pkt.isFragment = true → pkt.isFirstFragment = true)
    (same : pkt.tuple.ipproto = reply.ipproto) (valid : reply.Valid)
    (fits : (⟨pkt.tuple, sockIpver⟩ : ZdtunConn).iphdrLen + reply.length < 65536)
    (echo : reply.ipproto = IPPROTO_ICMP → pkt.tuple.dstPort = 0) :
    ∃ back, Arrives ⟨pkt.tuple, sockIpver⟩ later reply back ∧
      (back.tuple = reversed pkt.tuple ↔ sockIpver = pkt.tuple.ipver) := by
  let conn : ZdtunConn := ⟨pkt.tuple, sockIpver⟩
  have readable := parsed_readable id2ports buf pkt parsed first
  obtain ⟨back, arrives⟩ := reply_arrives conn later reply same valid fits
  refine ⟨back, arrives, ?_⟩
  rw [arrives.tuple]
  exact received_reversed conn readable version fun icmp => echo (same.symm.trans icmp)

def query : Bytes :=
  [0x45, 0, 0, 29, 0, 1, 0, 0, 64, 17, 0, 0, 10, 215, 173, 1, 8, 8, 8, 8, 0x9c, 0x40, 0, 53, 0, 9, 0,
    0, 7]

def queryPkt : Pkt :=
  { tuple := ⟨BitVec.ofNat 128 0x0AD7AD01 <<< 96, BitVec.ofNat 128 0x08080808 <<< 96, 40000, 53, 4,
      IPPROTO_UDP⟩
    len := 29
    l7 := [7] }

/-- The reply to it comes back with the ends exchanged over a socket of IPv4, and as another tuple
    over one of IPv6. -/
theorem reply_roundTrip_query :
    (∃ back, Arrives ⟨queryPkt.tuple, 4⟩ (fun _ => (0, 0)) (.udp [1, 2, 3]) back ∧
      back.tuple = reversed queryPkt.tuple) ∧
    ∃ back, Arrives ⟨queryPkt.tuple, 6⟩ (fun _ => (0, 0)) (.udp [1, 2, 3]) back ∧
      back.tuple ≠ reversed queryPkt.tuple := by
  have parsed : (zdtunParsePkt (fun _ => (0, 0)) query).2 = some queryPkt := by decide +kernel
  obtain ⟨four, arrived, exchanged⟩ := reply_roundTrip (fun _ => (0, 0)) (fun _ => (0, 0)) query
    queryPkt (.udp [1, 2, 3]) 4 (.inl rfl) parsed (by decide) rfl trivial (by decide) (by decide)
  obtain ⟨six, converted, other⟩ := reply_roundTrip (fun _ => (0, 0)) (fun _ => (0, 0)) query
    queryPkt (.udp [1, 2, 3]) 6 (.inr rfl) parsed (by decide) rfl trivial (by decide) (by decide)
  have versions : ¬ 6 = queryPkt.tuple.ipver := by decide
  exact ⟨⟨four, arrived, exchanged.mpr rfl⟩, six, converted, mt other.mp versions⟩

end Parsed

end Ptnet.TunnelPackets
