import Ptnet.ByteMemory
import Ptnet.Pcapdroid

/-!
submodules/zdtun/zdtun.c: `zdtun_parse_pkt`. The fields of the IP header are read from the
buffer; everything behind the header is read below the length that is left once bytes that do
not belong to the IP packet are excluded.
-/

namespace Ptnet.ZdtunPacket

open ByteMemory (Bytes decodeLe)
open Connection (Tuple Ip IPPROTO_ICMP IPPROTO_TCP IPPROTO_UDP)
open Pcapdroid (Pkt)

def IPV4_HEADER_LEN : Nat := 20
def IPV6_HEADER_LEN : Nat := 40
def TCP_HEADER_LEN : Nat := 20
def UDP_HEADER_LEN : Nat := 8
def ICMP_HEADER_LEN : Nat := 8
def IPPROTO_ICMPV6 : Nat := 58

def byteAt (bytes : Bytes) (index : Nat) : Nat := (bytes.getD index 0).toNat

/-- A 16-bit field in network order. -/
def be16 (bytes : Bytes) (index : Nat) : Nat := byteAt bytes index * 256 + byteAt bytes (index + 1)

def slice (bytes : Bytes) (start count : Nat) : Bytes := (bytes.drop start).take count

/-- A `zdtun_ip_t` which begins with these bytes; the others are zero. -/
def address (bytes : Bytes) : Ip :=
  BitVec.ofNat 128 (decodeLe bytes.reverse) <<< (128 - 8 * bytes.length)

/-- `id2ports`: the ports of the last first fragment with this identification. -/
abbrev Id2ports := Nat → Nat × Nat

/-- What the IP header says; `len` is without the bytes behind the IP packet. -/
structure IpHeader where
  hdrLen : Nat
  len : Nat
  srcIp : Ip
  dstIp : Ip
  ipver : Nat
  ipproto : Nat
  isFragment : Bool := false
  isFirstFragment : Bool := false
  deriving DecidableEq, Repr

def parseIpv4 (buf : Bytes) : Option IpHeader :=
  let hdrLen := byteAt buf 0 % 16 * 4
  let totLen := be16 buf 2
  let fragOff := be16 buf 6
  if buf.length < hdrLen then none
  else if totLen < hdrLen then none
  else
    let later := fragOff % 8192 ≠ 0
    let more := fragOff / 8192 % 2 = 1
    some {
      hdrLen
      len := min buf.length totLen
      srcIp := address (slice buf 12 4)
      dstIp := address (slice buf 16 4)
      ipver := 4
      ipproto := byteAt buf 9
      isFragment := later || more
      isFirstFragment := !later && more }

def isUpperLayer (proto : Nat) : Bool :=
  proto = IPPROTO_TCP || proto = IPPROTO_UDP || proto = IPPROTO_ICMP || proto = IPPROTO_ICMPV6

def parseIpv6 (buf : Bytes) : Option IpHeader :=
  let nexthdr := byteAt buf 6
  if buf.length < IPV6_HEADER_LEN then none
  else if !isUpperLayer nexthdr then none
  else
    some {
      hdrLen := IPV6_HEADER_LEN
      len := min buf.length (be16 buf 4 + IPV6_HEADER_LEN)
      srcIp := address (slice buf 8 16)
      dstIp := address (slice buf 24 16)
      ipver := 6
      ipproto := if nexthdr = IPPROTO_ICMPV6 then IPPROTO_ICMP else nexthdr }

def parseIp (buf : Bytes) : Option IpHeader :=
  if buf.length < IPV4_HEADER_LEN then none
  else if byteAt buf 0 / 16 = 4 then parseIpv4 buf
  else if byteAt buf 0 / 16 = 6 then parseIpv6 buf
  else none

/-- `ICMP_ECHO` and `ICMPv6_ECHO` -/
def isEcho (type : Nat) : Bool := type = 8 || type = 128

/-- `ICMP_ECHOREPLY` and `ICMPv6_ECHOREPLY` -/
def isEchoReply (type : Nat) : Bool := type = 0 || type = 129

structure L4Header where
  hdrLen : Nat
  srcPort : Nat
  dstPort : Nat
  deriving DecidableEq, Repr

/-- The L4 header of a packet that is not a later fragment; `l4` is what follows the IP header. -/
def parseL4 (ipproto : Nat) (l4 : Bytes) : Option L4Header :=
  if ipproto = IPPROTO_TCP then
    let tcpHeaderLen := byteAt l4 12 / 16 * 4
    if l4.length < TCP_HEADER_LEN then none
    else if l4.length < tcpHeaderLen then none
    else some ⟨tcpHeaderLen, be16 l4 0, be16 l4 2⟩
  else if ipproto = IPPROTO_UDP then
    if l4.length < UDP_HEADER_LEN then none else some ⟨UDP_HEADER_LEN, be16 l4 0, be16 l4 2⟩
  else if ipproto = IPPROTO_ICMP then
    let type := byteAt l4 0
    if l4.length < ICMP_HEADER_LEN then none
    -- The echo ID takes the place of the source port of a request.
    else if isEcho type then some ⟨ICMP_HEADER_LEN, be16 l4 4, 0⟩
    else if isEchoReply type then some ⟨ICMP_HEADER_LEN, 0, be16 l4 4⟩
    else none
  else none

def describe (ip : IpHeader) (l4 : Bytes) (header : L4Header) : Pkt :=
  let l7 := l4.drop header.hdrLen
  { tuple := ⟨ip.srcIp, ip.dstIp, header.srcPort, header.dstPort, ip.ipver, ip.ipproto⟩
    isFragment := ip.isFragment
    isFirstFragment := ip.isFirstFragment
    len := ip.len
    l7
    thFlags := BitVec.ofNat 8 (byteAt l4 13)
    dnsFlags := BitVec.ofNat 16 (decodeLe (slice l7 2 2)) }

def zdtunParsePkt (id2ports : Id2ports) (buf : Bytes) : Id2ports × Option Pkt :=
  match parseIp buf with
  | none => (id2ports, none)
  | some ip =>
      let l4 := slice buf ip.hdrLen (ip.len - ip.hdrLen)
      let id := be16 buf 4
      if ip.isFragment && !ip.isFirstFragment then
        let ports := id2ports id
        let more := be16 buf 6 / 8192 % 2 = 1
        (if more then id2ports else Function.update id2ports id (0, 0),
          some (describe ip l4 ⟨0, ports.1, ports.2⟩))
      else
        match parseL4 ip.ipproto l4 with
        | none => (id2ports, none)
        | some header =>
            (if ip.isFirstFragment then
                Function.update id2ports id (header.srcPort, header.dstPort)
              else id2ports,
              some (describe ip l4 header))

def ipTotalLength (buf : Bytes) : Nat :=
  if byteAt buf 0 / 16 = 4 then be16 buf 2 else be16 buf 4 + IPV6_HEADER_LEN

section Trailing

variable (pkt more : Bytes)

theorem byteAt_append (index : Nat) (inside : index < pkt.length) :
    byteAt (pkt ++ more) index = byteAt pkt index := by
  rw [byteAt, byteAt, List.getD_append _ _ _ _ inside]

theorem be16_append (index : Nat) (inside : index + 1 < pkt.length) :
    be16 (pkt ++ more) index = be16 pkt index := by
  rw [be16, be16, byteAt_append pkt more index (by omega), byteAt_append pkt more _ inside]

theorem slice_append (start count : Nat) (inside : start + count ≤ pkt.length) :
    slice (pkt ++ more) start count = slice pkt start count := by
  rw [slice, slice, List.drop_append_of_le_length (by omega),
    List.take_append_of_le_length (by rw [List.length_drop]; omega)]

theorem parseIp_long (ip : IpHeader) (parsed : parseIp pkt = some ip) :
    IPV4_HEADER_LEN ≤ pkt.length := by
  rw [parseIp] at parsed
  split at parsed
  · cases parsed
  · next long => exact Nat.le_of_not_lt long

theorem parseIp_len (ip : IpHeader) (parsed : parseIp pkt = some ip) :
    ip.len = min pkt.length (ipTotalLength pkt) := by
  simp only [parseIp, parseIpv4, parseIpv6] at parsed
  rw [ipTotalLength]
  split at parsed
  · cases parsed
  · split at parsed
    · next version =>
        rw [if_pos version]
        split at parsed
        · cases parsed
        · split at parsed
          · cases parsed
          · cases parsed
            rfl
    · next other =>
        rw [if_neg other]
        split at parsed
        · split at parsed
          · cases parsed
          · split at parsed
            · cases parsed
            · cases parsed
              rfl
        · cases parsed

theorem parseIpv4_trailing (total : be16 pkt 2 = pkt.length)
    (long : IPV4_HEADER_LEN ≤ pkt.length) (ip : IpHeader) (parsed : parseIpv4 pkt = some ip) :
    parseIpv4 (pkt ++ more) = some ip := by
  simp only [IPV4_HEADER_LEN] at long
  simp only [parseIpv4] at parsed ⊢
  rw [byteAt_append pkt more 0 (by omega), be16_append pkt more 2 (by omega),
    be16_append pkt more 6 (by omega), byteAt_append pkt more 9 (by omega),
    slice_append pkt more 12 4 (by omega), slice_append pkt more 16 4 (by omega)]
  split at parsed
  · cases parsed
  · next room =>
      split at parsed
      · cases parsed
      · next fits =>
          have shorter : ¬ (pkt ++ more).length < byteAt pkt 0 % 16 * 4 := by
            rw [List.length_append]
            omega
          rw [if_neg shorter, if_neg fits, ← parsed, List.length_append]
          have captured : min (pkt.length + more.length) (be16 pkt 2) =
              min pkt.length (be16 pkt 2) := by omega
          rw [captured]

theorem parseIpv6_trailing (total : be16 pkt 4 + IPV6_HEADER_LEN = pkt.length) (ip : IpHeader)
    (parsed : parseIpv6 pkt = some ip) : parseIpv6 (pkt ++ more) = some ip := by
  have long : 40 ≤ pkt.length := total ▸ Nat.le_add_left _ _
  simp only [parseIpv6] at parsed ⊢
  rw [byteAt_append pkt more 6 (by omega), be16_append pkt more 4 (by omega),
    slice_append pkt more 8 16 (by omega), slice_append pkt more 24 16 (by omega)]
  split at parsed
  · cases parsed
  · next room =>
      split at parsed
      · cases parsed
      · next upper =>
          have shorter : ¬ (pkt ++ more).length < IPV6_HEADER_LEN := by
            rw [List.length_append]
            omega
          rw [if_neg shorter, if_neg upper, ← parsed, List.length_append]
          have captured : min (pkt.length + more.length) (be16 pkt 4 + IPV6_HEADER_LEN) =
              min pkt.length (be16 pkt 4 + IPV6_HEADER_LEN) := by omega
          rw [captured]

theorem parseIp_trailing (total : ipTotalLength pkt = pkt.length) (ip : IpHeader)
    (parsed : parseIp pkt = some ip) : parseIp (pkt ++ more) = some ip := by
  have long := parseIp_long pkt ip parsed
  have longer : ¬ (pkt ++ more).length < IPV4_HEADER_LEN := by
    rw [List.length_append]
    omega
  have version : byteAt (pkt ++ more) 0 = byteAt pkt 0 :=
    byteAt_append pkt more 0 (Nat.lt_of_lt_of_le (by decide) long)
  rw [parseIp, if_neg (Nat.not_lt.mpr long)] at parsed
  rw [parseIp, if_neg longer, version]
  rw [ipTotalLength] at total
  split at parsed
  · next four =>
      rw [if_pos four] at total ⊢
      exact parseIpv4_trailing pkt more total long ip parsed
  · next other =>
      rw [if_neg other] at total ⊢
      split at parsed
      · next six =>
          rw [if_pos six]
          exact parseIpv6_trailing pkt more total ip parsed
      · cases parsed

/-- Bytes behind an IP packet change nothing. -/
theorem zdtunParsePkt_trailing (id2ports : Id2ports) (parsed : Pkt)
    (total : ipTotalLength pkt = pkt.length)
    (parses : (zdtunParsePkt id2ports pkt).2 = some parsed) :
    zdtunParsePkt id2ports (pkt ++ more) = zdtunParsePkt id2ports pkt := by
  rw [zdtunParsePkt] at parses
  rw [zdtunParsePkt, zdtunParsePkt]
  cases found : parseIp pkt with
  | none => simp [found] at parses
  | some ip =>
      have long := parseIp_long pkt ip found
      have len := parseIp_len pkt ip found
      rw [total, Nat.min_self] at len
      have l4 : slice (pkt ++ more) ip.hdrLen (ip.len - ip.hdrLen) =
          slice pkt ip.hdrLen (ip.len - ip.hdrLen) := by
        by_cases inside : ip.hdrLen ≤ ip.len
        · exact slice_append pkt more _ _ (by omega)
        · rw [Nat.sub_eq_zero_of_le (Nat.le_of_not_le inside), slice, slice, List.take_zero,
            List.take_zero]
      simp only [IPV4_HEADER_LEN] at long
      rw [parseIp_trailing pkt more total ip found]
      simp only [l4, be16_append pkt more 4 (by omega), be16_append pkt more 6 (by omega)]

theorem zdtunParsePkt_len (id2ports : Id2ports) (buf : Bytes) (parsed : Pkt)
    (parses : (zdtunParsePkt id2ports buf).2 = some parsed) :
    parsed.len = min buf.length (ipTotalLength buf) := by
  rw [zdtunParsePkt] at parses
  cases found : parseIp buf with
  | none => simp [found] at parses
  | some ip =>
      rw [← parseIp_len buf ip found]
      simp only [found] at parses
      split at parses
      · cases parses
        rfl
      · split at parses
        · cases parses
        · cases parses
          rfl

end Trailing

end Ptnet.ZdtunPacket
