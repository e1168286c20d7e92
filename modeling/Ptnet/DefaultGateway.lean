import Ptnet.Subnets

/-!
`IpConfigService.findDefaultGateway`: the gateway is taken for the first host of the network of
an interface address. The mask is a shift of a 32-bit number, whose distance counts modulo 32,
and the last octet of the network address is replaced in its text.
-/

namespace Ptnet.DefaultGateway

open BigEndian Subnets

abbrev Text := List Char

/-- The decimal text of an octet. -/
def decimal (octet : BitVec 8) : Text := Nat.toDigits 10 octet.toNat

/-- `getHostAddress` of an `Inet4Address` -/
def hostAddress (inet : InetAddress) : Text :=
  ['.'].intercalate (inet.address.map decimal)

/-- `shl` on a 32-bit `Int`: only the five lowest bits of the distance count. -/
def shl (number : BitVec 32) (distance : Int) : BitVec 32 := number <<< (distance % 32).toNat

/-- The bits of an octet that lies `distance` bits above the lowest one. -/
def octet (number : BitVec 32) (distance : Nat) : BitVec 8 :=
  ((number &&& (255#32 <<< distance)) >>> distance).setWidth 8

def ipInt (ipBytes : List (BitVec 8)) : BitVec 32 :=
  ((ipBytes.getD 0 0).setWidth 32 <<< 24) ||| ((ipBytes.getD 1 0).setWidth 32 <<< 16) |||
    ((ipBytes.getD 2 0).setWidth 32 <<< 8) ||| (ipBytes.getD 3 0).setWidth 32

def networkInt (address : InetAddress) (prefixLength : Int) : BitVec 32 :=
  ipInt address.address &&& shl (-1#32) (32 - prefixLength)

def networkBytes (network : BitVec 32) : List (BitVec 8) :=
  [octet network 24, octet network 16, octet network 8, octet network 0]

def calculateNetworkAddress (address : InetAddress) (prefixLength : Int) : Option Text :=
  (InetAddress.getByAddress (networkBytes (networkInt address prefixLength))).map hostAddress

def lastIndexOf (text : Text) (char : Char) : Int :=
  (text.length : Int) - 1 - text.reverse.idxOf char

def gatewayOf (networkAddress : Text) : Text :=
  networkAddress.take (lastIndexOf networkAddress '.').toNat ++ ['.', '1']

def findDefaultGateway : List InterfaceAddress → Option Text
  | [] => none
  | interfaceAddress :: rest =>
      if interfaceAddress.address.isInet4Address then
        (calculateNetworkAddress interfaceAddress.address
          interfaceAddress.networkPrefixLength).map gatewayOf
      else findDefaultGateway rest

section Texts

theorem decimal_dotless (octet : BitVec 8) : '.' ∉ decimal octet := by
  intro dot
  have digit := Nat.isDigit_of_mem_toDigits (by decide) (by decide) dot
  exact absurd digit (by decide)

theorem decimal_injective (octet other : BitVec 8) (same : decimal octet = decimal other) :
    octet = other := by
  have numbers := congrArg (fun digits => Nat.ofDigitChars 10 digits 0) same
  simp only [decimal, Nat.ofDigitChars_ten_toDigits] at numbers
  exact BitVec.eq_of_toNat_eq numbers

theorem hostAddress_injective (inet other : InetAddress)
    (same : hostAddress inet = hostAddress other) : inet = other := by
  have octets (address : InetAddress) :
      (hostAddress address).splitOn '.' = address.address.map decimal := by
    refine List.splitOn_intercalate '.' ?_ ?_
    · intro piece member
      obtain ⟨octet, -, rfl⟩ := List.mem_map.mp member
      exact decimal_dotless octet
    · intro none
      have sized := address.sized
      rw [List.map_eq_nil_iff.mp none] at sized
      exact absurd sized (by decide)
  have pieces := congrArg (List.splitOn '.') same
  rw [octets, octets] at pieces
  have bytes := List.map_injective_iff.mpr (fun octet other => decimal_injective octet other) pieces
  cases inet
  cases other
  congr

theorem lastIndexOf_dot (front back : Text) (dotless : '.' ∉ back) :
    lastIndexOf (front ++ '.' :: back) '.' = front.length := by
  have absent : '.' ∉ back.reverse := fun inside => dotless (List.mem_reverse.mp inside)
  rw [lastIndexOf, List.reverse_append, List.reverse_cons, List.append_assoc,
    List.idxOf_append_of_notMem absent]
  simp only [List.singleton_append, List.idxOf_cons_self, List.length_append, List.length_cons,
    List.length_reverse]
  omega

end Texts

section Numbers

theorem octet_toNat (number : BitVec 32) (distance : Nat) (low : distance ≤ 24) :
    (octet number distance).toNat = number.toNat / 2 ^ distance % 256 := by
  have bits : octet number distance = (number >>> distance).setWidth 8 := by
    apply BitVec.eq_of_getLsbD_eq
    intro index below
    have mask : (255#32).getLsbD index = true := by interval_cases index <;> rfl
    simp only [octet, BitVec.getLsbD_setWidth, BitVec.getLsbD_ushiftRight, BitVec.getLsbD_and,
      BitVec.getLsbD_shiftLeft]
    rw [Nat.add_sub_cancel_left, mask]
    have inside : distance + index < 32 := by omega
    simp [inside]
  rw [bits, BitVec.toNat_setWidth, BitVec.toNat_ushiftRight, Nat.shiftRight_eq_div_pow]

theorem shiftLeft_or_octet (high : Nat) (octet : BitVec 8) :
    high <<< 8 ||| octet.toNat = high * 256 + octet.toNat := by
  rw [← Nat.shiftLeft_add_eq_or_of_lt octet.isLt, Nat.shiftLeft_eq]

theorem ipInt_four (a b c d : BitVec 8) :
    (ipInt [a, b, c, d]).toNat = value [a, b, c, d] := by
  have wide (octet : BitVec 8) (distance : Nat) (low : distance ≤ 24) :
      (octet.setWidth 32 <<< distance).toNat = octet.toNat <<< distance := by
    have small := octet.isLt
    have scaled : octet.toNat * 2 ^ distance < 2 ^ 32 :=
      calc octet.toNat * 2 ^ distance
          < 2 ^ 8 * 2 ^ distance := Nat.mul_lt_mul_of_pos_right small (Nat.two_pow_pos distance)
        _ ≤ 2 ^ 8 * 2 ^ 24 := Nat.mul_le_mul_left _ (Nat.pow_le_pow_right (by decide) low)
    rw [BitVec.toNat_shiftLeft, BitVec.toNat_setWidth, Nat.shiftLeft_eq, Nat.shiftLeft_eq,
      Nat.mod_eq_of_lt (Nat.lt_trans small (by decide)), Nat.mod_eq_of_lt scaled]
  have last : (d.setWidth 32).toNat = d.toNat := by
    rw [BitVec.toNat_setWidth, Nat.mod_eq_of_lt (Nat.lt_trans d.isLt (by decide))]
  calc (ipInt [a, b, c, d]).toNat
      = a.toNat <<< 24 ||| b.toNat <<< 16 ||| c.toNat <<< 8 ||| d.toNat := by
        show ((a.setWidth 32 <<< 24) ||| (b.setWidth 32 <<< 16) ||| (c.setWidth 32 <<< 8) |||
          d.setWidth 32).toNat = _
        rw [BitVec.toNat_or, BitVec.toNat_or, BitVec.toNat_or, last, wide a 24 (by decide),
          wide b 16 (by decide), wide c 8 (by decide)]
    _ = ((a.toNat <<< 8 ||| b.toNat) <<< 8 ||| c.toNat) <<< 8 ||| d.toNat := by
        simp only [Nat.shiftLeft_or_distrib, ← Nat.shiftLeft_add]
    _ = value [a, b, c, d] := by
        rw [shiftLeft_or_octet, shiftLeft_or_octet, shiftLeft_or_octet]
        simp [value]

theorem four_octets (address : InetAddress) (ipv4 : address.isInet4Address = true) :
    ∃ a b c d, address.address = [a, b, c, d] := by
  have long : address.address.length = 4 := beq_iff_eq.mp ipv4
  match octets : address.address, long with
  | [a, b, c, d], _ => exact ⟨a, b, c, d, rfl⟩

/-- The distance that a shift by `32 - prefixLength` comes down to. -/
def clearedBits (prefixLength : Int) : Nat := ((32 - prefixLength) % 32).toNat

theorem networkInt_toNat (address : InetAddress) (ipv4 : address.isInet4Address = true)
    (prefixLength : Int) :
    (networkInt address prefixLength).toNat = cleared (clearedBits prefixLength) address.number := by
  have whole : (ipInt address.address).toNat = address.number := by
    obtain ⟨a, b, c, d, octets⟩ := four_octets address ipv4
    rw [InetAddress.number, octets]
    exact ipInt_four a b c d
  have ones : -1#32 = BitVec.allOnes 32 := rfl
  rw [networkInt, ← whole, ones]
  exact and_shifted_ones (clearedBits prefixLength) (ipInt address.address)

end Numbers

section Gateway

/-- The address whose text is returned: the network address with its last octet replaced. -/
def gateway (address : InetAddress) (prefixLength : Int) : InetAddress :=
  let network := networkInt address prefixLength
  ⟨[octet network 24, octet network 16, octet network 8, 1], .inl rfl⟩

theorem calculateNetworkAddress_gateway (address : InetAddress) (prefixLength : Int) :
    (calculateNetworkAddress address prefixLength).map gatewayOf =
      some (hostAddress (gateway address prefixLength)) := by
  let network := networkInt address prefixLength
  let front := decimal (octet network 24) ++ ['.'] ++ decimal (octet network 16) ++ ['.'] ++
    decimal (octet network 8)
  have text (last : BitVec 8) (sized) :
      hostAddress ⟨[octet network 24, octet network 16, octet network 8, last], sized⟩ =
        front ++ '.' :: decimal last := by
    simp [hostAddress, front, List.intercalate]
  have whole : calculateNetworkAddress address prefixLength =
      some (front ++ '.' :: decimal (octet network 0)) :=
    congrArg some (text (octet network 0) (.inl rfl))
  rw [whole, Option.map_some, gatewayOf, lastIndexOf_dot _ _ (decimal_dotless _),
    Int.toNat_natCast, List.take_left, gateway, text 1]
  rfl

theorem gateway_number (address : InetAddress) (ipv4 : address.isInet4Address = true)
    (prefixLength : Int) : (gateway address prefixLength).number =
      cleared 8 (cleared (clearedBits prefixLength) address.number) + 1 := by
  have network := networkInt_toNat address ipv4 prefixLength
  have bound := (networkInt address prefixLength).isLt
  simp only [InetAddress.number, gateway, value, List.foldl_cons, List.foldl_nil,
    octet_toNat _ 24 (Nat.le_refl 24), octet_toNat _ 16 (by decide), octet_toNat _ 8 (by decide),
    cleared]
  simp only [InetAddress.number, value, cleared] at network
  rw [← network]
  show _ * 256 + 1 = _
  omega

def FirstHost (address : InetAddress) (prefixLength : Nat) (host : InetAddress) : Prop :=
  SameFamily address host ∧
    host.number = cleared (address.width - prefixLength) address.number + 1

theorem firstHost_member (address host : InetAddress) (ipv4 : address.isInet4Address = true)
    (prefixLength : Nat) (within : prefixLength ≤ 30)
    (first : FirstHost address prefixLength host) : Member address prefixLength host := by
  have wide : address.width = 32 := by rw [InetAddress.width, beq_iff_eq.mp ipv4]
  refine (member_iff address host prefixLength (by omega)).mpr ⟨first.1, ?_⟩
  have room : 1 < 2 ^ (address.width - prefixLength) := Nat.one_lt_two_pow (by omega)
  rw [first.2, cleared, Nat.add_comm, Nat.add_mul_div_right _ _ (by omega),
    Nat.div_eq_of_lt room, Nat.zero_add]

theorem cleared_byte (bits number : Nat) :
    cleared 8 (cleared bits number) = cleared bits number ↔ number % 256 < 2 ^ bits := by
  rcases Nat.lt_or_ge bits 8 with few | many
  · unfold cleared
    interval_cases bits <;> omega
  · have unit : 2 ^ bits = 256 * 2 ^ (bits - 8) := by
      rw [show (256 : Nat) = 2 ^ 8 by rfl, ← pow_add, Nat.add_sub_cancel' many]
    have positive := Nat.two_pow_pos (bits - 8)
    refine iff_of_true ?_ (by omega)
    rw [cleared, cleared, unit, Nat.mul_left_comm, show (2 : Nat) ^ 8 = 256 by rfl,
      Nat.mul_div_cancel_left _ (by decide), Nat.mul_comm]

/-- What the gateway of a network is told from: with a prefix, that the last octet has no bit of
    the network; without one, that there is only the last octet. -/
def Aligned (address : InetAddress) (prefixLength : Nat) : Prop :=
  0 < prefixLength ∧ address.number % 256 < 2 ^ (32 - prefixLength) ∨
    prefixLength = 0 ∧ address.number < 256

theorem gateway_firstHost (address : InetAddress) (ipv4 : address.isInet4Address = true)
    (prefixLength : Nat) (within : prefixLength ≤ 30) :
    FirstHost address prefixLength (gateway address prefixLength) ↔
      Aligned address prefixLength := by
  have long : address.address.length = 4 := beq_iff_eq.mp ipv4
  have wide : address.width = 32 := by rw [InetAddress.width, long]
  have bound := address.number_lt
  rw [wide] at bound
  have family : SameFamily address (gateway address prefixLength) := long
  rw [FirstHost, gateway_number address ipv4, wide, Nat.add_right_cancel_iff,
    and_iff_right family]
  cases prefixLength with
  | zero =>
      -- The distance 32 counts as 0, so nothing is cleared but the last octet.
      have none : clearedBits ((0 : Nat) : Int) = 0 := rfl
      have kept : cleared 0 address.number = address.number := by simp [cleared]
      have gone : cleared (32 - 0) address.number = 0 := by
        rw [cleared, Nat.div_eq_of_lt bound, Nat.zero_mul]
      rw [none, kept, gone, cleared, Aligned]
      omega
  | succ before =>
      have bits : clearedBits ((before + 1 : Nat) : Int) = 32 - (before + 1) := by
        rw [clearedBits]
        omega
      rw [bits, cleared_byte]
      simp [Aligned]

/-- The gateway of an interface is that of its first IPv4 address. -/
theorem findDefaultGateway_eq (addresses : List InterfaceAddress) :
    findDefaultGateway addresses =
      (addresses.find? fun entry => entry.address.isInet4Address).map fun entry =>
        hostAddress (gateway entry.address entry.networkPrefixLength) := by
  induction addresses with
  | nil => rfl
  | cons entry rest ih =>
      rw [findDefaultGateway, List.find?_cons]
      cases ipv4 : entry.address.isInet4Address with
      | false => exact ih
      | true => exact calculateNetworkAddress_gateway entry.address entry.networkPrefixLength

/-- The gateway that is returned is the first host of the network, and a member of it, just where
    the network ends in its last octet and nothing of the octet is lost. -/
theorem findDefaultGateway_firstHost (addresses : List InterfaceAddress)
    (entry : InterfaceAddress) (prefixLength : Nat)
    (first : addresses.find? (fun entry => entry.address.isInet4Address) = some entry)
    (length : entry.networkPrefixLength = prefixLength) (within : prefixLength ≤ 30) :
    (∃ host, findDefaultGateway addresses = some (hostAddress host) ∧
      FirstHost entry.address prefixLength host ∧ Member entry.address prefixLength host) ↔
        Aligned entry.address prefixLength := by
  have ipv4 := List.find?_some first
  rw [findDefaultGateway_eq, first, Option.map_some, length,
    ← gateway_firstHost entry.address ipv4 prefixLength within]
  constructor
  · rintro ⟨host, text, host_first, -⟩
    have same := hostAddress_injective _ _ (Option.some.inj text)
    rwa [same]
  · intro gateway_first
    exact ⟨gateway entry.address prefixLength, rfl, gateway_first,
      firstHost_member entry.address _ ipv4 prefixLength within gateway_first⟩

def lanAddress (prefixLength : Int) : InterfaceAddress := ⟨inet4 192 168 1 130, prefixLength⟩

theorem findDefaultGateway_firstHost_lan :
    (∃ host, findDefaultGateway [lanAddress 24] = some (hostAddress host) ∧
      FirstHost (lanAddress 24).address 24 host ∧ Member (lanAddress 24).address 24 host) ↔
        Aligned (lanAddress 24).address 24 :=
  findDefaultGateway_firstHost [lanAddress 24] (lanAddress 24) 24 rfl rfl (by decide)

/-- The network 192.168.1.128/25 is left for 192.168.1.1. -/
theorem half_network_left : ¬ ∃ host,
    findDefaultGateway [lanAddress 25] = some (hostAddress host) ∧
      FirstHost (lanAddress 25).address 25 host ∧ Member (lanAddress 25).address 25 host := by
  rintro ⟨host, text, first, -⟩
  rw [findDefaultGateway_eq] at text
  have same := hostAddress_injective _ _ (Option.some.inj text)
  rw [← same] at first
  have aligned := (gateway_firstHost (lanAddress 25).address rfl 25 (by decide)).mp first
  exact absurd aligned (by unfold Aligned; decide)

end Gateway

end Ptnet.DefaultGateway
