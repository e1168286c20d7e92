import Ptnet.BigEndian

/-!
`Utils.subnetContains`, by which `isLocalNetworkAddress` tells the addresses of the local
networks. The bounds of a subnet are numbers of any length, so nothing says which family the
address that is compared with them is of.
-/

namespace Ptnet.Subnets

open BigEndian

/-- `java.net.InetAddress`: an `Inet4Address` has four bytes, an `Inet6Address` sixteen. -/
structure InetAddress where
  address : List (BitVec 8)
  sized : address.length = 4 ∨ address.length = 16
  deriving DecidableEq

namespace InetAddress

def getByAddress (addr : List (BitVec 8)) : Option InetAddress :=
  if sized : addr.length = 4 ∨ addr.length = 16 then some ⟨addr, sized⟩ else none

def isInet4Address (inet : InetAddress) : Bool := inet.address.length == 4

def width (inet : InetAddress) : Nat := 8 * inet.address.length

def number (inet : InetAddress) : Nat := value inet.address

theorem number_lt (inet : InetAddress) : inet.number < 2 ^ inet.width := by
  rw [width, pow_mul]
  exact value_lt inet.address

end InetAddress

/-- `java.math.BigInteger`, as far as it is used here. -/
abbrev BigInteger := Int

namespace BigInteger

/-- `BigInteger(1, magnitude)` -/
def ofMagnitude (magnitude : List (BitVec 8)) : BigInteger := value magnitude

def shiftRight (number : BigInteger) (distance : Int) : BigInteger :=
  if 0 ≤ distance then Int.shiftRight number distance.toNat
  else number * 2 ^ (-distance).toNat

def not (number : BigInteger) : BigInteger := Int.lnot number

def and (first second : BigInteger) : BigInteger := Int.land first second

end BigInteger

/-- As many `putInt(-1)` as fit in the length of an address. -/
def maskBuf (addrlen : Nat) : List (BitVec 8) :=
  (List.replicate (addrlen / 4) (List.replicate 4 255#8)).flatten

def subnetContains (subnet : InetAddress) (len : Int) (address : InetAddress) : Bool :=
  let addrlen := subnet.address.length
  let mask := ((BigInteger.ofMagnitude (maskBuf addrlen)).shiftRight len).not
  let start := (BigInteger.ofMagnitude subnet.address).and mask
  let last := start + mask.not
  let toCheck := BigInteger.ofMagnitude address.address
  decide (start ≤ toCheck) && decide (toCheck ≤ last)

theorem maskBuf_ones (inet : InetAddress) :
    maskBuf inet.address.length = List.replicate inet.address.length 255#8 := by
  rcases inet.sized with short | long
  · rw [short]
    rfl
  · rw [long]
    rfl

/-- The complement of the mask: as many ones as there are bits after the first `len`. -/
theorem mask_low (inet : InetAddress) (len : Nat) :
    (BigInteger.ofMagnitude (maskBuf inet.address.length)).shiftRight len =
      (2 ^ (inet.width - len) - 1 : Nat) := by
  have ones : value (maskBuf inet.address.length) = 2 ^ inet.width - 1 := by
    have all := value_ones inet.address.length
    rw [maskBuf_ones, InetAddress.width, pow_mul]
    show _ = 256 ^ inet.address.length - 1
    omega
  unfold BigInteger.shiftRight BigInteger.ofMagnitude
  rw [if_pos (Int.natCast_nonneg len), ones, Int.toNat_natCast]
  show (((2 ^ inet.width - 1) >>> len : Nat) : Int) = _
  rw [Nat.shiftRight_eq_div_pow, ones_div]

/-- The numbers that share the first bits of the subnet, whatever family they are of. -/
theorem subnetContains_eq (subnet address : InetAddress) (len : Nat) :
    subnetContains subnet len address = true ↔
      subnet.number / 2 ^ (subnet.width - len) = address.number / 2 ^ (subnet.width - len) := by
  rw [div_eq_iff_between]
  unfold subnetContains
  dsimp only
  rw [mask_low subnet len]
  have start : (BigInteger.ofMagnitude subnet.address).and
      (BigInteger.not (2 ^ (subnet.width - len) - 1 : Nat)) =
        (cleared (subnet.width - len) subnet.number : Nat) :=
    land_complement (subnet.width - len) subnet.number
  have last : (BigInteger.not (2 ^ (subnet.width - len) - 1 : Nat)).not =
      (2 ^ (subnet.width - len) - 1 : Nat) := rfl
  rw [start, last, Bool.and_eq_true, decide_eq_true_eq, decide_eq_true_eq, ← Int.natCast_add]
  exact and_congr Int.ofNat_le Int.ofNat_le

def SameFamily (first second : InetAddress) : Prop :=
  first.address.length = second.address.length

/-- The addresses of the subnet's family that agree with it on the first bits. -/
def Member (subnet : InetAddress) (len : Nat) (address : InetAddress) : Prop :=
  SameFamily subnet address ∧ Agree subnet.width len subnet.number address.number

theorem member_iff (subnet address : InetAddress) (len : Nat) (within : len ≤ subnet.width) :
    Member subnet len address ↔ SameFamily subnet address ∧
      subnet.number / 2 ^ (subnet.width - len) = address.number / 2 ^ (subnet.width - len) := by
  refine and_congr_right fun same => ?_
  refine agree_iff subnet.width len subnet.number address.number within subnet.number_lt ?_
  have bound := address.number_lt
  rwa [InetAddress.width, ← same] at bound

/-- `subnetContains` is membership in the subnet, except for addresses of the other family whose
    number has the leading bits of the subnet's. -/
theorem subnetContains_iff (subnet address : InetAddress) (len : Nat)
    (within : len ≤ subnet.width) :
    (subnetContains subnet len address = true ↔ Member subnet len address) ↔
      (SameFamily subnet address ∨
        subnet.number / 2 ^ (subnet.width - len) ≠
          address.number / 2 ^ (subnet.width - len)) := by
  rw [subnetContains_eq subnet address len, member_iff subnet address len within]
  constructor
  · intro agree
    by_cases shared :
        subnet.number / 2 ^ (subnet.width - len) = address.number / 2 ^ (subnet.width - len)
    · exact .inl (agree.mp shared).1
    · exact .inr shared
  · rintro (same | apart)
    · exact ⟨fun shared => ⟨same, shared⟩, And.right⟩
    · exact ⟨fun shared => absurd shared apart, And.right⟩

def inet4 (a b c d : BitVec 8) : InetAddress := ⟨[a, b, c, d], .inl rfl⟩

theorem subnetContains_iff_private :
    (subnetContains (inet4 192 168 0 0) (16 : Nat) (inet4 192 168 3 4) = true ↔
        Member (inet4 192 168 0 0) 16 (inet4 192 168 3 4)) ↔
      (SameFamily (inet4 192 168 0 0) (inet4 192 168 3 4) ∨
        (inet4 192 168 0 0).number / 2 ^ (32 - 16) ≠
          (inet4 192 168 3 4).number / 2 ^ (32 - 16)) :=
  subnetContains_iff (inet4 192 168 0 0) (inet4 192 168 3 4) 16 (by decide)

/-- `::1` -/
def loopback6 : InetAddress := ⟨List.replicate 15 0 ++ [1], .inr rfl⟩

/-- `0.0.0.1` is no member of `::1/128`. -/
theorem loopback_contains_inet4 :
    ¬ (subnetContains loopback6 (128 : Nat) (inet4 0 0 0 1) = true ↔
        Member loopback6 128 (inet4 0 0 0 1)) := by
  intro agree
  have contained := (subnetContains_eq loopback6 (inet4 0 0 0 1) 128).mpr rfl
  have same : 16 = 4 := (agree.mp contained).1
  exact absurd same (by decide)

section LocalNetworks

structure InterfaceAddress where
  address : InetAddress
  networkPrefixLength : Int

structure NetworkInterface where
  isVirtual : Bool
  interfaceAddresses : List InterfaceAddress

/-- No list of interfaces means that `getNetworkInterfaces` fails. -/
def isLocalNetworkAddress (interfaces : Option (List NetworkInterface))
    (checkAddress : InetAddress) : Bool :=
  match interfaces with
  | none => false
  | some interfaces =>
      interfaces.any fun intf => !intf.isVirtual && intf.interfaceAddresses.any fun addr =>
        subnetContains addr.address addr.networkPrefixLength checkAddress

/-- The device reports prefixes that fit its addresses. -/
def WellFormed (interfaces : List NetworkInterface) : Prop :=
  ∀ intf ∈ interfaces, ∀ addr ∈ intf.interfaceAddresses,
    0 ≤ addr.networkPrefixLength ∧ addr.networkPrefixLength.toNat ≤ addr.address.width

/-- No address of a local network is missed. -/
theorem isLocalNetworkAddress_complete (interfaces : List NetworkInterface)
    (wellFormed : WellFormed interfaces) (checkAddress : InetAddress)
    (intf : NetworkInterface) (listed : intf ∈ interfaces) (real : intf.isVirtual = false)
    (addr : InterfaceAddress) (assigned : addr ∈ intf.interfaceAddresses)
    (inside : Member addr.address addr.networkPrefixLength.toNat checkAddress) :
    isLocalNetworkAddress (some interfaces) checkAddress = true := by
  obtain ⟨natural, within⟩ := wellFormed intf listed addr assigned
  have shared := ((member_iff addr.address checkAddress _ within).mp inside).2
  have contained := (subnetContains_eq addr.address checkAddress _).mpr shared
  rw [Int.toNat_of_nonneg natural] at contained
  refine List.any_eq_true.mpr ⟨intf, listed, ?_⟩
  rw [real, Bool.not_false, Bool.true_and]
  exact List.any_eq_true.mpr ⟨addr, assigned, contained⟩

/-- Where all networks are of the address's family, the local addresses are their members. -/
theorem isLocalNetworkAddress_iff (interfaces : List NetworkInterface)
    (wellFormed : WellFormed interfaces) (checkAddress : InetAddress)
    (oneFamily : ∀ intf ∈ interfaces, ∀ addr ∈ intf.interfaceAddresses,
      SameFamily addr.address checkAddress) :
    isLocalNetworkAddress (some interfaces) checkAddress = true ↔
      ∃ intf ∈ interfaces, intf.isVirtual = false ∧ ∃ addr ∈ intf.interfaceAddresses,
        Member addr.address addr.networkPrefixLength.toNat checkAddress := by
  constructor
  · intro reported
    obtain ⟨intf, listed, found⟩ := List.any_eq_true.mp reported
    rw [Bool.and_eq_true, Bool.not_eq_true'] at found
    obtain ⟨addr, assigned, contained⟩ := List.any_eq_true.mp found.2
    obtain ⟨natural, within⟩ := wellFormed intf listed addr assigned
    rw [← Int.toNat_of_nonneg natural] at contained
    have shared := (subnetContains_eq addr.address checkAddress _).mp contained
    have same := oneFamily intf listed addr assigned
    exact ⟨intf, listed, found.1, addr, assigned,
      (member_iff addr.address checkAddress _ within).mpr ⟨same, shared⟩⟩
  · rintro ⟨intf, listed, real, addr, assigned, inside⟩
    exact isLocalNetworkAddress_complete interfaces wellFormed checkAddress intf listed real addr
      assigned inside

end LocalNetworks

end Ptnet.Subnets
