import Ptnet.Base32
import Ptnet.Der

/-!
A licence: base32 text of two characters for the version, two bytes and a raw signature, that is
two numbers of 28 bytes. `Billing.getASN1` makes of them what `Signature.verify` reads.
-/

namespace Ptnet.License

open Base32 BigEndian Der KotlinText

/-- `signature[index]` -/
def element (array : Octets) (index : Nat) : Except Thrown (BitVec 8) :=
  match array[index]? with
  | some byte => .ok byte
  | none => .error .arrayIndexOutOfBounds

/-- The array that is returned and the index of its next byte. -/
structure Filled where
  rv : Octets
  i : Nat := 0
  deriving DecidableEq, Repr

/-- `rv[i++] = byte` -/
def Filled.put (byte : BitVec 8) (filled : Filled) : Except Thrown Filled :=
  if filled.i < filled.rv.length then
    .ok { rv := filled.rv.set filled.i byte, i := filled.i + 1 }
  else .error .arrayIndexOutOfBounds

/-- `System.arraycopy` to the next bytes. -/
def Filled.arraycopy (source : Octets) (position length : Nat) (filled : Filled) :
    Except Thrown Filled :=
  if position + length ≤ source.length ∧ filled.i + length ≤ filled.rv.length then
    .ok
      { rv := filled.rv.take filled.i ++ (source.drop position).take length ++
          filled.rv.drop (filled.i + length)
        i := filled.i + length }
  else .error .arrayIndexOutOfBounds

def Filled.extra (count : Nat) (filled : Filled) : Except Thrown Filled :=
  if 0 < count then filled.put 0x00 else .ok filled

def rLen : Nat := 28

def getASN1 (signature : Octets) (offset : Nat) : Except Thrown Octets :=
  if (signature.length : Int) - offset ≠ 2 * rLen then .error .illegalArgument
  else do
    let first ← element signature offset
    let second ← element signature (offset + rLen)
    let rExtra := if first.toInt < 0 then 1 else 0
    let nExtra := if second.toInt < 0 then 1 else 0
    let totLen := 2 * rLen + 6 + rExtra + nExtra
    let filled ← Filled.put 0x30 { rv := List.replicate totLen 0 }
    let filled ← filled.put (.ofNat 8 (totLen - 2))
    let filled ← filled.put 0x02
    let filled ← filled.put (.ofNat 8 (rLen + rExtra))
    let filled ← filled.extra rExtra
    let filled ← filled.arraycopy signature offset rLen
    let filled ← filled.put 0x02
    let filled ← filled.put (.ofNat 8 (rLen + nExtra))
    let filled ← filled.extra nExtra
    let filled ← filled.arraycopy signature (offset + rLen) rLen
    return filled.rv

section Licence

def supporterSku : Text := "pcapdroid_supporter".toList.map unit

/-- What is signed. -/
def message (installationId : Text) : Text := supporterSku ++ unit '@' :: installationId

-- `Signature.verify` with the public key, for a message; nothing where it throws.
variable (verify : Text → Octets → Option Bool)

def checkLicense (installationId license : Text) : Except Thrown Bool := do
  let data ← base32Decode license
  if data.length ≠ 60 || data[0]? ≠ some 0x76 || data[1]? ≠ some 0x31 then return false
  let encoding ← getASN1 data 4
  return (verify (message installationId) encoding).getD false

/-- Whatever is thrown makes the licence invalid. -/
def isValidLicense (installationId license : Text) : Bool :=
  if license.isEmpty then false
  else match checkLicense verify installationId license with
    | .ok valid => valid
    | .error _ => false

end Licence

section Writing

structure Holds (total : Nat) (written : Octets) (filled : Filled) : Prop where
  length : filled.rv.length = total
  position : filled.i = written.length
  taken : filled.rv.take filled.i = written

/-- The bytes are written behind those before, if there is room for them. -/
def Writes (total : Nat) (bytes : Octets) (action : Filled → Except Thrown Filled) : Prop :=
  ∀ written filled, Holds total written filled → written.length + bytes.length ≤ total →
    ∃ next, action filled = .ok next ∧ Holds total (written ++ bytes) next

variable (total : Nat)

theorem put_writes (byte : BitVec 8) : Writes total [byte] (Filled.put byte) := by
  intro written filled holds room
  rw [List.length_singleton] at room
  have inside : filled.i < filled.rv.length := by
    rw [holds.position, holds.length]
    omega
  refine ⟨_, if_pos inside, ?_, ?_, ?_⟩
  · rw [List.length_set, holds.length]
  · rw [List.length_append, List.length_singleton, holds.position]
  · rw [List.take_succ_eq_append_getElem (by rwa [List.length_set]), List.getElem_set_self,
      List.take_set_of_le (Nat.le_refl _), holds.taken]

theorem arraycopy_writes (source : Octets) (position length : Nat)
    (inside : position + length ≤ source.length) :
    Writes total ((source.drop position).take length)
      (Filled.arraycopy source position length) := by
  intro written filled holds room
  have copied : ((source.drop position).take length).length = length := by
    rw [List.length_take, List.length_drop]
    omega
  rw [copied] at room
  have fits : filled.i + length ≤ filled.rv.length := by
    rwa [holds.position, holds.length]
  have front : (filled.rv.take filled.i ++ (source.drop position).take length).length =
      filled.i + length := by
    rw [List.length_append, copied, List.length_take]
    omega
  refine ⟨_, if_pos ⟨inside, fits⟩, ?_, ?_, ?_⟩
  · rw [List.length_append, front, List.length_drop, ← holds.length]
    omega
  · rw [List.length_append, copied, holds.position]
  · rw [← front, List.take_left, holds.taken]

theorem extra_writes (count : Nat) :
    Writes total (if 0 < count then [0] else []) (Filled.extra count) := by
  unfold Filled.extra
  by_cases positive : 0 < count
  · simp only [if_pos positive]
    exact put_writes total 0
  · simp only [if_neg positive]
    intro written filled holds _
    exact ⟨filled, rfl, by rwa [List.append_nil]⟩

/-- The array is returned when the bytes fill it. -/
def Delivers (bytes : Octets) (action : Filled → Except Thrown Octets) : Prop :=
  ∀ written filled, Holds total written filled → written.length + bytes.length = total →
    action filled = .ok (written ++ bytes)

theorem return_delivers : Delivers total [] (fun filled => return filled.rv) := by
  intro written filled holds full
  have taken := holds.taken
  rw [List.length_nil, Nat.add_zero] at full
  rw [holds.position, full, ← holds.length, List.take_length] at taken
  rw [List.append_nil, ← taken]
  rfl

variable {total} in
theorem Writes.delivers {bytes others : Octets} {action : Filled → Except Thrown Filled}
    {following : Filled → Except Thrown Octets} (first : Writes total bytes action)
    (second : Delivers total others following) :
    Delivers total (bytes ++ others) (fun filled => action filled >>= following) := by
  intro written filled holds full
  rw [List.length_append] at full
  obtain ⟨middle, ran, between⟩ := first written filled holds (by omega)
  have rest := second _ middle between (by rw [List.length_append]; omega)
  rw [List.append_assoc] at rest
  show (action filled >>= following) = _
  rw [ran]
  exact rest

end Writing

section Encoding

structure Component where
  bytes : Octets
  length : bytes.length = 28
  deriving DecidableEq

def Component.number (component : Component) : Nat := value component.bytes

def Component.extra (component : Component) : Nat :=
  if (component.bytes.headD 0).toInt < 0 then 1 else 0

theorem Component.extra_le (component : Component) : component.extra ≤ 1 := by
  unfold Component.extra
  split <;> omega

theorem Component.padded_eq (component : Component) :
    padded component.bytes = (if 0 < component.extra then [0] else []) ++ component.bytes := by
  have sign := @BitVec.msb_eq_toInt 8 (component.bytes.headD 0)
  unfold padded Component.extra
  simp only [sign, decide_eq_true_iff]
  split <;> rfl

theorem Component.padded_length (component : Component) :
    (padded component.bytes).length = 28 + component.extra := by
  have few := component.extra_le
  rw [component.padded_eq, List.length_append, component.length]
  split
  · rw [List.length_singleton]
    omega
  · rw [List.length_nil]
    omega

theorem Component.first (component : Component) (before after : Octets) :
    element (before ++ component.bytes ++ after) before.length =
      .ok (component.bytes.headD 0) := by
  obtain ⟨bytes, length⟩ := component
  match bytes, length with
  | byte :: rest, _ => simp [element]

theorem Component.copied (component : Component) (before after : Octets) :
    ((before ++ component.bytes ++ after).drop before.length).take 28 = component.bytes := by
  rw [List.append_assoc, List.drop_left, ← component.length, List.take_left]

variable (r s : Component)

theorem pair_length : (tagged 0x30 (tagged 0x02 (padded r.bytes) ++
    tagged 0x02 (padded s.bytes))).length = 2 * 28 + 6 + r.extra + s.extra := by
  have rFew := r.extra_le
  have sFew := s.extra_le
  have rLength := r.padded_length
  have sLength := s.padded_length
  have inner : (tagged 0x02 (padded r.bytes) ++ tagged 0x02 (padded s.bytes)).length =
      60 + r.extra + s.extra := by
    rw [tagged_short 0x02 (padded r.bytes) (by omega),
      tagged_short 0x02 (padded s.bytes) (by omega), List.length_append, List.length_cons,
      List.length_cons, List.length_cons, List.length_cons, rLength, sLength]
    omega
  rw [tagged_short 0x30 _ (by omega), List.length_cons, List.length_cons, inner]
  omega

theorem pair_eq (total : Nat) (count : total = 2 * 28 + 6 + r.extra + s.extra) :
    tagged 0x30 (tagged 0x02 (padded r.bytes) ++ tagged 0x02 (padded s.bytes)) =
      [0x30] ++ ([BitVec.ofNat 8 (total - 2)] ++ ([0x02] ++ ([BitVec.ofNat 8 (28 + r.extra)] ++
        ((if 0 < r.extra then [0] else []) ++ (r.bytes ++ ([0x02] ++
          ([BitVec.ofNat 8 (28 + s.extra)] ++ ((if 0 < s.extra then [0] else []) ++
            (s.bytes ++ []))))))))) := by
  have rFew := r.extra_le
  have sFew := s.extra_le
  have rLength := r.padded_length
  have sLength := s.padded_length
  have long := contents_lt 0x30 (tagged 0x02 (padded r.bytes) ++ tagged 0x02 (padded s.bytes))
  have whole := pair_length r s
  have outer := tagged_short 0x30 (tagged 0x02 (padded r.bytes) ++ tagged 0x02 (padded s.bytes))
    (by omega)
  rw [outer] at whole ⊢
  rw [List.length_cons, List.length_cons] at whole
  rw [show (tagged 0x02 (padded r.bytes) ++ tagged 0x02 (padded s.bytes)).length = total - 2 by
      omega, tagged_short 0x02 (padded r.bytes) (by omega),
    tagged_short 0x02 (padded s.bytes) (by omega), rLength, sLength, r.padded_eq, s.padded_eq]
  simp only [List.cons_append, List.nil_append, List.append_assoc, List.append_nil]

/-- The numbers are written in 28 bytes each, or 29 where the first bit is set. -/
theorem getASN1_eq (before : Octets) : getASN1 (before ++ r.bytes ++ s.bytes) before.length =
    .ok (tagged 0x30 (tagged 0x02 (padded r.bytes) ++ tagged 0x02 (padded s.bytes))) := by
  have long : (before ++ r.bytes ++ s.bytes).length = before.length + 56 := by
    rw [List.length_append, List.length_append, r.length, s.length]
  have firstByte := r.first before s.bytes
  have firstCopy := r.copied before s.bytes
  have secondByte := s.first (before ++ r.bytes) []
  have secondCopy := s.copied (before ++ r.bytes) []
  rw [List.append_nil, List.length_append, r.length] at secondByte secondCopy
  have full := pair_length r s
  generalize before ++ r.bytes ++ s.bytes = signature at *
  obtain ⟨total, count⟩ : ∃ total, total = 2 * 28 + 6 + r.extra + s.extra := ⟨_, rfl⟩
  have filled := (put_writes total 0x30).delivers <|
    (put_writes total (.ofNat 8 (total - 2))).delivers <| (put_writes total 0x02).delivers <|
    (put_writes total (.ofNat 8 (28 + r.extra))).delivers <|
    (extra_writes total r.extra).delivers <|
    (arraycopy_writes total signature before.length 28 (by omega)).delivers <|
    (put_writes total 0x02).delivers <| (put_writes total (.ofNat 8 (28 + s.extra))).delivers <|
    (extra_writes total s.extra).delivers <|
    (arraycopy_writes total signature (before.length + 28) 28 (by omega)).delivers <|
    return_delivers total
  rw [firstCopy, secondCopy, ← pair_eq r s total count] at filled
  rw [getASN1, if_neg (by rw [long, rLen]; omega), show rLen = 28 by rfl, firstByte, secondByte]
  have rCount : (if (r.bytes.headD 0).toInt < 0 then 1 else 0) = r.extra := rfl
  have sCount : (if (s.bytes.headD 0).toInt < 0 then 1 else 0) = s.extra := rfl
  show (Filled.put 0x30 _ >>= _) = _
  rw [rCount, sCount, ← count]
  exact filled [] { rv := List.replicate total 0 } ⟨List.length_replicate, rfl, rfl⟩
    (by rw [full, count]; exact Nat.zero_add _)

theorem component_minimal (component : Component) :
    Minimal (padded component.bytes) ↔ 2 ^ 215 ≤ component.number := by
  obtain ⟨bytes, length⟩ := component
  match bytes, length with
  | first :: second :: rest, length =>
      have low : rest.length = 26 := by simpa using length
      have power : 128 * 256 ^ 26 = 2 ^ 215 := by norm_num
      rw [minimal_padded, low, power]
      rfl

/-- What `getASN1` returns encodes no other pair, and this one where both numbers need 28 bytes. -/
theorem encoded_iff (first second : Int) :
    IsPair first second
        (tagged 0x30 (tagged 0x02 (padded r.bytes) ++ tagged 0x02 (padded s.bytes))) ↔
      (2 ^ 215 ≤ r.number ∧ 2 ^ 215 ≤ s.number) ∧ first = r.number ∧ second = s.number := by
  have rFew := r.extra_le
  have sFew := s.extra_le
  have rLength := r.padded_length
  have sLength := s.padded_length
  rw [pair_iff _ _ _ _ (by omega), component_minimal, component_minimal, signed_padded,
    signed_padded]
  exact ⟨fun ⟨⟨rLarge, rSame⟩, sLarge, sSame⟩ => ⟨⟨rLarge, sLarge⟩, rSame.symm, sSame.symm⟩,
    fun ⟨⟨rLarge, sLarge⟩, rSame, sSame⟩ => ⟨⟨rLarge, rSame.symm⟩, sLarge, sSame.symm⟩⟩

end Encoding

section Verification

/-- `Signature.verify` reads the distinguished encoding of a valid pair, and nothing else. -/
def Strict (verify : Text → Octets → Option Bool) (Valid : Text → Nat → Nat → Prop) : Prop :=
  ∀ text encoding, verify text encoding = some true ↔
    ∃ r s : Nat, Valid text r s ∧ IsPair r s encoding

/-- The text of a licence with these numbers. -/
def Carries (license : Text) (r s : Component) : Prop :=
  ∃ third fourth, base32Decode license =
    .ok ([0x76, 0x31, third, fourth] ++ r.bytes ++ s.bytes)

variable {verify : Text → Octets → Option Bool} {Valid : Text → Nat → Nat → Prop}

theorem carries_checked (installationId license : Text) (r s : Component)
    (carries : Carries license r s) : isValidLicense verify installationId license =
      (verify (message installationId)
        (tagged 0x30 (tagged 0x02 (padded r.bytes) ++ tagged 0x02 (padded s.bytes)))).getD
          false := by
  obtain ⟨third, fourth, decoded⟩ := carries
  have encoded := getASN1_eq r s [0x76, 0x31, third, fourth]
  have nonempty : license.isEmpty = false := by
    cases license with
    | nil => cases decoded
    | cons => rfl
  have long : ([0x76, 0x31, third, fourth] ++ r.bytes ++ s.bytes).length = 60 := by
    rw [List.length_append, List.length_append, r.length, s.length]
    rfl
  have accepted : (([0x76, 0x31, third, fourth] ++ r.bytes ++ s.bytes).length ≠ 60 ||
      ([0x76, 0x31, third, fourth] ++ r.bytes ++ s.bytes)[0]? ≠ some 0x76 ||
      ([0x76, 0x31, third, fourth] ++ r.bytes ++ s.bytes)[1]? ≠ some 0x31) = false := by
    rw [long]
    simp
  have checked : checkLicense verify installationId license = .ok ((verify (message installationId)
      (tagged 0x30 (tagged 0x02 (padded r.bytes) ++ tagged 0x02 (padded s.bytes)))).getD
        false) := by
    rw [checkLicense, decoded]
    show (if _ then _ else (getASN1 _ [0x76, 0x31, third, fourth].length >>= _)) = _
    rw [if_neg (by rw [accepted]; decide), encoded]
    rfl
  rw [isValidLicense, nonempty, checked]
  rfl

theorem carries_iff (strict : Strict verify Valid) (installationId license : Text)
    (r s : Component) (carries : Carries license r s)
    (valid : Valid (message installationId) r.number s.number) :
    isValidLicense verify installationId license = true ↔
      2 ^ 215 ≤ r.number ∧ 2 ^ 215 ≤ s.number := by
  have whole : ∀ result : Option Bool, result.getD false = true ↔ result = some true := by
    intro result
    rcases result with _ | _ | _ <;> decide
  rw [carries_checked installationId license r s carries, whole, strict]
  constructor
  · rintro ⟨first, second, _, encodes⟩
    exact ((encoded_iff r s first second).mp encodes).1
  · intro large
    exact ⟨r.number, s.number, valid, (encoded_iff r s _ _).mpr ⟨large, rfl, rfl⟩⟩

/-- Both are encoded, and the licence is valid, where both numbers need 28 bytes. -/
theorem getASN1_iff (r s : Component) :
    (∀ before : Octets, (∃ encoding,
        getASN1 (before ++ r.bytes ++ s.bytes) before.length = .ok encoding ∧
          IsPair r.number s.number encoding) ↔ 2 ^ 215 ≤ r.number ∧ 2 ^ 215 ≤ s.number) ∧
    ∀ verify Valid, Strict verify Valid → ∀ installationId license, Carries license r s →
      Valid (message installationId) r.number s.number →
        (isValidLicense verify installationId license = true ↔
          2 ^ 215 ≤ r.number ∧ 2 ^ 215 ≤ s.number) := by
  refine ⟨fun before => ?_, fun _ _ strict id license => carries_iff strict id license r s⟩
  rw [getASN1_eq r s before]
  constructor
  · rintro ⟨_, ⟨⟩, encodes⟩
    exact ((encoded_iff r s _ _).mp encodes).1
  · exact fun large => ⟨_, rfl, (encoded_iff r s _ _).mpr ⟨large, rfl, rfl⟩⟩

def large : Component := ⟨List.replicate 28 1, rfl⟩

def small : Component := ⟨List.replicate 27 0 ++ [1], rfl⟩

def largeVerify (text : Text) (encoding : Octets) : Option Bool :=
  some (decide (text = message [] ∧
    encoding = tagged 0x30 (tagged 0x02 large.bytes ++ tagged 0x02 large.bytes)))

def largeLicense : Text := encode ([0x76, 0x31, 0, 0] ++ large.bytes ++ large.bytes)

theorem large_strict : Strict largeVerify
    (fun text r s => text = message [] ∧ r = large.number ∧ s = large.number) := by
  have encodes : IsPair large.number large.number
      (tagged 0x30 (tagged 0x02 large.bytes ++ tagged 0x02 large.bytes)) :=
    (encoded_iff large large _ _).mpr ⟨by decide, rfl, rfl⟩
  intro text encoding
  rw [largeVerify, Option.some_inj, decide_eq_true_iff]
  constructor
  · rintro ⟨rfl, rfl⟩
    exact ⟨_, _, ⟨rfl, rfl, rfl⟩, encodes⟩
  · rintro ⟨r, s, ⟨rfl, rfl, rfl⟩, other⟩
    exact ⟨rfl, pair_unique _ _ _ _ other encodes⟩

theorem getASN1_iff_large : isValidLicense largeVerify [] largeLicense = true :=
  ((getASN1_iff large large).2 largeVerify _ large_strict [] largeLicense
    ⟨0, 0, by decide +kernel⟩ ⟨rfl, rfl, rfl⟩).mpr (by decide)

/-- A number with leading zero bytes gets all of them. -/
theorem small_encoded : ∃ encoding, getASN1 (small.bytes ++ large.bytes) 0 = .ok encoding ∧
    small.number = 1 ∧ ¬IsPair small.number large.number encoding := by
  refine ⟨_, getASN1_eq small large [], by decide, ?_⟩
  rw [encoded_iff]
  exact fun encodes => absurd encodes.1.1 (by decide)

end Verification

end Ptnet.License
