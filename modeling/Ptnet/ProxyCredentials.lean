import Mathlib.Data.List.TakeWhile
import Ptnet.CharArray

/-!
The user name and the password of the SOCKS5 proxy on their way from the settings to zdtun: joined
by CaptureService.kt, passed through `getStringPref` and cut again by `getSocks5ProxyAuth` of
core/jni_impl.c, and handed over at the start of `run_vpn`.
-/

namespace Ptnet.ProxyCredentials

abbrev JavaString := List (BitVec 16)

def COLON : UInt8 := 58

/-- One unit in the modified UTF-8 of JNI, which never holds a zero byte. -/
def utfUnit (unit : BitVec 16) : CText :=
  let value := unit.toNat
  if 0 < value ∧ value < 0x80 then [UInt8.ofNat value]
  else if value < 0x800 then [UInt8.ofNat (0xC0 + value / 64), UInt8.ofNat (0x80 + value % 64)]
  else
    [UInt8.ofNat (0xE0 + value / 4096), UInt8.ofNat (0x80 + value / 64 % 64),
      UInt8.ofNat (0x80 + value % 64)]

def getStringUTFChars (value : JavaString) : CText := value.flatMap utfUnit

/-- `mSocks5Auth` of a proxy of the user. -/
def socks5Auth (username password : JavaString) : Option JavaString :=
  if username ≠ [] ∧ password ≠ [] then some (username ++ BitVec.ofNat 16 58 :: password) else none

/-- `getStringPref`; without a string the buffer stays as it is. -/
def getStringPref (pref : Option JavaString) (last : Nat) (buf : CharArray (last + 1)) :
    CharArray (last + 1) :=
  match pref with
  | none => buf
  | some value => (CharArray.strncpy (last + 1) (getStringUTFChars value)).set last 0

/-- The part of `pd->socks5` that holds the credentials. -/
structure Socks5 where
  proxyUser : CharArray 32 := CharArray.zeros 32
  proxyPass : CharArray 32 := CharArray.zeros 32

def cutAt (separator : UInt8) (text : CText) : Option (CText × CText) :=
  match text.dropWhile (· ≠ separator) with
  | [] => none
  | _ :: rest => some (text.takeWhile (· ≠ separator), rest)

/-- `getSocks5ProxyAuth`; `stack` is what its buffer holds at first. -/
def getSocks5ProxyAuth (stack : CharArray 64) (pref : Option JavaString) (socks5 : Socks5) :
    Socks5 :=
  let buf := getStringPref pref 63 (stack.set 0 0)
  match buf.read.bind (cutAt COLON) with
  | none => socks5
  | some (user, pass) => ⟨CharArray.strncpy 32 user, CharArray.strncpy 32 pass⟩

/-- The strings that `run_vpn` gives to `zdtun_set_socks5_userpass`, if it calls it. -/
def userpass (socks5 : Socks5) : Option (Option CText × Option CText) :=
  if socks5.proxyUser.filled && socks5.proxyPass.filled then
    some (socks5.proxyUser.read, socks5.proxyPass.read)
  else none

def credentials (stack : CharArray 64) (username password : JavaString) : Socks5 :=
  getSocks5ProxyAuth stack (socks5Auth username password) {}

/-- zdtun gets the credentials as they are, or none from arrays that are terminated. -/
def Survive (socks5 : Socks5) (username password : JavaString) : Prop :=
  match userpass socks5 with
  | some passed =>
      passed = (some (getStringUTFChars username), some (getStringUTFChars password))
  | none => socks5.proxyUser.terminated = true ∧ socks5.proxyPass.terminated = true

/-- Both parts fit into their arrays, and the separator is the first one. -/
def Representable (user pass : CText) : Prop := COLON ∉ user ∧ user.length < 32 ∧ pass.length < 32

/-- The separator is cut off with the end of the pair, or the user name begins with one and what
    follows fits into the array of the password. -/
def Dropped (user pass : CText) : Prop :=
  (COLON ∉ user.take 63 ∧ 63 ≤ user.length) ∨
    (user.head? = some COLON ∧ user.length + pass.length < 32)

section Encoding

theorem ofNat_ne_zero (value : Nat) (positive : 0 < value) (small : value < 256) :
    UInt8.ofNat value ≠ 0 := by
  intro zero
  have same := congrArg UInt8.toNat zero
  rw [UInt8.toNat_ofNat', Nat.mod_eq_of_lt small] at same
  exact absurd same (Nat.ne_of_gt positive)

theorem utfUnit_plain (unit : BitVec 16) : 0 ∉ utfUnit unit := by
  have bounded := unit.isLt
  simp only [utfUnit]
  split
  · next ascii => simpa using (ofNat_ne_zero unit.toNat ascii.1 (by omega)).symm
  · split
    · simp only [List.mem_cons, List.not_mem_nil, or_false, not_or]
      exact ⟨(ofNat_ne_zero _ (by omega) (by omega)).symm,
        (ofNat_ne_zero _ (by omega) (by omega)).symm⟩
    · simp only [List.mem_cons, List.not_mem_nil, or_false, not_or]
      exact ⟨(ofNat_ne_zero _ (by omega) (by omega)).symm,
        (ofNat_ne_zero _ (by omega) (by omega)).symm, (ofNat_ne_zero _ (by omega) (by omega)).symm⟩

theorem getStringUTFChars_plain (value : JavaString) : 0 ∉ getStringUTFChars value := by
  intro member
  obtain ⟨unit, -, listed⟩ := List.mem_flatMap.mp member
  exact utfUnit_plain unit listed

theorem getStringUTFChars_nonempty (value : JavaString) (filled : value ≠ []) :
    getStringUTFChars value ≠ [] := by
  cases value with
  | nil => exact absurd rfl filled
  | cons unit rest =>
      intro empty
      have first : utfUnit unit = [] := (List.append_eq_nil_iff.mp empty).1
      simp only [utfUnit] at first
      split at first
      · cases first
      · split at first <;> cases first

theorem getStringUTFChars_joined (username password : JavaString) :
    getStringUTFChars (username ++ BitVec.ofNat 16 58 :: password) =
      getStringUTFChars username ++ COLON :: getStringUTFChars password := by
  simp only [getStringUTFChars, List.flatMap_append, List.flatMap_cons]
  rfl

end Encoding

section Cutting

variable (separator : UInt8) (first rest : CText) (free : separator ∉ first)

include free

theorem cutAt_free : cutAt separator first = none := by
  have all : first.dropWhile (fun byte => decide (byte ≠ separator)) = [] := by
    rw [List.dropWhile_eq_nil_iff]
    intro byte member
    exact decide_eq_true fun same => free (same ▸ member)
  rw [cutAt, all]

theorem cutAt_first : cutAt separator (first ++ separator :: rest) = some (first, rest) := by
  have apart : ∀ byte ∈ first, decide (byte ≠ separator) = true :=
    fun byte member => decide_eq_true fun same => free (same ▸ member)
  have stop : decide (separator ≠ separator) = false := decide_eq_false fun differs => differs rfl
  rw [cutAt, List.dropWhile_append_of_pos apart, List.takeWhile_append_of_pos apart,
    List.dropWhile_cons, List.takeWhile_cons, stop]
  simp

end Cutting

/-- The texts that are copied, when the first separator of the pair follows `first`. -/
theorem getSocks5ProxyAuth_cut (stack : CharArray 64) (value : JavaString) (socks5 : Socks5)
    (first rest : CText) (free : COLON ∉ first)
    (joined : getStringUTFChars value = first ++ COLON :: rest) :
    getSocks5ProxyAuth stack (some value) socks5 =
      if 63 ≤ first.length then socks5
      else ⟨CharArray.strncpy 32 first, CharArray.strncpy 32 (rest.take (62 - first.length))⟩ := by
  have held : (getStringPref (some value) 63 (stack.set 0 0)).read =
      some ((first ++ COLON :: rest).take 63) := by
    rw [← joined]
    exact CharArray.strncpy_capped _ (getStringUTFChars_plain value) 63
  rw [getSocks5ProxyAuth, held, Option.bind_some]
  by_cases long : 63 ≤ first.length
  · have cut : COLON ∉ first.take 63 := fun member => free (List.mem_of_mem_take member)
    rw [List.take_append_of_le_length long, cutAt_free COLON _ cut, if_pos long]
  · obtain ⟨room, fits⟩ : ∃ room, 63 - first.length = room + 1 := ⟨62 - first.length, by omega⟩
    have same : 62 - first.length = room := by omega
    rw [List.take_append, List.take_of_length_le (by omega), fits, List.take_succ_cons,
      cutAt_first COLON first _ free, if_neg long, same]

section Survival

variable (first rest : CText) (plain : 0 ∉ first) (later : 0 ∉ rest)

def cutFields : Socks5 :=
  ⟨CharArray.strncpy 32 first, CharArray.strncpy 32 (rest.take (62 - first.length))⟩

include plain later

theorem cutFields_terminated :
    (cutFields first rest).proxyUser.terminated = decide (first.length < 32) ∧
      (cutFields first rest).proxyPass.terminated =
        decide ((rest.take (62 - first.length)).length < 32) :=
  ⟨CharArray.strncpy_terminated first plain,
    CharArray.strncpy_terminated _ fun member => later (List.mem_of_mem_take member)⟩

theorem userpass_cutFields :
    userpass (cutFields first rest) =
      if first ≠ [] ∧ rest.take (62 - first.length) ≠ [] then
        some (if first.length < 32 then some first else none,
          if (rest.take (62 - first.length)).length < 32 then
            some (rest.take (62 - first.length)) else none)
      else none := by
  have cut : 0 ∉ rest.take (62 - first.length) := fun member => later (List.mem_of_mem_take member)
  have room : 0 < 32 := by decide
  simp only [userpass, cutFields, CharArray.strncpy_filled first plain room,
    CharArray.strncpy_filled _ cut room, CharArray.strncpy_read first plain,
    CharArray.strncpy_read _ cut, Bool.and_eq_true, decide_eq_true_eq]

end Survival

theorem unused_survives (username password : JavaString) : Survive {} username password := by
  have unused : userpass {} = none := by
    rw [userpass, CharArray.zeros_filled]
    rfl
  rw [Survive, unused]
  exact ⟨CharArray.zeros_terminated (by decide), CharArray.zeros_terminated (by decide)⟩

section Pairs

variable (username password : JavaString)

theorem survive_split (first more : CText)
    (split : getStringUTFChars username = first ++ COLON :: more) (short : first.length < 63) :
    Survive (cutFields first (more ++ COLON :: getStringUTFChars password)) username password ↔
      first = [] ∧
        (getStringUTFChars username).length + (getStringUTFChars password).length < 32 := by
  have both := getStringUTFChars_plain username
  have plain : 0 ∉ first := fun member => both (split ▸ List.mem_append_left _ member)
  have later : 0 ∉ more ++ COLON :: getStringUTFChars password := by
    intro member
    rcases List.mem_append.mp member with early | late
    · exact both (split ▸ List.mem_append_right _ (List.mem_cons_of_mem _ early))
    · rcases List.mem_cons.mp late with colon | late
      · cases colon
      · exact getStringUTFChars_plain password late
  obtain ⟨userEnds, passEnds⟩ := cutFields_terminated _ _ plain later
  rw [Survive, userpass_cutFields _ _ plain later, split]
  by_cases empty : first = []
  · subst empty
    rw [if_neg fun filled => filled.1 rfl]
    simp only [userEnds, passEnds, List.length_take, List.length_append, List.length_cons,
      List.length_nil, true_and, decide_eq_true_eq]
    omega
  · have differs : first ≠ first ++ COLON :: more := by simp
    simp only [ne_eq, empty, not_false_eq_true, true_and, false_and, iff_false]
    by_cases room : (more ++ COLON :: getStringUTFChars password).take (62 - first.length) = []
    · have full : first.length = 62 := by
        have none := congrArg List.length room
        simp only [List.length_take, List.length_append, List.length_cons, List.length_nil] at none
        omega
      simp [userEnds, full]
    · simp only [room, not_false_eq_true, if_true, Prod.mk.injEq]
      rintro ⟨userKept, -⟩
      split at userKept
      · exact differs (Option.some.inj userKept)
      · cases userKept

variable (named : username ≠ []) (secret : password ≠ [])

include named secret

theorem survive_free (short : (getStringUTFChars username).length < 63) :
    Survive (cutFields (getStringUTFChars username) (getStringUTFChars password)) username
        password ↔
      (getStringUTFChars username).length < 32 ∧ (getStringUTFChars password).length < 32 := by
  have user := getStringUTFChars_nonempty username named
  have pass := getStringUTFChars_nonempty password secret
  have plain := getStringUTFChars_plain username
  have later := getStringUTFChars_plain password
  have positive := List.length_pos_iff.mpr pass
  have terminated := (cutFields_terminated _ _ plain later).1
  rw [Survive, userpass_cutFields _ _ plain later]
  by_cases room : (getStringUTFChars username).length = 62
  · rw [if_neg (by simp [room])]
    simp only [terminated, room]
    simp
  · have kept :
        (getStringUTFChars password).take (62 - (getStringUTFChars username).length) ≠ [] := by
      intro empty
      have none := congrArg List.length empty
      rw [List.length_take, List.length_nil] at none
      omega
    rw [if_pos ⟨user, kept⟩]
    simp only [Prod.mk.injEq]
    constructor
    · rintro ⟨userKept, passKept⟩
      split at userKept
      · next small =>
        split at passKept
        · next fits =>
          rw [Option.some.inj passKept] at fits
          exact ⟨small, fits⟩
        · cases passKept
      · cases userKept
    · rintro ⟨small, fits⟩
      have whole : (getStringUTFChars password).take (62 - (getStringUTFChars username).length) =
          getStringUTFChars password := List.take_of_length_le (by omega)
      rw [whole, if_pos small, if_pos fits]
      exact ⟨rfl, rfl⟩

/-- The pair reaches zdtun as it was entered, or not at all, if and only if it fits or is dropped
    as a whole. -/
theorem credentials_survive (stack : CharArray 64) :
    Survive (credentials stack username password) username password ↔
      Representable (getStringUTFChars username) (getStringUTFChars password) ∨
        Dropped (getStringUTFChars username) (getStringUTFChars password) := by
  have joined := getStringUTFChars_joined username password
  have auth : socks5Auth username password = some (username ++ BitVec.ofNat 16 58 :: password) :=
    if_pos ⟨named, secret⟩
  have user := getStringUTFChars_nonempty username named
  rw [credentials, auth]
  -- sscanf cuts at the first colon, which may be one of the user name.
  by_cases free : COLON ∈ getStringUTFChars username
  · obtain ⟨first, more, split, before⟩ := List.eq_append_cons_of_mem free
    have cut : getStringUTFChars (username ++ BitVec.ofNat 16 58 :: password) =
        first ++ COLON :: (more ++ COLON :: getStringUTFChars password) := by
      rw [joined, split, List.append_assoc, List.cons_append]
    rw [getSocks5ProxyAuth_cut stack _ {} first _ before cut]
    have unfit : ¬ Representable (getStringUTFChars username) (getStringUTFChars password) :=
      fun fits => fits.1 free
    rw [or_iff_right unfit, Dropped]
    by_cases long : 63 ≤ first.length
    · rw [if_pos long]
      refine iff_of_true (unused_survives username password) (Or.inl ⟨?_, ?_⟩)
      · rw [split, List.take_append_of_le_length long]
        exact fun member => before (List.mem_of_mem_take member)
      · rw [split, List.length_append]
        omega
    · have early : COLON ∈ (getStringUTFChars username).take 63 := by
        rw [split, List.take_append, List.take_of_length_le (by omega),
          show 63 - first.length = 62 - first.length + 1 by omega, List.take_succ_cons]
        exact List.mem_append_right _ List.mem_cons_self
      have head : (getStringUTFChars username).head? = some COLON ↔ first = [] := by
        rw [split]
        cases first with
        | nil => simp
        | cons byte rest =>
            have differs : byte ≠ COLON := fun same => before (same ▸ List.mem_cons_self)
            simp [differs]
      rw [if_neg long, head, or_iff_right fun dropped => dropped.1 early]
      exact survive_split username password first more split (by omega)
  · rw [getSocks5ProxyAuth_cut stack _ {} _ _ free joined]
    have head : (getStringUTFChars username).head? ≠ some COLON := by
      intro same
      exact free (List.mem_of_head? same)
    have cut : COLON ∉ (getStringUTFChars username).take 63 :=
      fun member => free (List.mem_of_mem_take member)
    rw [Dropped, Representable]
    split
    · next long =>
      exact iff_of_true (unused_survives username password) (Or.inr (Or.inl ⟨cut, long⟩))
    · next short =>
      have survives := survive_free username password named secret (by omega)
      rw [cutFields] at survives
      rw [survives]
      constructor
      · exact fun fits => Or.inl ⟨free, fits⟩
      · rintro (fits | dropped | begins)
        · exact fits.2
        · exact absurd dropped.2 short
        · exact absurd begins.1 head

end Pairs

section Examples

def ann : JavaString := "ann".toList.map fun char => BitVec.ofNat 16 char.toNat

def annLee : JavaString := "ann:lee".toList.map fun char => BitVec.ofNat 16 char.toNat

def secret : JavaString := "pw".toList.map fun char => BitVec.ofNat 16 char.toNat

theorem ann_survives :
    Survive (credentials (CharArray.zeros 64) ann secret) ann secret ↔
      Representable (getStringUTFChars ann) (getStringUTFChars secret) ∨
        Dropped (getStringUTFChars ann) (getStringUTFChars secret) :=
  credentials_survive ann secret (by decide) (by decide) (CharArray.zeros 64)

/-- A separator in the user name shifts the rest of it into the password. -/
theorem annLee_shifted :
    ¬ Survive (credentials (CharArray.zeros 64) annLee secret) annLee secret := by
  have passed : userpass (credentials (CharArray.zeros 64) annLee secret) =
      some (some [97, 110, 110], some [108, 101, 101, 58, 112, 119]) := by decide +kernel
  rw [Survive, passed]
  decide +kernel

end Examples

end Ptnet.ProxyCredentials
