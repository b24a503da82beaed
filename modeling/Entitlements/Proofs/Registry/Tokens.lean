import Entitlements.Proofs.Decimal.Digits
import Entitlements.Proofs.Registry.Consistency
import Entitlements.Proofs.Registry.Resolution

/-!
# Tokens

A token is a numeral, a numeral behind a minus sign, or a word. A numeral resolves to
the number that it denotes, however long it is, or else is out of range. Only words are
looked up, and every configured name is one.
-/

namespace Entitlements

section

variable {token : String} {digits : List Char}

theorem tokenForm_of_numeral (h : TokenForm.isNumeral token.toList = true) :
    tokenForm token = .number (Decimal.value token.toList) := by
  rw [tokenForm, Decimal.value_eq_ofDigitChars]
  unfold TokenForm.ofText
  split
  · next rest htext =>
      simp [htext, TokenForm.isNumeral] at h
  · simp [h]

theorem tokenForm_of_minus (htoken : token.toList = '-' :: digits)
    (h : TokenForm.isNumeral digits = true) : tokenForm token = .negative := by
  simp [tokenForm, htoken, TokenForm.ofText, h]

end

namespace Registry

/-- The number can stand for a privilege: it fits one word, has a bit and only configured ones. -/
def Expresses (registry : Registry) (n : Nat) : Prop :=
  1 ≤ n ∧ n < 2 ^ 64 ∧ Mask.beyond (UInt64.ofNat n) registry.max = 0

section

variable {registry : Registry} {token : String} {digits : List Char} {mask : Mask} {n : Nat}

theorem inRange_of_expresses (h : registry.Expresses n) :
    registry.inRange (UInt64.ofNat n) token = .ok (UInt64.ofNat n) := by
  obtain ⟨hpos, hsize, hbeyond⟩ := h
  have hnat : (UInt64.ofNat n).toNat = n := UInt64.toNat_ofNat_of_lt' hsize
  have hne : UInt64.ofNat n ≠ 0 := by
    intro hzero
    have hword := congrArg UInt64.toNat hzero
    rw [hnat] at hword
    simp only [UInt64.toNat_zero] at hword
    omega
  exact inRange_eq_ok_iff.2 ⟨rfl, hne, hbeyond⟩

theorem inRange_of_not_expresses (hsize : n < 2 ^ 64) (h : ¬ registry.Expresses n) :
    registry.inRange (UInt64.ofNat n) token = .error (.outOfRange token registry.max) := by
  unfold inRange
  split
  · rfl
  · next hrange =>
      rw [Bool.or_eq_true, not_or, bne_iff_ne, not_not, decide_eq_true_eq] at hrange
      have hpos : n ≠ 0 := by
        intro hzero
        rw [hzero] at hrange
        exact hrange.1 rfl
      exact absurd ⟨Nat.one_le_iff_ne_zero.2 hpos, hsize, hrange.2⟩ h

/-- A numeral stands for its value; a value that leaves the word does not come back into it. -/
theorem resolveToken_numeral (h : TokenForm.isNumeral token.toList = true) :
    (registry.Expresses (Decimal.value token.toList) →
      ∃ mask, registry.resolveToken token = .ok mask ∧
        mask.toNat = Decimal.value token.toList) ∧
    (¬ registry.Expresses (Decimal.value token.toList) →
      registry.resolveToken token = .error (.outOfRange token registry.max)) := by
  unfold resolveToken
  rw [tokenForm_of_numeral h]
  by_cases hsize : Decimal.value token.toList < UInt64.size
  · simp only [hsize, if_true]
    constructor
    · intro hexpresses
      exact ⟨_, inRange_of_expresses hexpresses, UInt64.toNat_ofNat_of_lt' hsize⟩
    · exact inRange_of_not_expresses hsize
  · simp only [hsize, if_false]
    constructor
    · intro hexpresses
      exact absurd hexpresses.2.1 hsize
    · intro _
      trivial

theorem resolveToken_minus (htoken : token.toList = '-' :: digits)
    (h : TokenForm.isNumeral digits = true) :
    registry.resolveToken token = .error (.outOfRange token registry.max) := by
  simp only [resolveToken, tokenForm_of_minus htoken h]

theorem privilege?_eq_some_iff :
    registry.privilege? token = some mask ↔ (token, mask) ∈ registry.privileges :=
  ⟨Table.mem_of_mask?_eq_some, privilege?_of_mem⟩

theorem privilege?_eq_none_iff :
    registry.privilege? token = none ↔ token ∉ registry.privileges.map Prod.fst := by
  rw [← Table.mask?_isSome_iff, Bool.not_eq_true, Option.isSome_eq_false_iff,
    Option.isNone_iff_eq_none]
  rfl

theorem resolveToken_word (h : tokenForm token = .name) :
    (∀ mask, registry.resolveToken token = .ok mask ↔ (token, mask) ∈ registry.privileges) ∧
    (registry.resolveToken token = .error (.unknownPrivilege token) ↔
      token ∉ registry.privileges.map Prod.fst) := by
  rw [← privilege?_eq_none_iff]
  simp only [resolveToken, h, ← privilege?_eq_some_iff]
  cases registry.privilege? token with
  | none =>
      simp
  | some found =>
      simp

end

/--
A numeral of any length resolves to the number that it denotes if that is a mask of
configured bits, and is out of range otherwise, as it is behind a minus sign. Any other
token resolves exactly if it is a configured name, and no configured name is read as a
number.
-/
theorem resolveToken_exact {privileges grants : Table} {registry : Registry}
    (h : ofTables privileges grants = .ok registry) (token : String) :
    (token.toList ≠ [] → (∀ c ∈ token.toList, c.isDigit = true) →
      (registry.Expresses (Decimal.value token.toList) →
        ∃ mask, registry.resolveToken token = .ok mask ∧
          mask.toNat = Decimal.value token.toList) ∧
      (¬ registry.Expresses (Decimal.value token.toList) →
        registry.resolveToken token = .error (.outOfRange token registry.max))) ∧
    (∀ digits, digits ≠ [] → (∀ c ∈ digits, c.isDigit = true) → token.toList = '-' :: digits →
      registry.resolveToken token = .error (.outOfRange token registry.max)) ∧
    (¬ IsSignedNumeral token.toList →
      (∀ mask, registry.resolveToken token = .ok mask ↔ (token, mask) ∈ privileges) ∧
      (registry.resolveToken token = .error (.unknownPrivilege token) ↔
        token ∉ privileges.map Prod.fst)) ∧
    ∀ entry ∈ privileges, ¬ IsSignedNumeral entry.1.toList ∧
      registry.resolveToken entry.1 = .ok entry.2 := by
  obtain ⟨rfl, -⟩ := ofTables_eq_ok_iff.1 h
  refine ⟨?_, ?_, ?_, ?_⟩
  · intro hne hdigits
    exact resolveToken_numeral (isNumeral_iff.2 ⟨hne, hdigits⟩)
  · intro digits hne hdigits htoken
    exact resolveToken_minus htoken (isNumeral_iff.2 ⟨hne, hdigits⟩)
  · intro hword
    exact resolveToken_word (tokenForm_eq_name_iff.2 hword)
  · intro entry hentry
    exact ⟨tokenForm_eq_name_iff.1 (validEntry_of_mem hentry).2.2.1,
      resolveToken_of_privilege? (privilege?_of_mem hentry)⟩

/-- Leading zeros do not count, and a number past the last word does not start again at one. -/
theorem resolveToken_exact_long :
    ofTables standard.privileges standard.grants = .ok standard ∧
      (∃ mask, standard.resolveToken "00000000000000000000127" = .ok mask ∧
        mask.toNat = Decimal.value "00000000000000000000127".toList) ∧
      standard.resolveToken "18446744073709551617" =
        .error (.outOfRange "18446744073709551617" standard.max) ∧
      standard.resolveToken "-1" = .error (.outOfRange "-1" standard.max) ∧
      ¬ IsSignedNumeral "owner".toList ∧ ("owner", 63) ∈ standard.privileges ∧
      standard.resolveToken "owner" = .ok 63 := by
  have hmade : ofTables standard.privileges standard.grants = .ok standard :=
    ofTables_eq_ok_iff.2 ⟨rfl, rfl⟩
  have hpadded : TokenForm.isNumeral "00000000000000000000127".toList = true := by decide +kernel
  have hlong : TokenForm.isNumeral "18446744073709551617".toList = true := by decide +kernel
  have hone : TokenForm.isNumeral ['1'] = true := by decide
  have hexpresses : standard.Expresses (Decimal.value "00000000000000000000127".toList) := by
    have hvalue : Decimal.value "00000000000000000000127".toList = 127 := by decide +kernel
    rw [hvalue]
    exact ⟨by decide, by decide, by decide +kernel⟩
  have hwide : ¬ standard.Expresses (Decimal.value "18446744073709551617".toList) := by
    have hvalue : Decimal.value "18446744073709551617".toList = 2 ^ 64 + 1 := by decide +kernel
    intro hlarge
    have hsize := hlarge.2.1
    omega
  have howner : ("owner", 63) ∈ standard.privileges := by simp [standard]
  obtain ⟨hfits, -⟩ := resolveToken_exact hmade "00000000000000000000127"
  obtain ⟨hexceeds, -⟩ := resolveToken_exact hmade "18446744073709551617"
  obtain ⟨-, hminus, -⟩ := resolveToken_exact hmade "-1"
  obtain ⟨-, -, hword, hnames⟩ := resolveToken_exact hmade "owner"
  rw [← and_imp, ← isNumeral_iff] at hfits hexceeds
  have hnegative := hminus ['1'] (by simp) (isNumeral_iff.1 hone).2 (by decide +kernel)
  obtain ⟨hnumeral, hresolved⟩ := hnames ("owner", 63) howner
  exact ⟨hmade, (hfits hpadded).1 hexpresses, (hexceeds hlong).2 hwide, hnegative, hnumeral,
    ((hword hnumeral).1 63).1 hresolved, hresolved⟩

end Registry

end Entitlements
