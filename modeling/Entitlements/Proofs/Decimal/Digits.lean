import Mathlib.Data.List.Basic
import Mathlib.Data.Nat.Digits.Defs
import Entitlements.Mask
import Entitlements.Privilege.Token

/-!
# Decimal digits

A natural is written with at least one digit, with nothing but digits, and without a
leading zero unless it is zero itself. So a mask that is written is a numeral.
-/

namespace Entitlements

namespace Decimal

/-- The number that decimal digits denote, the last one counting ones. -/
def value (digits : List Char) : Nat :=
  Nat.ofDigits 10 (digits.reverse.map fun c => c.toNat - '0'.toNat)

theorem value_cons (c : Char) (digits : List Char) :
    value (c :: digits) = 10 ^ digits.length * (c.toNat - '0'.toNat) + value digits := by
  simp [value, Nat.ofDigits_append, Nat.add_comm]

theorem value_eq_ofDigitChars (digits : List Char) :
    value digits = Nat.ofDigitChars 10 digits 0 := by
  induction digits with
  | nil =>
      rfl
  | cons c digits ih =>
      calc value (c :: digits)
          = 10 ^ digits.length * (c.toNat - '0'.toNat) + Nat.ofDigitChars 10 digits 0 := by
            rw [value_cons, ih]
        _ = Nat.ofDigitChars 10 digits (c.toNat - '0'.toNat) :=
            Nat.ofDigitChars_eq_ofDigitChars_zero.symm
        _ = Nat.ofDigitChars 10 (c :: digits) 0 := by
            rw [Nat.ofDigitChars_cons, Nat.mul_zero, Nat.zero_add]

theorem all_isDigit_toDigits (n : Nat) : (Nat.toDigits 10 n).all Char.isDigit = true := by
  rw [List.all_eq_true]
  intro c hc
  exact Nat.isDigit_of_mem_toDigits (by decide) (by decide) hc

theorem notMem_toDigits {c : Char} (hc : c.isDigit = false) (n : Nat) :
    c ∉ Nat.toDigits 10 n := by
  intro hmem
  have hdigit : c.isDigit = true := Nat.isDigit_of_mem_toDigits (by decide) (by decide) hmem
  rw [hc] at hdigit
  contradiction

theorem toDigits_ne_cons {c : Char} (hc : c.isDigit = false) (n : Nat) (rest : List Char) :
    Nat.toDigits 10 n ≠ c :: rest := by
  intro heq
  have hmem : c ∈ Nat.toDigits 10 n := heq ▸ List.mem_cons_self
  exact notMem_toDigits hc n hmem

theorem head?_toDigits_ne {n : Nat} (hn : n ≠ 0) : (Nat.toDigits 10 n).head? ≠ some '0' := by
  induction n using Nat.strongRecOn with
  | ind n ih =>
      by_cases hlt : n < 10
      · rw [Nat.toDigits_of_lt_base hlt]
        simpa using hn
      · have hquotient := ih (n / 10) (by omega) (by omega)
        rw [Nat.toDigits_of_base_le (by decide) (by omega),
          List.head?_append_of_ne_nil _ Nat.toDigits_ne_nil]
        exact hquotient

theorem toDigits_of_head?_zero {n : Nat} (h : (Nat.toDigits 10 n).head? = some '0') :
    Nat.toDigits 10 n = ['0'] := by
  by_cases hn : n = 0
  · rw [hn, Nat.toDigits_zero]
  · exact absurd h (head?_toDigits_ne hn)

end Decimal

theorem Mask.toList_toString (mask : Mask) : (toString mask).toList = Nat.toDigits 10 mask.toNat :=
  Nat.toList_repr

theorem Mask.notMem_toString {c : Char} (hc : c.isDigit = false) (mask : Mask) :
    c ∉ (toString mask).toList := by
  rw [Mask.toList_toString]
  exact Decimal.notMem_toDigits hc _

/-- A written mask is read as a number, never as a name. -/
theorem tokenForm_toString (mask : Mask) : tokenForm (toString mask) = .number mask.toNat := by
  rw [tokenForm, Mask.toList_toString]
  unfold TokenForm.ofText
  split
  · next digits hminus =>
      exact absurd hminus (Decimal.toDigits_ne_cons (by decide) _ _)
  · simp [TokenForm.isNumeral, Decimal.all_isDigit_toDigits]

theorem Mask.toString_inj {mask other : Mask} (h : toString mask = toString other) :
    mask = other := by
  have hform := congrArg tokenForm h
  rw [tokenForm_toString, tokenForm_toString] at hform
  exact UInt64.toNat_inj.1 (TokenForm.number.inj hform)

end Entitlements
