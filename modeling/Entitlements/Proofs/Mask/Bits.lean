import Mathlib.Data.Nat.Bitwise
import Mathlib.Data.Nat.Find
import Entitlements.Mask

/-!
# Bits of a mask

A mask is read as the set of its bits: two masks with the same bits are equal, and
each operation on masks is the set operation that its name suggests.
-/

namespace Entitlements.Mask

def HasBit (mask : Mask) (i : Nat) : Prop :=
  mask.toNat.testBit i = true

instance (mask : Mask) (i : Nat) : Decidable (mask.HasBit i) :=
  inferInstanceAs (Decidable (_ = true))

section

variable {mask first second bound : Mask} {masks : List Mask} {i : Nat}

theorem HasBit.lt (h : mask.HasBit i) : i < 64 := by
  have hsize : mask.toNat < 2 ^ 64 := mask.toNat_lt
  have hle : 2 ^ i ≤ mask.toNat := Nat.ge_two_pow_of_testBit h
  have hpow : 2 ^ i < 2 ^ 64 := by omega
  exact (Nat.pow_lt_pow_iff_right (by decide)).1 hpow

theorem eq_of_hasBit_iff (h : ∀ i, first.HasBit i ↔ second.HasBit i) : first = second := by
  rw [← UInt64.toNat_inj]
  apply Nat.eq_of_testBit_eq
  intro i
  exact Bool.eq_iff_iff.2 (h i)

theorem not_hasBit_zero : ¬ HasBit 0 i := by
  simp [HasBit]

theorem hasBit_and_iff : (first &&& second).HasBit i ↔ first.HasBit i ∧ second.HasBit i := by
  simp [HasBit, UInt64.toNat_and]

theorem hasBit_or_iff : (first ||| second).HasBit i ↔ first.HasBit i ∨ second.HasBit i := by
  simp [HasBit, UInt64.toNat_or]

theorem hasBit_complement_iff : (~~~mask).HasBit i ↔ i < 64 ∧ ¬ mask.HasBit i := by
  have hcomplement : (~~~mask).toNat.testBit i = (~~~mask.toBitVec).getLsbD i := rfl
  have hmask : mask.toNat.testBit i = mask.toBitVec.getLsbD i := rfl
  rw [HasBit, HasBit, hcomplement, hmask, BitVec.getLsbD_not]
  simp

theorem toNat_ne_zero (h : mask ≠ 0) : mask.toNat ≠ 0 :=
  fun hzero => h (UInt64.toNat_inj.1 hzero)

theorem ne_zero_iff : mask ≠ 0 ↔ ∃ i, mask.HasBit i := by
  constructor
  · intro h
    exact Nat.exists_testBit_of_ne_zero (toNat_ne_zero h)
  · intro h hzero
    obtain ⟨i, hi⟩ := h
    rw [hzero] at hi
    exact not_hasBit_zero hi

/-! ## Masks as numbers -/

theorem exists_top (h : mask ≠ 0) :
    ∃ t, mask.HasBit t ∧ ∀ i, mask.HasBit i → i ≤ t := by
  have hnat := toNat_ne_zero h
  refine ⟨mask.toNat.log2, Nat.testBit_log2 hnat, ?_⟩
  intro i hi
  exact (Nat.le_log2 hnat).2 (Nat.ge_two_pow_of_testBit hi)

theorem exists_bottom (h : mask ≠ 0) :
    ∃ k, mask.HasBit k ∧ ∀ i, mask.HasBit i → k ≤ i := by
  have hbit := ne_zero_iff.1 h
  exact ⟨Nat.find hbit, Nat.find_spec hbit, fun _ hi => Nat.find_min' hbit hi⟩

theorem toNat_lt_of_hasBit (hfirst : ¬ first.HasBit i) (hsecond : second.HasBit i)
    (habove : ∀ j, i < j → (first.HasBit j ↔ second.HasBit j)) : first.toNat < second.toNat :=
  Nat.lt_of_testBit i (Bool.eq_false_of_not_eq_true hfirst) hsecond
    fun j hij => Bool.eq_iff_iff.2 (habove j hij)

theorem toNat_eq_single_iff {t : Nat} : mask.toNat = 2 ^ t ↔ ∀ i, mask.HasBit i ↔ i = t := by
  constructor
  · intro h i
    rw [HasBit, h, Nat.testBit_two_pow, decide_eq_true_iff, eq_comm]
  · intro h
    apply Nat.eq_of_testBit_eq
    intro i
    have hi : mask.HasBit i ↔ t = i := (h i).trans eq_comm
    rw [Nat.testBit_two_pow, Bool.eq_iff_iff, decide_eq_true_iff]
    exact hi

theorem toNat_eq_single_of_only (hbit : mask.HasBit i) (honly : ∀ j, mask.HasBit j → j = i) :
    mask.toNat = 2 ^ i := by
  refine toNat_eq_single_iff.2 fun j => ⟨honly j, fun hj => ?_⟩
  rw [hj]
  exact hbit

theorem exists_single (h : i < 64) : ∃ mask : Mask, mask.toNat = 2 ^ i := by
  have hsize : 2 ^ i < UInt64.size := Nat.pow_lt_pow_right (by decide) h
  exact ⟨UInt64.ofNat (2 ^ i), UInt64.toNat_ofNat_of_lt' hsize⟩

theorem toNat_eq_full_iff {k : Nat} : mask.toNat = 2 ^ k - 1 ↔ ∀ i, mask.HasBit i ↔ i < k := by
  constructor
  · intro h i
    rw [HasBit, h, Nat.testBit_two_pow_sub_one, decide_eq_true_iff]
  · intro h
    apply Nat.eq_of_testBit_eq
    intro i
    rw [Nat.testBit_two_pow_sub_one, Bool.eq_iff_iff, decide_eq_true_iff]
    exact h i

/-- A mask without holes below its top bit. -/
theorem toNat_eq_full_of_top {t : Nat} (htop : mask.HasBit t) (habove : ∀ i, mask.HasBit i → i ≤ t)
    (hfill : ∀ i, i < t → mask.HasBit i) : mask.toNat = 2 ^ (t + 1) - 1 := by
  refine toNat_eq_full_iff.2 fun i => ⟨fun hi => Nat.lt_succ_of_le (habove i hi), fun hi => ?_⟩
  rcases Nat.lt_succ_iff_lt_or_eq.1 hi with hlt | heq
  · exact hfill i hlt
  · rw [heq]
    exact htop

theorem toNat_complement_eq_full_iff {k : Nat} (hk : k ≤ 64) :
    (~~~mask).toNat = 2 ^ k - 1 ↔ mask.toNat = 2 ^ 64 - 2 ^ k := by
  have hmask : mask.toNat < 2 ^ 64 := mask.toNat_lt
  have hpos : 0 < 2 ^ k := Nat.two_pow_pos k
  have hle : 2 ^ k ≤ 2 ^ 64 := Nat.pow_le_pow_right (by decide) hk
  have hsize : UInt64.size = 2 ^ 64 := rfl
  rw [UInt64.toNat_not, hsize]
  omega

/-- A mask without holes above its bottom bit. -/
theorem toNat_eq_upper_of_bottom {k : Nat} (hbottom : mask.HasBit k)
    (hbelow : ∀ i, mask.HasBit i → k ≤ i) (hfill : ∀ i, k < i → i < 64 → mask.HasBit i) :
    mask.toNat = 2 ^ 64 - 2 ^ k := by
  rw [← toNat_complement_eq_full_iff hbottom.lt.le, toNat_eq_full_iff]
  intro i
  rw [hasBit_complement_iff]
  constructor
  · intro hi
    obtain ⟨hsize, hmissing⟩ := hi
    by_contra hki
    rcases (not_lt.1 hki).eq_or_lt with heq | hlt
    · exact hmissing (heq ▸ hbottom)
    · exact hmissing (hfill i hlt hsize)
  · intro hik
    exact ⟨hik.trans hbottom.lt, fun hi => (hbelow i hi).not_gt hik⟩

/-! ## Subsets -/

theorem hasBit_beyond_iff : (mask.beyond bound).HasBit i ↔ mask.HasBit i ∧ ¬ bound.HasBit i := by
  rw [beyond, hasBit_and_iff, hasBit_complement_iff]
  constructor
  · intro h
    obtain ⟨hmask, -, hbound⟩ := h
    exact ⟨hmask, hbound⟩
  · intro h
    obtain ⟨hmask, hbound⟩ := h
    exact ⟨hmask, hmask.lt, hbound⟩

/-- One bit of a mask may be traded for another one. -/
theorem exists_traded {j : Nat} (hi : i < 64) (hj : j < 64) :
    ∃ traded : Mask, ∀ n, traded.HasBit n ↔ (mask.HasBit n ∧ n ≠ i) ∨ n = j := by
  obtain ⟨removed, hremoved⟩ := exists_single hi
  obtain ⟨added, hadded⟩ := exists_single hj
  refine ⟨mask.beyond removed ||| added, fun n => ?_⟩
  rw [hasBit_or_iff, hasBit_beyond_iff, toNat_eq_single_iff.1 hremoved,
    toNat_eq_single_iff.1 hadded]

theorem beyond_eq_zero_iff :
    mask.beyond bound = 0 ↔ ∀ i, mask.HasBit i → bound.HasBit i := by
  have hbeyond : mask.beyond bound ≠ 0 ↔ ∃ i, mask.HasBit i ∧ ¬ bound.HasBit i := by
    rw [ne_zero_iff]
    simp only [hasBit_beyond_iff]
  grind

theorem complement_beyond_complement_iff :
    (~~~first).beyond (~~~second) = 0 ↔ second.beyond first = 0 := by
  have hswap : (~~~first).beyond (~~~second) = second.beyond first := by
    apply eq_of_hasBit_iff
    intro i
    simp only [hasBit_beyond_iff, hasBit_complement_iff]
    have hlt : second.HasBit i → i < 64 := HasBit.lt
    grind
  rw [hswap]

@[simp] theorem zero_beyond : beyond 0 bound = 0 := by
  simp [beyond]

theorem beyond_eq_self (h : mask &&& bound = 0) : mask.beyond bound = mask := by
  apply eq_of_hasBit_iff
  intro i
  have hshared : ¬ (mask &&& bound).HasBit i := by
    rw [h]
    exact not_hasBit_zero
  rw [hasBit_and_iff] at hshared
  rw [hasBit_beyond_iff]
  exact ⟨fun hi => hi.1, fun hi => ⟨hi, fun hbound => hshared ⟨hi, hbound⟩⟩⟩

theorem beyond_trans (hfirst : first.beyond second = 0) (hsecond : second.beyond bound = 0) :
    first.beyond bound = 0 := by
  rw [beyond_eq_zero_iff] at hfirst hsecond ⊢
  intro i hi
  exact hsecond i (hfirst i hi)

/-! ## Unions -/

theorem hasBit_union_iff : (union masks).HasBit i ↔ ∃ mask ∈ masks, mask.HasBit i := by
  induction masks with
  | nil =>
      simp [not_hasBit_zero]
  | cons mask masks ih =>
      simp [hasBit_or_iff, ih]

theorem union_append (masks more : List Mask) :
    union (masks ++ more) = union masks ||| union more := by
  induction masks with
  | nil =>
      simp
  | cons mask masks ih =>
      simp [ih, UInt64.or_assoc]

theorem union_flatten (rows : List (List Mask)) :
    union rows.flatten = union (rows.map union) := by
  induction rows with
  | nil =>
      rfl
  | cons row rows ih =>
      rw [List.flatten_cons, union_append, ih, List.map_cons, union_cons]

theorem union_beyond_eq_zero_iff :
    (union masks).beyond bound = 0 ↔ ∀ mask ∈ masks, mask.beyond bound = 0 := by
  simp only [beyond_eq_zero_iff, hasBit_union_iff]
  grind

theorem beyond_union_of_mem (h : mask ∈ masks) : mask.beyond (union masks) = 0 := by
  rw [beyond_eq_zero_iff]
  intro i hi
  exact hasBit_union_iff.2 ⟨mask, h, hi⟩

theorem union_beyond_union {more : List Mask} (h : ∀ mask ∈ masks, mask ∈ more) :
    (union masks).beyond (union more) = 0 :=
  union_beyond_eq_zero_iff.2 fun mask hmask => beyond_union_of_mem (h mask hmask)

theorem or_beyond_eq_zero_iff :
    (first ||| second).beyond bound = 0 ↔ first.beyond bound = 0 ∧ second.beyond bound = 0 := by
  simp only [beyond_eq_zero_iff, hasBit_or_iff]
  grind

theorem union_ne_zero_of_mem (h : mask ∈ masks) (hmask : mask ≠ 0) : union masks ≠ 0 := by
  rw [ne_zero_iff] at hmask ⊢
  obtain ⟨i, hi⟩ := hmask
  exact ⟨i, hasBit_union_iff.2 ⟨mask, h, hi⟩⟩

end

end Entitlements.Mask
