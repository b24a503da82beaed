import Entitlements.Proofs.Mask.Bits

/-!
# Coverage of masks

Coverage compares masks as numbers and asks for one shared bit. Which masks cover
none but their subsets, and which ones only their supersets cover, is decided by
their shape.
-/

namespace Entitlements.Mask

section

variable {held query : Mask} {i j t k : Nat}

theorem toNat_le_of_covers (h : covers held query = true) : query.toNat ≤ held.toNat :=
  UInt64.le_iff_toNat_le.1 ((covers_iff held query).1 h).1

theorem exists_shared_of_covers (h : covers held query = true) :
    ∃ i, held.HasBit i ∧ query.HasBit i := by
  obtain ⟨i, hi⟩ := ne_zero_iff.1 ((covers_iff held query).1 h).2
  exact ⟨i, hasBit_and_iff.1 hi⟩

theorem covers_of_shared (hle : query.toNat ≤ held.toNat) (hheld : held.HasBit i)
    (hquery : query.HasBit i) : covers held query = true := by
  rw [covers_iff, UInt64.le_iff_toNat_le, ne_zero_iff]
  exact ⟨hle, i, hasBit_and_iff.2 ⟨hheld, hquery⟩⟩

theorem toNat_le_of_beyond_eq_zero (h : query.beyond held = 0) : query.toNat ≤ held.toNat := by
  rw [beyond_eq_zero_iff] at h
  have hand : query &&& held = query := by
    apply eq_of_hasBit_iff
    intro i
    rw [hasBit_and_iff]
    exact ⟨fun hi => hi.1, fun hi => ⟨hi, h i hi⟩⟩
  rw [← hand, UInt64.toNat_and]
  exact Nat.and_le_right

theorem eq_zero_of_beyond_zero (h : query.beyond 0 = 0) : query = 0 := by
  have hle : query.toNat ≤ 0 := toNat_le_of_beyond_eq_zero h
  exact UInt64.toNat_inj.1 (Nat.le_zero.1 hle)

/-- A nonzero subset is covered; the converse depends on the shape of `held`. -/
theorem covers_of_beyond_eq_zero (hquery : query ≠ 0) (h : query.beyond held = 0) :
    covers held query = true := by
  obtain ⟨i, hi⟩ := ne_zero_iff.1 hquery
  have hheld : held.HasBit i := beyond_eq_zero_iff.1 h i hi
  exact covers_of_shared (toNat_le_of_beyond_eq_zero h) hheld hi

/-- Coverage is no subset test, yet a wider mask covers no less. -/
theorem covers_of_covers_of_beyond {more : Mask} (h : covers held query = true)
    (hwider : held.beyond more = 0) : covers more query = true := by
  obtain ⟨i, hheld, hquery⟩ := exists_shared_of_covers h
  have hle := (toNat_le_of_covers h).trans (toNat_le_of_beyond_eq_zero hwider)
  exact covers_of_shared hle (beyond_eq_zero_iff.1 hwider i hheld) hquery

theorem covers_part_iff {part : Mask} (h : covers held query = true)
    (hpart : part.beyond query = 0) : covers held part = true ↔ held &&& part ≠ 0 := by
  have hle : part.toNat ≤ held.toNat :=
    (toNat_le_of_beyond_eq_zero hpart).trans (toNat_le_of_covers h)
  rw [covers_iff, UInt64.le_iff_toNat_le]
  exact ⟨fun hcovers => hcovers.2, fun hshared => ⟨hle, hshared⟩⟩

theorem ne_zero_of_covers (h : covers held query = true) : held ≠ 0 ∧ query ≠ 0 := by
  obtain ⟨i, hheld, hquery⟩ := exists_shared_of_covers h
  exact ⟨ne_zero_iff.2 ⟨i, hheld⟩, ne_zero_iff.2 ⟨i, hquery⟩⟩

/-! ## Shapes that keep coverage within the mask -/

theorem beyond_eq_zero_of_single (hheld : held.toNat = 2 ^ t) (h : covers held query = true) :
    query.beyond held = 0 := by
  have hle := toNat_le_of_covers h
  obtain ⟨i, hi, hquery⟩ := exists_shared_of_covers h
  obtain rfl : i = t := (toNat_eq_single_iff.1 hheld i).1 hi
  have hge : 2 ^ i ≤ query.toNat := Nat.ge_two_pow_of_testBit hquery
  have heq : query = held := UInt64.toNat_inj.1 (by omega)
  rw [heq, beyond_eq_zero_iff]
  exact fun _ hj => hj

theorem beyond_eq_zero_of_full (hheld : held.toNat = 2 ^ k - 1) (hle : query.toNat ≤ held.toNat) :
    query.beyond held = 0 := by
  have hpos : 0 < 2 ^ k := Nat.two_pow_pos k
  rw [beyond_eq_zero_iff]
  intro i hi
  have hge : 2 ^ i ≤ query.toNat := Nat.ge_two_pow_of_testBit hi
  have hlt : 2 ^ i < 2 ^ k := by omega
  exact (toNat_eq_full_iff.1 hheld i).2 ((Nat.pow_lt_pow_iff_right (by decide)).1 hlt)

/-! ## Every other shape covers a mask beyond it -/

theorem exists_covered_beyond (htop : held.HasBit t) (hi : held.HasBit i) (hit : i < t)
    (hj : ¬ held.HasBit j) (hjt : j < t) :
    ∃ query, covers held query = true ∧ query.beyond held ≠ 0 := by
  obtain ⟨shared, hshared⟩ := exists_single hi.lt
  obtain ⟨missing, hmissing⟩ := exists_single (hjt.trans htop.lt)
  have hquery : ∀ n, (shared ||| missing).HasBit n ↔ n = i ∨ n = j := by
    intro n
    rw [hasBit_or_iff, toNat_eq_single_iff.1 hshared, toNat_eq_single_iff.1 hmissing]
  have hbelow : (shared ||| missing).toNat < 2 ^ t := by
    rw [UInt64.toNat_or, hshared, hmissing]
    exact Nat.or_lt_two_pow (Nat.pow_lt_pow_right (by decide) hit)
      (Nat.pow_lt_pow_right (by decide) hjt)
  have hheld : 2 ^ t ≤ held.toNat := Nat.ge_two_pow_of_testBit htop
  refine ⟨shared ||| missing, covers_of_shared (by omega) hi ((hquery i).2 (.inl rfl)), ?_⟩
  intro hbeyond
  exact hj (beyond_eq_zero_iff.1 hbeyond j ((hquery j).2 (.inr rfl)))

/--
A mask covers none but its subsets exactly if it is no bit, a single bit, or every
bit up to some width.
-/
theorem covers_only_subsets_iff :
    (∀ query, covers held query = true → query.beyond held = 0) ↔
      held = 0 ∨ (∃ t, held.toNat = 2 ^ t) ∨ ∃ k, k ≤ 64 ∧ held.toNat = 2 ^ k - 1 := by
  constructor
  · intro h
    by_cases hzero : held = 0
    · exact .inl hzero
    · obtain ⟨t, htop, habove⟩ := exists_top hzero
      by_cases hfill : ∀ j, j < t → held.HasBit j
      · exact .inr (.inr ⟨t + 1, htop.lt, toNat_eq_full_of_top htop habove hfill⟩)
      · -- With a hole below the top bit, no other bit below it can be shared.
        obtain ⟨j, hjt, hj⟩ : ∃ j, j < t ∧ ¬ held.HasBit j := by simpa using hfill
        refine .inr (.inl ⟨t, toNat_eq_single_of_only htop fun i hi => ?_⟩)
        by_contra hit
        have hlt : i < t := (habove i hi).lt_of_ne hit
        obtain ⟨query, hcovers, hbeyond⟩ := exists_covered_beyond htop hi hlt hj hjt
        exact hbeyond (h query hcovers)
  · intro hshape query h
    rcases hshape with hzero | ⟨t, hsingle⟩ | ⟨k, -, hfull⟩
    · exact absurd hzero (ne_zero_of_covers h).1
    · exact beyond_eq_zero_of_single hsingle h
    · exact beyond_eq_zero_of_full hfull (toNat_le_of_covers h)

/-! ## Shapes of a query that only its supersets cover -/

theorem beyond_eq_zero_of_single_query (hquery : query.toNat = 2 ^ t)
    (h : covers held query = true) : query.beyond held = 0 := by
  have hbits := toNat_eq_single_iff.1 hquery
  obtain ⟨i, hheld, hi⟩ := exists_shared_of_covers h
  rw [beyond_eq_zero_iff]
  intro j hj
  rw [(hbits j).1 hj, ← (hbits i).1 hi]
  exact hheld

theorem beyond_eq_zero_of_upper_query (hk : k ≤ 64) (hquery : query.toNat = 2 ^ 64 - 2 ^ k)
    (hle : query.toNat ≤ held.toNat) : query.beyond held = 0 := by
  have hfull : (~~~query).toNat = 2 ^ k - 1 := (toNat_complement_eq_full_iff hk).2 hquery
  have hcomplement : (~~~held).toNat ≤ (~~~query).toNat := by
    rw [UInt64.toNat_not, UInt64.toNat_not]
    omega
  exact complement_beyond_complement_iff.1 (beyond_eq_zero_of_full hfull hcomplement)

/-! ## Every other query is covered by a mask that lacks one of its bits -/

theorem exists_covering_missing (hi : query.HasBit i) (ht : query.HasBit t) (hti : t ≠ i)
    (hj : ¬ query.HasBit j) (hij : i < j) (hsize : j < 64) :
    ∃ held, covers held query = true ∧ query.beyond held ≠ 0 := by
  obtain ⟨held, hheld⟩ : ∃ held : Mask, ∀ n, held.HasBit n ↔ (query.HasBit n ∧ n ≠ i) ∨ n = j :=
    exists_traded hi.lt hsize
  have hlt : query.toNat < held.toNat := by
    apply toNat_lt_of_hasBit hj ((hheld j).2 (.inr rfl))
    intro n hn
    have hne : n ≠ i ∧ n ≠ j := by omega
    simp [hheld, hne]
  have hmissing : ¬ held.HasBit i := by
    simp [hheld, hij.ne]
  refine ⟨held, covers_of_shared hlt.le ((hheld t).2 (.inl ⟨ht, hti⟩)) ht, ?_⟩
  intro hbeyond
  exact hmissing (beyond_eq_zero_iff.1 hbeyond i hi)

/--
Only its supersets cover a query exactly if it is no bit, a single bit, or every bit
from some place up to the top of the word.
-/
theorem covered_only_by_supersets_iff :
    (∀ held, covers held query = true → query.beyond held = 0) ↔
      query = 0 ∨ (∃ t, query.toNat = 2 ^ t) ∨ ∃ k, k ≤ 64 ∧ query.toNat = 2 ^ 64 - 2 ^ k := by
  constructor
  · intro h
    by_cases hzero : query = 0
    · exact .inl hzero
    · obtain ⟨k, hbottom, hbelow⟩ := exists_bottom hzero
      by_cases hfill : ∀ j, k < j → j < 64 → query.HasBit j
      · exact .inr (.inr ⟨k, hbottom.lt.le, toNat_eq_upper_of_bottom hbottom hbelow hfill⟩)
      · -- With a hole above the bottom bit, that bit is traded for it if there is another one.
        obtain ⟨j, hkj, hsize, hj⟩ : ∃ j, k < j ∧ j < 64 ∧ ¬ query.HasBit j := by
          simpa using hfill
        refine .inr (.inl ⟨k, toNat_eq_single_of_only hbottom fun i hi => ?_⟩)
        by_contra hik
        obtain ⟨held, hcovers, hbeyond⟩ := exists_covering_missing hbottom hi hik hj hkj hsize
        exact hbeyond (h held hcovers)
  · intro hshape held h
    rcases hshape with hzero | ⟨t, hsingle⟩ | ⟨k, hk, hupper⟩
    · exact absurd hzero (ne_zero_of_covers h).2
    · exact beyond_eq_zero_of_single_query hsingle h
    · exact beyond_eq_zero_of_upper_query hk hupper (toNat_le_of_covers h)

theorem exists_covering_missing_of_lt (hquery : query ≠ 0) (hsingle : ¬ ∃ t, query.toNat = 2 ^ t)
    (hlt : query.toNat < 2 ^ 63) : ∃ held, covers held query = true ∧ query.beyond held ≠ 0 := by
  by_contra hnone
  have hsupersets : ∀ held, covers held query = true → query.beyond held = 0 := by
    intro held hcovers
    by_contra hbeyond
    exact hnone ⟨held, hcovers, hbeyond⟩
  rcases covered_only_by_supersets_iff.1 hsupersets with hzero | hone | ⟨k, hk, hupper⟩
  · exact hquery hzero
  · exact hsingle hone
  · -- Every bit from some place upwards includes the top one, unless that place is past the top.
    by_cases htop : k = 64
    · rw [htop, Nat.sub_self] at hupper
      exact hquery (UInt64.toNat_inj.1 hupper)
    · have hle : 2 ^ k ≤ 2 ^ 63 := Nat.pow_le_pow_right (by decide) (by omega)
      omega

end

end Entitlements.Mask
