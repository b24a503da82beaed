import Entitlements.Validation
import Entitlements.Proofs.Pattern.Piecewise
import Entitlements.Proofs.Pattern.Segments

/-!
# The grammar of identifiers

Validation scans an identifier once, from one run of stars to the next. The grammar
speaks of segments instead: each of them is made of stars only or has no two stars in
a row. A delimiter parts the scan as it parts the text, so the two are compared for
one segment at a time.
-/

namespace Entitlements.Pattern

/-! ## The scan at a delimiter -/

namespace Symbol

section

variable {bound : Bool} {symbols rest : List Symbol} {d : Char}

theorem boundAhead_append_char (hd : isDelimiter d = true) :
    boundAhead (symbols ++ .char d :: rest) = boundAhead symbols := by
  cases symbols with
  | nil =>
      exact hd
  | cons symbol symbols =>
      cases symbol <;> rfl

theorem runsAreSegments_append_char (hd : isDelimiter d = true) :
    runsAreSegments bound (symbols ++ .char d :: rest) =
      (runsAreSegments bound symbols && runsAreSegments true rest) := by
  induction symbols generalizing bound with
  | nil =>
      simp [runsAreSegments, hd]
  | cons symbol symbols ih =>
      cases symbol with
      | char c =>
          rw [List.cons_append, runsAreSegments, runsAreSegments, ih]
      | stars count =>
          rw [List.cons_append, runsAreSegments, runsAreSegments, boundAhead_append_char hd, ih,
            Bool.and_assoc]

end

end Symbol

/-- The scan of a text is the scan of each of its segments by itself. -/
theorem runsAreSegments_iff_segments {text : List Char} :
    Symbol.runsAreSegments true (Symbol.ofText text) = true ↔
      ∀ part ∈ segments text, Symbol.runsAreSegments true (Symbol.ofText part) = true := by
  induction text using segment_induction with
  | last text htext =>
      rw [segments_of_delimiters_eq_nil htext, List.forall_mem_singleton]
  | cut front d back hfront hd ih =>
      rw [segments_cut hfront hd, List.forall_mem_cons, ← ih,
        Symbol.ofText_append_cons (ne_star_of_isDelimiter hd),
        Symbol.runsAreSegments_append_char hd, Bool.and_eq_true]

/-! ## The scan of one segment -/

section

variable {count : Nat} {text part : List Char}

theorem inSegment_run_iff (hcount : 0 < count) (hmaximal : text.head? ≠ some '*') :
    InSegment (List.replicate count '*' ++ text) ↔ count = 1 ∧ InSegment text := by
  obtain ⟨more, rfl⟩ : ∃ more, count = more + 1 := ⟨count - 1, by omega⟩
  rw [List.replicate_succ, List.cons_append, inSegment_cons_iff]
  cases more with
  | zero =>
      simp [hmaximal, isDelimiter]
  | succ more =>
      simp [List.replicate_succ]

theorem runsAreSegments_inner_iff (hpart : delimiters part = []) :
    Symbol.runsAreSegments false (Symbol.ofText part) = true ↔ InSegment part := by
  rw [delimiters_eq_nil_iff] at hpart
  induction (none : Option Char), part using text_induction with
  | empty before =>
      simp [Symbol.runsAreSegments, inSegment_nil]
  | char before c text hc ih =>
      rw [List.forall_mem_cons] at hpart
      rw [Symbol.ofText_cons_of_ne hc, Symbol.runsAreSegments, hpart.1, ih hpart.2,
        inSegment_cons_iff]
      simp [hpart.1, hc]
  | run before count text hcount hmaximal ih =>
      have htext : ∀ c ∈ text, isDelimiter c = false :=
        fun c hc => hpart c (List.mem_append_right _ hc)
      rw [runsAreSegments_run hcount hmaximal, inSegment_run_iff hcount hmaximal, ih htext]
      grind

theorem runsAreSegments_start_iff (hpart : delimiters part = []) :
    Symbol.runsAreSegments true (Symbol.ofText part) = true ↔
      (∀ c ∈ part, c = '*') ∨ Symbol.runsAreSegments false (Symbol.ofText part) = true := by
  by_cases hstar : part.head? = some '*'
  · obtain ⟨count, rest, hcount, hmaximal, rfl⟩ := exists_run hstar
    rw [runsAreSegments_run hcount hmaximal, runsAreSegments_run hcount hmaximal]
    cases rest with
    | nil =>
        simp [Symbol.runsAreSegments]
    | cons c rest =>
        have hc : isDelimiter c = false := delimiters_eq_nil_iff.1 hpart c (by simp)
        have hne : c ≠ '*' := by simpa using hmaximal
        have hother : ¬ ∀ e ∈ List.replicate count '*' ++ c :: rest, e = '*' :=
          fun hstars => hne (hstars c (by simp))
        rw [or_iff_right hother]
        simp [hc]
  · cases part with
    | nil =>
        simp [Symbol.runsAreSegments]
    | cons c part =>
        have hc : c ≠ '*' := by simpa using hstar
        rw [Symbol.ofText_cons_of_ne hc, Symbol.runsAreSegments, Symbol.runsAreSegments]
        simp [hc]

theorem runsAreSegments_part_iff (hpart : delimiters part = []) :
    Symbol.runsAreSegments true (Symbol.ofText part) = true ↔
      (∀ c ∈ part, c = '*') ∨ ¬ ['*', '*'] <:+: part := by
  have hinner : InSegment part ↔ ¬ ['*', '*'] <:+: part :=
    and_iff_right (delimiters_eq_nil_iff.1 hpart)
  rw [runsAreSegments_start_iff hpart, runsAreSegments_inner_iff hpart, hinner]

theorem delimiters_of_mem_segments (h : part ∈ segments text) : delimiters part = [] := by
  induction text using segment_induction with
  | last text htext =>
      rw [segments_of_delimiters_eq_nil htext, List.mem_singleton] at h
      rw [h]
      exact htext
  | cut front d back hfront hd ih =>
      rw [segments_cut hfront hd, List.mem_cons] at h
      rcases h with rfl | hback
      · exact hfront
      · exact ih hback

end

end Entitlements.Pattern

namespace Entitlements.Validation

/-- An ASCII letter, an ASCII digit or one of six signs. -/
def InAlphabet (c : Char) : Prop :=
  ('A' ≤ c ∧ c ≤ 'Z') ∨ ('a' ≤ c ∧ c ≤ 'z') ∨ ('0' ≤ c ∧ c ≤ '9') ∨
    c ∈ ['.', '_', '-', ':', '/', '*']

theorem isIdentifierChar_iff {c : Char} : isIdentifierChar c = true ↔ InAlphabet c := by
  have hbetween : ∀ low high : Char,
      (decide (low.val ≤ c.val) && decide (c.val ≤ high.val)) = true ↔ low ≤ c ∧ c ≤ high := by
    intro low high
    rw [Bool.and_eq_true, decide_eq_true_iff, decide_eq_true_iff, Char.le_def, Char.le_def]
  -- The library decides an upper-case letter at once, the other two bound by bound.
  have hupper : c.isUpper = true ↔ 'A' ≤ c ∧ c ≤ 'Z' := decide_eq_true_iff
  have hlower : c.isLower = true ↔ 'a' ≤ c ∧ c ≤ 'z' := hbetween 'a' 'z'
  have hdigit : c.isDigit = true ↔ '0' ≤ c ∧ c ≤ '9' := hbetween '0' '9'
  have halphanum : c.isAlphanum = (c.isUpper || c.isLower || c.isDigit) := rfl
  have hsigns : "._-:/*".toList = ['.', '_', '-', ':', '/', '*'] := by decide +kernel
  rw [isIdentifierChar, halphanum, hsigns, InAlphabet, ← hupper, ← hlower, ← hdigit]
  simp only [Bool.or_eq_true, or_assoc, List.contains_iff_mem]

/--
A text is a valid identifier exactly if it is not empty, has no characters but those of the
alphabet, and each of its segments is made of stars only or has no two stars in a row.
-/
theorem isIdentifier_iff_segments (text : String) :
    isIdentifier text = true ↔
      text ≠ "" ∧ (∀ c ∈ text.toList, InAlphabet c) ∧
        ∀ part ∈ Pattern.segments text.toList,
          (∀ c ∈ part, c = '*') ∨ ¬ ['*', '*'] <:+: part := by
  have hsegments : Pattern.Symbol.runsAreSegments true (Pattern.Symbol.ofText text.toList) = true ↔
      ∀ part ∈ Pattern.segments text.toList, (∀ c ∈ part, c = '*') ∨ ¬ ['*', '*'] <:+: part := by
    rw [Pattern.runsAreSegments_iff_segments]
    exact forall₂_congr fun part hpart =>
      Pattern.runsAreSegments_part_iff (Pattern.delimiters_of_mem_segments hpart)
  rw [isIdentifier, Bool.and_eq_true, Bool.and_eq_true, hsegments, List.all_eq_true, and_assoc]
  simp only [isIdentifierChar_iff]
  simp

end Entitlements.Validation
