import Entitlements.Pattern.Element

/-!
# Runs of stars

A pattern text is nothing, a character in front of a text, or a maximal run of
stars in front of a text. What its elements are is told here for each of these
shapes, together with the induction over them; proofs about pattern texts need no
more of how a text is read.
-/

namespace Entitlements.Pattern

/-- A run of `count` stars between two characters, or the ends of the pattern, is a globstar. -/
def IsGlobstar (before : Option Char) (count : Nat) (after : Option Char) : Prop :=
  2 ≤ count ∧ before.all isDelimiter = true ∧ after.all isDelimiter = true

instance (before : Option Char) (count : Nat) (after : Option Char) :
    Decidable (IsGlobstar before count after) :=
  inferInstanceAs (Decidable (_ ∧ _ ∧ _))

/-! ## Symbols of a text -/

namespace Symbol

theorem ofText_replicate_append {count : Nat} {rest : List Char} (hcount : 0 < count)
    (hrest : rest.head? ≠ some '*') :
    ofText (List.replicate count '*' ++ rest) = .stars count :: ofText rest := by
  induction count with
  | zero =>
      contradiction
  | succ count ih =>
      rw [List.replicate_succ, List.cons_append, ofText_cons]
      cases count with
      | succ count =>
          rw [ih (Nat.succ_pos count)]
          rfl
      | zero =>
          cases rest with
          | nil =>
              rfl
          | cons d rest =>
              have hd : d ≠ '*' := by simpa using hrest
              rw [List.replicate_zero, List.nil_append, ofText_cons_of_ne hd]
              rfl

theorem ofText_replicate {count : Nat} (hcount : 0 < count) :
    ofText (List.replicate count '*') = [.stars count] := by
  have hrun : ofText (List.replicate count '*' ++ []) = .stars count :: ofText [] :=
    ofText_replicate_append hcount (by simp)
  simpa using hrun

theorem boundAhead_push (c : Char) (symbols : List Symbol) :
    boundAhead (push c symbols) = isDelimiter c := by
  unfold push
  split <;> by_cases hc : c = '*' <;> simp [hc, boundAhead, isDelimiter]

theorem boundAhead_ofText (text : List Char) :
    boundAhead (ofText text) = text.head?.all isDelimiter := by
  cases text with
  | nil =>
      rfl
  | cons c rest =>
      exact boundAhead_push c (ofText rest)

theorem isFinalGlobstar_ofText_iff (text : List Char) :
    isFinalGlobstar (ofText text) = true ↔
      ∃ count, 2 ≤ count ∧ text = List.replicate count '*' := by
  constructor
  · intro h
    unfold isFinalGlobstar at h
    split at h
    · next count heq =>
        have htext := flatMap_text_ofText text
        rw [heq] at htext
        exact ⟨count, of_decide_eq_true h, by simpa [Symbol.text] using htext.symm⟩
    · contradiction
  · intro h
    obtain ⟨count, hcount, rfl⟩ := h
    have hpos : 0 < count := by omega
    simpa [ofText_replicate hpos, isFinalGlobstar] using hcount

end Symbol

/-! ## Elements of a text -/

/-- The elements of a pattern text that follows the character `before`, if there is one. -/
def elementsAfter (before : Option Char) (pattern : List Char) : List Element :=
  Element.ofSymbols (before.all isDelimiter) (Symbol.ofText pattern)

section

variable {before : Option Char} {count : Nat} {c d : Char} {pattern : List Char}

@[simp] theorem elementsAfter_nil : elementsAfter before [] = [] := rfl

theorem elementsAfter_parent (h : IsGlobstar (some d) count none) :
    elementsAfter before (d :: List.replicate count '*') = [.below d] := by
  have hd : isDelimiter d = true := h.2.1
  have hfinal := (Symbol.isFinalGlobstar_ofText_iff _).2 ⟨count, h.1, rfl⟩
  simp [elementsAfter, Symbol.ofText_cons_of_ne (ne_star_of_isDelimiter hd), Element.ofSymbols,
    hd, hfinal]

theorem elementsAfter_literal (hc : c ≠ '*')
    (hparent : ∀ count, pattern = List.replicate count '*' → ¬ IsGlobstar (some c) count none) :
    elementsAfter before (c :: pattern) = .literal c :: elementsAfter (some c) pattern := by
  have hfinal : ¬ (isDelimiter c = true ∧
      Symbol.isFinalGlobstar (Symbol.ofText pattern) = true) := by
    intro h
    obtain ⟨count, hcount, heq⟩ := (Symbol.isFinalGlobstar_ofText_iff pattern).1 h.2
    exact hparent count heq ⟨hcount, h.1, rfl⟩
  simp [elementsAfter, Symbol.ofText_cons_of_ne hc, Element.ofSymbols, hfinal]

/-- A character is read as a literal unless a last globstar right behind it takes it in. -/
theorem elementsAfter_cons_cases (before : Option Char) (pattern : List Char) (hc : c ≠ '*') :
    (∃ count, pattern = List.replicate count '*' ∧ IsGlobstar (some c) count none) ∨
      elementsAfter before (c :: pattern) = .literal c :: elementsAfter (some c) pattern := by
  by_cases hparent : ∃ count, pattern = List.replicate count '*' ∧ IsGlobstar (some c) count none
  · exact .inl hparent
  · refine .inr (elementsAfter_literal hc ?_)
    intro count heq hglobstar
    exact hparent ⟨count, heq, hglobstar⟩

theorem elementsAfter_everything (h : IsGlobstar before count none) :
    elementsAfter before (List.replicate count '*') = [.everything] := by
  obtain ⟨hcount, hbefore, -⟩ := h
  have hpos : 0 < count := by omega
  simp [elementsAfter, Symbol.ofText_replicate hpos, Element.ofSymbols, hcount, hbefore,
    Symbol.boundAhead]

theorem elementsAfter_globstar (h : IsGlobstar before count (some d)) :
    elementsAfter before (List.replicate count '*' ++ d :: pattern) =
      .globstar :: elementsAfter (some d) pattern := by
  obtain ⟨hcount, hbefore, hd⟩ := h
  have hd : isDelimiter d = true := hd
  have hne := ne_star_of_isDelimiter hd
  have hpos : 0 < count := by omega
  have hmaximal : (d :: pattern).head? ≠ some '*' := by simpa using hne
  have hrun := Symbol.ofText_replicate_append hpos hmaximal
  simp [elementsAfter, hrun, Symbol.ofText_cons_of_ne hne, Element.ofSymbols, hcount, hbefore,
    Symbol.boundAhead, hd]

theorem elementsAfter_wildcard (hcount : 0 < count) (hmaximal : pattern.head? ≠ some '*')
    (h : ¬ IsGlobstar before count pattern.head?) :
    elementsAfter before (List.replicate count '*' ++ pattern) =
      .wildcard :: elementsAfter (some '*') pattern := by
  have hsegment : ¬ (before.all isDelimiter && 2 ≤ count &&
      Symbol.boundAhead (Symbol.ofText pattern)) = true := by
    intro hall
    rw [Symbol.boundAhead_ofText, Bool.and_eq_true, Bool.and_eq_true] at hall
    exact h ⟨of_decide_eq_true hall.1.2, hall.1.1, hall.2⟩
  unfold elementsAfter
  rw [Symbol.ofText_replicate_append hcount hmaximal, Element.ofSymbols.eq_def]
  simp only [if_neg hsegment]
  rfl

end

/-! ## Induction over a text -/

theorem exists_run {text : List Char} (h : text.head? = some '*') :
    ∃ count rest, 0 < count ∧ rest.head? ≠ some '*' ∧ text = List.replicate count '*' ++ rest := by
  induction text with
  | nil =>
      contradiction
  | cons c rest ih =>
      obtain rfl : c = '*' := by simpa using h
      by_cases hrest : rest.head? = some '*'
      · obtain ⟨count, after, -, hafter, heq⟩ := ih hrest
        exact ⟨count + 1, after, Nat.succ_pos count, hafter, by rw [heq, List.replicate_succ]; rfl⟩
      · exact ⟨1, rest, Nat.one_pos, hrest, rfl⟩

/-- Follows a pattern text from left to right, one element at a time. -/
theorem pattern_induction {motive : Option Char → List Char → Prop}
    (empty : ∀ before, motive before [])
    (literal : ∀ before c pattern, c ≠ '*' →
      (∀ count, pattern = List.replicate count '*' → ¬ IsGlobstar (some c) count none) →
      motive (some c) pattern → motive before (c :: pattern))
    (wildcard : ∀ before count pattern, 0 < count → pattern.head? ≠ some '*' →
      ¬ IsGlobstar before count pattern.head? →
      motive (some '*') pattern → motive before (List.replicate count '*' ++ pattern))
    (globstar : ∀ before count d pattern, IsGlobstar before count (some d) →
      motive (some d) pattern → motive before (List.replicate count '*' ++ d :: pattern))
    (everything : ∀ before count, IsGlobstar before count none →
      motive before (List.replicate count '*'))
    (parent : ∀ before count d, IsGlobstar (some d) count none →
      motive before (d :: List.replicate count '*'))
    (before : Option Char) (pattern : List Char) : motive before pattern := by
  induction hlength : pattern.length using Nat.strongRecOn generalizing before pattern with
  | _ length ih =>
    subst hlength
    by_cases hstar : pattern.head? = some '*'
    · obtain ⟨count, rest, hcount, hmaximal, rfl⟩ := exists_run hstar
      by_cases hglobstar : IsGlobstar before count rest.head?
      · cases rest with
        | nil =>
            rw [List.append_nil]
            exact everything before count hglobstar
        | cons d rest =>
            refine globstar before count d rest hglobstar (ih _ ?_ _ _ rfl)
            simp
            omega
      · refine wildcard before count rest hcount hmaximal hglobstar (ih _ ?_ _ _ rfl)
        simpa using hcount
    · cases pattern with
      | nil =>
          exact empty before
      | cons c rest =>
          have hc : c ≠ '*' := by simpa using hstar
          by_cases hparent : ∃ count, rest = List.replicate count '*' ∧
              IsGlobstar (some c) count none
          · obtain ⟨count, rfl, hglobstar⟩ := hparent
            exact parent before count c hglobstar
          · refine literal before c rest hc ?_ (ih _ (by simp) _ _ rfl)
            intro count heq hglobstar
            exact hparent ⟨count, heq, hglobstar⟩

/-- Follows a pattern text where a last delimiter is a character like any other. -/
theorem run_induction {motive : Option Char → List Char → Prop}
    (empty : ∀ before, motive before [])
    (char : ∀ before c pattern, c ≠ '*' → motive (some c) pattern → motive before (c :: pattern))
    (wildcard : ∀ before count pattern, 0 < count → pattern.head? ≠ some '*' →
      ¬ IsGlobstar before count pattern.head? →
      motive (some '*') pattern → motive before (List.replicate count '*' ++ pattern))
    (globstar : ∀ before count d pattern, IsGlobstar before count (some d) →
      motive (some d) pattern → motive before (List.replicate count '*' ++ d :: pattern))
    (everything : ∀ before count, IsGlobstar before count none →
      motive before (List.replicate count '*'))
    (before : Option Char) (pattern : List Char) : motive before pattern := by
  induction before, pattern using pattern_induction with
  | empty before =>
      exact empty before
  | literal before c pattern hc _ ih =>
      exact char before c pattern hc ih
  | wildcard before count pattern hcount hmaximal hglobstar ih =>
      exact wildcard before count pattern hcount hmaximal hglobstar ih
  | globstar before count d pattern hglobstar ih =>
      exact globstar before count d pattern hglobstar ih
  | everything before count hglobstar =>
      exact everything before count hglobstar
  | parent before count d hglobstar =>
      exact char before d _ (ne_star_of_isDelimiter hglobstar.2.1) (everything _ count hglobstar)

/-- Follows a text by its characters and maximal runs of stars, whatever they are read as. -/
theorem text_induction {motive : Option Char → List Char → Prop}
    (empty : ∀ before, motive before [])
    (char : ∀ before c text, c ≠ '*' → motive (some c) text → motive before (c :: text))
    (run : ∀ before count text, 0 < count → text.head? ≠ some '*' →
      motive (some '*') text → motive before (List.replicate count '*' ++ text))
    (before : Option Char) (text : List Char) : motive before text := by
  induction before, text using run_induction with
  | empty before =>
      exact empty before
  | char before c text hc ih =>
      exact char before c text hc ih
  | wildcard before count text hcount hmaximal _ ih =>
      exact run before count text hcount hmaximal ih
  | globstar before count d text hglobstar ih =>
      have hcount := hglobstar.1
      have hd : d ≠ '*' := ne_star_of_isDelimiter hglobstar.2.2
      have hmaximal : (d :: text).head? ≠ some '*' := by simpa using hd
      exact run before count (d :: text) (by omega) hmaximal (char _ d text hd ih)
  | everything before count hglobstar =>
      have hcount := hglobstar.1
      have hrun := run before count [] (by omega) (by simp) (empty _)
      rwa [List.append_nil] at hrun

/-! ## Joined texts -/

section

variable {before : Option Char} {count : Nat} {c : Char} {front back : List Char}

theorem append_cons_ne_replicate (hc : c ≠ '*') :
    front ++ c :: back ≠ List.replicate count '*' := by
  intro heq
  have hmem : c ∈ List.replicate count '*' := by simp [← heq]
  exact hc (List.eq_of_mem_replicate hmem)

theorem getLast?_replicate_star (hcount : 0 < count) :
    (List.replicate count '*').getLast? = some '*' := by
  simp [List.getLast?_replicate, Nat.ne_of_gt hcount]

theorem getLast?_or_cons : (c :: front).getLast?.or before = front.getLast?.or (some c) := by
  cases front <;> simp [List.getLast?_cons]

theorem getLast?_or_run (hcount : 0 < count) :
    (List.replicate count '*' ++ front).getLast?.or before = front.getLast?.or (some '*') := by
  simp [List.getLast?_append, getLast?_replicate_star hcount]

theorem getLast?_ne_of_append (h : (front ++ back).getLast? ≠ some c) :
    back.getLast? ≠ some c := by
  intro hback
  simp [hback] at h

theorem getLast?_ne_of_cons {d : Char} (h : (d :: back).getLast? ≠ some c) :
    back.getLast? ≠ some c := by
  have hsplit : ([d] ++ back).getLast? ≠ some c := h
  exact getLast?_ne_of_append hsplit

theorem eq_zero_of_getLast?_replicate (h : (List.replicate count '*').getLast? ≠ some '*') :
    count = 0 := by
  cases count with
  | zero =>
      rfl
  | succ count =>
      exact absurd (getLast?_replicate_star (Nat.succ_pos count)) h

/--
A text that ends in no star is read on its own, and the text behind it after its
last character; only a text of stars could have taken that character.
-/
theorem elementsAfter_append (hfront : front.getLast? ≠ some '*')
    (hback : ∀ count, back ≠ List.replicate count '*') :
    elementsAfter before (front ++ back) =
      elementsAfter before front ++ elementsAfter (front.getLast?.or before) back := by
  induction before, front using run_induction with
  | empty before =>
      rfl
  | char before c pattern hc ih =>
      have hlast := getLast?_ne_of_cons hfront
      have hpattern : ∀ stars, pattern = List.replicate stars '*' →
          ¬ IsGlobstar (some c) stars none := by
        intro stars heq hglobstar
        rw [heq] at hlast
        have hzero := eq_zero_of_getLast?_replicate hlast
        have htwo := hglobstar.1
        omega
      have hjoined : ∀ stars, pattern ++ back = List.replicate stars '*' →
          ¬ IsGlobstar (some c) stars none := by
        intro stars heq _
        obtain ⟨-, -, hrun⟩ := List.append_eq_replicate_iff.1 heq
        exact hback _ hrun
      rw [List.cons_append, elementsAfter_literal hc hjoined, elementsAfter_literal hc hpattern,
        ih hlast, getLast?_or_cons]
      rfl
  | wildcard before count pattern hcount hmaximal hglobstar ih =>
      have hlast := getLast?_ne_of_append hfront
      have hhead : (pattern ++ back).head? = pattern.head? := by
        cases pattern with
        | nil =>
            simp [getLast?_replicate_star hcount] at hfront
        | cons _ _ =>
            rfl
      rw [List.append_assoc, elementsAfter_wildcard hcount (hhead ▸ hmaximal) (hhead ▸ hglobstar),
        elementsAfter_wildcard hcount hmaximal hglobstar, ih hlast, getLast?_or_run hcount]
      rfl
  | globstar before count d pattern hglobstar ih =>
      have hlast := getLast?_ne_of_cons (getLast?_ne_of_append hfront)
      have hbefore : (List.replicate count '*' ++ d :: pattern).getLast?.or before =
          pattern.getLast?.or (some d) := by
        rw [List.getLast?_append, Option.or_assoc, getLast?_or_cons]
      rw [List.append_assoc, List.cons_append, elementsAfter_globstar hglobstar,
        elementsAfter_globstar hglobstar, ih hlast, hbefore]
      rfl
  | everything before count hglobstar =>
      have hcount := hglobstar.1
      exact absurd (getLast?_replicate_star (by omega)) hfront

end

end Entitlements.Pattern
