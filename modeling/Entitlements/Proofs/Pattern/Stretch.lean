import Entitlements.Pattern.Element

/-!
# Stretches

A row of elements fits a text when the text falls into consecutive stretches, one
for each element in order. The automata, the regular expressions and the pattern
texts are all compared with this reading.
-/

namespace Entitlements.Pattern

/-- Text that stays inside one segment and has no two stars in a row. -/
def InSegment (text : List Char) : Prop :=
  (∀ c ∈ text, isDelimiter c = false) ∧ ¬ ['*', '*'] <:+: text

def EndsInDelimiter (text : List Char) : Prop :=
  ∃ front d, isDelimiter d = true ∧ text = front ++ [d]

/-- No text, text up to a delimiter, or text up to the end of the candidate. -/
def WholeSegments (text rest : List Char) : Prop :=
  text = [] ∨ EndsInDelimiter text ∨ rest = []

theorem inSegment_nil : InSegment [] := by
  simp [InSegment]

theorem inSegment_cons_iff (c : Char) (text : List Char) :
    InSegment (c :: text) ↔
      isDelimiter c = false ∧ (c = '*' → text.head? ≠ some '*') ∧ InSegment text := by
  have hpair : ['*', '*'] <+: c :: text ↔ c = '*' ∧ text.head? = some '*' := by
    cases text <;> simp [List.cons_prefix_cons, eq_comm]
  simp only [InSegment, List.mem_cons, forall_eq_or_imp, List.infix_cons_iff, hpair]
  grind

theorem InSegment.append {first second : List Char} (hfirst : InSegment first)
    (hsecond : InSegment second) (hhead : second.head? ≠ some '*') :
    InSegment (first ++ second) := by
  induction first with
  | nil =>
      exact hsecond
  | cons c rest ih =>
      obtain ⟨hc, hpair, hrest⟩ := (inSegment_cons_iff c rest).1 hfirst
      refine (inSegment_cons_iff c (rest ++ second)).2 ⟨hc, ?_, ih hrest⟩
      cases rest with
      | nil =>
          exact fun _ => hhead
      | cons _ _ =>
          exact hpair

theorem not_endsInDelimiter_nil : ¬ EndsInDelimiter [] := by
  simp [EndsInDelimiter]

theorem endsInDelimiter_cons_iff (c : Char) (text : List Char) :
    EndsInDelimiter (c :: text) ↔ isDelimiter c = true ∧ text = [] ∨ EndsInDelimiter text := by
  constructor
  · intro h
    obtain ⟨front, d, hd, heq⟩ := h
    cases front with
    | nil =>
        obtain ⟨rfl, rfl⟩ : c = d ∧ text = [] := by simpa using heq
        exact .inl ⟨hd, rfl⟩
    | cons _ front =>
        exact .inr ⟨front, d, hd, (List.cons.inj heq).2⟩
  · intro h
    rcases h with ⟨hc, rfl⟩ | ⟨front, d, hd, rfl⟩
    · exact ⟨[], c, hc, rfl⟩
    · exact ⟨c :: front, d, hd, rfl⟩

theorem EndsInDelimiter.append (front : List Char) {back : List Char} (h : EndsInDelimiter back) :
    EndsInDelimiter (front ++ back) := by
  obtain ⟨middle, d, hd, rfl⟩ := h
  exact ⟨front ++ middle, d, hd, (List.append_assoc _ _ _).symm⟩

theorem wholeSegments_nil (rest : List Char) : WholeSegments [] rest :=
  .inl rfl

theorem wholeSegments_end (text : List Char) : WholeSegments text [] :=
  .inr (.inr rfl)

namespace Element

/-- Whether an element takes `stretch` from a candidate that goes on with `rest`. -/
def Takes : Element → List Char → List Char → Prop
  | .literal c, stretch, _ => stretch = [c]
  | .wildcard, stretch, _ => InSegment stretch
  | .globstar, stretch, rest => WholeSegments stretch rest
  | .everything, _, _ => True
  | .below d, stretch, _ => stretch = [] ∨ ∃ after, stretch = d :: after

section

variable {e : Element} {stretch rest other : List Char}

theorem Takes.of_ne_globstar (h : e.Takes stretch rest) (he : e ≠ .globstar) :
    e.Takes stretch other := by
  cases e with
  | globstar => exact absurd rfl he
  | literal l => exact h
  | wildcard => exact h
  | everything => exact h
  | below l => exact h

/-- Whether an element takes a stretch depends on the rest only where that is empty. -/
theorem Takes.of_ne_nil (h : e.Takes stretch rest) (hrest : rest ≠ []) :
    e.Takes stretch other := by
  by_cases he : e = .globstar
  · subst he
    rcases h with hnil | hends | hend
    · exact .inl hnil
    · exact .inr (.inl hends)
    · exact absurd hend hrest
  · exact h.of_ne_globstar he

theorem Takes.of_append (h : e.Takes stretch (rest ++ other)) : e.Takes stretch rest := by
  by_cases hnil : rest ++ other = []
  · obtain ⟨rfl, rfl⟩ := List.append_eq_nil_iff.1 hnil
    exact h
  · exact h.of_ne_nil hnil

end

end Element

inductive Fits : List Element → List Char → Prop
  | nil : Fits [] []
  | cons {e : Element} {elements : List Element} {stretch rest : List Char} :
      e.Takes stretch rest → Fits elements rest → Fits (e :: elements) (stretch ++ rest)

section

variable {e : Element} {elements : List Element} {text : List Char}

@[simp] theorem fits_nil_iff : Fits [] text ↔ text = [] := by
  constructor
  · intro h
    cases h
    rfl
  · intro h
    rw [h]
    exact .nil

theorem fits_cons_iff :
    Fits (e :: elements) text ↔
      ∃ stretch rest, text = stretch ++ rest ∧ e.Takes stretch rest ∧ Fits elements rest := by
  constructor
  · intro h
    cases h with
    | cons htakes hrest =>
        exact ⟨_, _, rfl, htakes, hrest⟩
  · intro h
    obtain ⟨stretch, rest, rfl, htakes, hrest⟩ := h
    exact .cons htakes hrest

theorem fits_literal_iff {c : Char} :
    Fits (.literal c :: elements) text ↔ ∃ rest, text = c :: rest ∧ Fits elements rest := by
  rw [fits_cons_iff]
  constructor
  · intro h
    obtain ⟨stretch, rest, rfl, rfl, hrest⟩ := h
    exact ⟨rest, rfl, hrest⟩
  · intro h
    obtain ⟨rest, rfl, hrest⟩ := h
    exact ⟨[c], rest, rfl, rfl, hrest⟩

theorem exists_split_of_fits_append {first second : List Element}
    (h : Fits (first ++ second) text) :
    ∃ front back, text = front ++ back ∧ Fits first front ∧ Fits second back := by
  induction first generalizing text with
  | nil =>
      exact ⟨[], text, rfl, .nil, h⟩
  | cons e first ih =>
      obtain ⟨stretch, rest, rfl, htakes, hrest⟩ := fits_cons_iff.1 h
      obtain ⟨front, back, rfl, hfront, hback⟩ := ih hrest
      exact ⟨stretch ++ front, back, by simp, .cons htakes.of_append hfront, hback⟩

theorem Fits.append_of_nil {first second : List Element} (hfirst : Fits first text)
    (hsecond : Fits second []) : Fits (first ++ second) text := by
  induction hfirst with
  | nil =>
      exact hsecond
  | cons htakes _ ih =>
      exact .cons htakes ih

/-- The converse, as long as no globstar of the first elements looks for the end. -/
theorem Fits.append_of_ne_globstar {first second : List Element} {front back : List Char}
    (hplain : ∀ e ∈ first, e ≠ .globstar) (hfirst : Fits first front)
    (hsecond : Fits second back) : Fits (first ++ second) (front ++ back) := by
  induction hfirst with
  | nil =>
      exact hsecond
  | cons htakes _ ih =>
      obtain ⟨he, hplain⟩ := List.forall_mem_cons.1 hplain
      rw [List.append_assoc]
      exact .cons (htakes.of_ne_globstar he) (ih hplain)

theorem fits_everything : Fits [.everything] text := by
  have h : Fits [.everything] (text ++ []) := .cons trivial .nil
  simpa using h

theorem fits_below_iff {d : Char} :
    Fits [.below d] text ↔ text = [] ∨ ∃ after, text = d :: after := by
  simp [fits_cons_iff, Element.Takes]

end

end Entitlements.Pattern
