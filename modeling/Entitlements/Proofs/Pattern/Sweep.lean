import Entitlements.Pattern.Matching
import Entitlements.Proofs.Pattern.Stretch

/-!
# Sweeps

The automaton of an element runs over exactly the stretches that the element
takes. A sweep carries marks along such runs, so the marks that are left at the
end of a candidate tell whether the elements fit it.
-/

namespace Entitlements.Pattern

namespace Element

variable {e : Element} {phase : Phase} {c : Char} {text rest : List Char}

/-! ## Runs of one automaton -/

def TakesFrom (e : Element) : Phase → List Char → List Char → Prop
  | .outer, stretch, rest => e.Takes stretch rest
  | .inner, stretch, rest =>
      match e with
      | .literal _ | .everything => stretch = []
      | .wildcard => InSegment ('*' :: stretch)
      | .globstar => EndsInDelimiter stretch ∨ rest = []
      | .below _ => True

theorem takesFrom_nil_iff : e.TakesFrom phase [] rest ↔ e.ends rest.isEmpty phase = true := by
  cases e <;> cases phase <;>
    simp [TakesFrom, Takes, ends.eq_def, inSegment_nil, inSegment_cons_iff, wholeSegments_nil,
      not_endsInDelimiter_nil, isDelimiter]

theorem takesFrom_cons_iff :
    e.TakesFrom phase (c :: text) rest ↔
      e.moves phase c .outer = true ∧ e.TakesFrom .outer text rest ∨
        e.moves phase c .inner = true ∧ e.TakesFrom .inner text rest := by
  cases e with
  | literal l =>
      cases phase <;> simp [TakesFrom, Takes, moves.eq_def]
  | wildcard =>
      cases phase <;>
        simp [TakesFrom, Takes, moves.eq_def, inSegment_cons_iff] <;> grind [isDelimiter]
  | globstar =>
      cases phase <;>
        simp only [TakesFrom, Takes, moves.eq_def, WholeSegments, endsInDelimiter_cons_iff] <;>
          grind
  | everything =>
      cases phase <;> simp [TakesFrom, Takes, moves.eq_def]
  | below d =>
      cases phase <;> simp [TakesFrom, Takes, moves.eq_def]

/-- From `phase`, the automaton reads the text up to `rest` and may end there. -/
def Reaches (e : Element) (phase : Phase) (text rest : List Char) : Prop :=
  ∃ stretch, text = stretch ++ rest ∧ e.TakesFrom phase stretch rest

theorem reaches_nil_iff : e.Reaches phase [] rest ↔ rest = [] ∧ e.ends true phase = true := by
  constructor
  · intro h
    obtain ⟨stretch, heq, htakes⟩ := h
    obtain ⟨rfl, rfl⟩ := List.append_eq_nil_iff.1 heq.symm
    exact ⟨rfl, takesFrom_nil_iff.1 htakes⟩
  · intro h
    obtain ⟨rfl, hends⟩ := h
    exact ⟨[], rfl, takesFrom_nil_iff.2 hends⟩

theorem reaches_cons_iff :
    e.Reaches phase (c :: text) rest ↔
      rest = c :: text ∧ e.ends false phase = true ∨
        e.moves phase c .outer = true ∧ e.Reaches .outer text rest ∨
        e.moves phase c .inner = true ∧ e.Reaches .inner text rest := by
  constructor
  · intro h
    obtain ⟨stretch, heq, htakes⟩ := h
    cases stretch with
    | nil =>
        obtain rfl : c :: text = rest := heq
        exact .inl ⟨rfl, takesFrom_nil_iff.1 htakes⟩
    | cons _ stretch =>
        obtain ⟨rfl, rfl⟩ := List.cons.inj heq
        rcases takesFrom_cons_iff.1 htakes with ⟨hmoves, hrest⟩ | ⟨hmoves, hrest⟩
        · exact .inr (.inl ⟨hmoves, stretch, rfl, hrest⟩)
        · exact .inr (.inr ⟨hmoves, stretch, rfl, hrest⟩)
  · intro h
    rcases h with ⟨rfl, hends⟩ | ⟨hmoves, stretch, rfl, hrest⟩ | ⟨hmoves, stretch, rfl, hrest⟩
    · exact ⟨[], rfl, takesFrom_nil_iff.2 hends⟩
    · exact ⟨c :: stretch, rfl, takesFrom_cons_iff.2 (.inl ⟨hmoves, hrest⟩)⟩
    · exact ⟨c :: stretch, rfl, takesFrom_cons_iff.2 (.inr ⟨hmoves, hrest⟩)⟩

theorem inPhase_iff {outer inner : Bool} {p : Phase → Bool} :
    inPhase outer inner p = true ↔
      outer = true ∧ p .outer = true ∨ inner = true ∧ p .inner = true := by
  simp [inPhase]

end Element

/-! ## Marks along a candidate -/

/-- Of the marks on the places of a candidate, the one in front of `rest` is set. -/
inductive Marked : List Bool → List Char → List Char → Prop
  | here {marks : List Bool} {candidate : List Char} : Marked (true :: marks) candidate candidate
  | later {mark : Bool} {marks : List Bool} {c : Char} {candidate rest : List Char} :
      Marked marks candidate rest → Marked (mark :: marks) (c :: candidate) rest

section

variable {marks : List Bool} {c : Char} {candidate rest : List Char}

theorem marked_nil_iff : Marked marks [] rest ↔ marks.headD false = true ∧ rest = [] := by
  constructor
  · intro h
    cases h
    exact ⟨rfl, rfl⟩
  · intro h
    obtain ⟨hhead, rfl⟩ := h
    cases marks with
    | nil =>
        simp at hhead
    | cons mark marks =>
        obtain rfl : mark = true := hhead
        exact .here

theorem marked_cons_iff :
    Marked marks (c :: candidate) rest ↔
      marks.headD false = true ∧ rest = c :: candidate ∨ Marked marks.tail candidate rest := by
  constructor
  · intro h
    cases h with
    | here =>
        exact .inl ⟨rfl, rfl⟩
    | later hlater =>
        exact .inr hlater
  · cases marks with
    | nil =>
        intro h
        rcases h with ⟨hhead, -⟩ | hlater
        · simp at hhead
        · cases hlater
    | cons mark marks =>
        intro h
        rcases h with ⟨hhead, rfl⟩ | hlater
        · obtain rfl : mark = true := hhead
          exact .here
        · exact .later hlater

theorem marked_start_iff : Marked [true] candidate rest ↔ rest = candidate := by
  constructor
  · intro h
    cases h with
    | here =>
        rfl
    | later hlater =>
        cases hlater
  · intro h
    rw [h]
    exact .here

theorem marked_end_iff :
    Marked marks candidate [] ↔ marks.getD candidate.length false = true := by
  induction candidate generalizing marks with
  | nil =>
      cases marks <;> simp [marked_nil_iff]
  | cons c candidate ih =>
      cases marks <;> simp [marked_cons_iff, ih]

end

/--
After a sweep a place is marked when the automaton gets there, from a phase that
was under way at the start or from a place that was marked before.
-/
theorem marked_sweep_iff {e : Element} {outer inner : Bool} {marks : List Bool}
    {candidate rest : List Char} :
    Marked (e.sweep outer inner candidate marks) candidate rest ↔
      outer = true ∧ e.Reaches .outer candidate rest ∨
        inner = true ∧ e.Reaches .inner candidate rest ∨
        ∃ start, Marked marks candidate start ∧ e.Reaches .outer start rest := by
  induction candidate generalizing outer inner marks with
  | nil =>
      simp only [Element.sweep, marked_nil_iff, List.headD_cons, Element.inPhase_iff,
        Bool.or_eq_true, Element.reaches_nil_iff, and_assoc, exists_and_left, exists_eq_left]
      grind
  | cons c candidate ih =>
      simp only [Element.sweep, marked_cons_iff, List.headD_cons, List.tail_cons, ih,
        Element.inPhase_iff, Bool.or_eq_true, or_and_right, exists_or, and_assoc,
        exists_and_left, exists_eq_left, Element.reaches_cons_iff]
      grind

theorem marked_foldl_sweep_iff {elements : List Element} {marks : List Bool}
    {candidate : List Char} :
    Marked (elements.foldl (fun marks e => e.sweep false false candidate marks) marks)
        candidate [] ↔
      ∃ start, Marked marks candidate start ∧ Fits elements start := by
  induction elements generalizing marks with
  | nil =>
      simp
  | cons e elements ih =>
      simp only [List.foldl_cons, ih, marked_sweep_iff, fits_cons_iff, Element.Reaches,
        Element.TakesFrom]
      grind

theorem reachesEnd_iff_fits {elements : List Element} {candidate : List Char} :
    reachesEnd elements candidate = true ↔ Fits elements candidate := by
  unfold reachesEnd
  rw [← marked_end_iff, marked_foldl_sweep_iff]
  simp [marked_start_iff]

/-- The comparison of leading literals and the sweeps decide whether the elements fit. -/
theorem isMatch_iff_fits {elements : List Element} {candidate : List Char} :
    isMatch elements candidate = true ↔ Fits elements candidate := by
  fun_induction isMatch elements candidate with
  | case1 l later =>
      simp [fits_literal_iff]
  | case2 l later c rest ih =>
      simp only [Bool.and_eq_true, beq_iff_eq, ih, fits_literal_iff, List.cons.injEq]
      grind
  | case3 elements candidate =>
      exact reachesEnd_iff_fits

end Entitlements.Pattern
