import Entitlements.Proofs.Pattern.Runs

/-!
# Runs that are whole segments

A scan over symbols decides whether each run of two or more stars is a whole segment.
What it decides is said here of the text, for a run wherever it stands.
-/

namespace Entitlements.Pattern

/--
Each maximal run of two or more stars has a delimiter or an end of the text on both
sides; `before` is the character in front of the text, if there is one.
-/
def WholeRuns (before : Option Char) (text : List Char) : Prop :=
  ∀ front count back, text = front ++ (List.replicate count '*' ++ back) →
    front.getLast?.or before ≠ some '*' → back.head? ≠ some '*' → 2 ≤ count →
      IsGlobstar (front.getLast?.or before) count back.head?

section

variable {before : Option Char} {count other : Nat} {c : Char} {text back : List Char}

theorem run_inj (hcount : 0 < count) (hother : 0 < other) (htext : text.head? ≠ some '*')
    (hback : back.head? ≠ some '*')
    (h : List.replicate count '*' ++ text = List.replicate other '*' ++ back) :
    count = other ∧ text = back := by
  have hsymbols := congrArg Symbol.ofText h
  rw [Symbol.ofText_replicate_append hcount htext, Symbol.ofText_replicate_append hother hback]
    at hsymbols
  obtain ⟨hhead, -⟩ := List.cons.inj hsymbols
  obtain rfl : count = other := by simpa using hhead
  exact ⟨rfl, List.append_cancel_left h⟩

theorem wholeRuns_nil : WholeRuns before [] := by
  intro front count back heq _ _ htwo
  have hlength := congrArg List.length heq
  simp at hlength
  omega

theorem wholeRuns_cons_iff (hc : c ≠ '*') :
    WholeRuns before (c :: text) ↔ WholeRuns (some c) text := by
  constructor
  · intro h front count back heq
    have hwhole := h (c :: front) count back (by rw [heq]; rfl)
    rwa [getLast?_or_cons] at hwhole
  · intro h front count back heq hfront hback htwo
    cases front with
    | nil =>
        obtain ⟨count, rfl⟩ : ∃ less, count = less + 1 := ⟨count - 1, by omega⟩
        exact absurd (List.cons.inj heq).1 hc
    | cons _ front =>
        obtain ⟨rfl, htail⟩ := List.cons.inj heq
        rw [getLast?_or_cons] at hfront ⊢
        exact h front count back htail hfront hback htwo

theorem wholeRuns_run_iff (hcount : 0 < count) (hmaximal : text.head? ≠ some '*')
    (hbefore : before ≠ some '*') :
    WholeRuns before (List.replicate count '*' ++ text) ↔
      (2 ≤ count → IsGlobstar before count text.head?) ∧ WholeRuns (some '*') text := by
  constructor
  · intro h
    refine ⟨h [] count text rfl hbefore hmaximal, ?_⟩
    intro front other back heq
    have hwhole := h (List.replicate count '*' ++ front) other back (by simp [heq])
    rwa [getLast?_or_run hcount] at hwhole
  · intro h front other back heq hfront hback htwo
    obtain ⟨hrun, htext⟩ := h
    rcases List.append_eq_append_iff.1 heq with ⟨middle, rfl, htail⟩ | ⟨middle, hstars, hother⟩
    · rw [getLast?_or_run hcount] at hfront ⊢
      exact htext middle other back htail hfront hback htwo
    · -- A front of stars only is none at all, or the run would not be maximal there.
      have hnil : front = [] := by
        have hmem : ∀ e ∈ front, e = '*' := by
          intro e he
          exact List.eq_of_mem_replicate (hstars ▸ List.mem_append_left middle he)
        cases hlast : front.getLast? with
        | none =>
            exact List.getLast?_eq_none_iff.1 hlast
        | some e =>
            rw [hlast, hmem e (List.mem_of_getLast? hlast)] at hfront
            exact absurd rfl hfront
      subst hnil
      obtain ⟨rfl, rfl⟩ := run_inj hcount (by omega) hmaximal hback heq
      exact hrun htwo

theorem runsAreSegments_run {bound : Bool} (hcount : 0 < count)
    (hmaximal : text.head? ≠ some '*') :
    Symbol.runsAreSegments bound (Symbol.ofText (List.replicate count '*' ++ text)) = true ↔
      (2 ≤ count → bound = true ∧ text.head?.all isDelimiter = true) ∧
        Symbol.runsAreSegments false (Symbol.ofText text) = true := by
  rw [Symbol.ofText_replicate_append hcount hmaximal, Symbol.runsAreSegments,
    Symbol.boundAhead_ofText, Bool.and_eq_true, Bool.or_eq_true, Bool.and_eq_true,
    decide_eq_true_eq]
  grind

end

/-- The scan over the symbols of a text finds exactly whether all of its runs are whole. -/
theorem runsAreSegments_iff_wholeRuns {before : Option Char} {text : List Char}
    (hstart : before = some '*' → text.head? ≠ some '*') :
    Symbol.runsAreSegments (before.all isDelimiter) (Symbol.ofText text) = true ↔
      WholeRuns before text := by
  induction before, text using text_induction with
  | empty before =>
      simp [Symbol.runsAreSegments, wholeRuns_nil]
  | char before c text hc ih =>
      rw [wholeRuns_cons_iff hc, Symbol.ofText_cons_of_ne hc, Symbol.runsAreSegments]
      refine ih fun hstar => ?_
      exact absurd (Option.some.inj hstar) hc
  | run before count text hcount hmaximal ih =>
      have hbefore : before ≠ some '*' := by
        intro hstar
        refine hstart hstar ?_
        simp [List.head?_append, List.head?_replicate, Nat.ne_of_gt hcount]
      have hrest : Symbol.runsAreSegments false (Symbol.ofText text) = true ↔
          WholeRuns (some '*') text := ih fun _ => hmaximal
      rw [wholeRuns_run_iff hcount hmaximal hbefore, runsAreSegments_run hcount hmaximal, hrest]
      simp only [IsGlobstar]
      grind

end Entitlements.Pattern
