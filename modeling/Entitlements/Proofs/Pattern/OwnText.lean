import Entitlements.Proofs.Pattern.Containment
import Entitlements.Proofs.Pattern.Segments

/-!
# A pattern on its own text

A pattern matches its own text exactly if each of its runs of two or more stars is a
whole segment. Only literals take characters that are neither stars nor delimiters,
and the text has no more of them than the pattern. So each of them stays where it is,
and the text next to it is left to the elements next to it.
-/

namespace Entitlements.Pattern

/-- A character that a pattern text always has as a literal. -/
def isOrdinary (c : Char) : Bool :=
  !isDelimiter c && c != '*'

theorem isOrdinary_iff {c : Char} :
    isOrdinary c = true ↔ ¬ isDelimiter c = true ∧ c ≠ '*' := by
  simp [isOrdinary]

/-! ## A cut at an ordinary character -/

section

variable {elements later : List Element} {stretch rest : List Char}
  {before : Option Char} {count : Nat} {c d : Char} {pattern front back text : List Char}

theorem exists_split_of_literal (h : Fits (elements ++ .literal c :: later) text) :
    ∃ first second, text = first ++ c :: second ∧
      Fits (elements ++ [.literal c]) (first ++ [c]) ∧ Fits later second := by
  rw [← List.singleton_append, ← List.append_assoc] at h
  obtain ⟨front, second, rfl, hfront, hsecond⟩ := exists_split_of_fits_append h
  obtain ⟨first, last, rfl, -, hlast⟩ := exists_split_of_fits_append hfront
  obtain ⟨rest, rfl, hrest⟩ := fits_literal_iff.1 hlast
  obtain rfl := fits_nil_iff.1 hrest
  exact ⟨first, second, by simp, hfront, hsecond⟩

/-- Up to an ordinary character and with it, a pattern text is read alike whatever follows. -/
theorem exists_elements_of_ordinary (hc : isOrdinary c = true) (heq : pattern = front ++ [c]) :
    ∃ elements, ∀ back, elementsAfter before (front ++ c :: back) =
      elements ++ .literal c :: elementsAfter (some c) back := by
  obtain ⟨hdelimiter, hstar⟩ := isOrdinary_iff.1 hc
  induction before, pattern using run_induction generalizing front with
  | empty before =>
      simp at heq
  | char before e pattern he ih =>
      cases front with
      | nil =>
          refine ⟨[], fun back => ?_⟩
          rcases elementsAfter_cons_cases before back hstar with ⟨_, -, hglobstar⟩ | hliteral
          · exact absurd hglobstar.2.1 hdelimiter
          · exact hliteral
      | cons _ front =>
          obtain ⟨rfl, htail⟩ := List.cons.inj heq
          obtain ⟨elements, helements⟩ := ih htail
          refine ⟨.literal e :: elements, fun back => ?_⟩
          have hparent : ∀ stars, front ++ c :: back = List.replicate stars '*' →
              ¬ IsGlobstar (some e) stars none :=
            fun _ hrun => absurd hrun (append_cons_ne_replicate hstar)
          rw [List.cons_append, elementsAfter_literal he hparent, helements]
          rfl
  | wildcard before count pattern hcount hmaximal hglobstar ih =>
      obtain ⟨middle, rfl, rfl⟩ := exists_front_of_replicate_append hstar heq
      obtain ⟨elements, helements⟩ := ih rfl
      refine ⟨.wildcard :: elements, fun back => ?_⟩
      have hhead : (middle ++ c :: back).head? = (middle ++ [c]).head? := by
        cases middle <;> rfl
      rw [List.append_assoc, elementsAfter_wildcard hcount (hhead ▸ hmaximal) (hhead ▸ hglobstar),
        helements]
      rfl
  | globstar before count d pattern hglobstar ih =>
      obtain ⟨middle, rfl, hpattern⟩ := exists_front_of_replicate_append hstar heq
      cases middle with
      | nil =>
          obtain ⟨rfl, -⟩ := List.cons.inj hpattern
          exact absurd hglobstar.2.2 hdelimiter
      | cons _ middle =>
          obtain ⟨rfl, htail⟩ := List.cons.inj hpattern
          obtain ⟨elements, helements⟩ := ih htail
          refine ⟨.globstar :: elements, fun back => ?_⟩
          rw [List.append_assoc, List.cons_append, elementsAfter_globstar hglobstar, helements]
          rfl
  | everything before count hglobstar =>
      exact absurd heq.symm (append_cons_ne_replicate hstar)

theorem exists_split_of_ordinary (hc : isOrdinary c = true)
    (h : Fits (elementsAfter before (front ++ c :: back)) text) :
    ∃ first second, text = first ++ c :: second ∧
      Fits (elementsAfter before (front ++ [c])) (first ++ [c]) ∧
      Fits (elementsAfter (some c) back) second := by
  obtain ⟨elements, helements⟩ : ∃ elements, ∀ back, elementsAfter before (front ++ c :: back) =
      elements ++ .literal c :: elementsAfter (some c) back :=
    exists_elements_of_ordinary hc rfl
  rw [helements] at h
  obtain ⟨first, second, rfl, hfirst, hsecond⟩ := exists_split_of_literal h
  refine ⟨first, second, rfl, ?_, hsecond⟩
  rw [helements]
  exact hfirst

/-! ## No character moves -/

theorem countP_isOrdinary_replicate : (List.replicate count '*').countP isOrdinary = 0 := by
  rw [List.countP_eq_zero]
  intro e he
  rw [List.eq_of_mem_replicate he]
  decide

theorem countP_isOrdinary_le (h : Fits (elementsAfter before pattern) text) :
    pattern.countP isOrdinary ≤ text.countP isOrdinary := by
  induction before, pattern using pattern_induction generalizing text with
  | empty before =>
      simp
  | literal before c pattern hc hparent ih =>
      rw [elementsAfter_literal hc hparent, fits_literal_iff] at h
      obtain ⟨rest, rfl, hrest⟩ := h
      have hle := ih hrest
      rw [List.countP_cons, List.countP_cons]
      omega
  | wildcard before count pattern hcount hmaximal hglobstar ih =>
      rw [elementsAfter_wildcard hcount hmaximal hglobstar, fits_cons_iff] at h
      obtain ⟨stretch, rest, rfl, -, hrest⟩ := h
      have hle := ih hrest
      rw [List.countP_append, List.countP_append, countP_isOrdinary_replicate]
      omega
  | globstar before count d pattern hglobstar ih =>
      rw [elementsAfter_globstar hglobstar, fits_cons_iff] at h
      obtain ⟨stretch, rest, rfl, -, hrest⟩ := h
      have hle := ih hrest
      have hd : ¬ isOrdinary d = true := fun hd => (isOrdinary_iff.1 hd).1 hglobstar.2.2
      rw [List.countP_append, List.countP_append, countP_isOrdinary_replicate,
        List.countP_cons_of_neg hd]
      omega
  | everything before count hglobstar =>
      simp [countP_isOrdinary_replicate]
  | parent before count d hglobstar =>
      have hd : ¬ isOrdinary d = true := fun hd => (isOrdinary_iff.1 hd).1 hglobstar.2.1
      simp [List.countP_cons_of_neg hd, countP_isOrdinary_replicate]

/-- Two cuts of a text at an ordinary character are one if neither side of the first has more. -/
theorem eq_of_cut_eq {first second : List Char} (hc : isOrdinary c = true)
    (heq : front ++ c :: back = first ++ c :: second)
    (hfront : front.countP isOrdinary ≤ first.countP isOrdinary)
    (hback : back.countP isOrdinary ≤ second.countP isOrdinary) :
    front = first ∧ back = second := by
  rcases List.append_eq_append_iff.1 heq with ⟨middle, rfl, htail⟩ | ⟨middle, rfl, htail⟩
  · cases middle with
    | nil =>
        exact ⟨by simp, (List.cons.inj htail).2⟩
    | cons e middle =>
        obtain ⟨-, hsecond⟩ := List.cons.inj htail
        have hsplit : back = middle ++ c :: second := hsecond
        rw [hsplit, List.countP_append, List.countP_cons_of_pos hc] at hback
        omega
  · cases middle with
    | nil =>
        exact ⟨by simp, (List.cons.inj htail).2.symm⟩
    | cons e middle =>
        obtain ⟨rfl, -⟩ := List.cons.inj htail
        rw [List.countP_append, List.countP_cons_of_pos hc] at hfront
        omega

theorem fits_own_split (hc : isOrdinary c = true)
    (h : Fits (elementsAfter before (front ++ c :: back)) (front ++ c :: back)) :
    Fits (elementsAfter before (front ++ [c])) (front ++ [c]) ∧
      Fits (elementsAfter (some c) back) back := by
  obtain ⟨first, second, heq, hfirst, hsecond⟩ := exists_split_of_ordinary hc h
  have hfront := countP_isOrdinary_le hfirst
  rw [List.countP_append, List.countP_append, Nat.add_le_add_iff_right] at hfront
  obtain ⟨rfl, rfl⟩ := eq_of_cut_eq hc heq hfront (countP_isOrdinary_le hsecond)
  exact ⟨hfirst, hsecond⟩

/-! ## Runs next to an ordinary character -/

theorem not_inSegment_run (htwo : 2 ≤ count) : ¬ InSegment (List.replicate count '*') := by
  intro h
  obtain ⟨more, rfl⟩ : ∃ more, count = more + 2 := ⟨count - 2, by omega⟩
  exact h.2 ⟨[], List.replicate more '*', rfl⟩

theorem not_fits_run (htwo : 2 ≤ count) (hmaximal : back.head? ≠ some '*')
    (hglobstar : ¬ IsGlobstar before count back.head?) :
    ¬ Fits (elementsAfter before (List.replicate count '*' ++ back))
      (List.replicate count '*' ++ back) := by
  intro h
  rw [elementsAfter_wildcard (by omega) hmaximal hglobstar, fits_cons_iff] at h
  obtain ⟨stretch, rest, heq, hstretch, hrest⟩ := h
  have hhead := head?_ne_star_of_fits hmaximal hrest
  have hinfix : InSegment (List.replicate count '*') := by
    rcases List.append_eq_append_iff.1 heq with ⟨middle, rfl, -⟩ | ⟨middle, hrun, rfl⟩
    · exact ⟨fun e he => hstretch.1 e (List.mem_append_left _ he),
        fun hpair => hstretch.2 (hpair.trans (List.prefix_append _ _).isInfix)⟩
    · cases middle with
      | nil =>
          rw [List.append_nil] at hrun
          rw [hrun]
          exact hstretch
      | cons e middle =>
          -- The rest would begin within the run.
          have he : e = '*' := List.eq_of_mem_replicate (n := count) (by simp [hrun])
          exact absurd (congrArg some he) hhead
  exact not_inSegment_run htwo hinfix

theorem strictElements_eq (h : pattern.getLast? ≠ some '*') :
    strictElements before pattern = elementsAfter before pattern := by
  induction before, pattern using pattern_induction with
  | empty before =>
      rfl
  | literal before c pattern hc hparent ih =>
      rw [strictElements_cons hc, elementsAfter_literal hc hparent, ih (getLast?_ne_of_cons h)]
  | wildcard before count pattern hcount hmaximal hglobstar ih =>
      rw [strictElements_wildcard hcount hmaximal hglobstar,
        elementsAfter_wildcard hcount hmaximal hglobstar, ih (getLast?_ne_of_append h)]
  | globstar before count d pattern hglobstar ih =>
      rw [strictElements_globstar hglobstar, elementsAfter_globstar hglobstar,
        ih (getLast?_ne_of_cons (getLast?_ne_of_append h))]
  | everything before count hglobstar =>
      rw [strictElements_everything hglobstar, elementsAfter_everything hglobstar]
  | parent before count d hglobstar =>
      have htwo := hglobstar.1
      have hzero := eq_zero_of_getLast?_replicate (getLast?_ne_of_cons h)
      omega

theorem exists_middle_of_append (hd : isDelimiter d = true)
    (hrest : ∀ c ∈ rest, isDelimiter c = false) (heq : front ++ d :: back = stretch ++ rest) :
    ∃ middle, stretch = front ++ d :: middle ∧ back = middle ++ rest := by
  have hmem : d ∉ rest := by
    intro hmem
    rw [hrest d hmem] at hd
    contradiction
  rcases List.append_eq_append_iff.1 heq with ⟨middle, rfl, htail⟩ | ⟨middle, -, rfl⟩
  · cases middle with
    | nil =>
        have hd : d :: back = rest := htail
        exact absurd (hd ▸ List.mem_cons_self) hmem
    | cons _ middle =>
        obtain ⟨rfl, hback⟩ := List.cons.inj htail
        exact ⟨middle, rfl, hback⟩
  · exact absurd (by simp) hmem

theorem eq_nil_of_endsInDelimiter {middle : List Char} (h : EndsInDelimiter (front ++ d :: middle))
    (hmiddle : ∀ e ∈ middle, isDelimiter e = false) : middle = [] := by
  cases hlast : middle.getLast? with
  | none =>
      exact List.getLast?_eq_none_iff.1 hlast
  | some e =>
      obtain ⟨other, last, hdelimiter, heq⟩ := h
      have hwhole : (front ++ d :: middle).getLast? = some e := by
        simp [List.getLast?_append, List.getLast?_cons, hlast]
      rw [heq, List.getLast?_concat, Option.some.injEq] at hwhole
      rw [hwhole, hmiddle e (List.mem_of_getLast? hlast)] at hdelimiter
      contradiction

theorem not_fits_run_of_ordinary (htwo : 2 ≤ count) (hc : isOrdinary c = true)
    (hbound : front.getLast?.all isDelimiter = true) :
    ¬ Fits (elementsAfter none (front ++ (List.replicate count '*' ++ [c])))
      (front ++ (List.replicate count '*' ++ [c])) := by
  obtain ⟨hdelimiter, hstar⟩ := isOrdinary_iff.1 hc
  have hmaximal : [c].head? ≠ some '*' := by simpa using hstar
  have hglobstar : ∀ before, ¬ IsGlobstar before count [c].head? :=
    fun _ hall => hdelimiter hall.2.2
  intro h
  cases hlast : front.getLast? with
  | none =>
      rw [List.getLast?_eq_none_iff.1 hlast, List.nil_append] at h
      exact not_fits_run htwo hmaximal (hglobstar none) h
  | some d =>
      have hd : isDelimiter d = true := by simpa [hlast] using hbound
      obtain ⟨front, rfl⟩ := List.getLast?_eq_some_iff.1 hlast
      rw [List.append_assoc, List.singleton_append] at h
      have hend : (front ++ d :: (List.replicate count '*' ++ [c])).getLast? ≠ some '*' := by
        rw [← List.cons_append, ← List.append_assoc, List.getLast?_concat]
        simpa using hstar
      rw [← strictElements_eq hend] at h
      obtain ⟨stretch, rest, heq, hrest, hcut⟩ := exists_cut_of_delimiter h hd rfl
      rw [strictElements_wildcard (by omega) hmaximal (hglobstar _), fits_cons_iff] at hrest
      obtain ⟨segment, last, rfl, hsegment, hlast⟩ := hrest
      rw [strictElements_cons hstar, strictElements_nil, fits_literal_iff] at hlast
      obtain ⟨_, rfl, hnil⟩ := hlast
      rw [fits_nil_iff] at hnil
      subst hnil
      have hwhole :
          (front ++ d :: List.replicate count '*') ++ [c] = (stretch ++ segment) ++ [c] := by
        simpa using heq
      have hcancel := List.append_cancel_right hwhole
      obtain ⟨middle, rfl, hrun⟩ := exists_middle_of_append hd hsegment.1 hcancel
      have hends : EndsInDelimiter (front ++ d :: middle) := by
        rcases hcut with ⟨hnil, -⟩ | hends | hnil
        · simp at hnil
        · exact hends
        · simp at hnil
      have hmiddle : ∀ e ∈ middle, isDelimiter e = false := by
        intro e he
        have hmem : e ∈ List.replicate count '*' := by simp [hrun, he]
        rw [List.eq_of_mem_replicate hmem]
        decide
      rw [eq_nil_of_endsInDelimiter hends hmiddle, List.nil_append] at hrun
      exact not_inSegment_run htwo (hrun ▸ hsegment)

/-- Where all runs are whole segments, each element takes the text it was read from. -/
theorem fits_own_of_runsAreSegments
    (h : Symbol.runsAreSegments (before.all isDelimiter) (Symbol.ofText pattern) = true) :
    Fits (elementsAfter before pattern) pattern := by
  induction before, pattern using pattern_induction with
  | empty before =>
      exact .nil
  | literal before c pattern hc hparent ih =>
      rw [Symbol.ofText_cons_of_ne hc, Symbol.runsAreSegments] at h
      rw [elementsAfter_literal hc hparent]
      exact fits_literal_iff.2 ⟨pattern, rfl, ih h⟩
  | wildcard before count pattern hcount hmaximal hglobstar ih =>
      rw [runsAreSegments_run hcount hmaximal] at h
      obtain ⟨hwhole, hrest⟩ := h
      have hone : count = 1 := by
        rcases Nat.lt_or_ge count 2 with hless | htwo
        · omega
        · exact absurd ⟨htwo, hwhole htwo⟩ hglobstar
      subst hone
      rw [elementsAfter_wildcard hcount hmaximal hglobstar]
      have hstar : InSegment ['*'] := by
        rw [inSegment_cons_iff]
        exact ⟨by decide, by simp, inSegment_nil⟩
      exact .cons hstar (ih hrest)
  | globstar before count d pattern hglobstar ih =>
      have htwo := hglobstar.1
      have hd : isDelimiter d = true := hglobstar.2.2
      have hne := ne_star_of_isDelimiter hd
      have hmaximal : (d :: pattern).head? ≠ some '*' := by simpa using hne
      rw [runsAreSegments_run (by omega) hmaximal, Symbol.ofText_cons_of_ne hne,
        Symbol.runsAreSegments] at h
      have hsplit : List.replicate count '*' ++ d :: pattern =
          (List.replicate count '*' ++ [d]) ++ pattern := by simp
      rw [elementsAfter_globstar hglobstar, hsplit]
      exact .cons (.inr (.inl ⟨_, d, hd, rfl⟩)) (ih h.2)
  | everything before count hglobstar =>
      rw [elementsAfter_everything hglobstar]
      exact fits_everything
  | parent before count d hglobstar =>
      rw [elementsAfter_parent hglobstar]
      exact fits_below_iff.2 (.inr ⟨_, rfl⟩)

theorem isGlobstar_of_fits_own (h : Fits (elementsAfter none text) text)
    (heq : text = front ++ (List.replicate count '*' ++ back))
    (hfront : front.getLast? ≠ some '*') (hback : back.head? ≠ some '*') (htwo : 2 ≤ count) :
    IsGlobstar front.getLast? count back.head? := by
  subst heq
  have hbound : front.getLast?.all isDelimiter = true := by
    cases hlast : front.getLast? with
    | none =>
        rfl
    | some c =>
        refine Decidable.byContradiction fun hc => ?_
        obtain ⟨front, rfl⟩ := List.getLast?_eq_some_iff.1 hlast
        have hstar : c ≠ '*' := by simpa [hlast] using hfront
        rw [List.append_assoc, List.singleton_append] at h
        have hrun := (fits_own_split (isOrdinary_iff.2 ⟨hc, hstar⟩) h).2
        exact not_fits_run htwo hback (fun hglobstar => hc hglobstar.2.1) hrun
  refine ⟨htwo, hbound, ?_⟩
  cases back with
  | nil =>
      rfl
  | cons c back =>
      refine Decidable.byContradiction fun hc => ?_
      have hstar : c ≠ '*' := by simpa using hback
      have hordinary := isOrdinary_iff.2 ⟨hc, hstar⟩
      rw [← List.append_assoc] at h
      have hrun := (fits_own_split hordinary h).1
      rw [List.append_assoc] at hrun
      exact not_fits_run_of_ordinary htwo hordinary hbound hrun

/-- A text fits the elements it is read as exactly if all of its runs are whole segments. -/
theorem fits_own_iff : Fits (elementsAfter none text) text ↔ WholeRuns none text := by
  constructor
  · intro h front count back heq hfront hback htwo
    rw [Option.or_none] at hfront ⊢
    exact isGlobstar_of_fits_own h heq hfront hback htwo
  · intro h
    exact fits_own_of_runsAreSegments ((runsAreSegments_iff_wholeRuns (by simp)).2 h)

end

end Entitlements.Pattern
