import Entitlements.Proofs.Pattern.Containment

/-!
# The subtree of a trailing globstar

A pattern with a delimiter and two stars behind it matches what the pattern matches,
and everything below that. The pattern itself must not end in a globstar, which would
take the delimiter. Its inner globstars may still reach the end of a parent; in a text
below that parent they reach the end as well, and leave nothing to the trailing one.
-/

namespace Entitlements.Pattern

/-- The text ends in a run of two or more stars that follows a delimiter or nothing. -/
def EndsInGlobstar (before : Option Char) (text : List Char) : Prop :=
  ∃ front count, text = front ++ List.replicate count '*' ∧
    IsGlobstar (front.getLast?.or before) count none

section

variable {before : Option Char} {count : Nat} {d : Char} {elements : List Element}
  {parent text : List Char}

theorem endsInGlobstar_append (front : List Char) {back : List Char}
    (h : EndsInGlobstar (front.getLast?.or before) back) :
    EndsInGlobstar before (front ++ back) := by
  obtain ⟨middle, count, rfl, hglobstar⟩ := h
  refine ⟨front ++ middle, count, by simp, ?_⟩
  rw [List.getLast?_append, Option.or_assoc]
  exact hglobstar

theorem ReadBelow.elements_eq
    (h : ReadBelow before parent (parent ++ d :: List.replicate count '*')) :
    elementsAfter before (parent ++ d :: List.replicate count '*') =
      elementsAfter before parent ++ [.below d] := by
  obtain ⟨e, _, htext, -, helements⟩ := h
  obtain ⟨rfl, -⟩ := List.cons.inj (List.append_cancel_left htext)
  exact helements

theorem readBelow_of_not_endsInGlobstar (hparent : ¬ EndsInGlobstar before parent)
    (hlast : IsGlobstar (some d) count none) :
    ReadBelow before parent (parent ++ d :: List.replicate count '*') := by
  have hd := ne_star_of_isDelimiter hlast.2.1
  induction before, parent using run_induction with
  | empty before =>
      exact readBelow_nil hlast
  | char before c parent hc ih =>
      have hrest : ¬ EndsInGlobstar (some c) parent :=
        fun h => hparent (endsInGlobstar_append [c] h)
      have hrun : ∀ stars, parent ++ d :: List.replicate count '*' = List.replicate stars '*' →
          ¬ IsGlobstar (some c) stars none :=
        fun _ heq => absurd heq (append_cons_ne_replicate hd)
      exact ((ih hrest).literal hc hrun).2
  | wildcard before stars parent hstars hmaximal hrun ih =>
      have hrest : ¬ EndsInGlobstar (some '*') parent := by
        intro h
        apply hparent
        apply endsInGlobstar_append
        rwa [getLast?_replicate_star hstars]
      have hhead : (parent ++ d :: List.replicate count '*').head? ≠ some '*' ∧
          ¬ IsGlobstar before stars (parent ++ d :: List.replicate count '*').head? := by
        cases parent with
        | nil =>
            -- The delimiter bounds the run no better than the end did.
            refine ⟨by simpa using hd, ?_⟩
            intro hbounded
            exact hrun ⟨hbounded.1, hbounded.2.1, rfl⟩
        | cons _ _ =>
            exact ⟨hmaximal, hrun⟩
      rw [List.append_assoc]
      exact ((ih hrest).wildcard hstars hhead.1 hhead.2).2
  | globstar before stars e parent hrun ih =>
      have hrest : ¬ EndsInGlobstar (some e) parent := by
        intro h
        apply hparent
        have hsplit : List.replicate stars '*' ++ e :: parent =
            (List.replicate stars '*' ++ [e]) ++ parent := by simp
        rw [hsplit]
        apply endsInGlobstar_append
        rwa [List.getLast?_concat]
      rw [List.append_assoc, List.cons_append]
      exact (ih hrest).globstar hrun
  | everything before stars hrun =>
      exact absurd ⟨[], stars, rfl, hrun⟩ hparent

theorem Fits.append_below (h : Fits elements text) (d : Char) (back : List Char) :
    Fits (elements ++ [.below d]) (text ++ d :: back) := by
  induction h with
  | nil =>
      exact fits_below_iff.2 (.inr ⟨back, rfl⟩)
  | @cons e elements stretch rest htakes hrest ih =>
      rw [List.append_assoc]
      by_cases he : e = .globstar
      · subst he
        rcases htakes with hnil | hends | hend
        · exact .cons (.inl hnil) ih
        · exact .cons (.inr (.inl hends)) ih
        · -- It reached the end of the text; it reaches the new end, and leaves nothing below.
          have hnone : Fits (elements ++ [.below d]) [] :=
            (hend ▸ hrest).append_of_nil (fits_below_iff.2 (.inl rfl))
          have hwhole : Fits (.globstar :: (elements ++ [.below d]))
              ((stretch ++ (rest ++ d :: back)) ++ []) :=
            .cons (wholeSegments_end _) hnone
          rwa [List.append_nil] at hwhole
      · exact .cons (htakes.of_ne_globstar he) ih

/-- What goes on below the elements is what they take, or that with a delimiter and any text. -/
theorem fits_append_below_iff :
    Fits (elements ++ [.below d]) text ↔
      Fits elements text ∨ ∃ front back, text = front ++ d :: back ∧ Fits elements front := by
  constructor
  · intro h
    obtain ⟨front, back, rfl, hfront, hback⟩ := exists_split_of_fits_append h
    rcases fits_below_iff.1 hback with rfl | ⟨after, rfl⟩
    · rw [List.append_nil]
      exact .inl hfront
    · exact .inr ⟨front, after, rfl, hfront⟩
  · intro h
    rcases h with hfits | ⟨front, back, rfl, hfits⟩
    · exact hfits.append_of_nil (fits_below_iff.2 (.inl rfl))
    · exact hfits.append_below d back

end

end Entitlements.Pattern

namespace Entitlements.Matcher

open Pattern

/--
A pattern with a delimiter and two stars behind it matches what the pattern matches, and
that with the delimiter and any text behind it. With the whole the pattern compiles too.
-/
theorem isMatch_subtree [SizeLimit] {pattern : String} {d : Char} {whole : Matcher}
    (hpattern : ¬ EndsInGlobstar none pattern.toList) (hd : d = '/' ∨ d = ':')
    (h : compile? (pattern ++ String.singleton d ++ "**") = some whole) :
    ∃ matcher, compile? pattern = some matcher ∧
      ∀ candidate, whole.isMatch candidate = true ↔
        matcher.isMatch candidate = true ∨
          ∃ front back, candidate = front ++ String.singleton d ++ back ∧
            matcher.isMatch front = true := by
  have hlast : IsGlobstar (some d) 2 none := by
    rcases hd with rfl | rfl <;> exact ⟨by decide, rfl, rfl⟩
  have htext : (pattern ++ String.singleton d ++ "**").toList =
      pattern.toList ++ d :: List.replicate 2 '*' := by
    simp [List.replicate_succ]
  have hread := readBelow_of_not_endsInGlobstar hpattern hlast
  have hcompile : compile? pattern = some (ofPattern pattern) :=
    compile?_parent h (htext ▸ hread)
  refine ⟨ofPattern pattern, hcompile, ?_⟩
  intro candidate
  rw [isMatch_iff_fits_of_compile h, htext, hread.elements_eq, fits_append_below_iff,
    isMatch_iff_fits_of_compile hcompile]
  constructor
  · intro hfits
    rcases hfits with hfits | ⟨front, back, heq, hfits⟩
    · exact .inl hfits
    · refine .inr ⟨String.ofList front, String.ofList back, ?_, ?_⟩
      · rw [← String.toList_inj, heq]
        simp
      · rw [isMatch_iff_fits_of_compile hcompile, String.toList_ofList]
        exact hfits
  · intro hfits
    rcases hfits with hfits | ⟨front, back, rfl, hfits⟩
    · exact .inl hfits
    · rw [isMatch_iff_fits_of_compile hcompile] at hfits
      exact .inr ⟨front.toList, back.toList, by simp, hfits⟩

/-- A last star alone is no globstar, and an inner globstar may reach the end of the parent. -/
theorem isMatch_subtree_inner :
    ¬ EndsInGlobstar none "x/**/*".toList ∧
      compile? ("x/**/*" ++ String.singleton '/' ++ "**") = some (ofPattern "x/**/*/**") ∧
      compile? "x/**/*" = some (ofPattern "x/**/*") ∧
      (ofPattern "x/**/*").isMatch "x/q" = true ∧
      (ofPattern "x/**/*/**").isMatch "x/q/r" = true ∧
      (ofPattern "x/**/*/**").isMatch "y/q/r" = false := by
  have hstar : ¬ EndsInGlobstar none "x/**/*".toList := by
    intro h
    obtain ⟨front, count, heq, htwo, -, -⟩ := h
    obtain ⟨more, rfl⟩ : ∃ more, count = more + 2 := ⟨count - 2, by omega⟩
    have hends : "x/**/*".toList.reverse[1]? = some '*' := by
      rw [heq, List.reverse_append, List.reverse_replicate]
      rfl
    exact absurd hends (by decide +kernel)
  have hwhole : compile? ("x/**/*" ++ String.singleton '/' ++ "**") =
      some (ofPattern "x/**/*/**") :=
    compile?_ofPattern (by decide +kernel)
  have hpattern : compile? "x/**/*" = some (ofPattern "x/**/*") :=
    compile?_ofPattern (by decide +kernel)
  have hparent : (ofPattern "x/**/*").isMatch "x/q" = true := by decide +kernel
  obtain ⟨matcher, hmatcher, hsubtree⟩ := isMatch_subtree hstar (.inl rfl) hwhole
  obtain rfl : ofPattern "x/**/*" = matcher := Option.some.inj (hpattern.symm.trans hmatcher)
  have hbelow := (hsubtree "x/q/r").2 (.inr ⟨"x/q", "r", by decide +kernel, hparent⟩)
  exact ⟨hstar, hwhole, hpattern, hparent, hbelow, by decide +kernel⟩

end Entitlements.Matcher
