import Entitlements.Pattern.RunLimit
import Entitlements.Proofs.Pattern.Compiled

/-!
# Containment of patterns

A pattern that matches the text of a second pattern matches whatever the second
one matches, except for the parent of its trailing globstar. The argument takes
the second pattern without that parent: each stretch of its text, as the first
pattern takes it, then expands to a stretch of the candidate that the same element
takes.
-/

namespace Entitlements.Pattern

/-! ## Elements without the parent -/

/-- A delimiter with everything below it stays; the nothing in its place is left out. -/
def Element.withoutParent : Element → List Element
  | .below d => [.literal d, .everything]
  | e => [e]

/-- The elements of a pattern text that is not to match the parent of its trailing globstar. -/
def strictElements (before : Option Char) (pattern : List Char) : List Element :=
  (elementsAfter before pattern).flatMap Element.withoutParent

section

variable {before : Option Char} {count : Nat} {c d : Char} {pattern : List Char}

@[simp] theorem strictElements_nil : strictElements before [] = [] := rfl

theorem strictElements_everything (h : IsGlobstar before count none) :
    strictElements before (List.replicate count '*') = [.everything] := by
  rw [strictElements, elementsAfter_everything h]
  rfl

theorem strictElements_cons (hc : c ≠ '*') :
    strictElements before (c :: pattern) = .literal c :: strictElements (some c) pattern := by
  rcases elementsAfter_cons_cases before pattern hc with ⟨count, rfl, hglobstar⟩ | hliteral
  · rw [strictElements_everything hglobstar, strictElements, elementsAfter_parent hglobstar]
    rfl
  · rw [strictElements, hliteral]
    rfl

theorem strictElements_wildcard (hcount : 0 < count) (hmaximal : pattern.head? ≠ some '*')
    (h : ¬ IsGlobstar before count pattern.head?) :
    strictElements before (List.replicate count '*' ++ pattern) =
      .wildcard :: strictElements (some '*') pattern := by
  rw [strictElements, elementsAfter_wildcard hcount hmaximal h]
  rfl

theorem strictElements_globstar (h : IsGlobstar before count (some d)) :
    strictElements before (List.replicate count '*' ++ d :: pattern) =
      .globstar :: strictElements (some d) pattern := by
  rw [strictElements, elementsAfter_globstar h]
  rfl

end

/-! ## Cutting a pattern text where another pattern cuts it -/

section

variable {before : Option Char} {pattern front back candidate : List Char}

theorem exists_front_of_replicate_append {count : Nat} {d : Char} (hd : d ≠ '*')
    (h : List.replicate count '*' ++ pattern = front ++ d :: back) :
    ∃ middle, front = List.replicate count '*' ++ middle ∧ pattern = middle ++ d :: back := by
  rcases List.append_eq_append_iff.1 h with ⟨middle, hfront, hpattern⟩ | ⟨middle, hrun, hback⟩
  · exact ⟨middle, hfront, hpattern⟩
  · cases middle with
    | nil =>
        exact ⟨[], by simpa using hrun.symm, by simpa using hback.symm⟩
    | cons e middle =>
        obtain ⟨rfl, -⟩ := List.cons.inj hback
        have hmem : d ∈ List.replicate count '*' := by simp [hrun]
        exact absurd (List.eq_of_mem_replicate hmem) hd

/--
Up to a delimiter of the pattern text, a candidate is cut into whole segments; they
may be missing only where a segment begins.
-/
theorem exists_cut_of_delimiter (h : Fits (strictElements before pattern) candidate) {d : Char}
    (hd : isDelimiter d = true) (heq : pattern = front ++ d :: back) :
    ∃ stretch rest, candidate = stretch ++ rest ∧ Fits (strictElements (some d) back) rest ∧
      (stretch = [] ∧ before.all isDelimiter = true ∨ EndsInDelimiter stretch ∨ rest = []) := by
  have hne := ne_star_of_isDelimiter hd
  induction before, pattern using run_induction generalizing front candidate with
  | empty before =>
      simp at heq
  | char before c pattern hc ih =>
      rw [strictElements_cons hc, fits_literal_iff] at h
      obtain ⟨candidate, rfl, hrest⟩ := h
      cases front with
      | nil =>
          obtain ⟨rfl, rfl⟩ := List.cons.inj heq
          exact ⟨[c], candidate, rfl, hrest, .inr (.inl ⟨[], c, hd, rfl⟩)⟩
      | cons _ front =>
          obtain ⟨rfl, htail⟩ := List.cons.inj heq
          obtain ⟨stretch, rest, rfl, hfits, hcut⟩ := ih hrest htail
          refine ⟨c :: stretch, rest, rfl, hfits, .inr ?_⟩
          rw [endsInDelimiter_cons_iff]
          rcases hcut with ⟨rfl, hc⟩ | hends | hend
          · exact .inl (.inl ⟨hc, rfl⟩)
          · exact .inl (.inr hends)
          · exact .inr hend
  | wildcard before count pattern hcount hmaximal hglobstar ih =>
      rw [strictElements_wildcard hcount hmaximal hglobstar, fits_cons_iff] at h
      obtain ⟨first, candidate, rfl, -, hrest⟩ := h
      obtain ⟨middle, rfl, hpattern⟩ := exists_front_of_replicate_append hne heq
      obtain ⟨stretch, rest, rfl, hfits, hcut⟩ := ih hrest hpattern
      refine ⟨first ++ stretch, rest, by simp, hfits, .inr ?_⟩
      rcases hcut with ⟨-, hstar⟩ | hends | hend
      · contradiction
      · exact .inl (hends.append first)
      · exact .inr hend
  | globstar before count e pattern hglobstar ih =>
      rw [strictElements_globstar hglobstar, fits_cons_iff] at h
      obtain ⟨first, candidate, rfl, hfirst, hrest⟩ := h
      obtain ⟨middle, rfl, hpattern⟩ := exists_front_of_replicate_append hne heq
      have hbefore := hglobstar.2.1
      cases middle with
      | nil =>
          obtain ⟨rfl, rfl⟩ := List.cons.inj hpattern
          refine ⟨first, candidate, rfl, hrest, ?_⟩
          rcases hfirst with hnil | hcut
          · exact .inl ⟨hnil, hbefore⟩
          · exact .inr hcut
      | cons _ middle =>
          obtain ⟨rfl, htail⟩ := List.cons.inj hpattern
          obtain ⟨stretch, rest, rfl, hfits, hcut⟩ := ih hrest htail
          refine ⟨first ++ stretch, rest, by simp, hfits, ?_⟩
          rcases hcut with ⟨rfl, -⟩ | hends | hend
          · rw [List.append_nil]
            rcases hfirst with hnil | hends | hend
            · exact .inl ⟨hnil, hbefore⟩
            · exact .inr (.inl hends)
            · exact .inr (.inr (List.append_eq_nil_iff.1 hend).2)
          · exact .inr (.inl (hends.append first))
          · exact .inr (.inr hend)
  | everything before count hglobstar =>
      have hmem : d ∈ List.replicate count '*' := by simp [heq]
      exact absurd (List.eq_of_mem_replicate hmem) hne

/--
Text of one segment, up to where no star follows, cuts off text of one segment; it
begins with a star at most where the pattern text does.
-/
theorem exists_cut_of_inSegment (hfront : InSegment front) (hback : back.head? ≠ some '*')
    (h : Fits (strictElements before (front ++ back)) candidate) :
    ∃ stretch rest, candidate = stretch ++ rest ∧ InSegment stretch ∧
      (front.head? ≠ some '*' → stretch.head? ≠ some '*') ∧
      ∃ before, Fits (strictElements before back) rest := by
  induction front generalizing before candidate with
  | nil =>
      exact ⟨[], candidate, rfl, inSegment_nil, by simp, before, h⟩
  | cons c front ih =>
      obtain ⟨hdelimiter, hpair, hsegment⟩ := (inSegment_cons_iff c front).1 hfront
      by_cases hc : c = '*'
      · subst hc
        have hnext : front.head? ≠ some '*' := hpair rfl
        have hmaximal : (front ++ back).head? ≠ some '*' := by
          cases front with
          | nil =>
              exact hback
          | cons _ _ =>
              exact hnext
        have hsingle : ¬ IsGlobstar before 1 (front ++ back).head? := by
          intro hglobstar
          exact absurd hglobstar.1 (by decide)
        have hstar : '*' :: front ++ back = List.replicate 1 '*' ++ (front ++ back) := rfl
        rw [hstar, strictElements_wildcard Nat.one_pos hmaximal hsingle, fits_cons_iff] at h
        obtain ⟨first, candidate, rfl, hfirst, hrest⟩ := h
        obtain ⟨stretch, rest, rfl, hstretch, hhead, hfits⟩ := ih hsegment hrest
        refine ⟨first ++ stretch, rest, by simp, ?_, by simp, hfits⟩
        exact InSegment.append hfirst hstretch (hhead hnext)
      · rw [List.cons_append, strictElements_cons hc, fits_literal_iff] at h
        obtain ⟨candidate, rfl, hrest⟩ := h
        obtain ⟨stretch, rest, rfl, hstretch, -, hfits⟩ := ih hsegment hrest
        refine ⟨c :: stretch, rest, rfl, ?_, fun hhead => hhead, hfits⟩
        exact (inSegment_cons_iff c stretch).2 ⟨hdelimiter, fun heq => absurd heq hc, hstretch⟩

theorem head?_ne_star_of_fits (hpattern : pattern.head? ≠ some '*')
    (h : Fits (elementsAfter before pattern) candidate) : candidate.head? ≠ some '*' := by
  cases pattern with
  | nil =>
      rw [elementsAfter_nil, fits_nil_iff] at h
      simp [h]
  | cons c pattern =>
      have hc : c ≠ '*' := by simpa using hpattern
      rcases elementsAfter_cons_cases before pattern hc with ⟨count, rfl, hglobstar⟩ | hliteral
      · rw [elementsAfter_parent hglobstar, fits_below_iff] at h
        rcases h with rfl | ⟨after, rfl⟩
        · simp
        · simpa using hc
      · rw [hliteral, fits_literal_iff] at h
        obtain ⟨rest, rfl, -⟩ := h
        simpa using hc

/--
Each element takes, of what the text it takes expands to, a stretch again; so
fitting a text passes on to what the text fits without its parent.
-/
theorem fits_of_fits_text {middle : List Char} {inner : Option Char}
    (hmiddle : Fits (elementsAfter before pattern) middle)
    (hcandidate : Fits (strictElements inner middle) candidate) :
    Fits (elementsAfter before pattern) candidate := by
  induction before, pattern using pattern_induction generalizing inner middle candidate with
  | empty before =>
      rw [elementsAfter_nil, fits_nil_iff] at hmiddle
      rw [hmiddle, strictElements_nil, fits_nil_iff] at hcandidate
      rw [hcandidate]
      exact .nil
  | literal before c pattern hc hparent ih =>
      rw [elementsAfter_literal hc hparent, fits_literal_iff] at hmiddle ⊢
      obtain ⟨middle, rfl, hrest⟩ := hmiddle
      rw [strictElements_cons hc, fits_literal_iff] at hcandidate
      obtain ⟨candidate, rfl, hcandidate⟩ := hcandidate
      exact ⟨candidate, rfl, ih hrest hcandidate⟩
  | wildcard before count pattern hcount hmaximal hglobstar ih =>
      rw [elementsAfter_wildcard hcount hmaximal hglobstar] at hmiddle ⊢
      obtain ⟨front, back, rfl, hfront, hback⟩ := fits_cons_iff.1 hmiddle
      have hhead := head?_ne_star_of_fits hmaximal hback
      obtain ⟨stretch, rest, rfl, hstretch, -, _, hrest⟩ :=
        exists_cut_of_inSegment hfront hhead hcandidate
      exact .cons hstretch (ih hback hrest)
  | globstar before count d pattern hglobstar ih =>
      rw [elementsAfter_globstar hglobstar] at hmiddle ⊢
      obtain ⟨front, back, rfl, hfront, hback⟩ := fits_cons_iff.1 hmiddle
      rcases hfront with rfl | ⟨front, e, he, rfl⟩ | rfl
      · have hnone : Element.globstar.Takes [] candidate := wholeSegments_nil candidate
        exact .cons hnone (ih hback hcandidate)
      · have hsplit : front ++ [e] ++ back = front ++ e :: back := by simp
        obtain ⟨stretch, rest, rfl, hrest, hcut⟩ := exists_cut_of_delimiter hcandidate he hsplit
        refine .cons ?_ (ih hback hrest)
        rcases hcut with ⟨rfl, -⟩ | hcut
        · exact wholeSegments_nil _
        · exact .inr hcut
      · rw [← List.append_nil candidate]
        exact .cons (wholeSegments_end candidate) hback
  | everything before count hglobstar =>
      rw [elementsAfter_everything hglobstar]
      exact fits_everything
  | parent before count d hglobstar =>
      rw [elementsAfter_parent hglobstar, fits_below_iff] at hmiddle ⊢
      rcases hmiddle with rfl | ⟨after, rfl⟩
      · rw [strictElements_nil, fits_nil_iff] at hcandidate
        exact .inl hcandidate
      · rw [strictElements_cons (ne_star_of_isDelimiter hglobstar.2.1), fits_literal_iff]
          at hcandidate
        obtain ⟨rest, rfl, -⟩ := hcandidate
        exact .inr ⟨rest, rfl⟩

end

/-! ## The parent of a trailing globstar -/

/--
`pattern` is `parent` with a delimiter and a last globstar behind it, where no
globstar of `parent` takes the delimiter.
-/
def IsParent (parent pattern : List Char) : Prop :=
  ∃ d count, pattern = parent ++ d :: List.replicate count '*' ∧
    IsGlobstar (some d) count none ∧
    ¬ ∃ front run, parent = front ++ List.replicate run '*' ∧
      IsGlobstar front.getLast? run (some d)

def ReadBelow (before : Option Char) (parent pattern : List Char) : Prop :=
  ∃ d count, pattern = parent ++ d :: List.replicate count '*' ∧
    IsGlobstar (some d) count none ∧
    elementsAfter before pattern = elementsAfter before parent ++ [.below d]

section

variable {before : Option Char} {stars : Nat} {c e : Char} {parent pattern candidate : List Char}

theorem readBelow_nil {count : Nat} (h : IsGlobstar (some c) count none) :
    ReadBelow before [] (c :: List.replicate count '*') :=
  ⟨c, count, rfl, h, elementsAfter_parent h⟩

theorem ReadBelow.literal (h : ReadBelow (some c) parent pattern) (hc : c ≠ '*')
    (hparent : ∀ count, pattern = List.replicate count '*' → ¬ IsGlobstar (some c) count none) :
    elementsAfter before (c :: parent) = .literal c :: elementsAfter (some c) parent ∧
      ReadBelow before (c :: parent) (c :: pattern) := by
  obtain ⟨d, count, rfl, hlast, heq⟩ := h
  -- A last globstar in `parent` would have taken `d`, and no parent would be left.
  have hclear : ∀ run, parent = List.replicate run '*' → ¬ IsGlobstar (some c) run none := by
    intro run hrun hbefore
    subst hrun
    have hbounded : IsGlobstar (some c) run (some d) := ⟨hbefore.1, hbefore.2.1, hlast.2.1⟩
    rw [elementsAfter_globstar hbounded, elementsAfter_everything hlast,
      elementsAfter_everything hbefore] at heq
    simp at heq
  have helements : elementsAfter before (c :: parent) =
      .literal c :: elementsAfter (some c) parent := elementsAfter_literal hc hclear
  refine ⟨helements, d, count, rfl, hlast, ?_⟩
  rw [elementsAfter_literal hc hparent, helements, heq]
  rfl

theorem ReadBelow.wildcard (h : ReadBelow (some '*') parent pattern) (hstars : 0 < stars)
    (hmaximal : pattern.head? ≠ some '*') (hglobstar : ¬ IsGlobstar before stars pattern.head?) :
    elementsAfter before (List.replicate stars '*' ++ parent) =
        .wildcard :: elementsAfter (some '*') parent ∧
      ReadBelow before (List.replicate stars '*' ++ parent)
        (List.replicate stars '*' ++ pattern) := by
  obtain ⟨d, count, rfl, hlast, heq⟩ := h
  have hhead : parent.head? ≠ some '*' ∧ ¬ IsGlobstar before stars parent.head? := by
    cases parent with
    | nil =>
        refine ⟨by simp, ?_⟩
        intro hend
        exact hglobstar ⟨hend.1, hend.2.1, hlast.2.1⟩
    | cons _ _ =>
        exact ⟨hmaximal, hglobstar⟩
  have helements := elementsAfter_wildcard hstars hhead.1 hhead.2
  refine ⟨helements, d, count, by simp, hlast, ?_⟩
  rw [elementsAfter_wildcard hstars hmaximal hglobstar, helements, heq]
  rfl

theorem ReadBelow.globstar (h : ReadBelow (some e) parent pattern)
    (hglobstar : IsGlobstar before stars (some e)) :
    ReadBelow before (List.replicate stars '*' ++ e :: parent)
      (List.replicate stars '*' ++ e :: pattern) := by
  obtain ⟨d, count, rfl, hlast, heq⟩ := h
  refine ⟨d, count, by simp, hlast, ?_⟩
  rw [elementsAfter_globstar hglobstar, elementsAfter_globstar hglobstar, heq]
  rfl

theorem ReadBelow.isParent (h : ReadBelow none parent pattern) : IsParent parent pattern := by
  obtain ⟨d, count, rfl, hlast, heq⟩ := h
  refine ⟨d, count, rfl, hlast, ?_⟩
  intro hconsumed
  obtain ⟨front, run, rfl, hrun⟩ := hconsumed
  have hd := ne_star_of_isDelimiter hlast.2.1
  have hfront : front.getLast? ≠ some '*' := by
    intro hstar
    have hdelimiter := hrun.2.1
    rw [hstar] at hdelimiter
    contradiction
  rw [List.append_assoc, elementsAfter_append hfront (fun _ => append_cons_ne_replicate hd),
    Option.or_none, elementsAfter_globstar hrun, elementsAfter_everything hlast] at heq
  have hend := congrArg List.getLast? heq
  simp at hend

theorem fits_strict_or_parent (h : Fits (elementsAfter before pattern) candidate) :
    Fits (strictElements before pattern) candidate ∨
      ∃ parent, ReadBelow before parent pattern ∧ Fits (elementsAfter before parent) candidate := by
  induction before, pattern using pattern_induction generalizing candidate with
  | empty before =>
      exact .inl h
  | literal before c pattern hc hparent ih =>
      rw [elementsAfter_literal hc hparent, fits_literal_iff] at h
      obtain ⟨rest, rfl, hrest⟩ := h
      rw [strictElements_cons hc, fits_literal_iff]
      rcases ih hrest with hstrict | ⟨parent, hread, hfits⟩
      · exact .inl ⟨rest, rfl, hstrict⟩
      · obtain ⟨helements, hread⟩ := hread.literal hc hparent
        refine .inr ⟨c :: parent, hread, ?_⟩
        rw [helements, fits_literal_iff]
        exact ⟨rest, rfl, hfits⟩
  | wildcard before stars pattern hstars hmaximal hglobstar ih =>
      rw [elementsAfter_wildcard hstars hmaximal hglobstar, fits_cons_iff] at h
      obtain ⟨first, rest, rfl, hfirst, hrest⟩ := h
      rw [strictElements_wildcard hstars hmaximal hglobstar]
      rcases ih hrest with hstrict | ⟨parent, hread, hfits⟩
      · exact .inl (.cons hfirst hstrict)
      · obtain ⟨helements, hread⟩ := hread.wildcard hstars hmaximal hglobstar
        refine .inr ⟨List.replicate stars '*' ++ parent, hread, ?_⟩
        rw [helements]
        exact .cons hfirst hfits
  | globstar before stars e pattern hglobstar ih =>
      rw [elementsAfter_globstar hglobstar, fits_cons_iff] at h
      obtain ⟨first, rest, rfl, hfirst, hrest⟩ := h
      rw [strictElements_globstar hglobstar]
      rcases ih hrest with hstrict | ⟨parent, hread, hfits⟩
      · exact .inl (.cons hfirst hstrict)
      · refine .inr ⟨List.replicate stars '*' ++ e :: parent, hread.globstar hglobstar, ?_⟩
        rw [elementsAfter_globstar hglobstar]
        exact .cons hfirst hfits
  | everything before count hglobstar =>
      rw [strictElements_everything hglobstar]
      exact .inl fits_everything
  | parent before count d hglobstar =>
      have hd := ne_star_of_isDelimiter hglobstar.2.1
      rw [elementsAfter_parent hglobstar, fits_below_iff] at h
      rw [strictElements_cons hd, strictElements_everything hglobstar, fits_literal_iff]
      rcases h with rfl | ⟨after, rfl⟩
      · exact .inr ⟨[], readBelow_nil hglobstar, .nil⟩
      · exact .inl ⟨after, rfl, fits_everything⟩

end

end Entitlements.Pattern

namespace Entitlements.Matcher

open Pattern

section

variable [SizeLimit] {outer inner parent candidate : String} {first second : Matcher}

theorem compile?_parent (h : compile? inner = some second)
    (hread : ReadBelow none parent.toList inner.toList) :
    compile? parent = some (ofPattern parent) := by
  obtain ⟨d, count, htext, hlast, -⟩ := hread
  have hadmits := admits_of_compile h
  rw [htext] at hadmits
  exact compile?_ofPattern (SizeLimit.admits_sides hlast.2.1 hadmits).1

/-- A chain of matches either closes or ends at the parent of a trailing globstar. -/
theorem isMatch_or_parent (hfirst : compile? outer = some first)
    (hsecond : compile? inner = some second) (hinner : first.isMatch inner = true)
    (hcandidate : second.isMatch candidate = true) :
    first.isMatch candidate = true ∨
      ∃ parent third, IsParent parent.toList inner.toList ∧
        compile? parent = some third ∧ third.isMatch candidate = true := by
  rw [isMatch_iff_fits_of_compile hfirst] at hinner ⊢
  rw [isMatch_iff_fits_of_compile hsecond] at hcandidate
  rcases fits_strict_or_parent hcandidate with hstrict | ⟨parent, hread, hfits⟩
  · exact .inl (fits_of_fits_text hinner hstrict)
  · have hparent : (String.ofList parent).toList = parent := String.toList_ofList
    rw [← hparent] at hread hfits
    have hcompile := compile?_parent hsecond hread
    refine .inr ⟨String.ofList parent, _, hread.isParent, hcompile, ?_⟩
    exact (isMatch_iff_fits_of_compile hcompile).2 hfits

end

/-- A globstar in front of a trailing one keeps out the parent that the trailing one takes in. -/
theorem exists_parent_not_matched :
    ∃ (outer inner parent candidate : String) (first second third : Matcher),
      compile? outer = some first ∧ compile? inner = some second ∧
        IsParent parent.toList inner.toList ∧ compile? parent = some third ∧
        third.isMatch candidate = true ∧ first.isMatch inner = true ∧
        second.isMatch candidate = true ∧ first.isMatch candidate = false := by
  have hparent : IsParent "a".toList "a/**".toList := by
    have htext : "a".toList = ['a'] := by decide +kernel
    refine ⟨'/', 2, by decide +kernel, ⟨by decide, rfl, rfl⟩, ?_⟩
    intro hconsumed
    obtain ⟨front, run, heq, hrun⟩ := hconsumed
    have htwo := hrun.1
    have hlength := congrArg List.length heq
    simp [htext] at hlength
    omega
  have houter : compile? "a/**/**" = some (ofPattern "a/**/**") :=
    compile?_ofPattern (by decide +kernel)
  have hinner : compile? "a/**" = some (ofPattern "a/**") :=
    compile?_ofPattern (by decide +kernel)
  have hshort : compile? "a" = some (ofPattern "a") := compile?_ofPattern (by decide +kernel)
  have hmatches : (ofPattern "a").isMatch "a" = true ∧
      (ofPattern "a/**/**").isMatch "a/**" = true ∧
        (ofPattern "a/**").isMatch "a" = true ∧ (ofPattern "a/**/**").isMatch "a" = false := by
    decide +kernel
  exact ⟨"a/**/**", "a/**", "a", "a", _, _, _, houter, hinner, hparent, hshort, hmatches⟩

/--
Under any size limit, a pattern that matches the text of a second one matches whatever the
second one matches, except at times the parent of the second one's trailing globstar.
-/
theorem isMatch_trans_or_parent :
    (∀ [SizeLimit] (outer inner candidate : String) (first second : Matcher),
      compile? outer = some first → compile? inner = some second →
      first.isMatch inner = true → second.isMatch candidate = true →
      first.isMatch candidate = true ∨
        ∃ parent third, IsParent parent.toList inner.toList ∧
          compile? parent = some third ∧ third.isMatch candidate = true) ∧
    ∃ (outer inner parent candidate : String) (first second third : Matcher),
      compile? outer = some first ∧ compile? inner = some second ∧
        IsParent parent.toList inner.toList ∧ compile? parent = some third ∧
        third.isMatch candidate = true ∧ first.isMatch inner = true ∧
        second.isMatch candidate = true ∧ first.isMatch candidate = false := by
  constructor
  · intro _ outer inner candidate first second hfirst hsecond hinner hcandidate
    exact isMatch_or_parent hfirst hsecond hinner hcandidate
  · exact exists_parent_not_matched

theorem isMatch_trans_or_parent_file :
    (ofPattern "org/**").isMatch "org/*:file" = true ∧
      (ofPattern "org/*:file").isMatch "org/repo:file" = true ∧
        ((ofPattern "org/**").isMatch "org/repo:file" = true ∨
          ∃ parent third, IsParent parent.toList "org/*:file".toList ∧
            compile? parent = some third ∧ third.isMatch "org/repo:file" = true) := by
  have houter : compile? "org/**" = some (ofPattern "org/**") :=
    compile?_ofPattern (by decide +kernel)
  have hinner : compile? "org/*:file" = some (ofPattern "org/*:file") :=
    compile?_ofPattern (by decide +kernel)
  have hscope : (ofPattern "org/**").isMatch "org/*:file" = true := by decide +kernel
  have hmatch : (ofPattern "org/*:file").isMatch "org/repo:file" = true := by decide +kernel
  exact ⟨hscope, hmatch,
    isMatch_trans_or_parent.1 _ _ _ _ _ houter hinner hscope hmatch⟩

end Entitlements.Matcher
