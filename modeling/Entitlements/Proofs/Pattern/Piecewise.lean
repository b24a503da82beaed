import Mathlib.Data.List.Forall2
import Entitlements.Pattern.RunLimit
import Entitlements.Proofs.Pattern.Compiled

/-!
# Matching segment by segment

A pattern without globstars has the delimiters of what it matches, one for one, and
each of its segments is a pattern that matches the segment at its place. No star
reaches across a delimiter.
-/

namespace Entitlements.Pattern

def delimiters (text : List Char) : List Char :=
  text.filter isDelimiter

/-- What stands between the delimiters of a text, in order. -/
def segments (text : List Char) : List (List Char) :=
  text.splitOnP isDelimiter

/--
No run of two or more stars has a delimiter or an end of the text on both sides;
`before` is the character in front of the text, if there is one.
-/
def NoGlobstar (before : Option Char) (text : List Char) : Prop :=
  ∀ front count back, text = front ++ (List.replicate count '*' ++ back) →
    ¬ IsGlobstar (front.getLast?.or before) count back.head?

theorem noGlobstar_iff {before : Option Char} {text : List Char} :
    NoGlobstar before text ↔
      ∀ i < text.length, ∀ count < text.length + 1,
        List.replicate count '*' <+: text.drop i →
          ¬ IsGlobstar ((text.take i).getLast?.or before) count (text.drop (i + count)).head? := by
  constructor
  · intro h i _ count _ hrun
    obtain ⟨back, hback⟩ := hrun
    have hsplit : text = text.take i ++ (List.replicate count '*' ++ back) := by
      rw [hback, List.take_append_drop]
    have hrest : text.drop (i + count) = back := by
      rw [← List.drop_drop, ← hback]
      simp
    rw [hrest]
    exact h _ count back hsplit
  · intro h front count back heq hglobstar
    have hcount := hglobstar.1
    have hlength := congrArg List.length heq
    simp only [List.length_append, List.length_replicate] at hlength
    have hdrop : text.drop front.length = List.replicate count '*' ++ back := by
      simp [heq]
    have hrun : List.replicate count '*' <+: text.drop front.length := by
      rw [hdrop]
      exact List.prefix_append _ _
    have hnone := h front.length (by omega) count (by omega) hrun
    rw [← List.drop_drop, hdrop, heq] at hnone
    simp at hnone
    exact hnone hglobstar

instance (before : Option Char) (text : List Char) : Decidable (NoGlobstar before text) :=
  decidable_of_iff _ noGlobstar_iff.symm

/-! ## The first segment of a text -/

section

variable {text front back part : List Char} {c d : Char}

theorem delimiters_eq_nil_iff : delimiters text = [] ↔ ∀ c ∈ text, isDelimiter c = false := by
  simp [delimiters]

theorem segments_of_delimiters_eq_nil (h : delimiters text = []) : segments text = [text] :=
  List.splitOnP_eq_singleton (delimiters_eq_nil_iff.1 h)

theorem delimiters_cut (hfront : delimiters front = []) (hd : isDelimiter d = true) :
    delimiters (front ++ d :: back) = d :: delimiters back := by
  unfold delimiters at hfront ⊢
  rw [List.filter_append, hfront, List.filter_cons_of_pos hd, List.nil_append]

theorem segments_cut (hfront : delimiters front = []) (hd : isDelimiter d = true) :
    segments (front ++ d :: back) = front :: segments back :=
  List.splitOnP_append_cons_of_forall_mem (delimiters_eq_nil_iff.1 hfront) d hd back

theorem exists_cut_of_delimiters_eq_cons {later : List Char} (h : delimiters text = d :: later) :
    ∃ front back, text = front ++ d :: back ∧ delimiters front = [] ∧ isDelimiter d = true ∧
      delimiters back = later := by
  obtain ⟨front, back, rfl, hfront, hd, hback⟩ := List.filter_eq_cons_iff.1 h
  refine ⟨front, back, rfl, ?_, hd, hback⟩
  rw [delimiters_eq_nil_iff]
  simpa using hfront

theorem segment_induction {motive : List Char → Prop}
    (last : ∀ text, delimiters text = [] → motive text)
    (cut : ∀ front d back, delimiters front = [] → isDelimiter d = true → motive back →
      motive (front ++ d :: back))
    (text : List Char) : motive text := by
  induction hdelimiters : delimiters text generalizing text with
  | nil =>
      exact last text hdelimiters
  | cons d later ih =>
      obtain ⟨front, back, rfl, hfront, hd, hback⟩ := exists_cut_of_delimiters_eq_cons hdelimiters
      exact cut front d back hfront hd (ih back hback)

end

/-! ## Texts without globstars -/

section

variable {before : Option Char} {front back part text : List Char} {d : Char}

theorem NoGlobstar.of_append (h : NoGlobstar before (front ++ back)) :
    NoGlobstar (front.getLast?.or before) back := by
  intro middle count after heq
  have hjoined := h (front ++ middle) count after (by rw [heq, List.append_assoc])
  rwa [List.getLast?_append, Option.or_assoc] at hjoined

/-- Where a delimiter or an end follows, the text in front of it ends as a whole text does. -/
theorem NoGlobstar.of_bounded (h : NoGlobstar before (part ++ back))
    (hbefore : before.all isDelimiter = true) (hback : back.head?.all isDelimiter = true) :
    NoGlobstar none part := by
  intro front count after heq hglobstar
  obtain ⟨htwo, hleft, hright⟩ := hglobstar
  refine h front count (after ++ back) (by simp [heq]) ⟨htwo, ?_, ?_⟩
  · cases hlast : front.getLast? with
    | none =>
        simpa using hbefore
    | some c =>
        simpa [hlast] using hleft
  · cases after with
    | nil =>
        exact hback
    | cons c after =>
        exact hright

theorem NoGlobstar.of_mem_segments (h : NoGlobstar before text)
    (hbefore : before.all isDelimiter = true) (hpart : part ∈ segments text) :
    NoGlobstar none part := by
  induction text using segment_induction generalizing before with
  | last text htext =>
      rw [segments_of_delimiters_eq_nil htext, List.mem_singleton] at hpart
      subst hpart
      rw [← List.append_nil part] at h
      exact h.of_bounded hbefore rfl
  | cut front d back hfront hd ih =>
      rw [segments_cut hfront hd, List.mem_cons] at hpart
      rcases hpart with rfl | hpart
      · exact h.of_bounded hbefore hd
      · have hback : NoGlobstar (some d) back := by
          have hsplit : front ++ d :: back = (front ++ [d]) ++ back := by simp
          rw [hsplit] at h
          have happend := h.of_append
          rwa [List.getLast?_concat] at happend
        exact ih hback hd hpart

end

/-! ## Elements without globstars -/

namespace Symbol

/-- What a symbol is read as where no run of stars is a globstar. -/
def plain : Symbol → Element
  | .char c => .literal c
  | .stars _ => .wildcard

end Symbol

def plainElements (text : List Char) : List Element :=
  (Symbol.ofText text).map Symbol.plain

section

variable {before : Option Char} {pattern part front back text : List Char} {d : Char}
  {symbols : List Symbol}

theorem elementsAfter_eq_plainElements (h : NoGlobstar before pattern) :
    elementsAfter before pattern = plainElements pattern := by
  induction before, pattern using pattern_induction with
  | empty before =>
      rfl
  | literal before c pattern hc hparent ih =>
      have hsplit : NoGlobstar before ([c] ++ pattern) := h
      have hrest : NoGlobstar (some c) pattern := hsplit.of_append
      rw [elementsAfter_literal hc hparent, ih hrest, plainElements, plainElements,
        Symbol.ofText_cons_of_ne hc]
      rfl
  | wildcard before count pattern hcount hmaximal hglobstar ih =>
      have hrest : NoGlobstar (some '*') pattern := by
        have happend := h.of_append
        rwa [getLast?_replicate_star hcount] at happend
      rw [elementsAfter_wildcard hcount hmaximal hglobstar, ih hrest, plainElements,
        plainElements, Symbol.ofText_replicate_append hcount hmaximal]
      rfl
  | globstar before count d pattern hglobstar ih =>
      exact absurd hglobstar (h [] count (d :: pattern) rfl)
  | everything before count hglobstar =>
      exact absurd hglobstar (h [] count [] (by simp))
  | parent before count d hglobstar =>
      exact absurd hglobstar (h [d] count [] (by simp))

theorem plainElements_append_cons (hd : isDelimiter d = true) :
    plainElements (front ++ d :: back) =
      plainElements front ++ .literal d :: plainElements back := by
  rw [plainElements, Symbol.ofText_append_cons (ne_star_of_isDelimiter hd), List.map_append]
  rfl

theorem plainElements_ne_globstar (pattern : List Char) :
    ∀ e ∈ plainElements pattern, e ≠ .globstar := by
  intro e he
  obtain ⟨symbol, -, rfl⟩ := List.mem_map.1 he
  cases symbol <;> simp [Symbol.plain]

/-- A delimiter of the pattern is found in the candidate, with its two sides around it. -/
theorem fits_plainElements_cut_iff (hd : isDelimiter d = true) :
    Fits (plainElements (front ++ d :: back)) text ↔
      ∃ first second, text = first ++ d :: second ∧ Fits (plainElements front) first ∧
        Fits (plainElements back) second := by
  rw [plainElements_append_cons hd]
  constructor
  · intro h
    obtain ⟨first, rest, rfl, hfirst, hrest⟩ := exists_split_of_fits_append h
    obtain ⟨second, rfl, hsecond⟩ := fits_literal_iff.1 hrest
    exact ⟨first, second, rfl, hfirst, hsecond⟩
  · intro h
    obtain ⟨first, second, rfl, hfirst, hsecond⟩ := h
    exact hfirst.append_of_ne_globstar (plainElements_ne_globstar front)
      (fits_literal_iff.2 ⟨second, rfl, hsecond⟩)

theorem delimiters_append : delimiters (front ++ back) = delimiters front ++ delimiters back :=
  List.filter_append front back

theorem delimiters_of_fits_plain (h : Fits (symbols.map Symbol.plain) text) :
    delimiters text = delimiters (symbols.flatMap Symbol.text) := by
  induction symbols generalizing text with
  | nil =>
      rw [fits_nil_iff.1 h]
      rfl
  | cons symbol symbols ih =>
      obtain ⟨stretch, rest, rfl, htakes, hrest⟩ := fits_cons_iff.1 h
      rw [List.flatMap_cons, delimiters_append, delimiters_append, ih hrest]
      congr 1
      cases symbol with
      | char c =>
          rw [htakes]
          rfl
      | stars count =>
          have hstars : delimiters (List.replicate count '*') = [] := by
            rw [delimiters_eq_nil_iff]
            intro c hc
            rw [List.eq_of_mem_replicate hc]
            rfl
          rw [delimiters_eq_nil_iff.2 htakes.1]
          exact hstars.symm

theorem delimiters_of_fits (h : Fits (plainElements pattern) text) :
    delimiters pattern = delimiters text := by
  rw [delimiters_of_fits_plain h, Symbol.flatMap_text_ofText]

/-- Elements without globstars take a text segment by segment. -/
theorem fits_plainElements_iff :
    Fits (plainElements pattern) text ↔
      delimiters pattern = delimiters text ∧
        List.Forall₂ (fun part stretch => Fits (plainElements part) stretch)
          (segments pattern) (segments text) := by
  induction pattern using segment_induction generalizing text with
  | last pattern hpattern =>
      rw [segments_of_delimiters_eq_nil hpattern]
      constructor
      · intro h
        have hdelimiters := delimiters_of_fits h
        rw [segments_of_delimiters_eq_nil (hdelimiters.symm.trans hpattern)]
        exact ⟨hdelimiters, .cons h .nil⟩
      · intro h
        obtain ⟨hdelimiters, hsegments⟩ := h
        rw [segments_of_delimiters_eq_nil (hdelimiters.symm.trans hpattern)] at hsegments
        exact (List.forall₂_cons.1 hsegments).1
  | cut front d back hfront hd ih =>
      rw [fits_plainElements_cut_iff hd, delimiters_cut hfront hd, segments_cut hfront hd]
      constructor
      · intro h
        obtain ⟨first, second, rfl, hfirst, hsecond⟩ := h
        have hnone : delimiters first = [] := (delimiters_of_fits hfirst).symm.trans hfront
        obtain ⟨hdelimiters, hsegments⟩ := ih.1 hsecond
        rw [delimiters_cut hnone hd, segments_cut hnone hd, hdelimiters]
        exact ⟨rfl, .cons hfirst hsegments⟩
      · intro h
        obtain ⟨hdelimiters, hsegments⟩ := h
        obtain ⟨first, second, rfl, hnone, -, hlater⟩ :=
          exists_cut_of_delimiters_eq_cons hdelimiters.symm
        rw [segments_cut hnone hd, List.forall₂_cons] at hsegments
        exact ⟨first, second, rfl, hsegments.1, ih.2 ⟨hlater.symm, hsegments.2⟩⟩

theorem admits_segment [SizeLimit] (h : SizeLimit.admits pattern = true)
    (hpart : part ∈ segments pattern) : SizeLimit.admits part = true := by
  induction pattern using segment_induction with
  | last pattern hpattern =>
      rw [segments_of_delimiters_eq_nil hpattern, List.mem_singleton] at hpart
      rwa [hpart]
  | cut front d back hfront hd ih =>
      obtain ⟨hfirst, hlater⟩ := SizeLimit.admits_sides hd h
      rw [segments_cut hfront hd, List.mem_cons] at hpart
      rcases hpart with rfl | hpart
      · exact hfirst
      · exact ih hlater hpart

end

end Entitlements.Pattern

namespace Entitlements.Matcher

open Pattern

section

variable {pattern : String} {matcher : Matcher} {part stretch : List Char}

theorem elements_plain (h : NoGlobstar none pattern.toList) :
    (ofPattern pattern).elements = plainElements pattern.toList :=
  elementsAfter_eq_plainElements h

theorem isMatch_plain_iff (h : NoGlobstar none part) :
    (ofPattern (String.ofList part)).isMatch (String.ofList stretch) = true ↔
      Fits (plainElements part) stretch := by
  have htext : (String.ofList part).toList = part := String.toList_ofList
  rw [isMatch_iff_fits, elements_plain (htext.symm ▸ h), htext, String.toList_ofList]

theorem compile?_segment [SizeLimit] (h : compile? pattern = some matcher)
    (hpart : part ∈ segments pattern.toList) :
    compile? (String.ofList part) = some (ofPattern (String.ofList part)) :=
  compile?_ofList (admits_segment (admits_of_compile h) hpart)

theorem forall₂_isMatch_iff {parts stretches : List (List Char)}
    (h : ∀ part ∈ parts, NoGlobstar none part) :
    List.Forall₂
        (fun part stretch =>
          (ofPattern (String.ofList part)).isMatch (String.ofList stretch) = true)
        parts stretches ↔
      List.Forall₂ (fun part stretch => Fits (plainElements part) stretch) parts stretches := by
  induction parts generalizing stretches with
  | nil =>
      simp
  | cons part parts ih =>
      rw [List.forall_mem_cons] at h
      cases stretches with
      | nil =>
          simp
      | cons stretch stretches =>
          rw [List.forall₂_cons, List.forall₂_cons, isMatch_plain_iff h.1, ih h.2]

end

/--
A pattern without globstars matches the candidates that have its delimiters in its order
and, at each place, a segment that its own segment matches. Each of its segments compiles
as a pattern by itself.
-/
theorem isMatch_segments [SizeLimit] {pattern : String} {matcher : Matcher}
    (hpattern : NoGlobstar none pattern.toList) (h : compile? pattern = some matcher) :
    (∀ part ∈ segments pattern.toList,
      compile? (String.ofList part) = some (ofPattern (String.ofList part))) ∧
    ∀ candidate, matcher.isMatch candidate = true ↔
      delimiters pattern.toList = delimiters candidate.toList ∧
        List.Forall₂
          (fun part stretch =>
            (ofPattern (String.ofList part)).isMatch (String.ofList stretch) = true)
          (segments pattern.toList) (segments candidate.toList) := by
  refine ⟨fun _ => compile?_segment h, ?_⟩
  intro candidate
  have hparts : ∀ part ∈ segments pattern.toList, NoGlobstar none part :=
    fun _ hpart => hpattern.of_mem_segments rfl hpart
  rw [isMatch_iff_fits_of_compile h, elementsAfter_eq_plainElements hpattern,
    fits_plainElements_iff, forall₂_isMatch_iff hparts]

/-- Two stars inside a segment are no globstar, and take no delimiter either. -/
theorem isMatch_segments_inner_stars :
    NoGlobstar none "org/a**b:*".toList ∧
      compile? "org/a**b:*" = some (ofPattern "org/a**b:*") ∧
      compile? "a**b" = some (ofPattern "a**b") ∧
      (ofPattern "org/a**b:*").isMatch "org/axyb:q" = true ∧
      ¬ (ofPattern "org/a**b:*").isMatch "org/ax/yb:q" = true := by
  have hpattern : NoGlobstar none "org/a**b:*".toList := by decide +kernel
  have hcompile : compile? "org/a**b:*" = some (ofPattern "org/a**b:*") :=
    compile?_ofPattern (by decide +kernel)
  obtain ⟨hsegments, hmatch⟩ := isMatch_segments hpattern hcompile
  have hinside := (hmatch "org/axyb:q").2 ⟨by decide +kernel, by decide +kernel⟩
  have hacross : ¬ (ofPattern "org/a**b:*").isMatch "org/ax/yb:q" = true := by
    intro h
    exact absurd ((hmatch "org/ax/yb:q").1 h).1 (by decide +kernel)
  exact ⟨hpattern, hcompile, hsegments "a**b".toList (by decide +kernel), hinside, hacross⟩

end Entitlements.Matcher
