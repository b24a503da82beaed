import Entitlements.Pattern.Expression
import Entitlements.Proofs.Pattern.Stretch

/-!
# Regular expressions of patterns

The expression that a pattern is shown as has a meaning of its own: an expression
reads a stretch of a text, and it is found in a text when it reads some stretch of
it. The anchors tie the stretch to the ends of the text, so the expression of a
row of elements is found in exactly the texts that the elements fit.
-/

namespace Entitlements.Pattern

/-- The part of the expression language that patterns are shown in. -/
inductive Regex where
  | char (c : Char)
  | oneOf (chars : List Char)
  | noneOf (chars : List Char)
  /-- Any text, over as many lines as there are. -/
  | anyText
  | atStart
  | atEnd
  | seq (first second : Regex)
  | either (first second : Regex)
  | group (body : Regex)
  | many (body : Regex)
  | optional (body : Regex)

/--
Repeated reading: each round goes on where the one before it stopped. A round
may read nothing.
-/
inductive Repeats (body : List Char → List Char → List Char → Prop) :
    List Char → List Char → List Char → Prop
  | done {before after : List Char} : Repeats body before [] after
  | again {before first second after : List Char} :
      body before first (second ++ after) → Repeats body (before ++ first) second after →
      Repeats body before (first ++ second) after

namespace Regex

def text : Regex → List Char
  | .char c => escape c
  | .oneOf chars => '[' :: chars ++ [']']
  | .noneOf chars => '[' :: '^' :: chars ++ [']']
  | .anyText => "(?s:.*)".toList
  | .atStart => ['^']
  | .atEnd => ['$']
  | .seq first second => first.text ++ second.text
  | .either first second => first.text ++ '|' :: second.text
  | .group body => "(?:".toList ++ body.text ++ [')']
  | .many body => body.text ++ ['*']
  | .optional body => body.text ++ ['?']

theorem text_seq (first second : Regex) :
    (seq first second).text = first.text ++ second.text := rfl

/-- The items of a sequence, which is nested to the right. -/
def items : Regex → List Regex
  | .seq first second => first :: second.items
  | regex => [regex]

def andThen (first later : Regex) : Regex :=
  first.items.foldr .seq later

theorem andThen_seq (first second later : Regex) :
    (seq first second).andThen later = .seq first (second.andThen later) := rfl

theorem text_andThen (first later : Regex) :
    (first.andThen later).text = first.text ++ later.text := by
  induction first with
  | seq first second _ ih =>
      rw [andThen_seq, text_seq, text_seq, ih, List.append_assoc]
  | _ =>
      rfl

/-- Whether an expression reads `stretch` of a text, between `before` and `after`. -/
def Reads : Regex → List Char → List Char → List Char → Prop
  | .char c, _, stretch, _ => stretch = [c]
  | .oneOf chars, _, stretch, _ => ∃ c, c ∈ chars ∧ stretch = [c]
  | .noneOf chars, _, stretch, _ => ∃ c, c ∉ chars ∧ stretch = [c]
  | .anyText, _, _, _ => True
  | .atStart, before, stretch, _ => before = [] ∧ stretch = []
  | .atEnd, _, stretch, after => stretch = [] ∧ after = []
  | .seq first second, before, stretch, after =>
      ∃ front back, stretch = front ++ back ∧ first.Reads before front (back ++ after) ∧
        second.Reads (before ++ front) back after
  | .either first second, before, stretch, after =>
      first.Reads before stretch after ∨ second.Reads before stretch after
  | .group body, before, stretch, after => body.Reads before stretch after
  | .many body, before, stretch, after => Repeats body.Reads before stretch after
  | .optional body, before, stretch, after => stretch = [] ∨ body.Reads before stretch after

theorem reads_andThen_iff {first later : Regex} {before stretch after : List Char} :
    (first.andThen later).Reads before stretch after ↔
      ∃ front back, stretch = front ++ back ∧ first.Reads before front (back ++ after) ∧
        later.Reads (before ++ front) back after := by
  induction first generalizing before stretch with
  | seq first second _ ih =>
      rw [andThen_seq]
      simp only [Reads, ih]
      constructor
      · rintro ⟨front, _, rfl, hfirst, middle, back, rfl, hsecond, hlater⟩
        refine ⟨front ++ middle, back, by simp, ⟨front, middle, rfl, ?_, hsecond⟩, ?_⟩
        · simpa using hfirst
        · simpa using hlater
      · rintro ⟨_, back, rfl, ⟨front, middle, rfl, hfirst, hsecond⟩, hlater⟩
        refine ⟨front, middle ++ back, by simp, ?_, middle, back, rfl, hsecond, ?_⟩
        · simpa using hfirst
        · simpa using hlater
  | _ =>
      rfl

def FoundIn (regex : Regex) (candidate : List Char) : Prop :=
  ∃ before stretch after, candidate = before ++ stretch ++ after ∧ regex.Reads before stretch after

end Regex

namespace Element

def regex : Element → Regex
  | .literal c => .char c
  | .wildcard =>
      .seq
        (.many (.group (.either (.noneOf ['/', ':', '*'])
          (.seq (.char '*') (.noneOf ['/', ':', '*'])))))
        (.optional (.char '*'))
  | .globstar =>
      .many (.group (.seq (.many (.noneOf ['/', ':']))
        (.group (.either (.oneOf ['/', ':']) .atEnd))))
  | .everything => .anyText
  | .below d => .optional (.group (.seq (.char d) .anyText))

private theorem text_regex_below (d : Char) :
    (Element.below d).regex.text = (Element.below d).expression := by
  have hclose : "(?s:.*))?".toList = "(?s:.*)".toList ++ [')'] ++ ['?'] := by decide +kernel
  have hread : (Element.below d).regex.text =
      "(?:".toList ++ (escape d ++ "(?s:.*)".toList) ++ [')'] ++ ['?'] := rfl
  have hshown : (Element.below d).expression =
      "(?:".toList ++ escape d ++ "(?s:.*))?".toList := rfl
  simp only [hread, hshown, hclose, List.append_assoc]

theorem text_regex (e : Element) : e.regex.text = e.expression := by
  cases e with
  | literal c =>
      rfl
  | wildcard =>
      decide +kernel
  | globstar =>
      decide +kernel
  | everything =>
      rfl
  | below d =>
      exact text_regex_below d

end Element

def rowOf (elements : List Element) : Regex :=
  elements.foldr (fun e later => e.regex.andThen later) .atEnd

def regexOf (elements : List Element) : Regex :=
  .seq .atStart (rowOf elements)

theorem rowOf_cons (e : Element) (elements : List Element) :
    rowOf (e :: elements) = e.regex.andThen (rowOf elements) := rfl

theorem text_rowOf (elements : List Element) :
    (rowOf elements).text = elements.flatMap Element.expression ++ ['$'] := by
  induction elements with
  | nil =>
      rfl
  | cons e elements ih =>
      rw [rowOf_cons, Regex.text_andThen, ih, Element.text_regex, List.flatMap_cons,
        List.append_assoc]

theorem text_regexOf (elements : List Element) :
    String.ofList (regexOf elements).text = expression elements := by
  rw [regexOf, Regex.text_seq, text_rowOf]
  rfl

/-! ## What the expressions of elements read -/

section

variable {before stretch after : List Char}

/-- One round of a wildcard: a character, or a star and a character that is none. -/
private def wildcardRound : Regex :=
  .group (.either (.noneOf ['/', ':', '*']) (.seq (.char '*') (.noneOf ['/', ':', '*'])))

private theorem reads_wildcardRound_iff :
    wildcardRound.Reads before stretch after ↔
      ∃ c, (isDelimiter c = false ∧ c ≠ '*') ∧ (stretch = [c] ∨ stretch = ['*', c]) := by
  have hplain : ∀ c : Char, c ∉ ['/', ':', '*'] ↔ isDelimiter c = false ∧ c ≠ '*' := by
    intro c
    simp [isDelimiter, and_assoc]
  simp only [wildcardRound, Regex.Reads, hplain]
  constructor
  · intro h
    rcases h with ⟨c, hc, rfl⟩ | ⟨front, back, rfl, rfl, c, hc, rfl⟩
    · exact ⟨c, hc, .inl rfl⟩
    · exact ⟨c, hc, .inr rfl⟩
  · intro h
    obtain ⟨c, hc, rfl | rfl⟩ := h
    · exact .inl ⟨c, hc, rfl⟩
    · exact .inr ⟨['*'], [c], rfl, rfl, c, hc, rfl⟩

private theorem inSegment_append_of_repeats {tail : List Char}
    (h : Repeats wildcardRound.Reads before stretch after) (htail : InSegment tail) :
    InSegment (stretch ++ tail) := by
  induction h with
  | done =>
      exact htail
  | again hround _ ih =>
      obtain ⟨c, ⟨hdelimiter, hstar⟩, rfl | rfl⟩ := reads_wildcardRound_iff.1 hround
      · exact (inSegment_cons_iff _ _).2 ⟨hdelimiter, fun heq => (hstar heq).elim, ih⟩
      · have hinner := (inSegment_cons_iff c _).2 ⟨hdelimiter, fun heq => (hstar heq).elim, ih⟩
        exact (inSegment_cons_iff '*' _).2 ⟨rfl, fun _ => by simpa using hstar, hinner⟩

/-- Rounds of a wildcard, and perhaps a last star, read any text of one segment. -/
private theorem exists_repeats_of_inSegment (stretch after : List Char) :
    InSegment stretch → ∀ before, ∃ front back, stretch = front ++ back ∧
      (back = [] ∨ back = ['*']) ∧ Repeats wildcardRound.Reads before front (back ++ after) := by
  -- A star is read together with the character behind it, so both beginnings go along.
  suffices h : ∀ first, first = [] ∨ first = ['*'] → InSegment (first ++ stretch) → ∀ before,
      ∃ front back, first ++ stretch = front ++ back ∧ (back = [] ∨ back = ['*']) ∧
        Repeats wildcardRound.Reads before front (back ++ after) from h [] (.inl rfl)
  induction stretch with
  | nil =>
      intro first hfirst _ before
      exact ⟨[], first, by simp, hfirst, .done⟩
  | cons c stretch ih =>
      intro first hfirst hsegment before
      by_cases hstar : c = '*'
      · subst hstar
        rcases hfirst with rfl | rfl
        · exact ih ['*'] (.inr rfl) hsegment before
        · exact (((inSegment_cons_iff _ _).1 hsegment).2.1 rfl rfl).elim
      · have hc : InSegment (c :: stretch) := by
          rcases hfirst with rfl | rfl
          · exact hsegment
          · exact ((inSegment_cons_iff _ _).1 hsegment).2.2
        obtain ⟨hdelimiter, -, hrest⟩ := (inSegment_cons_iff _ _).1 hc
        obtain ⟨front, back, heq, hback, hrounds⟩ :=
          ih [] (.inl rfl) hrest (before ++ (first ++ [c]))
        have hround : wildcardRound.Reads before (first ++ [c]) (front ++ (back ++ after)) := by
          refine reads_wildcardRound_iff.2 ⟨c, ⟨hdelimiter, hstar⟩, ?_⟩
          rcases hfirst with rfl | rfl
          · exact .inl rfl
          · exact .inr rfl
        refine ⟨first ++ [c] ++ front, back, ?_, hback, .again hround hrounds⟩
        rw [List.nil_append] at heq
        simp [heq]

theorem reads_wildcard_iff :
    Element.wildcard.regex.Reads before stretch after ↔ InSegment stretch := by
  constructor
  · intro h
    obtain ⟨front, back, rfl, hrounds, hback⟩ := h
    refine inSegment_append_of_repeats hrounds ?_
    rcases hback with rfl | rfl
    · exact inSegment_nil
    · exact (inSegment_cons_iff '*' []).2 ⟨rfl, by simp, inSegment_nil⟩
  · intro h
    obtain ⟨front, back, rfl, hback, hrounds⟩ := exists_repeats_of_inSegment stretch after h before
    exact ⟨front, back, rfl, hrounds, hback⟩

private theorem reads_segment_iff :
    (Regex.many (.noneOf ['/', ':'])).Reads before stretch after ↔
      ∀ c ∈ stretch, isDelimiter c = false := by
  have hplain : ∀ c : Char, c ∉ ['/', ':'] ↔ isDelimiter c = false := by
    intro c
    simp [isDelimiter]
  constructor
  · intro h
    induction h with
    | done =>
        simp
    | again hround _ ih =>
        obtain ⟨c, hc, rfl⟩ := hround
        simpa using ⟨(hplain c).1 hc, ih⟩
  · intro h
    induction stretch generalizing before with
    | nil =>
        exact .done
    | cons c stretch ih =>
        obtain ⟨hc, hrest⟩ := List.forall_mem_cons.1 h
        have hround : (Regex.noneOf ['/', ':']).Reads before [c] (stretch ++ after) :=
          ⟨c, (hplain c).2 hc, rfl⟩
        exact .again hround (ih hrest)

private def globstarRound : Regex :=
  .group (.seq (.many (.noneOf ['/', ':'])) (.group (.either (.oneOf ['/', ':']) .atEnd)))

private theorem reads_globstarRound_iff :
    globstarRound.Reads before stretch after ↔
      ∃ segment back, stretch = segment ++ back ∧ (∀ c ∈ segment, isDelimiter c = false) ∧
        ((∃ d, isDelimiter d = true ∧ back = [d]) ∨ back = [] ∧ after = []) := by
  have hdelimiter : ∀ d : Char, d ∈ ['/', ':'] ↔ isDelimiter d = true := by
    intro d
    simp [isDelimiter]
  constructor
  · intro h
    obtain ⟨segment, back, rfl, hsegment, ⟨d, hd, rfl⟩ | hend⟩ := h
    · exact ⟨segment, [d], rfl, reads_segment_iff.1 hsegment, .inl ⟨d, (hdelimiter d).1 hd, rfl⟩⟩
    · exact ⟨segment, back, rfl, reads_segment_iff.1 hsegment, .inr hend⟩
  · intro h
    obtain ⟨segment, back, rfl, hsegment, ⟨d, hd, rfl⟩ | hend⟩ := h
    · exact ⟨segment, [d], rfl, reads_segment_iff.2 hsegment, .inl ⟨d, (hdelimiter d).2 hd, rfl⟩⟩
    · exact ⟨segment, back, rfl, reads_segment_iff.2 hsegment, .inr hend⟩

private theorem wholeSegments_of_repeats (h : Repeats globstarRound.Reads before stretch after) :
    WholeSegments stretch after := by
  induction h with
  | done =>
      exact wholeSegments_nil _
  | again hround _ ih =>
      obtain ⟨segment, back, rfl, -, ⟨d, hd, rfl⟩ | ⟨-, hend⟩⟩ := reads_globstarRound_iff.1 hround
      · rcases ih with rfl | hends | rfl
        · rw [List.append_nil]
          exact .inr (.inl ⟨segment, d, hd, rfl⟩)
        · exact .inr (.inl (hends.append _))
        · exact wholeSegments_end _
      · rw [(List.append_eq_nil_iff.1 hend).2]
        exact wholeSegments_end _

private theorem repeats_of_ends (hends : EndsInDelimiter stretch ∨ after = []) :
    ∀ segment : List Char, (∀ c ∈ segment, isDelimiter c = false) → ∀ before,
      Repeats globstarRound.Reads before (segment ++ stretch) after := by
  induction stretch with
  | nil =>
      intro segment hsegment before
      have hafter : after = [] := hends.resolve_left not_endsInDelimiter_nil
      have hround : globstarRound.Reads before segment ([] ++ after) :=
        reads_globstarRound_iff.2 ⟨segment, [], by simp, hsegment, .inr ⟨rfl, hafter⟩⟩
      exact .again hround .done
  | cons c stretch ih =>
      intro segment hsegment before
      rw [endsInDelimiter_cons_iff] at hends
      cases hc : isDelimiter c with
      | true =>
          have hround : globstarRound.Reads before (segment ++ [c]) (stretch ++ after) :=
            reads_globstarRound_iff.2 ⟨segment, [c], rfl, hsegment, .inl ⟨c, hc, rfl⟩⟩
          have hlater : Repeats globstarRound.Reads (before ++ (segment ++ [c])) stretch after := by
            rcases hends with (⟨-, rfl⟩ | hends) | hafter
            · exact .done
            · exact ih (.inl hends) [] (by simp) _
            · exact ih (.inr hafter) [] (by simp) _
          simpa using Repeats.again hround hlater
      | false =>
          have hsegment' : ∀ e ∈ segment ++ [c], isDelimiter e = false := by
            simpa [or_imp, forall_and, hc] using hsegment
          have hrest : EndsInDelimiter stretch ∨ after = [] := by
            simpa [hc] using hends
          simpa using ih hrest (segment ++ [c]) hsegment' before

theorem reads_globstar_iff :
    Element.globstar.regex.Reads before stretch after ↔ WholeSegments stretch after := by
  constructor
  · exact wholeSegments_of_repeats
  · intro h
    rcases h with rfl | hends
    · exact .done
    · exact repeats_of_ends hends [] (by simp) before

/-- The expression of an element reads exactly the stretches that the element takes. -/
theorem reads_regex_iff (e : Element) :
    e.regex.Reads before stretch after ↔ e.Takes stretch after := by
  cases e with
  | literal c =>
      rfl
  | wildcard =>
      exact reads_wildcard_iff
  | globstar =>
      exact reads_globstar_iff
  | everything =>
      rfl
  | below d =>
      constructor
      · intro h
        rcases h with rfl | ⟨front, back, rfl, rfl, -⟩
        · exact .inl rfl
        · exact .inr ⟨back, rfl⟩
      · intro h
        rcases h with rfl | ⟨back, rfl⟩
        · exact .inl rfl
        · exact .inr ⟨[d], back, rfl, rfl, trivial⟩

theorem reads_rowOf_iff (elements : List Element) :
    (rowOf elements).Reads before stretch after ↔
      after = [] ∧ Fits elements stretch := by
  induction elements generalizing before stretch with
  | nil =>
      rw [fits_nil_iff]
      exact and_comm
  | cons e elements ih =>
      rw [rowOf_cons, Regex.reads_andThen_iff, fits_cons_iff]
      constructor
      · intro h
        obtain ⟨front, back, rfl, hfront, hback⟩ := h
        obtain ⟨rfl, hfits⟩ := ih.1 hback
        rw [List.append_nil] at hfront
        exact ⟨rfl, front, back, rfl, (reads_regex_iff e).1 hfront, hfits⟩
      · intro h
        obtain ⟨rfl, front, back, rfl, htakes, hfits⟩ := h
        refine ⟨front, back, rfl, (reads_regex_iff e).2 ?_, ih.2 ⟨rfl, hfits⟩⟩
        rw [List.append_nil]
        exact htakes

end

/-- Between its anchors the expression is found in exactly the texts that the elements fit. -/
theorem foundIn_regexOf_iff (elements : List Element) (candidate : List Char) :
    (regexOf elements).FoundIn candidate ↔ Fits elements candidate := by
  constructor
  · intro h
    obtain ⟨before, stretch, after, rfl, front, back, rfl, ⟨rfl, rfl⟩, hback⟩ := h
    obtain ⟨rfl, hfits⟩ := (reads_rowOf_iff elements).1 hback
    simpa using hfits
  · intro h
    refine ⟨[], candidate, [], by simp, [], candidate, rfl, ⟨rfl, rfl⟩, ?_⟩
    exact (reads_rowOf_iff elements).2 ⟨rfl, h⟩

end Entitlements.Pattern
