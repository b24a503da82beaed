import Entitlements.Pattern.Expression
import Entitlements.Proofs.Pattern.Compiled

/-!
# Normal patterns

The expression that a pattern is shown as is read back in one way only, so it tells the
elements of the pattern. What it does not tell is how long a run of stars was and which
delimiter a globstar took. A normal pattern has one choice of these, and two patterns are
shown alike exactly if their normal patterns are the same text.
-/

namespace Entitlements.Pattern

/-! ## Expressions are read back in one way -/

section

variable {c d m : Char} {first second : List Char}

theorem escape_append_ne (hm : m ∈ metacharacters) (hslash : m ≠ '\\') :
    escape c ++ first ≠ m :: second := by
  rw [escape_eq]
  intro h
  by_cases hc : c ∈ metacharacters
  · rw [if_pos hc] at h
    exact hslash (List.cons.inj h).1.symm
  · rw [if_neg hc] at h
    exact hc ((List.cons.inj h).1 ▸ hm)

theorem escape_append_inj (h : escape c ++ first = escape d ++ second) : c = d := by
  have hslash : '\\' ∈ metacharacters := by decide +kernel
  rw [escape_eq, escape_eq] at h
  grind

namespace Element

def opening : Element → List Char
  | .literal c => escape c
  | .wildcard => ['(', '?', ':', '[', '^', '/', ':', '*']
  | .globstar => ['(', '?', ':', '[', '^', '/', ':', ']']
  | .everything => ['(', '?', 's']
  | .below d => ['(', '?', ':'] ++ escape d

theorem opening_isPrefix (e : Element) : e.opening <+: e.expression := by
  cases e with
  | literal c =>
      exact List.prefix_rfl
  | wildcard =>
      decide +kernel
  | globstar =>
      decide +kernel
  | everything =>
      decide +kernel
  | below d =>
      exact ⟨"(?s:.*))?".toList, rfl⟩

theorem opening_ne_nil (e : Element) : e.opening ≠ [] := by
  cases e with
  | literal c =>
      rw [opening, escape_eq]
      split <;> simp
  | wildcard | globstar | everything | below d =>
      simp [opening]

section

variable {e other : Element} {first second : List Char}

theorem eq_of_opening_append (h : e.opening ++ first = other.opening ++ second) : e = other := by
  have hgroup : '(' ∈ metacharacters := by decide +kernel
  have hset : '[' ∈ metacharacters := by decide +kernel
  cases e with
  | literal c =>
      cases other with
      | literal d =>
          rw [escape_append_inj h]
      | wildcard | globstar | everything | below d =>
          exact absurd h (escape_append_ne hgroup (by decide))
  | wildcard =>
      cases other with
      | literal d =>
          exact absurd h.symm (escape_append_ne hgroup (by decide))
      | wildcard =>
          rfl
      | globstar | everything =>
          simp [opening] at h
      | below d =>
          simp only [opening, List.cons_append, List.nil_append, List.cons.injEq, true_and] at h
          exact absurd h.symm (escape_append_ne hset (by decide))
  | globstar =>
      cases other with
      | literal d =>
          exact absurd h.symm (escape_append_ne hgroup (by decide))
      | globstar =>
          rfl
      | wildcard | everything =>
          simp [opening] at h
      | below d =>
          simp only [opening, List.cons_append, List.nil_append, List.cons.injEq, true_and] at h
          exact absurd h.symm (escape_append_ne hset (by decide))
  | everything =>
      cases other with
      | literal d =>
          exact absurd h.symm (escape_append_ne hgroup (by decide))
      | everything =>
          rfl
      | wildcard | globstar | below d =>
          simp [opening] at h
  | below c =>
      cases other with
      | literal d =>
          exact absurd h.symm (escape_append_ne hgroup (by decide))
      | wildcard | globstar =>
          simp only [opening, List.cons_append, List.nil_append, List.cons.injEq, true_and] at h
          exact absurd h (escape_append_ne hset (by decide))
      | everything =>
          simp [opening] at h
      | below d =>
          simp only [opening, List.cons_append, List.nil_append, List.cons.injEq, true_and] at h
          rw [escape_append_inj h]

theorem expression_append_inj (h : e.expression ++ first = other.expression ++ second) :
    e = other ∧ first = second := by
  obtain ⟨rest, hrest⟩ := e.opening_isPrefix
  obtain ⟨later, hlater⟩ := other.opening_isPrefix
  have hsame : e = other := by
    rw [← hrest, ← hlater, List.append_assoc, List.append_assoc] at h
    exact eq_of_opening_append h
  subst hsame
  exact ⟨rfl, List.append_cancel_left h⟩

theorem expression_ne_nil (e : Element) : e.expression ≠ [] := by
  intro h
  have hopening := e.opening_isPrefix
  rw [h, List.prefix_nil] at hopening
  exact e.opening_ne_nil hopening

end

theorem flatMap_expression_inj {elements others : List Element}
    (h : elements.flatMap expression = others.flatMap expression) : elements = others := by
  induction elements generalizing others with
  | nil =>
      cases others with
      | nil =>
          rfl
      | cons other others =>
          have hnil : other.expression ++ others.flatMap expression = [] := h.symm
          exact absurd (List.append_eq_nil_iff.1 hnil).1 other.expression_ne_nil
  | cons e elements ih =>
      cases others with
      | nil =>
          have hnil : e.expression ++ elements.flatMap expression = [] := h
          exact absurd (List.append_eq_nil_iff.1 hnil).1 e.expression_ne_nil
      | cons other others =>
          obtain ⟨rfl, hrest⟩ := expression_append_inj h
          rw [ih hrest]

end Element

end

theorem expression_injective : Function.Injective expression := by
  intro elements others h
  have htexts := String.ofList_injective h
  exact Element.flatMap_expression_inj (List.append_cancel_right (List.cons.inj htexts).2)

/-! ## Normal texts -/

/--
The text of the symbols after the character `before`, with each run of stars cut to two stars
where it is a globstar and to one where it is not, and a slash for the delimiter right behind
a globstar.
-/
def Symbol.normalText (before : Option Char) : List Symbol → List Char
  | [] => []
  | .char c :: rest => c :: normalText (some c) rest
  | .stars count :: rest =>
      if IsGlobstar before count (rest.flatMap text).head? then
        match rest with
        | .char d :: after => '*' :: '*' :: '/' :: normalText (some d) after
        | _ => ['*', '*']
      else '*' :: normalText (some '*') rest

def normalAfter (before : Option Char) (pattern : List Char) : List Char :=
  Symbol.normalText before (Symbol.ofText pattern)

section

variable {before : Option Char} {count : Nat} {c d : Char} {pattern : List Char}

@[simp] theorem normalAfter_nil : normalAfter before [] = [] := rfl

theorem normalAfter_cons (hc : c ≠ '*') :
    normalAfter before (c :: pattern) = c :: normalAfter (some c) pattern := by
  rw [normalAfter, Symbol.ofText_cons_of_ne hc]
  rfl

theorem normalAfter_everything (h : IsGlobstar before count none) :
    normalAfter before (List.replicate count '*') = ['*', '*'] := by
  have htwo := h.1
  have hcount : 0 < count := by omega
  simp [normalAfter, Symbol.ofText_replicate hcount, Symbol.normalText, h]

theorem normalAfter_globstar (h : IsGlobstar before count (some d)) :
    normalAfter before (List.replicate count '*' ++ d :: pattern) =
      '*' :: '*' :: '/' :: normalAfter (some d) pattern := by
  have htwo := h.1
  have hcount : 0 < count := by omega
  have hd : d ≠ '*' := ne_star_of_isDelimiter h.2.2
  have hmaximal : (d :: pattern).head? ≠ some '*' := by simpa using hd
  have hrun := Symbol.ofText_replicate_append hcount hmaximal
  simp [normalAfter, hrun, Symbol.ofText_cons_of_ne hd, Symbol.normalText, Symbol.text, h]

theorem normalAfter_wildcard (hcount : 0 < count) (hmaximal : pattern.head? ≠ some '*')
    (h : ¬ IsGlobstar before count pattern.head?) :
    normalAfter before (List.replicate count '*' ++ pattern) =
      '*' :: normalAfter (some '*') pattern := by
  rw [normalAfter, Symbol.ofText_replicate_append hcount hmaximal, Symbol.normalText.eq_def]
  simp only [Symbol.flatMap_text_ofText, if_neg h]
  rfl

end

/-! ## Normal texts and elements -/

def Element.spelling : Element → List Char
  | .literal c => [c]
  | .wildcard => ['*']
  | .globstar => ['*', '*', '/']
  | .everything => ['*', '*']
  | .below d => [d, '*', '*']

/-- A normal text is made of the elements alone. -/
theorem normalAfter_eq_flatMap_spelling {before : Option Char} {pattern : List Char} :
    normalAfter before pattern = (elementsAfter before pattern).flatMap Element.spelling := by
  induction before, pattern using pattern_induction with
  | empty before =>
      rfl
  | literal before c pattern hc hparent ih =>
      rw [normalAfter_cons hc, elementsAfter_literal hc hparent, ih]
      rfl
  | wildcard before count pattern hcount hmaximal hglobstar ih =>
      rw [normalAfter_wildcard hcount hmaximal hglobstar,
        elementsAfter_wildcard hcount hmaximal hglobstar, ih]
      rfl
  | globstar before count d pattern hglobstar ih =>
      rw [normalAfter_globstar hglobstar, elementsAfter_globstar hglobstar, ih]
      rfl
  | everything before count hglobstar =>
      rw [normalAfter_everything hglobstar, elementsAfter_everything hglobstar]
      rfl
  | parent before count d hglobstar =>
      rw [normalAfter_cons (ne_star_of_isDelimiter hglobstar.2.1), normalAfter_everything hglobstar,
        elementsAfter_parent hglobstar]
      rfl

theorem elementsAfter_congr {before other : Option Char} {pattern : List Char}
    (h : before.all isDelimiter = other.all isDelimiter) :
    elementsAfter before pattern = elementsAfter other pattern := by
  rw [elementsAfter, elementsAfter, h]

theorem head?_normalAfter {before : Option Char} {pattern : List Char}
    (h : pattern.head? ≠ some '*') : (normalAfter before pattern).head? ≠ some '*' := by
  cases pattern with
  | nil =>
      simp
  | cons c pattern =>
      have hc : c ≠ '*' := by simpa using h
      simpa [normalAfter_cons hc] using hc

theorem exists_run_of_elementsAfter_eq {before : Option Char} {pattern : List Char}
    (h : elementsAfter before pattern = [.everything]) :
    ∃ count, pattern = List.replicate count '*' ∧ IsGlobstar before count none := by
  cases before, pattern using pattern_induction with
  | empty before =>
      simp at h
  | literal before c pattern hc hparent _ =>
      simp [elementsAfter_literal hc hparent] at h
  | wildcard before count pattern hcount hmaximal hglobstar _ =>
      simp [elementsAfter_wildcard hcount hmaximal hglobstar] at h
  | globstar before count d pattern hglobstar _ =>
      simp [elementsAfter_globstar hglobstar] at h
  | everything before count hglobstar =>
      exact ⟨count, rfl, hglobstar⟩
  | parent before count d hglobstar =>
      simp [elementsAfter_parent hglobstar] at h

/-- A pattern text and its normal form are read alike. -/
theorem elementsAfter_normalAfter {before : Option Char} {pattern : List Char} :
    elementsAfter before (normalAfter before pattern) = elementsAfter before pattern := by
  induction before, pattern using pattern_induction with
  | empty before =>
      rfl
  | literal before c pattern hc hparent ih =>
      rw [normalAfter_cons hc, elementsAfter_literal hc hparent]
      rcases elementsAfter_cons_cases before (normalAfter (some c) pattern) hc with
        ⟨count, hnormal, hglobstar⟩ | hliteral
      · -- A run behind the character would be normal only for another run, and there is none.
        rw [hnormal, elementsAfter_everything hglobstar] at ih
        obtain ⟨stars, hrun, hparentRun⟩ := exists_run_of_elementsAfter_eq ih.symm
        exact absurd hparentRun (hparent stars hrun)
      · rw [hliteral, ih]
  | wildcard before count pattern hcount hmaximal hglobstar ih =>
      have hhead : (normalAfter (some '*') pattern).head? ≠ some '*' := head?_normalAfter hmaximal
      have hone : ¬ IsGlobstar before 1 (normalAfter (some '*') pattern).head? :=
        fun hall => absurd hall.1 (by decide)
      rw [normalAfter_wildcard hcount hmaximal hglobstar,
        elementsAfter_wildcard hcount hmaximal hglobstar, ← ih]
      exact elementsAfter_wildcard Nat.one_pos hhead hone
  | globstar before count d pattern hglobstar ih =>
      have hslash : IsGlobstar before 2 (some '/') := ⟨Nat.le_refl 2, hglobstar.2.1, rfl⟩
      have hdelimiter : (some '/').all isDelimiter = (some d).all isDelimiter := hglobstar.2.2.symm
      rw [normalAfter_globstar hglobstar, elementsAfter_globstar hglobstar, ← ih,
        ← elementsAfter_congr hdelimiter]
      exact elementsAfter_globstar hslash
  | everything before count hglobstar =>
      have htwo : IsGlobstar before 2 none := ⟨Nat.le_refl 2, hglobstar.2⟩
      rw [normalAfter_everything hglobstar, elementsAfter_everything hglobstar]
      exact elementsAfter_everything htwo
  | parent before count d hglobstar =>
      have htwo : IsGlobstar (some d) 2 none := ⟨Nat.le_refl 2, hglobstar.2⟩
      rw [normalAfter_cons (ne_star_of_isDelimiter hglobstar.2.1), normalAfter_everything hglobstar,
        elementsAfter_parent hglobstar]
      exact elementsAfter_parent htwo

end Entitlements.Pattern

namespace Entitlements.Matcher

open Pattern

def normal (pattern : String) : String :=
  String.ofList (normalAfter none pattern.toList)

theorem normal_eq_iff {pattern other : String} :
    normal pattern = normal other ↔ (ofPattern pattern).elements = (ofPattern other).elements := by
  constructor
  · intro h
    have htexts : normalAfter none pattern.toList = normalAfter none other.toList :=
      String.ofList_injective h
    have helements := congrArg (elementsAfter none) htexts
    rwa [elementsAfter_normalAfter, elementsAfter_normalAfter] at helements
  · intro h
    have helements : elementsAfter none pattern.toList = elementsAfter none other.toList := h
    rw [normal, normal, normalAfter_eq_flatMap_spelling, normalAfter_eq_flatMap_spelling, helements]

/--
Two patterns are shown as one expression exactly if they have one normal form. The
expression tells each element of the pattern, so a literal is never taken for a part of a
wildcard, for another literal or for an anchor.
-/
theorem expression_eq_iff_normal (pattern other : String) :
    ((ofPattern pattern).expression = (ofPattern other).expression ↔
      normal pattern = normal other) ∧
    ((ofPattern pattern).expression = (ofPattern other).expression →
      (ofPattern pattern).elements = (ofPattern other).elements) := by
  have htold : (ofPattern pattern).expression = (ofPattern other).expression →
      (ofPattern pattern).elements = (ofPattern other).elements :=
    fun h => expression_injective h
  refine ⟨⟨fun h => normal_eq_iff.2 (htold h), fun h => ?_⟩, htold⟩
  rw [expression, expression, normal_eq_iff.1 h]

end Entitlements.Matcher
