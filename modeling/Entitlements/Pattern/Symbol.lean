/-!
# Symbols of a pattern text

A pattern text is read as single characters and maximal runs of stars.
-/

namespace Entitlements.Pattern

/-- Segments of an identifier end at these characters. -/
def isDelimiter (c : Char) : Bool :=
  c == '/' || c == ':'

theorem ne_star_of_isDelimiter {c : Char} (h : isDelimiter c = true) : c ≠ '*' := by
  intro hc
  rw [hc] at h
  contradiction

/-- A character other than a star, or a maximal run of `count` stars. -/
inductive Symbol where
  | char (c : Char)
  | stars (count : Nat)
deriving DecidableEq, Repr

namespace Symbol

def push (c : Char) : List Symbol → List Symbol
  | .stars count :: rest =>
      if c = '*' then .stars (count + 1) :: rest else .char c :: .stars count :: rest
  | rest => if c = '*' then .stars 1 :: rest else .char c :: rest

/-- The symbols of a text; two runs of stars never follow each other. -/
def ofText (text : List Char) : List Symbol :=
  text.foldr push []

@[simp] theorem ofText_nil : ofText [] = [] := rfl

@[simp] theorem ofText_cons (c : Char) (rest : List Char) :
    ofText (c :: rest) = push c (ofText rest) := rfl

theorem ofText_cons_of_ne {c : Char} (hc : c ≠ '*') (rest : List Char) :
    ofText (c :: rest) = .char c :: ofText rest := by
  rw [ofText_cons]
  unfold push
  split
  · next heq =>
      simp [hc, heq]
  · simp [hc]

theorem push_append_char (c d : Char) (symbols rest : List Symbol) :
    push c (symbols ++ .char d :: rest) = push c symbols ++ .char d :: rest := by
  cases symbols with
  | nil =>
      by_cases hc : c = '*' <;> simp [push, hc]
  | cons symbol symbols =>
      cases symbol <;> by_cases hc : c = '*' <;> simp [push, hc]

theorem ofText_append_cons {d : Char} (hd : d ≠ '*') (front back : List Char) :
    ofText (front ++ d :: back) = ofText front ++ .char d :: ofText back := by
  induction front with
  | nil =>
      exact ofText_cons_of_ne hd back
  | cons c front ih =>
      rw [List.cons_append, ofText_cons, ih, push_append_char, ofText_cons]

def text : Symbol → List Char
  | .char c => [c]
  | .stars count => List.replicate count '*'

theorem flatMap_text_push (c : Char) (symbols : List Symbol) :
    (push c symbols).flatMap text = c :: symbols.flatMap text := by
  unfold push
  split <;> by_cases hc : c = '*' <;> simp [hc, text, List.replicate_succ]

theorem flatMap_text_ofText (text : List Char) :
    (ofText text).flatMap Symbol.text = text := by
  induction text with
  | nil =>
      rfl
  | cons c rest ih =>
      simp [flatMap_text_push, ih]

/-- Whether a text that goes on with these symbols has a segment bound in front of them. -/
def boundAhead : List Symbol → Bool
  | [] => true
  | .char c :: _ => isDelimiter c
  | .stars _ :: _ => false

def isFinalGlobstar : List Symbol → Bool
  | [.stars count] => 2 ≤ count
  | _ => false

/--
Whether each run of two or more stars is a whole segment. `bound` says that the
symbols follow a delimiter or nothing.
-/
def runsAreSegments (bound : Bool) : List Symbol → Bool
  | [] => true
  | .char c :: rest => runsAreSegments (isDelimiter c) rest
  | .stars count :: rest =>
      (count < 2 || bound && boundAhead rest) && runsAreSegments false rest

end Symbol

end Entitlements.Pattern
