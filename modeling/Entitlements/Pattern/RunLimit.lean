import Entitlements.Pattern.SizeLimit

/-!
# The limit on runs of stars

Next to a run of stars the other characters of a pattern weigh little, so the program
measures a pattern by its runs.
-/

namespace Entitlements

namespace Pattern

namespace Symbol

def isRun : Symbol → Bool
  | .stars _ => true
  | .char _ => false

theorem ofText_filter_ne_star (text : List Char) :
    ofText (text.filter fun c => c != '*') = (text.filter fun c => c != '*').map .char := by
  induction text with
  | nil =>
      rfl
  | cons c text ih =>
      by_cases hc : c = '*'
      · simpa [hc] using ih
      · rw [List.filter_cons_of_pos (by simpa using hc), ofText_cons_of_ne hc, ih, List.map_cons]

end Symbol

def starRuns (text : List Char) : Nat :=
  (Symbol.ofText text).countP Symbol.isRun

theorem starRuns_append_cons {d : Char} (hd : d ≠ '*') (front back : List Char) :
    starRuns (front ++ d :: back) = starRuns front + starRuns back := by
  simp [starRuns, Symbol.ofText_append_cons hd, Symbol.isRun]

theorem starRuns_filter_ne_star (text : List Char) :
    starRuns (text.filter fun c => c != '*') = 0 := by
  simp [starRuns, Symbol.ofText_filter_ne_star, Symbol.isRun]

/-- A pattern with more runs is refused. -/
def maxRuns : Nat := 4000

end Pattern

open Pattern

instance runLimit : SizeLimit where
  admits text := starRuns text ≤ maxRuns
  admits_sides hd h := by
    rw [decide_eq_true_eq, starRuns_append_cons (ne_star_of_isDelimiter hd)] at h
    rw [decide_eq_true_eq, decide_eq_true_eq]
    omega
  admits_plain _ := by
    rw [decide_eq_true_eq, starRuns_filter_ne_star]
    exact Nat.zero_le _

end Entitlements
