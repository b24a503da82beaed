import Entitlements.Matcher
import Entitlements.Proofs.Pattern.Runs
import Entitlements.Proofs.Pattern.Sweep

/-!
# Compiled patterns

What a compiled matcher says about candidates depends on the elements of its
pattern text only, and a pattern compiles if the size limit admits its text.
-/

namespace Entitlements.Matcher

open Pattern

theorem isMatch_iff_fits (matcher : Matcher) (candidate : String) :
    matcher.isMatch candidate = true ↔ Fits matcher.elements candidate.toList :=
  Pattern.isMatch_iff_fits

section

variable [SizeLimit] {pattern candidate : String} {matcher : Matcher}

theorem elements_of_compile (h : compile? pattern = some matcher) :
    matcher.elements = elementsAfter none pattern.toList := by
  obtain ⟨-, rfl⟩ := (compile?_eq_some_iff pattern matcher).1 h
  rfl

theorem isMatch_iff_fits_of_compile (h : compile? pattern = some matcher) :
    matcher.isMatch candidate = true ↔
      Fits (elementsAfter none pattern.toList) candidate.toList := by
  rw [isMatch_iff_fits, elements_of_compile h]

theorem compile?_ofPattern (h : SizeLimit.admits pattern.toList = true) :
    compile? pattern = some (ofPattern pattern) :=
  (compile?_eq_some_iff pattern _).2 ⟨h, rfl⟩

theorem admits_of_compile (h : compile? pattern = some matcher) :
    SizeLimit.admits pattern.toList = true :=
  ((compile?_eq_some_iff pattern matcher).1 h).1

theorem compile?_ofList {text : List Char} (h : SizeLimit.admits text = true) :
    compile? (String.ofList text) = some (ofPattern (String.ofList text)) :=
  compile?_ofPattern (by rwa [String.toList_ofList])

end

end Entitlements.Matcher
