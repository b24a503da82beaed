import Entitlements.Pattern.RunLimit
import Entitlements.Proofs.Pattern.OwnText
import Entitlements.Proofs.Permission.Arguments
import Entitlements.Proofs.Permission.Validation

/-!
# Permissions that allow themselves

A pattern with a run of stars inside a segment does not match its own text, and a
permission with such a pattern does not allow itself. Validation turns down just
these patterns.
-/

namespace Entitlements

theorem Matcher.isMatch_self_iff [SizeLimit] {pattern : String} {matcher : Matcher}
    (h : compile? pattern = some matcher) :
    matcher.isMatch pattern = true ↔ Pattern.WholeRuns none pattern.toList := by
  rw [isMatch_iff_fits_of_compile h]
  exact Pattern.fits_own_iff

/-- The pattern alone decides it, because a mask of some bits covers itself. -/
theorem Permission.WellFormed.allows_self_iff [SizeLimit] {permission : Permission}
    (h : permission.WellFormed) :
    permission.allows [.built permission] = pure true ↔
      Pattern.WholeRuns none permission.identifier.toList := by
  have hself : permission.privileges.beyond permission.privileges = 0 :=
    Mask.beyond_eq_zero_iff.2 fun _ hbit => hbit
  have hmask : permission.coversMask permission.privileges = true :=
    Mask.covers_of_beyond_eq_zero h.privileges_ne hself
  have hallows : permission.allows ([permission].map .built) = pure true ↔
      ∀ request ∈ [permission], permission.covers request = true := allows_built_iff
  rw [List.map_singleton, List.forall_mem_singleton, covers, hmask, Bool.and_true,
    matchesIdentifier] at hallows
  rw [hallows]
  exact Matcher.isMatch_self_iff h.compiled

namespace Validation

theorem isIdentifier_iff {text : String} :
    isIdentifier text = true ↔
      text ≠ "" ∧ (∀ c ∈ text.toList, isIdentifierChar c = true) ∧
        Pattern.WholeRuns none text.toList := by
  have hstart : (none : Option Char) = some '*' → text.toList.head? ≠ some '*' := by
    intro hstar
    contradiction
  have hruns : Pattern.Symbol.runsAreSegments true (Pattern.Symbol.ofText text.toList) = true ↔
      Pattern.WholeRuns none text.toList :=
    Pattern.runsAreSegments_iff_wholeRuns hstart
  rw [isIdentifier, Bool.and_eq_true, Bool.and_eq_true, hruns, List.all_eq_true, and_assoc]
  simp

/--
A pattern matches its own text exactly if each of its runs of two or more stars is a
whole segment. Among texts of the alphabet of identifiers, these are the valid ones,
so a permission with a valid identifier allows itself.
-/
theorem isIdentifier_iff_isMatch_self [SizeLimit] :
    (∀ pattern matcher, Matcher.compile? pattern = some matcher →
      (matcher.isMatch pattern = true ↔ Pattern.WholeRuns none pattern.toList) ∧
        (pattern ≠ "" → (∀ c ∈ pattern.toList, isIdentifierChar c = true) →
          (isIdentifier pattern = true ↔ matcher.isMatch pattern = true))) ∧
    ∀ permission : Permission, permission.WellFormed →
      isIdentifier permission.identifier = true →
        permission.allows [.built permission] = pure true := by
  constructor
  · intro pattern matcher hcompile
    have hself := Matcher.isMatch_self_iff hcompile
    refine ⟨hself, fun hne hchars => ?_⟩
    rw [hself, isIdentifier_iff]
    exact ⟨fun h => h.2.2, fun h => ⟨hne, hchars, h⟩⟩
  · intro permission hpermission hvalid
    exact hpermission.allows_self_iff.2 (isIdentifier_iff.1 hvalid).2.2

/-- The run is a whole segment in the first text, and part of one in the second. -/
theorem isIdentifier_iff_isMatch_self_runs :
    isIdentifier "doc/**/x*:y" = true ∧
      (Matcher.ofPattern "doc/**/x*:y").isMatch "doc/**/x*:y" = true ∧
      ((Matcher.ofPattern "doc/x**:y").isMatch "doc/x**:y" = true ↔
        isIdentifier "doc/x**:y" = true) ∧
      (Permission.onRegistry .standard "doc/**/x*:y" 4).allows
        [.built (Permission.onRegistry .standard "doc/**/x*:y" 4)] = pure true := by
  have hcompile : ∀ pattern, SizeLimit.admits pattern.toList = true →
      Matcher.compile? pattern = some (Matcher.ofPattern pattern) :=
    fun _ hsize => Matcher.compile?_ofPattern hsize
  have hwhole : ∀ c ∈ "doc/**/x*:y".toList, isIdentifierChar c = true :=
    List.all_eq_true.1 (by decide +kernel)
  have hpart : ∀ c ∈ "doc/x**:y".toList, isIdentifierChar c = true :=
    List.all_eq_true.1 (by decide +kernel)
  have hvalid : isIdentifier "doc/**/x*:y" = true := by decide +kernel
  obtain ⟨hmatch, hallows⟩ := isIdentifier_iff_isMatch_self
  refine ⟨hvalid, ?_, ?_, ?_⟩
  · exact ((hmatch _ _ (hcompile _ (by decide +kernel))).2 (by decide) hwhole).1 hvalid
  · exact ((hmatch _ _ (hcompile _ (by decide +kernel))).2 (by decide) hpart).symm
  · refine hallows _ (Permission.wellFormed_onRegistry ?_) hvalid
    exact ⟨by decide, by decide +kernel, by decide, by decide +kernel⟩

end Validation

end Entitlements
