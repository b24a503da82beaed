import Entitlements.Pattern.RunLimit
import Entitlements.Proofs.Permission.WellFormed
import Entitlements.Validation

/-!
# Validation against reading

A text is validated without building a permission. It passes exactly if it can be read
and its identifier passes by itself.
-/

namespace Entitlements

namespace Validation

section

variable {registry : Registry} {text : String}

theorem isPrivilegeList_iff :
    isPrivilegeList registry text = true ↔ ∃ mask, registry.resolve (.text text) = .ok mask := by
  have hleaves : isPrivilegeList registry text =
      ((PrivilegeSpec.text text).leaves.mapM registry.resolveLeaf).isOk := by
    rw [isPrivilegeList, PrivilegeSpec.leaves, Outcome.isOk_mapM, List.all_map]
    rfl
  rw [hleaves, Outcome.isOk_eq_true_iff]
  simp only [Registry.resolve, Outcome.map_eq_ok_iff]
  constructor
  · intro h
    obtain ⟨masks, hmasks⟩ := h
    exact ⟨_, masks, hmasks, rfl⟩
  · intro h
    obtain ⟨_, masks, hmasks, -⟩ := h
    exact ⟨masks, hmasks⟩

theorem ne_empty_of_isIdentifier (h : isIdentifier text = true) : text ≠ "" := by
  intro hempty
  rw [hempty] at h
  contradiction

end

/-- A text is valid exactly if it is read as a permission with a valid identifier. -/
theorem isPermission_iff_ofText [SizeLimit] {registry : Registry} {text : String}
    (hsize : ∀ before after, Text.cutLast ':' text.toList = some (before, after) →
      (Matcher.compile? (String.ofList before)).isSome = true) :
    isPermission registry text = true ↔
      ∃ permission, Permission.ofText registry text = .ok permission ∧
        isIdentifier permission.identifier = true := by
  unfold isPermission Permission.ofText
  cases hcut : Text.cutLast ':' text.toList with
  | none =>
      simp
  | some parts =>
      obtain ⟨before, after⟩ := parts
      obtain ⟨matcher, hmatcher⟩ := Option.isSome_iff_exists.1 (hsize before after hcut)
      simp only [Bool.and_eq_true, isPrivilegeList_iff, Permission.ofParts_eq_ok_iff,
        Permission.compileIdentifier_eq_ok_iff]
      constructor
      · intro h
        obtain ⟨hidentifier, mask, hmask⟩ := h
        have hcompiled := And.intro (ne_empty_of_isIdentifier hidentifier) hmatcher
        exact ⟨_, ⟨matcher, mask, hcompiled, hmask, rfl⟩, hidentifier⟩
      · intro h
        obtain ⟨_, ⟨_, mask, -, hmask, rfl⟩, hidentifier⟩ := h
        exact ⟨hidentifier, mask, hmask⟩

theorem isPermission_iff_ofText_two_colons :
    isPermission .standard "doc:1:007,read" = true ∧
    ∃ permission, Permission.ofText .standard "doc:1:007,read" = .ok permission ∧
      isIdentifier permission.identifier = true := by
  have hcut : Text.cutLast ':' "doc:1:007,read".toList =
      some ("doc:1".toList, "007,read".toList) := by
    decide +kernel
  have hcompiles : (Matcher.compile? (String.ofList "doc:1".toList)).isSome = true := by
    decide +kernel
  have hsize : ∀ before after, Text.cutLast ':' "doc:1:007,read".toList = some (before, after) →
      (Matcher.compile? (String.ofList before)).isSome = true := by
    intro before after h
    rw [hcut] at h
    cases h
    exact hcompiles
  have hvalid : isPermission .standard "doc:1:007,read" = true := by
    decide +kernel
  exact ⟨hvalid, (isPermission_iff_ofText hsize).1 hvalid⟩

end Validation

end Entitlements
