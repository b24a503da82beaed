import Entitlements.Proofs.Permission.Arguments
import Entitlements.Proofs.Permission.Written

/-!
# Permissions read back

The text of a permission ends in its mask as a decimal number. It stands for the same
permission on every registry that has the bits of the mask, whatever the identifier
holds, and for none on any other.
-/

namespace Entitlements

namespace Argument

/--
No permission and no set on the registry tells the arguments apart, neither among the
requested ones nor as the candidate of a grant.
-/
structure Alike [SizeLimit] (registry : Registry) (first second : Argument) : Prop where
  allows : ∀ receiver : Permission, receiver.registry = registry → ∀ before after,
    receiver.allows (before ++ first :: after) = receiver.allows (before ++ second :: after)
  mayGrantTo : ∀ receiver : Permission, receiver.registry = registry → ∀ held,
    receiver.mayGrantTo first held = receiver.mayGrantTo second held
  setAllows : ∀ receiver : PermissionSet, receiver.registry = registry → ∀ before after,
    receiver.allows (before ++ first :: after) = receiver.allows (before ++ second :: after)
  setMayGrantTo : ∀ receiver : PermissionSet, receiver.registry = registry → ∀ held,
    receiver.mayGrantTo first held = receiver.mayGrantTo second held

section

variable [SizeLimit] {registry : Registry} {first second : Argument}

theorem resolveAll_congr (h : first.resolve registry = second.resolve registry)
    (before after : List Argument) :
    resolveAll registry (before ++ first :: after) =
      resolveAll registry (before ++ second :: after) := by
  simp only [resolveAll, List.mapM_append, List.mapM_cons, h]

/-- Arguments matter only for what the registry of the receiver reads them as. -/
theorem alike_of_resolve_eq (h : first.resolve registry = second.resolve registry) :
    Alike registry first second where
  allows receiver hregistry before after := by
    rw [Permission.allows, Permission.allows, hregistry, resolveAll_congr h]
  mayGrantTo receiver hregistry held := by
    rw [Permission.mayGrantTo, Permission.mayGrantTo, hregistry, h]
  setAllows receiver hregistry before after := by
    rw [PermissionSet.allows, PermissionSet.allows, hregistry, resolveAll_congr h]
  setMayGrantTo receiver hregistry held := by
    rw [PermissionSet.mayGrantTo, PermissionSet.mayGrantTo, hregistry, h]

end

end Argument

namespace Permission

section

variable {permission read : Permission} {registry : Registry}

theorem cutLast_toText (permission : Permission) :
    Text.cutLast ':' permission.toText.toList =
      some (permission.identifier.toList, (toString permission.privileges).toList) := by
  rw [Text.cutLast_eq_some_iff]
  exact ⟨by simp [toText], Mask.notMem_toString (by decide) _⟩

variable [SizeLimit]

theorem ofText_toText (registry : Registry) (permission : Permission) :
    ofText registry permission.toText = ofRecord registry permission.toRecord := by
  simp only [ofText, cutLast_toText, String.ofList_toList, ofParts, Registry.resolve_toString]
  rfl

theorem WellFormed.ofText_toText (h : permission.WellFormed) :
    ofText permission.registry permission.toText = .ok permission := by
  rw [Permission.ofText_toText, h.ofRecord_toRecord, if_pos h.configured]

theorem WellFormed.alike_toText (h : permission.WellFormed) :
    Argument.Alike permission.registry (.text permission.toText) (.built permission) :=
  Argument.alike_of_resolve_eq h.ofText_toText

end

/--
The text of a permission is read on exactly the registries that have the bits of its
mask, as the same identifier and mask. Its fields are accepted there too, and what was
read may be passed on as a text or as it is.
-/
theorem ofText_toText_iff [SizeLimit] {permission : Permission} (h : permission.WellFormed)
    (registry : Registry) :
    ((∃ read, ofText registry permission.toText = .ok read) ↔
      permission.privileges.beyond registry.max = 0) ∧
    ∀ read, ofText registry permission.toText = .ok read →
      read.identifier = permission.identifier ∧ read.privileges = permission.privileges ∧
      read.registry = registry ∧
      (∃ rebuilt, ofRecord registry permission.toRecord = .ok rebuilt ∧
        (rebuilt == permission) = true) ∧
      Argument.Alike read.registry (.text read.toText) (.built read) := by
  rw [ofText_toText]
  refine ⟨h.exists_ofRecord_iff registry, ?_⟩
  intro read hread
  have hsame : read = { permission with registry } := h.eq_of_ofRecord hread
  have hequal : (read == permission) = true := by
    rw [beq_iff, hsame]
    exact ⟨rfl, rfl⟩
  have halike := (wellFormed_ofParts hread).alike_toText
  exact ⟨by rw [hsame], by rw [hsame], by rw [hsame], ⟨read, hread, hequal⟩, halike⟩

theorem ofText_toText_iff_unicode :
    (∃ read, ofText withQualifiedRead (onRegistry .standard "räume:7,8/*" 5).toText = .ok read ∧
      read.identifier = "räume:7,8/*" ∧ read.privileges = 5) ∧
    ¬ ∃ read,
      ofText withQualifiedRead (onRegistry .standard "räume:7,8/*" 8).toText = .ok read := by
  have hreader : (onRegistry .standard "räume:7,8/*" 5).WellFormed :=
    wellFormed_onRegistry (by decide +kernel)
  have hdeleter : (onRegistry .standard "räume:7,8/*" 8).WellFormed :=
    wellFormed_onRegistry (by decide +kernel)
  constructor
  · obtain ⟨hiff, hfields⟩ := ofText_toText_iff hreader withQualifiedRead
    obtain ⟨read, hread⟩ := hiff.2 (by decide +kernel)
    obtain ⟨hidentifier, hprivileges, -⟩ := hfields read hread
    exact ⟨read, hread, hidentifier, hprivileges⟩
  · intro hread
    have hbits := (ofText_toText_iff hdeleter withQualifiedRead).1.1 hread
    exact absurd hbits (by decide +kernel)

end Permission

end Entitlements
