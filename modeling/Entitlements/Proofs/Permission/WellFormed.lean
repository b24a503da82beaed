import Entitlements.Proofs.Pattern.Compiled
import Entitlements.Proofs.Registry.Resolution
import Entitlements.Permission.Basic

/-!
# Well-formed permissions

Every way to build or change a permission checks its identifier and its mask. What is
built is well formed, and what is well formed can be built again.
-/

namespace Entitlements.Permission

variable [SizeLimit]

structure WellFormed (permission : Permission) : Prop where
  identifier_ne : permission.identifier ≠ ""
  compiled : Matcher.compile? permission.identifier = some permission.matcher
  privileges_ne : permission.privileges ≠ 0
  configured : permission.privileges.beyond permission.registry.max = 0

section

variable {registry : Registry} {identifier text : String} {spec : PrivilegeSpec}
  {matcher : Matcher} {permission changed : Permission} {mask : Mask}

theorem compileIdentifier_eq_ok_iff :
    compileIdentifier identifier = .ok matcher ↔
      identifier ≠ "" ∧ Matcher.compile? identifier = some matcher := by
  unfold compileIdentifier
  by_cases hempty : identifier = ""
  · simp [hempty]
  · cases hcompile : Matcher.compile? identifier with
    | none =>
        simp [hempty]
    | some found =>
        simp [hempty]

theorem ofParts_eq_ok_iff :
    ofParts registry identifier spec = .ok permission ↔
      ∃ matcher mask, compileIdentifier identifier = .ok matcher ∧
        registry.resolve spec = .ok mask ∧
          permission = { identifier, privileges := mask, registry, matcher } := by
  unfold ofParts
  simp only [Outcome.bind_eq_ok_iff]
  constructor
  · intro h
    obtain ⟨matcher, hmatcher, mask, hmask, heq⟩ := h
    cases heq
    exact ⟨matcher, mask, hmatcher, hmask, rfl⟩
  · intro h
    obtain ⟨matcher, mask, hmatcher, hmask, rfl⟩ := h
    exact ⟨matcher, hmatcher, mask, hmask, rfl⟩

theorem wellFormed_ofParts (h : ofParts registry identifier spec = .ok permission) :
    permission.WellFormed := by
  obtain ⟨matcher, mask, hmatcher, hmask, rfl⟩ := ofParts_eq_ok_iff.1 h
  obtain ⟨hidentifier, hcompile⟩ := compileIdentifier_eq_ok_iff.1 hmatcher
  obtain ⟨hzero, hbeyond⟩ := Registry.resolve_inRange hmask
  exact ⟨hidentifier, hcompile, hzero, hbeyond⟩

/-- Without its registry a permission can be built again on any registry that has its bits. -/
theorem WellFormed.ofRecord_toRecord (h : permission.WellFormed) (registry : Registry) :
    ofRecord registry permission.toRecord =
      if permission.privileges.beyond registry.max = 0 then .ok { permission with registry }
      else .error (.outOfRange (toString permission.privileges) registry.max) := by
  have hcompiled : compileIdentifier permission.identifier = .ok permission.matcher :=
    compileIdentifier_eq_ok_iff.2 ⟨h.identifier_ne, h.compiled⟩
  have hrange : registry.inRange permission.privileges (toString permission.privileges) =
      if permission.privileges.beyond registry.max = 0 then .ok permission.privileges
      else .error (.outOfRange (toString permission.privileges) registry.max) := by
    simp [Registry.inRange, h.privileges_ne]
  rw [ofRecord, ofParts, toRecord, hcompiled, Registry.resolve_mask, hrange]
  split
  · rfl
  · rfl

theorem WellFormed.exists_ofRecord_iff (h : permission.WellFormed) (registry : Registry) :
    (∃ read, ofRecord registry permission.toRecord = .ok read) ↔
      permission.privileges.beyond registry.max = 0 := by
  rw [h.ofRecord_toRecord]
  split
  · next hbits =>
      simp [hbits]
  · next hbits =>
      simp [hbits]

theorem WellFormed.eq_of_ofRecord (h : permission.WellFormed)
    (hread : ofRecord registry permission.toRecord = .ok changed) :
    changed = { permission with registry } := by
  have hbits := (h.exists_ofRecord_iff registry).1 ⟨changed, hread⟩
  rw [h.ofRecord_toRecord, if_pos hbits] at hread
  cases hread
  rfl

theorem wellFormed_ofText (h : ofText registry text = .ok permission) :
    permission.WellFormed := by
  unfold ofText at h
  split at h
  · exact wellFormed_ofParts h
  · contradiction

/-! ## Changes -/

theorem guarded_setIdentifier :
    Outcome.Guarded WellFormed (setIdentifier identifier) permission := by
  apply Outcome.guarded_ofExcept_bind
  intro matcher hmatcher
  obtain ⟨hidentifier, hcompile⟩ := compileIdentifier_eq_ok_iff.1 hmatcher
  refine Outcome.guarded_of_run_ok rfl fun h => ?_
  exact ⟨hidentifier, hcompile, h.privileges_ne, h.configured⟩

theorem guarded_setPrivileges :
    Outcome.Guarded WellFormed (setPrivileges spec) permission := by
  apply Outcome.guarded_get_bind
  apply Outcome.guarded_ofExcept_bind
  intro mask hmask
  obtain ⟨hzero, hbeyond⟩ := Registry.resolve_inRange hmask
  refine Outcome.guarded_of_run_ok rfl fun h => ?_
  exact ⟨h.identifier_ne, h.compiled, hzero, hbeyond⟩

theorem WellFormed.onCopy {edit : Edit} (h : permission.WellFormed)
    (hedit : Outcome.Guarded Permission.WellFormed edit permission)
    (hchanged : edit.onCopy permission = .ok changed) : changed.WellFormed := by
  unfold Edit.onCopy at hchanged
  unfold Outcome.Guarded at hedit
  split at hchanged
  · next result hrun =>
      cases hchanged
      rw [hrun] at hedit
      exact hedit h
  · contradiction

theorem WellFormed.withIdentifier (h : permission.WellFormed)
    (hchanged : permission.withIdentifier identifier = .ok changed) : changed.WellFormed :=
  h.onCopy guarded_setIdentifier hchanged

theorem WellFormed.withPrivileges (h : permission.WellFormed)
    (hchanged : permission.withPrivileges spec = .ok changed) : changed.WellFormed :=
  h.onCopy guarded_setPrivileges hchanged

end

def onRegistry (registry : Registry) (identifier : String) (privileges : Mask) : Permission where
  identifier := identifier
  privileges := privileges
  registry := registry
  matcher := Matcher.ofPattern identifier

theorem wellFormed_onRegistry {registry : Registry} {identifier : String} {privileges : Mask}
    (h : identifier ≠ "" ∧ SizeLimit.admits identifier.toList = true ∧
      privileges ≠ 0 ∧ privileges.beyond registry.max = 0) :
    (onRegistry registry identifier privileges).WellFormed := by
  obtain ⟨hidentifier, hsize, hprivileges, hconfigured⟩ := h
  exact ⟨hidentifier, Matcher.compile?_ofPattern hsize, hprivileges, hconfigured⟩

end Entitlements.Permission
