import Entitlements.Document.Permission
import Entitlements.Pattern.RunLimit
import Entitlements.Proofs.Document.Field
import Entitlements.Proofs.Session.Sources

/-!
# Permissions written and read

A document keeps the identifier and the mask of a permission but not its registry. It is
read on the reader's registry, and a set is read as its members are, in order.
-/

namespace Entitlements

namespace Permission

section

variable {permission : Permission} {room : Nat}

theorem exact_toJson (permission : Permission) : Json.Exact (room + 1) permission.toJson := by
  refine .object ?_
  simp only [List.forall_mem_cons]
  exact ⟨Json.exact_string room _, Json.exact_natural room _, by simp⟩

variable [SizeLimit]

theorem readPermission_toJson (registry : Registry) (permission : Permission) :
    Document.readPermission registry permission.toJson =
      (ofRecord registry permission.toRecord).mapError .refused := by
  have hfields : Document.permissionLayout.read permission.toJson =
      .ok (permission.identifier, permission.privileges) :=
    Document.Layout.read_object (by decide) rfl rfl
  rw [Document.readPermission, hfields]
  rfl

theorem ofJson_toJson (registry : Registry) (permission : Permission) :
    ofJson registry permission.toJson.text =
      (ofRecord registry permission.toRecord).mapError .refused := by
  have hexact : Json.Exact Json.maxDepth permission.toJson := exact_toJson permission
  rw [ofJson, Document.readAll_text hexact, readPermission_toJson]

theorem WellFormed.ofJson_toJson (h : permission.WellFormed) (registry : Registry) :
    ofJson registry permission.toJson.text =
      if permission.privileges.beyond registry.max = 0 then .ok { permission with registry }
      else .error (.refused (.outOfRange (toString permission.privileges) registry.max)) := by
  rw [Permission.ofJson_toJson, h.ofRecord_toRecord]
  split
  · rfl
  · rfl

theorem WellFormed.exists_ofJson_iff (h : permission.WellFormed) (registry : Registry) :
    (∃ read, ofJson registry permission.toJson.text = .ok read) ↔
      permission.privileges.beyond registry.max = 0 := by
  simp only [Permission.ofJson_toJson, Outcome.mapError_eq_ok_iff]
  exact h.exists_ofRecord_iff registry

end

end Permission

namespace PermissionSet

section

variable {set : PermissionSet} {registry : Registry}

theorem exact_toJson (set : PermissionSet) : Json.Exact Json.maxDepth set.toJson := by
  refine .array ?_
  rw [List.forall_mem_map]
  intro permission _
  exact Permission.exact_toJson permission

variable [SizeLimit]

/-- A set is read as if each member had a document of its own. -/
theorem ofJson_toJson (registry : Registry) (set : PermissionSet) :
    ofJson registry set.toJson.text =
      (set.permissions.mapM fun member => Permission.ofJson registry member.toJson.text).map
        (ofPermissions registry) := by
  have hmember : ∀ member : Permission,
      Document.readPermission registry member.toJson =
        Permission.ofJson registry member.toJson.text := by
    intro member
    rw [Permission.ofJson_toJson, Permission.readPermission_toJson]
  rw [ofJson, Document.readAll_text (exact_toJson set), toJson, Document.readPermissions,
    List.mapM_map]
  simp only [Function.comp_def, hmember]

theorem WellFormed.ofJson_toJson (h : set.WellFormed)
    (hbits : ∀ member ∈ set.permissions, member.privileges.beyond registry.max = 0) :
    ofJson registry set.toJson.text =
      .ok
        { permissions := set.permissions.map fun member => { member with registry }
          registry } := by
  have hmembers : (set.permissions.mapM fun member =>
      Permission.ofJson registry member.toJson.text) =
        .ok (set.permissions.map fun member => { member with registry }) := by
    rw [Outcome.mapM_eq_ok_iff, List.forall₂_map_right_iff, List.forall₂_same]
    intro member hmember
    rw [(h member hmember).ofJson_toJson, if_pos (hbits member hmember)]
  have hregistry : ∀ members : List Permission,
      ofPermissions registry (members.map fun member => { member with registry }) =
        { permissions := members.map fun member => { member with registry }, registry } := by
    intro members
    cases members with
    | nil =>
        rfl
    | cons member members =>
        rfl
  rw [PermissionSet.ofJson_toJson, hmembers, ← hregistry]
  rfl

theorem WellFormed.exists_ofJson_iff (h : set.WellFormed) (registry : Registry) :
    (∃ read, ofJson registry set.toJson.text = .ok read) ↔
      ∀ member ∈ set.permissions, member.privileges.beyond registry.max = 0 := by
  constructor
  · rintro ⟨read, hread⟩ member hmember
    rw [PermissionSet.ofJson_toJson, Outcome.map_eq_ok_iff] at hread
    obtain ⟨members, hmembers, -⟩ := hread
    obtain ⟨result, -, hresult⟩ := Outcome.exists_mem_of_mapM hmember hmembers
    exact ((h member hmember).exists_ofJson_iff registry).1 ⟨result, hresult⟩
  · intro hbits
    exact ⟨_, h.ofJson_toJson hbits⟩

theorem WellFormed.exists_first_of_ofJson_error (h : set.WellFormed)
    {failure : Document.Failure Error} (hread : ofJson registry set.toJson.text = .error failure) :
    ∃ front member back, set.permissions = front ++ member :: back ∧
      (∀ before ∈ front, before.privileges.beyond registry.max = 0) ∧
      member.privileges.beyond registry.max ≠ 0 ∧
      Permission.ofJson registry member.toJson.text = .error failure := by
  have hmembers : (set.permissions.mapM fun member =>
      Permission.ofJson registry member.toJson.text) = .error failure := by
    rw [PermissionSet.ofJson_toJson] at hread
    cases hresult : set.permissions.mapM fun member =>
        Permission.ofJson registry member.toJson.text with
    | error first =>
        rw [hresult] at hread
        cases hread
        rfl
    | ok members =>
        rw [hresult] at hread
        contradiction
  obtain ⟨front, member, back, hsplit, hfront,
      (hmember : Permission.ofJson registry member.toJson.text = .error failure)⟩ :=
    Outcome.mapM_eq_error_iff.1 hmembers
  have hwell : ∀ other ∈ front ++ member :: back, other.WellFormed := by
    rw [← hsplit]
    exact h
  refine ⟨front, member, back, hsplit, ?_, ?_, hmember⟩
  · intro before hbefore
    have hearlier := hwell before (List.mem_append_left _ hbefore)
    exact (hearlier.exists_ofJson_iff registry).1 (hfront before hbefore)
  · intro hbits
    have hoffending := hwell member (by simp)
    obtain ⟨read, hok⟩ := (hoffending.exists_ofJson_iff registry).2 hbits
    rw [hok] at hmember
    contradiction

end

/--
On any registry a permission's document is read exactly if the registry has the bits of its
mask, as the same identifier and mask. A set's document is read exactly if it has the bits
of every member, as the same members in order; otherwise it is refused as the first member
is whose bits are missing.
-/
theorem ofJson_toJson_iff [SizeLimit] (registry : Registry) :
    (∀ permission : Permission, permission.WellFormed →
      ((∃ read, Permission.ofJson registry permission.toJson.text = .ok read) ↔
        permission.privileges.beyond registry.max = 0) ∧
      ∀ read, Permission.ofJson registry permission.toJson.text = .ok read →
        read.identifier = permission.identifier ∧ read.privileges = permission.privileges ∧
        read.registry = registry) ∧
    ∀ set : PermissionSet, set.WellFormed →
      ((∃ read, ofJson registry set.toJson.text = .ok read) ↔
        ∀ member ∈ set.permissions, member.privileges.beyond registry.max = 0) ∧
      (∀ read, ofJson registry set.toJson.text = .ok read →
        read.permissions.map Permission.toRecord = set.permissions.map Permission.toRecord ∧
        read.registry = registry) ∧
      ∀ failure, ofJson registry set.toJson.text = .error failure →
        ∃ front member back, set.permissions = front ++ member :: back ∧
          (∀ before ∈ front, before.privileges.beyond registry.max = 0) ∧
          member.privileges.beyond registry.max ≠ 0 ∧
          Permission.ofJson registry member.toJson.text = .error failure := by
  constructor
  · intro permission h
    refine ⟨h.exists_ofJson_iff registry, ?_⟩
    intro read hread
    rw [Permission.ofJson_toJson, Outcome.mapError_eq_ok_iff] at hread
    rw [h.eq_of_ofRecord hread]
    exact ⟨rfl, rfl, rfl⟩
  · intro set h
    refine ⟨h.exists_ofJson_iff registry, ?_, fun failure => h.exists_first_of_ofJson_error⟩
    intro read hread
    have hbits := (h.exists_ofJson_iff registry).1 ⟨read, hread⟩
    rw [h.ofJson_toJson hbits] at hread
    cases hread
    refine ⟨?_, rfl⟩
    rw [List.map_map]
    rfl

def narrow : Registry := .ofMask 7 (by decide)

def onStandard (first second : Permission.Record) : PermissionSet where
  permissions :=
    [Permission.onRegistry .standard first.identifier first.privileges,
      Permission.onRegistry .standard second.identifier second.privileges]
  registry := .standard

theorem ofJson_toJson_iff_narrow :
    (∃ read, Permission.ofJson narrow (Permission.onRegistry .standard "a:b" 2).toJson.text =
        .ok read ∧
      read.identifier = "a:b" ∧ read.privileges = 2 ∧ read.registry = narrow) ∧
    (∃ read, ofJson narrow (onStandard ⟨"räume/\"7\"", 5⟩ ⟨"a:b", 2⟩).toJson.text = .ok read ∧
      read.permissions.map Permission.toRecord = [⟨"räume/\"7\"", 5⟩, ⟨"a:b", 2⟩]) ∧
    ∃ failure, ofJson narrow (onStandard ⟨"räume/\"7\"", 5⟩ ⟨"a:b", 8⟩).toJson.text =
        .error failure ∧
      Permission.ofJson narrow (Permission.onRegistry .standard "a:b" 8).toJson.text =
        .error failure := by
  have hroom : (Permission.onRegistry .standard "räume/\"7\"" 5).WellFormed :=
    Permission.wellFormed_onRegistry (by decide +kernel)
  have hinner : (Permission.onRegistry .standard "a:b" 2).WellFormed :=
    Permission.wellFormed_onRegistry (by decide +kernel)
  have houter : (Permission.onRegistry .standard "a:b" 8).WellFormed :=
    Permission.wellFormed_onRegistry (by decide +kernel)
  refine ⟨?_, ?_, ?_⟩
  · obtain ⟨hiff, hfields⟩ := (ofJson_toJson_iff narrow).1 _ hinner
    obtain ⟨read, hread⟩ := hiff.2 (by decide +kernel)
    exact ⟨read, hread, hfields read hread⟩
  · have hset : (onStandard ⟨"räume/\"7\"", 5⟩ ⟨"a:b", 2⟩).WellFormed := by
      simp only [WellFormed, onStandard, List.forall_mem_cons]
      exact ⟨hroom, hinner, by simp⟩
    obtain ⟨hiff, hfields, -⟩ := (ofJson_toJson_iff narrow).2 _ hset
    obtain ⟨read, hread⟩ := hiff.2 (by decide +kernel)
    exact ⟨read, hread, (hfields read hread).1⟩
  · have hset : (onStandard ⟨"räume/\"7\"", 5⟩ ⟨"a:b", 8⟩).WellFormed := by
      simp only [WellFormed, onStandard, List.forall_mem_cons]
      exact ⟨hroom, houter, by simp⟩
    obtain ⟨hiff, -, hfirst⟩ := (ofJson_toJson_iff narrow).2 _ hset
    cases hresult : ofJson narrow (onStandard ⟨"räume/\"7\"", 5⟩ ⟨"a:b", 8⟩).toJson.text with
    | ok read =>
        have hbits := hiff.1 ⟨read, hresult⟩
        exact absurd hbits (by decide +kernel)
    | error failure =>
        obtain ⟨front, member, back, hsplit, -, hmissing, hmember⟩ := hfirst failure hresult
        have hmem : member ∈ (onStandard ⟨"räume/\"7\"", 5⟩ ⟨"a:b", 8⟩).permissions := by
          rw [hsplit]
          simp
        simp only [onStandard, List.mem_cons, List.not_mem_nil, or_false] at hmem
        rcases hmem with rfl | rfl
        · exact absurd (by decide +kernel) hmissing
        · exact ⟨failure, rfl, hmember⟩

end PermissionSet

end Entitlements
