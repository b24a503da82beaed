import Entitlements.Proofs.Outcome
import Entitlements.Proofs.Privilege.Leaves
import Entitlements.Proofs.Registry.Tables

/-!
# Resolved masks

Whatever a registry resolves an argument to has bits, and only configured ones.
-/

namespace Entitlements

namespace Registry

section

variable {registry : Registry} {spec : PrivilegeSpec} {mask : Mask} {token name : String}
  {names : List String}

theorem inRange_eq_ok_iff {query : Mask} :
    registry.inRange query token = .ok mask ↔
      query = mask ∧ mask ≠ 0 ∧ mask.beyond registry.max = 0 := by
  unfold inRange
  constructor
  · intro h
    split at h
    · contradiction
    · next hrange =>
        cases h
        simpa using hrange
  · intro h
    obtain ⟨rfl, hzero, hbeyond⟩ := h
    simp [hzero, hbeyond]

theorem resolveToken_inRange (h : registry.resolveToken token = .ok mask) :
    mask ≠ 0 ∧ mask.beyond registry.max = 0 := by
  unfold resolveToken at h
  cases hform : tokenForm token with
  | number n =>
      simp only [hform] at h
      split at h
      · exact (inRange_eq_ok_iff.1 h).2
      · contradiction
  | negative =>
      simp only [hform] at h
      contradiction
  | name =>
      simp only [hform] at h
      cases hlookup : registry.privilege? token with
      | none =>
          simp [hlookup] at h
      | some found =>
          simp only [hlookup, Except.ok.injEq] at h
          rw [← h]
          exact privilege?_inRange hlookup

theorem resolveLeaf_inRange {leaf : PrivilegeSpec.Leaf} (h : registry.resolveLeaf leaf = .ok mask) :
    mask ≠ 0 ∧ mask.beyond registry.max = 0 := by
  cases leaf with
  | mask m =>
      exact (inRange_eq_ok_iff.1 h).2
  | token t =>
      exact resolveToken_inRange h
  | void =>
      contradiction

theorem resolve_inRange (h : registry.resolve spec = .ok mask) :
    mask ≠ 0 ∧ mask.beyond registry.max = 0 := by
  obtain ⟨masks, hmasks, rfl⟩ := Outcome.map_eq_ok_iff.1 h
  have hinRange := Outcome.forall_mem_of_mapM (fun _ _ => resolveLeaf_inRange) hmasks
  obtain ⟨first, hfirst⟩ :=
    List.exists_mem_of_ne_nil masks (Outcome.mapM_ne_nil spec.leaves_ne_nil hmasks)
  constructor
  · exact Mask.union_ne_zero_of_mem hfirst (hinRange first hfirst).1
  · rw [Mask.union_beyond_eq_zero_iff]
    intro mask hmask
    exact (hinRange mask hmask).2

theorem resolve_mask (registry : Registry) (mask : Mask) :
    registry.resolve (.mask mask) = registry.inRange mask (toString mask) := by
  have hleaf : registry.resolveLeaf (.mask mask) = registry.inRange mask (toString mask) := rfl
  rw [resolve, PrivilegeSpec.leaves, List.mapM_cons, List.mapM_nil, hleaf]
  cases registry.inRange mask (toString mask) with
  | error error =>
      rfl
  | ok found =>
      have hunion : Mask.union [found] = found := by
        simp
      exact congrArg Except.ok hunion

theorem resolveToken_toString (registry : Registry) (mask : Mask) :
    registry.resolveToken (toString mask) = registry.inRange mask (toString mask) := by
  have hsize : mask.toNat < UInt64.size := mask.toNat_lt_size
  simp only [resolveToken, tokenForm_toString, hsize, if_true, UInt64.ofNat_toNat]

/-- A mask resolves as its decimal text does, with the same error if it is out of range. -/
theorem resolve_toString (registry : Registry) (mask : Mask) :
    registry.resolve (.text (toString mask)) = registry.resolve (.mask mask) := by
  have htokens : Text.tokens (toString mask) = [toString mask] :=
    Text.tokens_of_notMem (Mask.notMem_toString (by decide) mask)
  have hleaf : registry.resolveLeaf (.token (toString mask)) = registry.resolveLeaf (.mask mask) :=
    registry.resolveToken_toString mask
  simp only [resolve, PrivilegeSpec.leaves, htokens, List.map_cons, List.map_nil,
    List.mapM_cons, hleaf]

/-! ## Configured names -/

theorem resolveToken_of_privilege? (h : registry.privilege? name = some mask) :
    registry.resolveToken name = .ok mask := by
  obtain ⟨-, -, hform, -⟩ := validEntry_of_mem (Table.mem_of_mask?_eq_some h)
  simp [resolveToken, hform, h]

theorem comma_notMem_of_privilege? (h : registry.privilege? name = some mask) :
    ',' ∉ name.toList :=
  (validEntry_of_mem (Table.mem_of_mask?_eq_some h)).2.1

theorem query_name (h : registry.privilege? name = some mask) :
    registry.query (.text name) = .ok [mask] := by
  have htokens : Text.tokens name = [name] := Text.tokens_of_notMem (comma_notMem_of_privilege? h)
  have hleaf : registry.queryLeaf (.token name) = .ok mask := resolveToken_of_privilege? h
  rw [query, PrivilegeSpec.leaves, htokens, List.map_singleton, List.mapM_cons, hleaf]
  rfl

theorem tokens_names (hne : names ≠ [])
    (h : ∀ name ∈ names, ∃ mask, registry.privilege? name = some mask) :
    Text.tokens (",".intercalate names) = names := by
  apply Text.tokens_intercalate hne
  intro name hname
  obtain ⟨mask, hmask⟩ := h name hname
  exact comma_notMem_of_privilege? hmask

theorem resolve_names (hne : names ≠ [])
    (h : ∀ name ∈ names, ∃ mask, registry.privilege? name = some mask) :
    registry.resolve (.text (",".intercalate names)) =
      .ok (Mask.union (names.filterMap registry.privilege?)) := by
  have hleaves : names.mapM (registry.resolveLeaf ∘ PrivilegeSpec.Leaf.token) =
      .ok (names.filterMap registry.privilege?) := by
    apply Outcome.mapM_eq_ok_filterMap
    intro name hname
    obtain ⟨mask, hmask⟩ := h name hname
    exact ⟨mask, hmask, resolveToken_of_privilege? hmask⟩
  rw [resolve, PrivilegeSpec.leaves, tokens_names hne h, List.mapM_map, hleaves]
  rfl

end

end Registry

end Entitlements
