import Entitlements.Proofs.Registry.Resolution

/-!
# Nested arguments

A registry resolves a list to the masks of its items together, so an argument may be
flattened: the text of its leaves resolves to the same mask. If there is none, the first
leaf that fails says why. Only an empty list is told apart from its text, which fails
for another reason.
-/

namespace Entitlements

namespace Registry

open PrivilegeSpec (Part)

/-- The mask stands in the argument, or is what one of its tokens resolves to. -/
def Mentions (registry : Registry) (spec : PrivilegeSpec) (m : Mask) : Prop :=
  Part (.mask m) spec ∨
    ∃ text token, Part (.text text) spec ∧ token ∈ Text.tokens text ∧
      registry.resolveToken token = .ok m

section

variable {registry : Registry} {spec : PrivilegeSpec} {leaf : PrivilegeSpec.Leaf} {mask m : Mask}
  {masks : List Mask} {items : List PrivilegeSpec} {i : Nat}

/-! ## Leaves and their text -/

/-- The empty token is unknown, as no privilege has an empty name. -/
theorem resolveToken_empty : registry.resolveToken "" = .error (.unknownPrivilege "") := by
  have hform : tokenForm "" = .name := by decide +kernel
  have hlookup : registry.privilege? "" = none := by
    cases hmask : registry.privilege? "" with
    | none =>
        rfl
    | some mask =>
        exact absurd rfl (validEntry_of_mem (Table.mem_of_mask?_eq_some hmask)).1
  simp [resolveToken, hform, hlookup]

theorem resolveToken_toText (h : leaf ≠ .void) :
    registry.resolveToken leaf.toText = registry.resolveLeaf leaf := by
  cases leaf with
  | mask m =>
      exact registry.resolveToken_toString m
  | token t =>
      rfl
  | void =>
      contradiction

/-- An empty list and its text fail both, though not alike. -/
theorem resolveToken_toText_eq_ok_iff :
    registry.resolveToken leaf.toText = .ok mask ↔ registry.resolveLeaf leaf = .ok mask := by
  by_cases hvoid : leaf = .void
  · rw [hvoid, PrivilegeSpec.Leaf.toText, resolveToken_empty, resolveLeaf]
    simp
  · rw [resolveToken_toText hvoid]

theorem resolve_toText (registry : Registry) (spec : PrivilegeSpec) :
    registry.resolve (.text spec.toText) =
      (spec.leaves.mapM fun leaf => registry.resolveToken leaf.toText).map Mask.union := by
  rw [resolve, PrivilegeSpec.leaves, PrivilegeSpec.tokens_toText, List.map_map, List.mapM_map]
  rfl

theorem resolve_toText_eq_ok_iff :
    registry.resolve (.text spec.toText) = .ok mask ↔ registry.resolve spec = .ok mask := by
  rw [resolve_toText, resolve]
  simp only [Outcome.map_eq_ok_iff, Outcome.mapM_eq_ok_iff, resolveToken_toText_eq_ok_iff]

theorem resolve_toText_of_not_part (h : ¬ Part (.list []) spec) :
    registry.resolve (.text spec.toText) = registry.resolve spec := by
  have hleaves : (spec.leaves.mapM fun leaf => registry.resolveToken leaf.toText) =
      spec.leaves.mapM registry.resolveLeaf := by
    apply Outcome.mapM_congr
    intro leaf hleaf
    apply resolveToken_toText
    intro hvoid
    rw [hvoid] at hleaf
    exact h (PrivilegeSpec.void_mem_leaves_iff.1 hleaf)
  rw [resolve_toText, hleaves, resolve]

/-! ## Lists -/

/-- A list resolves to the masks of its items together, or fails as the first item that does. -/
theorem resolve_list (registry : Registry) (h : items ≠ []) :
    registry.resolve (.list items) = (items.mapM registry.resolve).map Mask.union := by
  have hitems : items.mapM registry.resolve =
      (items.mapM fun item : PrivilegeSpec => item.leaves.mapM registry.resolveLeaf).map
        (List.map Mask.union) :=
    Outcome.mapM_map_result
  rw [resolve, PrivilegeSpec.leaves_list h, Outcome.mapM_flatMap, hitems]
  -- the masks of the items are united one item at a time or all at once
  cases items.mapM fun item : PrivilegeSpec => item.leaves.mapM registry.resolveLeaf with
  | error e =>
      rfl
  | ok rows =>
      exact congrArg Except.ok (Mask.union_flatten rows)

/-- A list asks for what its items ask for, one after another, or fails as the first that does. -/
theorem query_list (registry : Registry) (h : items ≠ []) :
    registry.query (.list items) = (items.mapM registry.query).map List.flatten := by
  rw [query, PrivilegeSpec.leaves_list h, Outcome.mapM_flatMap]
  rfl

theorem resolve_eq_error_iff {error : Error} :
    registry.resolve spec = .error error ↔
      Outcome.FailsFirst registry.resolveLeaf spec.leaves error := by
  rw [resolve, Outcome.map_eq_error_iff, Outcome.mapM_eq_error_iff]

/-! ## What an argument asks for -/

theorem queryLeaf_of_resolveLeaf (h : registry.resolveLeaf leaf = .ok m) :
    registry.queryLeaf leaf = .ok m := by
  cases leaf with
  | mask bare =>
      obtain ⟨rfl, -⟩ := inRange_eq_ok_iff.1 h
      rfl
  | token t =>
      exact h
  | void =>
      contradiction

/-- An argument that resolves asks for masks that make up the one it resolves to. -/
theorem exists_query_of_resolve (h : registry.resolve spec = .ok mask) :
    ∃ masks, registry.query spec = .ok masks ∧ Mask.union masks = mask ∧ ∀ m ∈ masks, m ≠ 0 := by
  obtain ⟨masks, hmasks, hunion⟩ := Outcome.map_eq_ok_iff.1 h
  have hquery : registry.query spec = .ok masks :=
    Outcome.mapM_eq_ok_iff.2
      ((Outcome.mapM_eq_ok_iff.1 hmasks).imp fun _ _ => queryLeaf_of_resolveLeaf)
  have hne := Outcome.forall_mem_of_mapM (fun _ _ => resolveLeaf_inRange) hmasks
  exact ⟨masks, hquery, hunion, fun m hm => (hne m hm).1⟩

theorem mem_query_iff (h : registry.query spec = .ok masks) :
    m ∈ masks ↔ registry.Mentions spec m := by
  rw [Outcome.mem_iff_of_mapM h]
  constructor
  · intro hm
    obtain ⟨leaf, hleaf, hasked⟩ := hm
    cases leaf with
    | mask bare =>
        obtain rfl : bare = m := by simpa [queryLeaf] using hasked
        exact .inl (PrivilegeSpec.mask_mem_leaves_iff.1 hleaf)
    | token token =>
        obtain ⟨text, hpart, htoken⟩ := PrivilegeSpec.token_mem_leaves_iff.1 hleaf
        exact .inr ⟨text, token, hpart, htoken, hasked⟩
    | void =>
        contradiction
  · intro hm
    rcases hm with hpart | ⟨text, token, hpart, htoken, hasked⟩
    · exact ⟨.mask m, PrivilegeSpec.mask_mem_leaves_iff.2 hpart, rfl⟩
    · exact ⟨.token token, PrivilegeSpec.token_mem_leaves_iff.2 ⟨text, hpart, htoken⟩, hasked⟩

theorem hasBit_resolve_iff (h : registry.resolve spec = .ok mask) :
    mask.HasBit i ↔ ∃ m, registry.Mentions spec m ∧ m.HasBit i := by
  obtain ⟨masks, hmasks, rfl, -⟩ := exists_query_of_resolve h
  simp only [Mask.hasBit_union_iff, mem_query_iff hmasks]

theorem exists_query_eq_error_iff :
    (∃ error, registry.query spec = .error error) ↔
      (∃ text token error, Part (.text text) spec ∧ token ∈ Text.tokens text ∧
        registry.resolveToken token = .error error) ∨ Part (.list []) spec := by
  rw [query, Outcome.exists_mapM_eq_error_iff]
  constructor
  · intro h
    obtain ⟨leaf, hleaf, error, herror⟩ := h
    cases leaf with
    | mask m =>
        contradiction
    | token token =>
        obtain ⟨text, hpart, htoken⟩ := PrivilegeSpec.token_mem_leaves_iff.1 hleaf
        exact .inl ⟨text, token, error, hpart, htoken, herror⟩
    | void =>
        exact .inr (PrivilegeSpec.void_mem_leaves_iff.1 hleaf)
  · intro h
    rcases h with ⟨text, token, error, hpart, htoken, herror⟩ | hpart
    · exact ⟨.token token, PrivilegeSpec.token_mem_leaves_iff.2 ⟨text, hpart, htoken⟩, error,
        herror⟩
    · exact ⟨.void, PrivilegeSpec.void_mem_leaves_iff.2 hpart, .emptyPrivilegeList, rfl⟩

end

/--
An argument and its text, which has no nesting, resolve to the same mask or neither does.
Without an empty list they also fail alike, with the error of the first leaf from the left
that fails. A list is its items together. The mask is made up of those that the argument
mentions, is not zero and has configured bits only.
-/
theorem resolve_flattened (registry : Registry) (spec : PrivilegeSpec) :
    (∀ mask, registry.resolve (.text spec.toText) = .ok mask ↔ registry.resolve spec = .ok mask) ∧
    (¬ Part (.list []) spec →
      registry.resolve (.text spec.toText) = registry.resolve spec) ∧
    (∀ error, registry.resolve spec = .error error ↔
      Outcome.FailsFirst registry.resolveLeaf spec.leaves error) ∧
    (∀ items, items ≠ [] →
      registry.resolve (.list items) = (items.mapM registry.resolve).map Mask.union) ∧
    ∀ mask, registry.resolve spec = .ok mask →
      (∀ i, mask.HasBit i ↔ ∃ m, registry.Mentions spec m ∧ m.HasBit i) ∧
        mask ≠ 0 ∧ mask.beyond registry.max = 0 := by
  refine ⟨fun _ => resolve_toText_eq_ok_iff, resolve_toText_of_not_part,
    fun _ => resolve_eq_error_iff, fun _ => registry.resolve_list, ?_⟩
  intro mask hmask
  exact ⟨fun _ => hasBit_resolve_iff hmask, resolve_inRange hmask⟩

/-- A list in a list, with a text of two tokens; and one that fails at its first mask. -/
theorem resolve_flattened_nested :
    let nested := PrivilegeSpec.list [.mask 3, .list [.text "own,read"], .text "012"]
    let failing := PrivilegeSpec.list [.text "read", .list [.mask 0, .text "bogus"]]
    Registry.standard.resolve nested = .ok 47 ∧
      Registry.standard.resolve (.text "3,own,read,012") = .ok 47 ∧
      (∃ m, Registry.standard.Mentions nested m ∧ m.HasBit 5) ∧
      Registry.standard.resolve (.text failing.toText) = Registry.standard.resolve failing ∧
      Outcome.FailsFirst Registry.standard.resolveLeaf failing.leaves (.outOfRange "0" 127) := by
  intro nested failing
  have htext : nested.toText = "3,own,read,012" := by decide +kernel
  have hnested : Registry.standard.resolve nested = .ok 47 := by rfl
  have hfailing : Registry.standard.resolve failing = .error (.outOfRange "0" 127) := by rfl
  have hitems : ¬ Part (.list []) failing := by
    rw [← PrivilegeSpec.void_mem_leaves_iff]
    decide +kernel
  obtain ⟨hsame, -, -, -, hmask⟩ := resolve_flattened .standard nested
  obtain ⟨-, hequal, hfirst, -, -⟩ := resolve_flattened .standard failing
  rw [← htext]
  exact ⟨hnested, (hsame 47).2 hnested, ((hmask 47 hnested).1 5).1 (by decide +kernel),
    hequal hitems, (hfirst _).1 hfailing⟩

end Registry

end Entitlements
