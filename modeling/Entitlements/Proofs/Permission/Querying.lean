import Entitlements.Pattern.RunLimit
import Entitlements.Proofs.Permission.Arguments
import Entitlements.Proofs.Permission.WellFormed
import Entitlements.Proofs.Registry.Nesting

/-!
# Queries for privileges

A permission holds the argument that it was built from. Whatever it is asked for, a query
is read as a whole before anything is decided, and then each mask that the query mentions
has to be covered on its own.
-/

namespace Entitlements.Permission

section

variable {registry : Registry} {permission wider : Permission} {identifier : String}
  {spec : PrivilegeSpec} {mask : Mask} {error : Error} {answer : Bool}

theorem hasPrivileges_eq_error_iff :
    permission.hasPrivileges spec = .error error ↔
      permission.registry.query spec = .error error := by
  rw [hasPrivileges, Outcome.map_eq_error_iff]

theorem hasPrivileges_list {items : List PrivilegeSpec} (h : items ≠ []) :
    permission.hasPrivileges (.list items) =
      (items.mapM permission.hasPrivileges).map fun answers => answers.all id := by
  have hitems : items.mapM permission.hasPrivileges =
      (items.mapM permission.registry.query).map
        (List.map fun masks => masks.all permission.coversMask) :=
    Outcome.mapM_map_result
  rw [hasPrivileges, Registry.query_list _ h, hitems]
  cases items.mapM permission.registry.query with
  | error e =>
      rfl
  | ok rows =>
      have hall : rows.flatten.all permission.coversMask =
          (rows.map fun masks => masks.all permission.coversMask).all id := by
        rw [List.all_flatten, List.all_map]
        rfl
      exact congrArg Except.ok hall

theorem hasPrivileges_answer_iff (h : permission.hasPrivileges spec = .ok answer) :
    answer = true ↔ ∀ m, permission.registry.Mentions spec m →
      Mask.covers permission.privileges m = true := by
  obtain ⟨masks, hmasks, rfl⟩ := Outcome.map_eq_ok_iff.1 h
  simp only [List.all_eq_true, Registry.mem_query_iff hmasks]
  rfl

theorem hasPrivileges_of_resolve (h : permission.registry.resolve spec = .ok mask)
    (hwithin : mask.beyond permission.privileges = 0) :
    permission.hasPrivileges spec = .ok true := by
  obtain ⟨masks, hmasks, rfl, hne⟩ := Registry.exists_query_of_resolve h
  refine hasPrivileges_iff.2 ⟨masks, hmasks, ?_⟩
  intro m hm
  exact Mask.covers_of_beyond_eq_zero (hne m hm) (Mask.union_beyond_eq_zero_iff.1 hwithin m hm)

theorem hasPrivileges_of_ofParts [SizeLimit] (h : ofParts registry identifier spec = .ok permission)
    (hregistry : wider.registry = registry)
    (hwider : permission.privileges.beyond wider.privileges = 0) :
    wider.hasPrivileges spec = .ok true := by
  obtain ⟨matcher, mask, -, hmask, rfl⟩ := ofParts_eq_ok_iff.1 h
  rw [← hregistry] at hmask
  exact hasPrivileges_of_resolve hmask hwider

end

/--
A permission holds what it was built from, and so does every one on the same registry that
has its bits. In general a query fails at the first token that does not resolve or the
first empty list, held or not; if there is neither, the answer is whether each mask that it
mentions is covered. A list of queries is answered as they are one after another.
-/
theorem hasPrivileges_built [SizeLimit] :
    (∀ registry identifier spec permission, ofParts registry identifier spec = .ok permission →
      permission.hasPrivileges spec = .ok true ∧
      ∀ wider : Permission, wider.registry = registry →
        permission.privileges.beyond wider.privileges = 0 →
        wider.hasPrivileges spec = .ok true) ∧
    (∀ (permission : Permission) (spec : PrivilegeSpec),
      ((∃ error, permission.hasPrivileges spec = .error error) ↔
        (∃ text token error, PrivilegeSpec.Part (.text text) spec ∧ token ∈ Text.tokens text ∧
          permission.registry.resolveToken token = .error error) ∨
        PrivilegeSpec.Part (.list []) spec) ∧
      (∀ error, permission.hasPrivileges spec = .error error ↔
        Outcome.FailsFirst permission.registry.queryLeaf spec.leaves error) ∧
      ∀ answer, permission.hasPrivileges spec = .ok answer →
        (answer = true ↔ ∀ m, permission.registry.Mentions spec m →
          Mask.covers permission.privileges m = true)) ∧
    ∀ (permission : Permission) items, items ≠ [] →
      permission.registry.query (.list items) =
        (items.mapM permission.registry.query).map List.flatten ∧
      permission.hasPrivileges (.list items) =
        (items.mapM permission.hasPrivileges).map fun answers => answers.all id := by
  refine ⟨?_, ?_, fun _ _ h => ⟨Registry.query_list _ h, hasPrivileges_list h⟩⟩
  · intro registry identifier spec permission h
    have hregistry : permission.registry = registry := by
      obtain ⟨_, _, -, -, rfl⟩ := ofParts_eq_ok_iff.1 h
      rfl
    have hself : permission.privileges.beyond permission.privileges = 0 :=
      Mask.beyond_eq_zero_iff.2 fun _ hi => hi
    exact ⟨hasPrivileges_of_ofParts h hregistry hself, fun _ => hasPrivileges_of_ofParts h⟩
  · intro permission spec
    refine ⟨?_, ?_, fun _ => hasPrivileges_answer_iff⟩
    · simp only [hasPrivileges_eq_error_iff]
      exact Registry.exists_query_eq_error_iff
    · intro error
      rw [hasPrivileges_eq_error_iff, Registry.query, Outcome.mapM_eq_error_iff]

/--
What a permission is built from may have a mask in it with a gap. Another query names an
unknown privilege after one that is not held, and then has an empty list. A list is not
held where one of its masks is not.
-/
theorem hasPrivileges_built_gap :
    let spec := PrivilegeSpec.list [.text "read,update", .list [.mask 3]]
    let unknown := PrivilegeSpec.list [.text "admin,bogus", .list []]
    let built := onRegistry .standard "article/*" 7
    let updater := onRegistry .standard "album" 37
    ofParts .standard "article/*" spec = .ok built ∧ built.hasPrivileges spec = .ok true ∧
      (onRegistry .standard "album" 47).hasPrivileges spec = .ok true ∧
      updater.hasPrivileges (.mask 3) = .ok true ∧
      (∀ m, Registry.standard.Mentions (.mask 3) m → Mask.covers 37 m = true) ∧
      Outcome.FailsFirst Registry.standard.queryLeaf unknown.leaves
        (.unknownPrivilege "bogus") ∧
      updater.hasPrivileges (.list [.mask 3, .mask 2]) = .ok false := by
  intro spec unknown built updater
  have hcompiled : compileIdentifier "article/*" = .ok (Matcher.ofPattern "article/*") :=
    compileIdentifier_eq_ok_iff.2 ⟨by decide, Matcher.compile?_ofPattern (by decide +kernel)⟩
  have hresolved : Registry.standard.resolve spec = .ok 7 := by rfl
  have hbuilt : ofParts .standard "article/*" spec = .ok built :=
    ofParts_eq_ok_iff.2 ⟨_, 7, hcompiled, hresolved, rfl⟩
  have hshared : updater.hasPrivileges (.mask 3) = .ok true :=
    hasPrivileges_iff.2 ⟨[3], rfl, List.forall_mem_singleton.2 (by decide +kernel)⟩
  have hunknown : built.hasPrivileges unknown = .error (.unknownPrivilege "bogus") := by rfl
  obtain ⟨hholds, hquery, hlist⟩ := hasPrivileges_built
  obtain ⟨hself, hwider⟩ := hholds _ _ _ _ hbuilt
  obtain ⟨-, -, hanswer⟩ := hquery updater (.mask 3)
  obtain ⟨-, hfirst, -⟩ := hquery built unknown
  have hupdate : updater.hasPrivileges (.list [.mask 3, .mask 2]) = .ok false := by
    have hupdater : updater.hasPrivileges (.mask 2) = .ok false :=
      congrArg Except.ok (by decide +kernel : [(2 : Mask)].all updater.coversMask = false)
    rw [(hlist updater [.mask 3, .mask 2] (by simp)).2, List.mapM_cons, hshared, List.mapM_cons,
      hupdater]
    rfl
  exact ⟨hbuilt, hself, hwider _ rfl (by decide +kernel), hshared, (hanswer true hshared).1 rfl,
    (hfirst _).1 hunknown, hupdate⟩

end Entitlements.Permission
