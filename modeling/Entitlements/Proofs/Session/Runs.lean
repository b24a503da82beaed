import Entitlements.Pattern.RunLimit
import Entitlements.Proofs.Session.Sources
import Entitlements.Session.Operation

/-!
# Runs of a session

Every change builds all that it needs before it touches the store. So whatever is
stored after a run of operations is well formed, and an operation that fails leaves
no trace.
-/

namespace Entitlements

open Outcome (Guarded)

namespace Session

section

variable [SizeLimit] {α β : Type} {store : Store}

theorem guarded_built_bind {build : Store → Attempt β} {later : β → Session α}
    (h : ∀ value, build store = .ok value → Guarded Store.WellFormed (later value) store) :
    Guarded Store.WellFormed (built build >>= later) store := by
  unfold built
  rw [bind_assoc]
  apply Outcome.guarded_get_bind
  exact Outcome.guarded_ofExcept_bind h

theorem guarded_keepRegistry {name : Option String} {registry : Registry} :
    Guarded Store.WellFormed (keepRegistry name registry) store := by
  refine Outcome.guarded_of_run_ok rfl fun h => ?_
  exact ⟨h.permissions, h.sets⟩

theorem guarded_keepPermission {name : Option String} {permission : Permission}
    (hpermission : store.WellFormed → permission.WellFormed) :
    Guarded Store.WellFormed (keepPermission name permission) store := by
  refine Outcome.guarded_of_run_ok rfl fun h => ?_
  exact ⟨h.permissions.keep (hpermission h), h.sets⟩

theorem guarded_keepSet {name : Option String} {set : PermissionSet}
    (hset : store.WellFormed → set.WellFormed) :
    Guarded Store.WellFormed (keepSet name set) store := by
  refine Outcome.guarded_of_run_ok rfl fun h => ?_
  exact ⟨h.permissions, h.sets.keep (hset h)⟩

/-- An edit that fails leaves the permission as it was, so the slot is as it was too. -/
theorem guarded_editPermission {name : String} {edit : Permission.Edit}
    (hedit : ∀ permission, Guarded Permission.WellFormed edit permission) :
    Guarded Store.WellFormed (editPermission name edit) store := by
  apply guarded_built_bind
  intro permission hbuilt
  have hslot := Attempt.get?_of_ofSlot hbuilt
  have hguarded := hedit permission
  unfold Guarded at hguarded
  cases hrun : edit.run permission with
  | ok result changed =>
      rw [hrun] at hguarded
      refine Outcome.guarded_of_run_ok rfl fun h => ?_
      exact ⟨h.permissions.replace (hguarded (h.permissions.get? hslot)), h.sets⟩
  | error error left =>
      rw [hrun] at hguarded
      have hsame : store.permissions.replace name left = store.permissions := by
        rw [hguarded]
        exact Slots.replace_get? hslot
      -- What the failed edit leaves is put back all the same, so the store is compared as a whole.
      apply Outcome.guarded_of_run_error
      change EStateM.Result.error _
          { store with permissions := store.permissions.replace name left } =
        .error (.refused error) store
      rw [hsame]

theorem guarded_changeDefault {change : Store → Store} {events : List Event}
    (hpermissions : (change store).permissions = store.permissions)
    (hsets : (change store).sets = store.sets) :
    Guarded Store.WellFormed (changeDefault change events) store := by
  refine Outcome.guarded_of_run_ok rfl fun h => ?_
  exact ⟨hpermissions ▸ h.permissions, hsets ▸ h.sets⟩

end

end Session

namespace Change

open Session

/-- What one change preserves, and what it leaves if it fails. -/
theorem guarded_perform [SizeLimit] (change : Change) (store : Store) :
    Guarded Store.WellFormed change.perform store := by
  cases change with
  | registry source name =>
      exact guarded_built_bind fun registry _ => guarded_keepRegistry
  | permission source name =>
      exact guarded_built_bind fun permission hbuilt =>
        guarded_keepPermission fun h => source.wellFormed_of_build h hbuilt
  | setIdentifier name identifier =>
      exact guarded_editPermission fun _ => Permission.guarded_setIdentifier
  | setPrivileges name spec =>
      exact guarded_editPermission fun _ => Permission.guarded_setPrivileges
  | withIdentifier source identifier name =>
      refine guarded_built_bind fun permission hbuilt => ?_
      refine guarded_built_bind fun changed hchanged => ?_
      refine guarded_keepPermission fun h => ?_
      have hpermission := source.wellFormed_of_build h hbuilt
      exact hpermission.withIdentifier (Outcome.mapError_eq_ok_iff.1 hchanged)
  | withPrivileges source spec name =>
      refine guarded_built_bind fun permission hbuilt => ?_
      refine guarded_built_bind fun changed hchanged => ?_
      refine guarded_keepPermission fun h => ?_
      have hpermission := source.wellFormed_of_build h hbuilt
      exact hpermission.withPrivileges (Outcome.mapError_eq_ok_iff.1 hchanged)
  | set source name =>
      exact guarded_built_bind fun set hbuilt =>
        guarded_keepSet fun h => source.wellFormed_of_build h hbuilt
  | setAdd source name =>
      refine guarded_built_bind fun permission hbuilt => guarded_built_bind fun set hset => ?_
      refine guarded_keepSet fun h => ?_
      have hslot := h.sets.get? (Attempt.get?_of_ofSlot hset)
      exact hslot.add (source.wellFormed_of_build h hbuilt)
  | setExtend sources name =>
      refine guarded_built_bind fun all hall => guarded_built_bind fun set hset => ?_
      refine guarded_keepSet fun h => ?_
      have hslot := h.sets.get? (Attempt.get?_of_ofSlot hset)
      exact hslot.addAll (PermissionSource.wellFormed_of_mapM h hall)
  | setReplace sources name =>
      refine guarded_built_bind fun all hall => guarded_built_bind fun set _ => ?_
      refine guarded_keepSet fun h => ?_
      exact PermissionSet.wellFormed_withPermissions (PermissionSource.wellFormed_of_mapM h hall)
  | setClear name =>
      exact guarded_built_bind fun set _ => guarded_keepSet fun _ => PermissionSet.wellFormed_clear
  | setWith sources source name =>
      refine guarded_built_bind fun all hall => guarded_built_bind fun set _ => ?_
      refine guarded_keepSet fun h => ?_
      exact PermissionSet.wellFormed_withPermissions (PermissionSource.wellFormed_of_mapM h hall)
  | setRecollect source name =>
      refine guarded_built_bind fun set hbuilt => Outcome.guarded_get_bind ?_
      refine guarded_keepSet fun h => ?_
      exact PermissionSet.wellFormed_ofPermissions (source.wellFormed_of_build h hbuilt)
  | setTake source index name =>
      refine guarded_built_bind fun set hbuilt => ?_
      cases hmember : set.permissions[index]? with
      | none =>
          exact Outcome.guarded_of_run_ok rfl fun h => h
      | some member =>
          refine guarded_keepPermission fun h => ?_
          exact source.wellFormed_of_build h hbuilt member (List.mem_of_getElem? hmember)
  | replaceDefault source =>
      exact guarded_built_bind fun registry _ => guarded_changeDefault rfl rfl
  | resetDefault =>
      exact guarded_changeDefault rfl rfl
  | overrideDefault source guard =>
      exact guarded_built_bind fun registry _ => guarded_changeDefault rfl rfl
  | dropGuard guard =>
      exact guarded_built_bind fun previous _ => guarded_changeDefault (by simp) (by simp)

end Change

namespace Store

def Holds (store : Store) (permission : Permission) : Prop :=
  (∃ slot ∈ store.permissions, slot.2 = permission) ∨
    ∃ slot ∈ store.sets, permission ∈ slot.2.permissions

section

variable [SizeLimit] {store : Store} {operation : Operation} {permission : Permission}

theorem WellFormed.of_holds (h : store.WellFormed) (hholds : store.Holds permission) :
    permission.WellFormed := by
  rcases hholds with ⟨slot, hslot, rfl⟩ | ⟨slot, hslot, hmember⟩
  · exact h.permissions slot hslot
  · exact h.sets slot hslot permission hmember

theorem wellFormed_empty : ({} : Store).WellFormed :=
  ⟨by simp [Slots.All], by simp [Slots.All]⟩

/-- An operation keeps the store well formed if it succeeds, and as it is if it fails. -/
theorem step_cases (store : Store) (operation : Operation) :
    (∃ answer, (store.step operation).2.answer = .ok answer ∧
      (store.WellFormed → (store.step operation).1.WellFormed)) ∨
    ∃ failure, (store.step operation).2.answer = .error failure ∧
      (store.step operation).1 = store := by
  cases operation with
  | query query =>
      cases hanswer : (query.answer store).answer with
      | ok answer =>
          exact .inl ⟨answer, hanswer, fun h => h⟩
      | error failure =>
          exact .inr ⟨failure, hanswer, rfl⟩
  | change change =>
      have hguarded := change.guarded_perform store
      unfold Guarded at hguarded
      cases hrun : change.perform.run store with
      | ok answer next =>
          rw [hrun] at hguarded
          simp only [Store.step, hrun]
          exact .inl ⟨answer.answer, rfl, hguarded⟩
      | error failure next =>
          rw [hrun] at hguarded
          simp only [Store.step, hrun]
          exact .inr ⟨failure, rfl, hguarded⟩

theorem WellFormed.step (h : store.WellFormed) : (store.step operation).1.WellFormed := by
  rcases store.step_cases operation with ⟨_, -, hnext⟩ | ⟨_, -, hsame⟩
  · exact hnext h
  · rw [hsame]
    exact h

theorem step_of_error {failure : SessionFailure}
    (h : (store.step operation).2.answer = .error failure) :
    (store.step operation).1 = store := by
  rcases store.step_cases operation with ⟨_, hok, -⟩ | ⟨_, -, hsame⟩
  · rw [hok] at h
    contradiction
  · exact hsame

theorem WellFormed.run {operations : List Operation} (h : store.WellFormed) :
    (store.run operations).WellFormed := by
  induction operations generalizing store with
  | nil =>
      exact h
  | cons operation rest ih =>
      exact ih h.step

end

/--
After any run, each stored permission has an identifier, the matcher compiled from it
and a mask of configured bits; and an operation that fails leaves the store, and the
default in it, exactly as it was.
-/
theorem run_invariant [SizeLimit] (operations : List Operation) :
    (∀ permission, (Store.run {} operations).Holds permission →
      permission.identifier ≠ "" ∧
        Matcher.compile? permission.identifier = some permission.matcher ∧
        permission.matcher.pattern = permission.identifier ∧
        permission.matcher.expression =
          Pattern.expression (Pattern.Element.ofText permission.identifier.toList) ∧
        permission.privileges ≠ 0 ∧
        permission.privileges.beyond permission.registry.max = 0) ∧
    ∀ operation failure, ((Store.run {} operations).step operation).2.answer = .error failure →
      ((Store.run {} operations).step operation).1 = Store.run {} operations := by
  refine ⟨?_, fun _ _ => step_of_error⟩
  intro permission hholds
  have h : permission.WellFormed := wellFormed_empty.run.of_holds hholds
  obtain ⟨-, hmatcher⟩ := (Matcher.compile?_eq_some_iff _ _).1 h.compiled
  refine ⟨h.identifier_ne, h.compiled, ?_, ?_, h.privileges_ne, h.configured⟩
  · rw [hmatcher]
    rfl
  · rw [hmatcher]
    rfl

def readAndCollect : List Operation :=
  [.change (.permission (.text .current "doc/*:read") (some "reader")),
    .change (.set (.collected [.slot "reader"]) (some "readers"))]

def writeOrSign : Operation :=
  .change (.setPrivileges "reader" (.list [.mask 4, .text "update,sign"]))

theorem run_invariant_failed_edit :
    (∃ permission, (Store.run {} readAndCollect).Holds permission ∧
      permission.matcher.pattern = permission.identifier) ∧
    ∃ failure, ((Store.run {} readAndCollect).step writeOrSign).2.answer = .error failure ∧
      ((Store.run {} readAndCollect).step writeOrSign).1 = Store.run {} readAndCollect := by
  obtain ⟨hstored, hfailed⟩ := run_invariant readAndCollect
  constructor
  · have hlength : (Store.run {} readAndCollect).permissions.length = 1 := by
      decide +kernel
    have hnonempty : (Store.run {} readAndCollect).permissions ≠ [] :=
      List.ne_nil_of_length_eq_add_one hlength
    obtain ⟨slot, hslot⟩ := List.exists_mem_of_ne_nil _ hnonempty
    have hholds : (Store.run {} readAndCollect).Holds slot.2 := .inl ⟨slot, hslot, rfl⟩
    exact ⟨slot.2, hholds, (hstored slot.2 hholds).2.2.1⟩
  · have hrefused : ((Store.run {} readAndCollect).step writeOrSign).2.answer.isOk = false := by
      decide +kernel
    cases hresult : ((Store.run {} readAndCollect).step writeOrSign).2.answer with
    | ok answer =>
        rw [hresult] at hrefused
        contradiction
    | error failure =>
        exact ⟨failure, rfl, hfailed writeOrSign failure hresult⟩

end Store

end Entitlements
