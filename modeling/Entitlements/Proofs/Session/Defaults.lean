import Entitlements.Proofs.Session.Runs

/-!
# Changes of the default registry

The default is set, reset, overridden and restored, and nothing else in a store changes
with it. A query that reads nothing with the default is answered as before.
-/

namespace Entitlements

namespace Change

/-- The change is about the default registry only. -/
def OnDefault : Change → Prop
  | .replaceDefault _ | .resetDefault | .overrideDefault _ _ | .dropGuard _ => True
  | _ => False

def newDefault? : Change → Option RegistrySource
  | .replaceDefault source | .overrideDefault source _ => some source
  | _ => none

def guard? : Change → Option String
  | .overrideDefault _ guard | .dropGuard guard => some guard
  | _ => none

end Change

/-! ## Steps -/

namespace Session

section

variable {α β : Type} {store : Store} {build : Store → Attempt β} {later : β → Session α}

theorem run_built_ok {value : β} (h : build store = .ok value) :
    (built build >>= later).run store = (later value).run store := by
  unfold built
  rw [bind_assoc, EStateM.run_bind, EStateM.run_get]
  simp only [h]
  rfl

theorem run_built_error {failure : SessionFailure} (h : build store = .error failure) :
    (built build >>= later).run store = .error failure store := by
  unfold built
  rw [bind_assoc, EStateM.run_bind, EStateM.run_get]
  simp only [h]
  rfl

end

end Session

namespace Store

/-- What a change of the default makes of a store. -/
inductive DefaultStep (store : Store) : Change → Store → Prop
  | refused {change : Change} {source : RegistrySource} {failure : SessionFailure} :
      change.newDefault? = some source → source.build store = .error failure →
      DefaultStep store change store
  | replaced {source : RegistrySource} {registry : Registry} :
      source.build store = .ok registry →
      DefaultStep store (.replaceDefault source) (store.replaceDefault registry)
  | reset : DefaultStep store .resetDefault store.resetDefault
  | overridden {source : RegistrySource} {registry : Registry} {guard : String} :
      source.build store = .ok registry →
      DefaultStep store (.overrideDefault source guard) (store.overrideDefault registry guard)
  | absent {guard : String} :
      store.guards.get? guard = none → DefaultStep store (.dropGuard guard) store
  | dropped {guard : String} {previous : Option Registry} :
      store.guards.get? guard = some previous →
      DefaultStep store (.dropGuard guard)
        { store with override := previous, guards := store.guards.erase guard }

section

variable [SizeLimit] {store next : Store} {change : Change} {changes front back : List Change}

def changed (store : Store) (change : Change) : Store :=
  (store.step (.change change)).1

theorem changed_of_run_ok {answer : Logged Answer}
    (h : change.perform.run store = .ok answer next) :
    store.changed change = next := by
  rw [changed, step, h]

theorem changed_of_run_error {failure : SessionFailure}
    (h : change.perform.run store = .error failure next) : store.changed change = next := by
  rw [changed, step, h]

theorem defaultStep (h : change.OnDefault) : store.DefaultStep change (store.changed change) := by
  cases change with
  | replaceDefault source =>
      cases hbuild : source.build store with
      | error failure =>
          rw [changed_of_run_error (Session.run_built_error hbuild)]
          exact .refused rfl hbuild
      | ok registry =>
          rw [changed_of_run_ok (Session.run_built_ok hbuild)]
          exact .replaced hbuild
  | resetDefault =>
      exact .reset
  | overrideDefault source guard =>
      cases hbuild : source.build store with
      | error failure =>
          rw [changed_of_run_error (Session.run_built_error hbuild)]
          exact .refused rfl hbuild
      | ok registry =>
          rw [changed_of_run_ok (Session.run_built_ok hbuild)]
          exact .overridden hbuild
  | dropGuard guard =>
      cases hget : store.guards.get? guard with
      | none =>
          have hslot : Attempt.ofSlot guard store.guards = .error (.emptySlot guard) := by
            rw [Attempt.ofSlot, hget]
          rw [changed_of_run_error (Session.run_built_error hslot)]
          exact .absent hget
      | some previous =>
          have hslot : Attempt.ofSlot guard store.guards = .ok previous := by
            rw [Attempt.ofSlot, hget]
          have hdrop : store.dropGuard guard =
              { store with override := previous, guards := store.guards.erase guard } := by
            rw [dropGuard, hget]
          have hchanged : store.changed (.dropGuard guard) = store.dropGuard guard :=
            changed_of_run_ok (Session.run_built_ok hslot)
          rw [hchanged, hdrop]
          exact .dropped hget
  | _ =>
      contradiction

def changedAll (store : Store) (changes : List Change) : Store :=
  store.run (changes.map .change)

@[simp] theorem changedAll_nil : store.changedAll [] = store := rfl

@[simp] theorem changedAll_cons :
    store.changedAll (change :: changes) = (store.changed change).changedAll changes := rfl

theorem changedAll_append :
    store.changedAll (front ++ back) = (store.changedAll front).changedAll back := by
  induction front generalizing store with
  | nil =>
      rfl
  | cons change front ih =>
      exact ih

theorem changedAll_concat :
    store.changedAll (front ++ [change]) = (store.changedAll front).changed change :=
  changedAll_append

end

/-! ## What the default does not reach -/

/-- The stores differ in the default and its guards at most. -/
structure SameSlots (store next : Store) : Prop where
  registries : next.registries = store.registries
  permissions : next.permissions = store.permissions
  sets : next.sets = store.sets

section

variable {store next last : Store} {change : Change} {changes : List Change}

theorem SameSlots.trans (hfirst : store.SameSlots next) (hsecond : next.SameSlots last) :
    store.SameSlots last :=
  ⟨hsecond.registries.trans hfirst.registries, hsecond.permissions.trans hfirst.permissions,
    hsecond.sets.trans hfirst.sets⟩

theorem DefaultStep.sameSlots (h : store.DefaultStep change next) : store.SameSlots next := by
  cases h with
  | refused _ _ =>
      exact ⟨rfl, rfl, rfl⟩
  | replaced _ =>
      exact ⟨rfl, rfl, rfl⟩
  | reset =>
      exact ⟨rfl, rfl, rfl⟩
  | overridden _ =>
      exact ⟨rfl, rfl, rfl⟩
  | absent _ =>
      exact ⟨rfl, rfl, rfl⟩
  | dropped _ =>
      exact ⟨rfl, rfl, rfl⟩

theorem sameSlots_changedAll [SizeLimit] (h : ∀ change ∈ changes, change.OnDefault) :
    store.SameSlots (store.changedAll changes) := by
  induction changes generalizing store with
  | nil =>
      exact ⟨rfl, rfl, rfl⟩
  | cons change changes ih =>
      obtain ⟨hchange, hchanges⟩ := List.forall_mem_cons.1 h
      exact (defaultStep hchange).sameSlots.trans (ih hchanges)

end

end Store

/-- The registry is not taken from the default. -/
def RegistrySource.Explicit : RegistrySource → Prop
  | .current => False
  | _ => True

def PermissionSource.Explicit : PermissionSource → Prop
  | .slot _ => True
  | .text registry _ | .record registry _ | .parts registry _ _ => registry.Explicit
  | .json _ => False

/-- A text is explicit, because the permission or set that is asked reads it. -/
def ArgumentSource.Explicit : ArgumentSource → Prop
  | .text _ => True
  | .built source => source.Explicit

def SetSource.Explicit : SetSource → Prop
  | .slot _ => True
  | .empty registry | .texts registry _ => registry.Explicit
  | .collected _ | .json _ => False

def Query.Explicit : Query → Prop
  | .hasPrivileges permission _ => permission.Explicit
  | .allows permission requested =>
      permission.Explicit ∧ ∀ argument ∈ requested, argument.Explicit
  | .mayGrant permission candidate held | .mayRevoke permission candidate held =>
      permission.Explicit ∧ candidate.Explicit ∧ ∀ argument ∈ held, argument.Explicit
  | .setAllows set requested | .setAllowedBy set requested =>
      set.Explicit ∧ ∀ argument ∈ requested, argument.Explicit
  | .setMayGrant set candidate held | .setMayRevoke set candidate held =>
      set.Explicit ∧ candidate.Explicit ∧ ∀ argument ∈ held, argument.Explicit
  | _ => False

section

variable {store next : Store}

theorem RegistrySource.build_eq {source : RegistrySource} (h : source.Explicit)
    (hslots : store.SameSlots next) : source.build next = source.build store := by
  cases source with
  | current =>
      contradiction
  | slot name =>
      exact congrArg (Attempt.ofSlot name) hslots.registries
  | _ =>
      rfl

theorem PermissionSource.build_eq [SizeLimit] {source : PermissionSource} (h : source.Explicit)
    (hslots : store.SameSlots next) : source.build next = source.build store := by
  cases source with
  | slot name =>
      exact congrArg (Attempt.ofSlot name) hslots.permissions
  | json document =>
      contradiction
  | _ =>
      rw [build, build, RegistrySource.build_eq h hslots]

theorem ArgumentSource.build_eq [SizeLimit] {source : ArgumentSource} (h : source.Explicit)
    (hslots : store.SameSlots next) : source.build next = source.build store := by
  cases source with
  | text t =>
      rfl
  | built source =>
      rw [build, build, PermissionSource.build_eq h hslots]

theorem SetSource.build_eq [SizeLimit] {source : SetSource} (h : source.Explicit)
    (hslots : store.SameSlots next) : source.build next = source.build store := by
  cases source with
  | slot name =>
      exact congrArg (Attempt.ofSlot name) hslots.sets
  | empty registry =>
      rw [build, build, RegistrySource.build_eq h hslots]
  | texts registry all =>
      rw [build, build, RegistrySource.build_eq h hslots]
  | _ =>
      contradiction

theorem Query.arguments_eq [SizeLimit] {sources : List ArgumentSource}
    (h : ∀ source ∈ sources, source.Explicit) (hslots : store.SameSlots next) :
    arguments next sources = arguments store sources := by
  induction sources with
  | nil =>
      rfl
  | cons source sources ih =>
      obtain ⟨hsource, hsources⟩ := List.forall_mem_cons.1 h
      have hrest : sources.mapM (ArgumentSource.build next) =
          sources.mapM (ArgumentSource.build store) := ih hsources
      rw [arguments, arguments, List.mapM_cons, List.mapM_cons,
        ArgumentSource.build_eq hsource hslots, hrest]

/-- An explicit query is answered alike whatever the default is. -/
theorem Query.answer_eq [SizeLimit] {query : Query} (h : query.Explicit)
    (hslots : store.SameSlots next) :
    query.answer next = query.answer store := by
  cases query with
  | hasPrivileges permission spec =>
      rw [answer, answer, PermissionSource.build_eq h hslots]
  | allows permission requested =>
      obtain ⟨hpermission, hrequested⟩ := h
      rw [answer, answer, PermissionSource.build_eq hpermission hslots,
        arguments_eq hrequested hslots]
  | mayGrant permission candidate held =>
      obtain ⟨hpermission, hcandidate, hheld⟩ := h
      rw [answer, answer, PermissionSource.build_eq hpermission hslots,
        ArgumentSource.build_eq hcandidate hslots, arguments_eq hheld hslots]
  | mayRevoke permission candidate held =>
      obtain ⟨hpermission, hcandidate, hheld⟩ := h
      rw [answer, answer, PermissionSource.build_eq hpermission hslots,
        ArgumentSource.build_eq hcandidate hslots, arguments_eq hheld hslots]
  | setAllows set requested =>
      obtain ⟨hset, hrequested⟩ := h
      rw [answer, answer, SetSource.build_eq hset hslots, arguments_eq hrequested hslots]
  | setAllowedBy set requested =>
      obtain ⟨hset, hrequested⟩ := h
      rw [answer, answer, SetSource.build_eq hset hslots, arguments_eq hrequested hslots]
  | setMayGrant set candidate held =>
      obtain ⟨hset, hcandidate, hheld⟩ := h
      rw [answer, answer, SetSource.build_eq hset hslots,
        ArgumentSource.build_eq hcandidate hslots, arguments_eq hheld hslots]
  | setMayRevoke set candidate held =>
      obtain ⟨hset, hcandidate, hheld⟩ := h
      rw [answer, answer, SetSource.build_eq hset hslots,
        ArgumentSource.build_eq hcandidate hslots, arguments_eq hheld hslots]
  | _ =>
      contradiction

end

end Entitlements
