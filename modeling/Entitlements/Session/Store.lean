import Entitlements.PermissionSet

/-!
# Stores

A store holds named values and the default registry of the process. A guard
keeps the default that its override replaced.
-/

namespace Entitlements

/-- Named values; the latest value of a name counts. -/
abbrev Slots (α : Type) := List (String × α)

namespace Slots

variable {α : Type}

def get? (slots : Slots α) (name : String) : Option α :=
  slots.lookup name

def erase (slots : Slots α) (name : String) : Slots α :=
  slots.filter fun slot => slot.1 != name

def put (slots : Slots α) (name : String) (value : α) : Slots α :=
  (name, value) :: slots.erase name

def keep (slots : Slots α) (name : Option String) (value : α) : Slots α :=
  match name with
  | some name => slots.put name value
  | none => slots

/-- Gives another value to a name where it stands; a name without a value stays so. -/
def replace (name : String) (value : α) : Slots α → Slots α
  | [] => []
  | (other, old) :: rest =>
      if other = name then (other, value) :: rest else (other, old) :: replace name value rest

theorem mem_of_mem_put {slots : Slots α} {name : String} {value : α} {slot : String × α}
    (h : slot ∈ slots.put name value) : slot = (name, value) ∨ slot ∈ slots := by
  unfold put at h
  rcases List.mem_cons.1 h with heq | hmem
  · exact .inl heq
  · exact .inr ((List.mem_filter.1 hmem).1)

end Slots

structure Store where
  registries : Slots Registry := []
  permissions : Slots Permission := []
  sets : Slots PermissionSet := []
  /-- What was the default when each guarded override began. -/
  guards : Slots (Option Registry) := []
  /-- The default registry, if it is not the standard one. -/
  override : Option Registry := none

namespace Store

def current (store : Store) : Registry :=
  store.override.getD .standard

def replaceDefault (store : Store) (registry : Registry) : Store :=
  { store with override := some registry }

def resetDefault (store : Store) : Store :=
  { store with override := none }

/-- Ends a guarded override; the default is again what it was before. -/
def dropGuard (store : Store) (name : String) : Store :=
  match store.guards.get? name with
  | some previous => { store with override := previous, guards := store.guards.erase name }
  | none => store

@[simp] theorem dropGuard_permissions (store : Store) (name : String) :
    (store.dropGuard name).permissions = store.permissions := by
  unfold dropGuard
  split <;> rfl

@[simp] theorem dropGuard_sets (store : Store) (name : String) :
    (store.dropGuard name).sets = store.sets := by
  unfold dropGuard
  split <;> rfl

/--
Begins a guarded override. A guard that had the name before is dropped when its name is
taken.
-/
def overrideDefault (store : Store) (registry : Registry) (name : String) : Store :=
  let override := ((store.guards.get? name).getD (some registry))
  { store with override, guards := store.guards.put name store.override }

end Store

end Entitlements
