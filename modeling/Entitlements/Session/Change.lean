import Entitlements.Session.Answer
import Entitlements.Session.Source

/-!
# Changes

A change puts values into the slots of a store, edits the value of a slot or
replaces the default registry. It answers with the value that it has made.
-/

namespace Entitlements

inductive Change where
  | registry (registry : RegistrySource) (name : Option String)
  | permission (permission : PermissionSource) (name : Option String)
  | setIdentifier (name identifier : String)
  | setPrivileges (name : String) (spec : PrivilegeSpec)
  | withIdentifier (permission : PermissionSource) (identifier : String) (name : Option String)
  | withPrivileges (permission : PermissionSource) (spec : PrivilegeSpec) (name : Option String)
  | set (set : SetSource) (name : Option String)
  | setAdd (permission : PermissionSource) (name : String)
  | setExtend (permissions : List PermissionSource) (name : String)
  | setReplace (permissions : List PermissionSource) (name : String)
  | setClear (name : String)
  | setWith (permissions : List PermissionSource) (set : SetSource) (name : Option String)
  | setRecollect (set : SetSource) (name : Option String)
  | setTake (set : SetSource) (index : Nat) (name : Option String)
  | replaceDefault (registry : RegistrySource)
  | resetDefault
  | overrideDefault (registry : RegistrySource) (guard : String)
  | dropGuard (guard : String)

/-- Work on a store. A failure does not undo what was done before it. -/
abbrev Session := EStateM SessionFailure Store

namespace Session

def built {α : Type} (build : Store → Attempt α) : Session α := do
  let store ← get
  ofExcept (build store)

def keepRegistry (name : Option String) (registry : Registry) : Session (Logged Answer) := do
  modify fun store => { store with registries := store.registries.keep name registry }
  return pure (.registry registry)

def keepPermission (name : Option String) (permission : Permission) :
    Session (Logged Answer) := do
  modify fun store => { store with permissions := store.permissions.keep name permission }
  return pure (.permission permission)

def keepSet (name : Option String) (set : PermissionSet) : Session (Logged Answer) := do
  modify fun store => { store with sets := store.sets.keep name set }
  return pure (.set set)

def replacePermission (name : String) (permission : Permission) : Session Unit :=
  modify fun store => { store with permissions := store.permissions.replace name permission }

/-- Edits the permission of a slot; the slot holds what the edit leaves, also if it fails. -/
def editPermission (name : String) (edit : Permission.Edit) : Session (Logged Answer) := do
  let permission ← built fun store => .ofSlot name store.permissions
  match edit.run permission with
  | .ok _ changed => do
      replacePermission name changed
      return pure (.permission changed)
  | .error error changed => do
      replacePermission name changed
      throw (.refused error)

def changeDefault (change : Store → Store) (events : List Event) : Session (Logged Answer) := do
  modify change
  let store ← get
  return { answer := .registry store.current, events }

end Session

namespace Change

open Session

variable [SizeLimit]

def permissions (store : Store) (sources : List PermissionSource) :
    Attempt (List Permission) :=
  sources.mapM (PermissionSource.build store)

def perform : Change → Session (Logged Answer)
  | .registry source name => do
      let registry ← built (source.build ·)
      keepRegistry name registry
  | .permission source name => do
      let permission ← built (source.build ·)
      keepPermission name permission
  | .setIdentifier name identifier => editPermission name (Permission.setIdentifier identifier)
  | .setPrivileges name spec => editPermission name (Permission.setPrivileges spec)
  | .withIdentifier source identifier name => do
      let permission ← built (source.build ·)
      let changed ← built fun _ => .ofError (permission.withIdentifier identifier)
      keepPermission name changed
  | .withPrivileges source spec name => do
      let permission ← built (source.build ·)
      let changed ← built fun _ => .ofError (permission.withPrivileges spec)
      keepPermission name changed
  | .set source name => do
      let set ← built (source.build ·)
      keepSet name set
  | .setAdd source name => do
      let permission ← built (source.build ·)
      let set ← built fun store => .ofSlot name store.sets
      keepSet name (set.add permission)
  | .setExtend sources name => do
      let all ← built (permissions · sources)
      let set ← built fun store => .ofSlot name store.sets
      keepSet name (set.addAll all)
  | .setReplace sources name => do
      let all ← built (permissions · sources)
      let set ← built fun store => .ofSlot name store.sets
      keepSet name (set.withPermissions all)
  | .setClear name => do
      let set ← built fun store => .ofSlot name store.sets
      keepSet name set.clear
  | .setWith sources source name => do
      let all ← built (permissions · sources)
      let set ← built (source.build ·)
      keepSet name (set.withPermissions all)
  | .setRecollect source name => do
      let set ← built (source.build ·)
      let store ← get
      keepSet name (.ofPermissions store.current set.permissions)
  | .setTake source index name => do
      let set ← built (source.build ·)
      match set.permissions[index]? with
      | some member => keepPermission name member
      | none => return pure .nothing
  | .replaceDefault source => do
      let registry ← built (source.build ·)
      changeDefault (·.replaceDefault registry)
        [.defaultReplaced registry.privileges.length registry.grants.length]
  | .resetDefault => changeDefault Store.resetDefault [.defaultReset]
  | .overrideDefault source guard => do
      let registry ← built (source.build ·)
      changeDefault (·.overrideDefault registry guard)
        [.defaultOverridden registry.privileges.length]
  | .dropGuard guard => do
      let _ ← built fun store => .ofSlot guard store.guards
      changeDefault (·.dropGuard guard) []

end Change

end Entitlements
