import Entitlements.Document.Permission
import Entitlements.Document.Registry
import Entitlements.Session.Store

/-!
# Sources

Where the registries, permissions and sets of an operation come from: a slot of
the store, a text, a document, or their parts.
-/

namespace Entitlements

inductive SessionFailure where
  | refused (error : Error)
  | unreadable (failure : Document.Failure Error)
  | emptySlot (name : String)

abbrev Attempt (α : Type) := Except SessionFailure α

namespace Attempt

def ofError {α : Type} (result : Except Error α) : Attempt α :=
  result.mapError .refused

def ofDocument {α : Type} (result : Except (Document.Failure Error) α) : Attempt α :=
  result.mapError .unreadable

def ofSlot {α : Type} (name : String) (slots : Slots α) : Attempt α :=
  match slots.get? name with
  | some value => .ok value
  | none => .error (.emptySlot name)

end Attempt

inductive RegistrySource where
  | current
  | standard
  | slot (name : String)
  | tables (privileges grants : Table)
  | json (document : String)

def RegistrySource.build (store : Store) : RegistrySource → Attempt Registry
  | .current => .ok store.current
  | .standard => .ok .standard
  | .slot name => .ofSlot name store.registries
  | .tables privileges grants => .ofError (Registry.ofTables privileges grants)
  | .json document => .ofError (Registry.ofJson document)

inductive PermissionSource where
  | slot (name : String)
  | text (registry : RegistrySource) (t : String)
  | record (registry : RegistrySource) (fields : Permission.Record)
  | parts (registry : RegistrySource) (identifier : String) (spec : PrivilegeSpec)
  | json (document : String)

def PermissionSource.build [SizeLimit] (store : Store) : PermissionSource → Attempt Permission
  | .slot name => .ofSlot name store.permissions
  | .text registry t => do
      let registry ← registry.build store
      .ofError (Permission.ofText registry t)
  | .record registry fields => do
      let registry ← registry.build store
      .ofError (Permission.ofRecord registry fields)
  | .parts registry identifier spec => do
      let registry ← registry.build store
      .ofError (Permission.ofParts registry identifier spec)
  | .json document => .ofDocument (Permission.ofJson store.current document)

inductive ArgumentSource where
  | text (t : String)
  | built (source : PermissionSource)

def ArgumentSource.build [SizeLimit] (store : Store) : ArgumentSource → Attempt Argument
  | .text t => .ok (.text t)
  | .built source => (source.build store).map .built

inductive SetSource where
  | slot (name : String)
  | empty (registry : RegistrySource)
  | texts (registry : RegistrySource) (all : List String)
  | collected (sources : List PermissionSource)
  | json (document : String)

def SetSource.build [SizeLimit] (store : Store) : SetSource → Attempt PermissionSet
  | .slot name => .ofSlot name store.sets
  | .empty registry => (registry.build store).map PermissionSet.empty
  | .texts registry all => do
      let registry ← registry.build store
      .ofError (PermissionSet.ofTexts registry all)
  | .collected sources =>
      (sources.mapM (PermissionSource.build store)).map
        (PermissionSet.ofPermissions store.current)
  | .json document => .ofDocument (PermissionSet.ofJson store.current document)

end Entitlements
