import Entitlements.Session.Answer
import Entitlements.Session.Source
import Entitlements.Validation

/-!
# Queries

A query is answered from a store and leaves it as it is. The parts of a query are
built from left to right, and the first failure is its result.
-/

namespace Entitlements

inductive Query where
  | glob (pattern : String) (candidates : List String)
  | sameMatcher (first second : String)
  | covers (held query : Mask)
  | specText (spec : PrivilegeSpec)
  | lookups (registry : RegistrySource) (names : List String)
  | sameRegistry (first second : RegistrySource)
  | resolve (registry : RegistrySource) (spec : PrivilegeSpec)
  | resolveToken (registry : RegistrySource) (token : String)
  | validPermission (registry : RegistrySource) (text : String)
  | validIdentifier (text : String)
  | validPrivileges (registry : RegistrySource) (text : String)
  | samePermission (first second : PermissionSource)
  | showPermission (permission : PermissionSource)
  | record (permission : PermissionSource)
  | hasPrivileges (permission : PermissionSource) (spec : PrivilegeSpec)
  | matchIdentifiers (permission : PermissionSource) (identifiers : List String)
  | matchIdentifier (permission : PermissionSource) (identifier : String)
  | matchPermission (permission other : PermissionSource)
  | coversMask (permission : PermissionSource) (mask : Mask)
  | coversPermission (permission other : PermissionSource)
  | allows (permission : PermissionSource) (requested : List ArgumentSource)
  | mayGrant (permission : PermissionSource) (candidate : ArgumentSource)
      (held : List ArgumentSource)
  | mayRevoke (permission : PermissionSource) (candidate : ArgumentSource)
      (held : List ArgumentSource)
  | setAllows (set : SetSource) (requested : List ArgumentSource)
  | setAllowedBy (set : SetSource) (requested : List ArgumentSource)
  | setMayGrant (set : SetSource) (candidate : ArgumentSource) (held : List ArgumentSource)
  | setMayRevoke (set : SetSource) (candidate : ArgumentSource) (held : List ArgumentSource)

namespace Query

variable [SizeLimit]

def arguments (store : Store) (sources : List ArgumentSource) :
    Attempt (List Argument) :=
  sources.mapM (ArgumentSource.build store)

def decided {α : Type} (encode : α → Answer) (decision : Reporting Error α) :
    Reporting SessionFailure Answer :=
  encode <$> ExceptT.adapt .refused decision

def answer (store : Store) : Query → Reporting SessionFailure Answer
  | .glob pattern candidates =>
      match Matcher.compile? pattern with
      | some matcher => return .matched matcher (candidates.map matcher.isMatch)
      | none => throw (.refused (.patternTooLarge pattern))
  | .sameMatcher first second =>
      match Matcher.compile? first, Matcher.compile? second with
      | some one, some other => return .bool (one == other)
      | none, _ => throw (.refused (.patternTooLarge first))
      | _, none => throw (.refused (.patternTooLarge second))
  | .covers held query => return .bool (held.covers query)
  | .specText spec => return .text spec.toText
  | .lookups registry names => do
      let registry ← registry.build store
      return .lookups (names.map fun name => (registry.privilege? name, registry.grantMask? name))
  | .sameRegistry first second => do
      let first ← first.build store
      let second ← second.build store
      return .bool (first = second)
  | .resolve registry spec => do
      let registry ← registry.build store
      let m ← Attempt.ofError (registry.resolve spec)
      return .mask m
  | .resolveToken registry token => do
      let registry ← registry.build store
      let m ← Attempt.ofError (registry.resolveToken token)
      return .mask m
  | .validPermission registry text => do
      let registry ← registry.build store
      return .bool (Validation.isPermission registry text)
  | .validIdentifier text => return .bool (Validation.isIdentifier text)
  | .validPrivileges registry text => do
      let registry ← registry.build store
      return .bool (Validation.isPrivilegeList registry text)
  | .samePermission first second => do
      let first ← first.build store
      let second ← second.build store
      return .bool (first == second)
  | .showPermission permission => do
      let permission ← permission.build store
      return .text permission.display
  | .record permission => do
      let permission ← permission.build store
      return .record permission.toRecord
  | .hasPrivileges permission spec => do
      let permission ← permission.build store
      let b ← Attempt.ofError (permission.hasPrivileges spec)
      return .bool b
  | .matchIdentifiers permission identifiers => do
      let permission ← permission.build store
      return .bools (identifiers.map permission.matchesIdentifier)
  | .matchIdentifier permission identifier => do
      let permission ← permission.build store
      return .bool (permission.matchesIdentifier identifier)
  | .matchPermission permission other => do
      let permission ← permission.build store
      let other ← other.build store
      return .bool (permission.matchesIdentifier other.identifier)
  | .coversMask permission m => do
      let permission ← permission.build store
      return .bool (permission.coversMask m)
  | .coversPermission permission other => do
      let permission ← permission.build store
      let other ← other.build store
      return .bool (permission.covers other)
  | .allows permission requested => do
      let permission ← permission.build store
      let requested ← arguments store requested
      decided .bool (permission.allows requested)
  | .mayGrant permission candidate held => do
      let permission ← permission.build store
      let candidate ← candidate.build store
      let held ← arguments store held
      decided .bool (permission.mayGrantTo candidate held)
  | .mayRevoke permission candidate held => do
      let permission ← permission.build store
      let candidate ← candidate.build store
      let held ← arguments store held
      decided .bool (permission.mayRevokeTo candidate held)
  | .setAllows set requested => do
      let set ← set.build store
      let requested ← arguments store requested
      decided .bool (set.allows requested)
  | .setAllowedBy set requested => do
      let set ← set.build store
      let requested ← arguments store requested
      decided (fun members => members.elim .nothing .members) (set.allowedBy requested)
  | .setMayGrant set candidate held => do
      let set ← set.build store
      let candidate ← candidate.build store
      let held ← arguments store held
      decided .bool (set.mayGrantTo candidate held)
  | .setMayRevoke set candidate held => do
      let set ← set.build store
      let candidate ← candidate.build store
      let held ← arguments store held
      decided .bool (set.mayRevokeTo candidate held)

end Query

end Entitlements
