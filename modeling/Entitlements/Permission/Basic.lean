import Entitlements.Matcher
import Entitlements.Registry.Basic

/-!
# Permissions

A permission grants privileges over the identifiers that match a pattern. It
keeps the registry it was made with.
-/

namespace Entitlements

structure Permission where
  identifier : String
  privileges : Mask
  registry : Registry
  matcher : Matcher

namespace Permission

/-- Permissions are compared by identifier and privileges. -/
instance : BEq Permission where
  beq first second :=
    first.identifier == second.identifier && first.privileges == second.privileges

theorem beq_iff (first second : Permission) :
    (first == second) = true ↔
      first.identifier = second.identifier ∧ first.privileges = second.privileges := by
  change (first.identifier == second.identifier && first.privileges == second.privileges) = true ↔ _
  simp

structure Record where
  identifier : String
  privileges : Mask
deriving DecidableEq, Repr

def toRecord (permission : Permission) : Record where
  identifier := permission.identifier
  privileges := permission.privileges

variable [SizeLimit]

def compileIdentifier (identifier : String) : Except Error Matcher :=
  if identifier.isEmpty then .error .emptyIdentifier
  else
    match Matcher.compile? identifier with
    | some matcher => .ok matcher
    | none => .error (.patternTooLarge identifier)

def ofParts (registry : Registry) (identifier : String) (spec : PrivilegeSpec) :
    Except Error Permission := do
  let matcher ← compileIdentifier identifier
  let privileges ← registry.resolve spec
  return { identifier, privileges, registry, matcher }

def ofRecord (registry : Registry) (record : Record) : Except Error Permission :=
  ofParts registry record.identifier (.mask record.privileges)

/-- The identifier ends at the last colon, so it may hold colons itself. -/
def ofText (registry : Registry) (text : String) : Except Error Permission :=
  match Text.cutLast ':' text.toList with
  | some (identifier, privileges) =>
      ofParts registry (String.ofList identifier) (.text (String.ofList privileges))
  | none => .error (.malformedPermission text)

def toText (permission : Permission) : String :=
  permission.identifier ++ ":" ++ toString permission.privileges

/-- The visible fields, for a reader who debugs. -/
def display (permission : Permission) : String :=
  "Permission \x7b identifier: " ++ Text.quoted permission.identifier ++
    s!", privileges: {permission.privileges}, .. \x7d"

/-- Work on a permission in place. A failure does not undo what was done before it. -/
abbrev Edit := EStateM Error Permission Unit

def setIdentifier (identifier : String) : Edit := do
  let matcher ← ofExcept (compileIdentifier identifier)
  modify fun permission => { permission with matcher }
  modify fun permission => { permission with identifier }

def setPrivileges (spec : PrivilegeSpec) : Edit := do
  let permission ← get
  let privileges ← ofExcept (permission.registry.resolve spec)
  modify fun permission => { permission with privileges }

def Edit.onCopy (edit : Edit) (permission : Permission) : Except Error Permission :=
  match edit.run permission with
  | .ok _ changed => .ok changed
  | .error error _ => .error error

def withIdentifier (permission : Permission) (identifier : String) : Except Error Permission :=
  (setIdentifier identifier).onCopy permission

def withPrivileges (permission : Permission) (spec : PrivilegeSpec) : Except Error Permission :=
  (setPrivileges spec).onCopy permission

def matchesIdentifier (permission : Permission) (identifier : String) : Bool :=
  permission.matcher.isMatch identifier

def coversMask (permission : Permission) (query : Mask) : Bool :=
  permission.privileges.covers query

/-- Whether every leaf of the argument is covered on its own. -/
def hasPrivileges (permission : Permission) (spec : PrivilegeSpec) : Except Error Bool :=
  (permission.registry.query spec).map fun masks => masks.all permission.coversMask

def covers (permission other : Permission) : Bool :=
  permission.matchesIdentifier other.identifier && permission.coversMask other.privileges

end Permission

/-- A permission given to an operation as a text for the receiver to read, or already built. -/
inductive Argument where
  | text (t : String)
  | built (permission : Permission)

namespace Argument

variable [SizeLimit]

def resolve (registry : Registry) : Argument → Except Error Permission
  | .text t => Permission.ofText registry t
  | .built permission => .ok permission

def resolveAll (registry : Registry) (arguments : List Argument) :
    Except Error (List Permission) :=
  arguments.mapM (resolve registry)

end Argument

end Entitlements
