import Entitlements.Document.Problem
import Entitlements.Json.Reader
import Entitlements.Mask

/-!
# Fields of a document

Masks, texts and records of two fields are read from JSON values. What comes
first in the document is judged first.
-/

namespace Entitlements.Document

/--
Reads the value of a document. Fields that are skipped need not be sound, but a
failure is explained only if the whole text is.
-/
def readAll {ε α : Type} (text : String) (read : Json → Except (Failure ε) α) :
    Except (Failure ε) α :=
  match Json.Reading.ofText? text with
  | none => .error .malformed
  | some reading =>
      match read reading.value with
      | .ok result => .ok result
      | .error failure => .error (if reading.sound then failure else .malformed)

def readMask : Json → Except Problem Mask
  | .scalar (.number (.natural n)) => .ok n
  | .scalar (.number (.negative magnitude)) => .error (.negativeMask magnitude)
  | value => .error (.wrongType value .mask)

def readText : Json → Except Problem String
  | .scalar (.string s) => .ok s
  | value => .error (.wrongType value .text)

/-- A record of two named fields, written as an object or as an array in that order. -/
structure Layout (α β : Type) where
  expected : Expected
  first : String
  second : String
  readFirst : Json → Except Problem α
  readSecond : Json → Except Problem β
  /-- The value of the second field where it is left out. -/
  absent : Option β
  strict : Bool

namespace Layout

variable {α β : Type} (layout : Layout α β)

def complete (first : Option α) (second : Option β) : Except Problem (α × β) :=
  match first, second.or layout.absent with
  | none, _ => .error (.missingField layout.first)
  | some _, none => .error (.missingField layout.second)
  | some x, some y => .ok (x, y)

def members (first : Option α) (second : Option β) :
    List (String × Json) → Except Problem (α × β)
  | [] => layout.complete first second
  | (key, value) :: rest =>
      if key = layout.first then
        if first.isSome then .error (.duplicateField key)
        else
          match layout.readFirst value with
          | .error problem => .error problem
          | .ok x => members (some x) second rest
      else if key = layout.second then
        if second.isSome then .error (.duplicateField key)
        else
          match layout.readSecond value with
          | .error problem => .error problem
          | .ok y => members first (some y) rest
      else if layout.strict then .error (.unknownField key layout.first layout.second)
      else members first second rest

def items : List Json → Except Problem (α × β)
  | [] => .error (.tooShort 0 layout.expected)
  | first :: rest => do
      let x ← layout.readFirst first
      match rest, layout.absent with
      | [], none => .error (.tooShort 1 layout.expected)
      | [], some y => .ok (x, y)
      | second :: more, _ =>
          let y ← layout.readSecond second
          if more.isEmpty then .ok (x, y) else .error .tooLong

def read : Json → Except Problem (α × β)
  | .object fields => layout.members none none fields
  | .array values => layout.items values
  | value => .error (.wrongType value layout.expected)

end Layout

end Entitlements.Document
