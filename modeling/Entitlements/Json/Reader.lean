import Entitlements.Json.Token

/-!
# Reading JSON

Tokens are read in one pass with a stack of the containers that are open. What has
no value is read as null, and so is an object with such a key; the reading is then
not sound.
-/

namespace Entitlements

namespace Json

/-- Members of an open object, backwards; `none` if a key among them has no value. -/
abbrev Members := Option (List (String × Json))

/-- An open container; what it holds so far is kept backwards. -/
inductive Frame where
  | array (items : List Json)
  | object (members : Members) (key : Option String)
deriving Repr

namespace Members

def add (members : Members) (key : Option String) (value : Json) : Members :=
  match members, key with
  | some before, some key => some ((key, value) :: before)
  | _, _ => none

def close : Members → Json
  | some members => .object members.reverse
  | none => .scalar .null

end Members

mutual

/-- Reads tokens where a value has to begin; an array just opened may also close. -/
def readValue (stack : List Frame) : List Token → Option Json
  | [] => none
  | token :: rest =>
      match token, stack with
      | .scalar value, stack => readAfter (.scalar value) stack rest
      | .brokenString, stack | .hugeNumber, stack => readAfter (.scalar .null) stack rest
      | .openArray, stack => readValue (.array [] :: stack) rest
      | .openObject, stack => readKey (some []) stack rest
      | .closeArray, .array [] :: outer => readAfter (.array []) outer rest
      | _, _ => none

/-- Reads tokens where a key has to begin; an object just opened may also close. -/
def readKey (members : Members) (stack : List Frame) : List Token → Option Json
  | .scalar (.string key) :: .colon :: rest =>
      readValue (.object members (some key) :: stack) rest
  | .brokenString :: .colon :: rest => readValue (.object members none :: stack) rest
  | .closeObject :: rest =>
      match members with
      | some [] => readAfter (.object []) stack rest
      | _ => none
  | _ => none

def readAfter (value : Json) (stack : List Frame) : List Token → Option Json
  | [] => if stack.isEmpty then some value else none
  | token :: rest =>
      match token, stack with
      | .comma, .array items :: outer => readValue (.array (value :: items) :: outer) rest
      | .closeArray, .array items :: outer =>
          readAfter (.array (value :: items).reverse) outer rest
      | .comma, .object members key :: outer => readKey (members.add key value) outer rest
      | .closeObject, .object members key :: outer =>
          readAfter (members.add key value).close outer rest
      | _, _ => none

end

/-- Whether no more than `room` containers are open at once. -/
def nestWithin (room : Nat) : List Token → Bool
  | [] => true
  | token :: rest =>
      match token, room with
      | .openArray, 0 | .openObject, 0 => false
      | .openArray, less + 1 | .openObject, less + 1 => nestWithin less rest
      | .closeArray, room | .closeObject, room => nestWithin (room + 1) rest
      | _, room => nestWithin room rest

def maxDepth : Nat := 127

structure Reading where
  value : Json
  sound : Bool
deriving Repr

def Reading.ofText? (text : String) : Option Reading := do
  let tokens ← Token.ofText [] text.toList
  let value ← readValue [] tokens
  return { value, sound := tokens.all Token.isSound && nestWithin maxDepth tokens }

end Json

end Entitlements
