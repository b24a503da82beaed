import Entitlements.Document.Field
import Entitlements.Registry.Basic

/-!
# Registry documents

A registry is written as its two tables, each as an object with the names in
configured order.
-/

namespace Entitlements

namespace Document

def readEntries : List (String × Json) → Except Problem Table
  | [] => .ok []
  | (name, value) :: rest => do
      let m ← readMask value
      let later ← readEntries rest
      return (name, m) :: later

def readTable : Json → Except Problem Table
  | .object members => readEntries members
  | value => .error (.wrongType value .table)

def registryLayout : Layout Table Table where
  expected := .registry
  first := "privileges"
  second := "grant_privileges"
  readFirst := readTable
  readSecond := readTable
  absent := some []
  strict := true

def readRegistry (value : Json) : Except (Failure Defect) Registry :=
  match registryLayout.read value with
  | .error problem => .error (.misshapen problem)
  | .ok (privileges, grants) => (Registry.check privileges grants).mapError .refused

def tableJson (table : Table) : Json :=
  .object (table.map fun (name, m) => (name, .natural m))

end Document

namespace Registry

def toJson (registry : Registry) : Json :=
  .object
    [("privileges", Document.tableJson registry.privileges),
      ("grant_privileges", Document.tableJson registry.grants)]

def read (text : String) : Except (Document.Failure Defect) Registry :=
  Document.readAll text Document.readRegistry

def ofJson (text : String) : Except Error Registry :=
  (read text).mapError .unreadableRegistry

end Registry

end Entitlements
