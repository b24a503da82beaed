import Entitlements.Document.Registry
import Entitlements.Proofs.Document.Field
import Entitlements.Proofs.Outcome
import Entitlements.Proofs.Registry.Tables

/-!
# Registries written and read

The tables of a registry are written with every entry in its place, also those that a
registry refuses. So the document of two tables is accepted exactly if the tables are.
-/

namespace Entitlements

namespace Document

/-- The document that writes two tables, whether or not they make a registry. -/
def tablesJson (privileges grants : Table) : Json :=
  .object [("privileges", tableJson privileges), ("grant_privileges", tableJson grants)]

section

variable {room : Nat}

theorem readTable_tableJson (table : Table) : readTable (tableJson table) = .ok table := by
  induction table with
  | nil =>
      rfl
  | cons entry table ih =>
      have hfirst : readTable (tableJson (entry :: table)) =
          (readTable (tableJson table)).bind fun later => .ok (entry :: later) := rfl
      rw [hfirst, ih]
      rfl

theorem exact_tableJson (table : Table) : Json.Exact (room + 1) (tableJson table) := by
  refine .object ?_
  rw [List.forall_mem_map]
  intro entry _
  exact Json.exact_natural room entry.2

theorem exact_tablesJson (privileges grants : Table) :
    Json.Exact (room + 2) (tablesJson privileges grants) := by
  refine .object ?_
  simp only [List.forall_mem_cons]
  exact ⟨exact_tableJson privileges, exact_tableJson grants, by simp⟩

theorem readRegistry_tablesJson (privileges grants : Table) :
    readRegistry (tablesJson privileges grants) =
      (Registry.check privileges grants).mapError .refused := by
  have hfields : registryLayout.read (tablesJson privileges grants) = .ok (privileges, grants) :=
    Layout.read_object (by decide) (readTable_tableJson privileges) (readTable_tableJson grants)
  rw [readRegistry, hfields]

end

end Document

namespace Registry

open Document

section

variable {privileges grants : Table} {registry : Registry}

theorem ofJson_tablesJson (privileges grants : Table) :
    ofJson (tablesJson privileges grants).text =
      (check privileges grants).mapError fun defect => .unreadableRegistry (.refused defect) := by
  have hexact : Json.Exact Json.maxDepth (tablesJson privileges grants) :=
    exact_tablesJson privileges grants
  rw [ofJson, read, readAll_text hexact, readRegistry_tablesJson]
  cases check privileges grants with
  | error defect =>
      rfl
  | ok registry =>
      rfl

end

/--
Tables and their document make the same registry, entry by entry, or both make none; the
document's error then carries the message about the tables. So every registry is read back
from its document.
-/
theorem ofJson_agrees_ofTables (privileges grants : Table) :
    ((∃ registry, ofTables privileges grants = .ok registry ∧
        ofJson (tablesJson privileges grants).text = .ok registry ∧
        registry.privileges = privileges ∧ registry.grants = grants) ∨
      ∃ error refusal, ofTables privileges grants = .error error ∧
        ofJson (tablesJson privileges grants).text = .error refusal ∧
        refusal.code = "CONFIG_ERROR" ∧
        refusal.message = Error.configuration error.message) ∧
    ∀ registry : Registry, ofJson registry.toJson.text = .ok registry := by
  constructor
  · cases hcheck : check privileges grants with
    | error defect =>
        right
        refine ⟨.inconsistentRegistry defect, .unreadableRegistry (.refused defect), ?_, ?_, rfl,
          rfl⟩
        · rw [ofTables, hcheck]
          rfl
        · rw [ofJson_tablesJson, hcheck]
          rfl
    | ok registry =>
        left
        refine ⟨registry, ?_, ?_, check_eq_ok_iff.1 hcheck⟩
        · rw [ofTables, hcheck]
          rfl
        · rw [ofJson_tablesJson, hcheck]
          rfl
  · intro registry
    have hwritten : registry.toJson = tablesJson registry.privileges registry.grants := rfl
    rw [hwritten, ofJson_tablesJson, check_tables]
    rfl

end Registry

end Entitlements
