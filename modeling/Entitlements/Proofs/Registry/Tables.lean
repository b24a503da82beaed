import Entitlements.Proofs.Mask.Bits
import Entitlements.Registry.Basic

/-!
# Sound tables

The checks of a registry go entry by entry and stop at the first defect. Tables
without a defect are described entry by entry too, and lookups in them rely on
nothing else.
-/

namespace Entitlements

def Table.ValidEntry (entry : String × Mask) : Prop :=
  entry.1 ≠ "" ∧ ',' ∉ entry.1.toList ∧ tokenForm entry.1 = .name ∧ entry.2 ≠ 0

def Table.ValidGrant (privileges : Table) (entry : String × Mask) : Prop :=
  (privileges.mask? entry.1).isSome = true ∧ entry.2.beyond privileges.bits = 0

/-- The entries are valid and their names are new, both among themselves and among `seen`. -/
def Table.ValidAfter (valid : String × Mask → Prop) (seen : List String) (table : Table) : Prop :=
  (∀ entry ∈ table, valid entry ∧ entry.1 ∉ seen) ∧ (table.map Prod.fst).Nodup

theorem Table.validAfter_nil {valid : String × Mask → Prop} {seen : List String} :
    Table.ValidAfter valid seen [] := by
  simp [ValidAfter]

theorem Table.validAfter_cons_iff {valid : String × Mask → Prop} {seen : List String}
    {entry : String × Mask} {table : Table} :
    Table.ValidAfter valid seen (entry :: table) ↔
      valid entry ∧ entry.1 ∉ seen ∧ Table.ValidAfter valid (entry.1 :: seen) table := by
  have hname : (∀ other ∈ table, other.1 ≠ entry.1) ↔ entry.1 ∉ table.map Prod.fst := by
    constructor
    · intro h hmem
      obtain ⟨other, hother, heq⟩ := List.mem_map.1 hmem
      exact h other hother heq
    · intro h other hother heq
      exact h (List.mem_map.2 ⟨other, hother, heq⟩)
  simp only [ValidAfter, List.mem_cons, forall_eq_or_imp, List.map_cons, List.nodup_cons, ← hname]
  grind

namespace Defect

section

variable {privileges grants table : Table} {seen : List String}

theorem inPrivileges_eq_none_iff :
    inPrivileges seen table = none ↔ Table.ValidAfter Table.ValidEntry seen table := by
  induction table generalizing seen with
  | nil =>
      simp [inPrivileges, Table.validAfter_nil]
  | cons entry table ih =>
      rw [Table.validAfter_cons_iff, ← ih]
      simp only [inPrivileges, Table.ValidEntry]
      grind [String.isEmpty_iff]

theorem inGrants_eq_none_iff :
    inGrants privileges seen table = none ↔
      Table.ValidAfter (Table.ValidGrant privileges) seen table := by
  induction table generalizing seen with
  | nil =>
      simp [inGrants, Table.validAfter_nil]
  | cons entry table ih =>
      rw [Table.validAfter_cons_iff, ← ih]
      simp only [inGrants, Table.ValidGrant]
      cases hmask : privileges.mask? entry.1 with
      | none =>
          simp
      | some mask =>
          simp
          grind

theorem first?_eq_none_iff :
    first? privileges grants = none ↔
      privileges ≠ [] ∧ Table.ValidAfter Table.ValidEntry [] privileges ∧
        Table.ValidAfter (Table.ValidGrant privileges) [] grants := by
  unfold first?
  cases privileges with
  | nil =>
      simp
  | cons entry rest =>
      simp [inPrivileges_eq_none_iff, inGrants_eq_none_iff]

end

end Defect

namespace Table

section

variable {table : Table} {name : String} {mask : Mask}

theorem hasBit_bits_iff {i : Nat} : table.bits.HasBit i ↔ ∃ entry ∈ table, entry.2.HasBit i := by
  simp only [bits, Mask.hasBit_union_iff, List.mem_map]
  grind

theorem mem_of_mask?_eq_some (h : table.mask? name = some mask) : (name, mask) ∈ table := by
  obtain ⟨front, back, rfl, -⟩ := List.lookup_eq_some_iff.1 h
  simp

theorem mask?_isSome_iff : (table.mask? name).isSome = true ↔ name ∈ table.map Prod.fst := by
  rw [mask?, List.lookup_isSome_iff, List.mem_map]
  simp only [beq_iff_eq, @eq_comm _ name]

theorem mask?_of_mem (hnames : (table.map Prod.fst).Nodup) (h : (name, mask) ∈ table) :
    table.mask? name = some mask := by
  induction table with
  | nil =>
      simp at h
  | cons entry table ih =>
      rw [List.map_cons, List.nodup_cons] at hnames
      rcases List.mem_cons.1 h with heq | hrest
      · subst heq
        exact List.lookup_cons_self
      · have hne : name ≠ entry.1 := by
          intro heq
          exact hnames.1 (List.mem_map.2 ⟨(name, mask), hrest, heq⟩)
        have hskip : mask? (entry :: table) name = mask? table name := by
          unfold mask?
          rw [List.lookup_cons, beq_false_of_ne hne]
        rw [hskip]
        exact ih hnames.2 hrest

theorem beyond_bits_of_mem (h : (name, mask) ∈ table) : mask.beyond table.bits = 0 :=
  Mask.beyond_union_of_mem (List.mem_map.2 ⟨(name, mask), h, rfl⟩)

end

end Table

namespace Registry

section

variable {registry : Registry} {privileges grants : Table} {name : String} {mask : Mask}

theorem check_eq_ok_iff :
    check privileges grants = .ok registry ↔
      registry.privileges = privileges ∧ registry.grants = grants := by
  constructor
  · intro h
    unfold check at h
    split at h
    · cases h
      exact ⟨rfl, rfl⟩
    · contradiction
  · rintro ⟨rfl, rfl⟩
    exact check_tables registry

theorem check_eq_error_iff {defect : Defect} :
    check privileges grants = .error defect ↔ Defect.first? privileges grants = some defect := by
  unfold check
  split
  · next hsound =>
      simp [hsound]
  · next found hfound =>
      simp [hfound]

theorem validEntry_of_mem {entry : String × Mask} (h : entry ∈ registry.privileges) :
    Table.ValidEntry entry :=
  ((Defect.first?_eq_none_iff.1 registry.sound).2.1.1 entry h).1

theorem validGrant_of_mem {entry : String × Mask} (h : entry ∈ registry.grants) :
    Table.ValidGrant registry.privileges entry :=
  ((Defect.first?_eq_none_iff.1 registry.sound).2.2.1 entry h).1

theorem nodup_privileges (registry : Registry) : (registry.privileges.map Prod.fst).Nodup :=
  (Defect.first?_eq_none_iff.1 registry.sound).2.1.2

theorem nodup_grants (registry : Registry) : (registry.grants.map Prod.fst).Nodup :=
  (Defect.first?_eq_none_iff.1 registry.sound).2.2.2

theorem grantMask?_of_mem {entry : String × Mask} (h : entry ∈ registry.grants) :
    registry.grantMask? entry.1 = some entry.2 :=
  Table.mask?_of_mem registry.nodup_grants h

theorem privilege?_of_mem {entry : String × Mask} (h : entry ∈ registry.privileges) :
    registry.privilege? entry.1 = some entry.2 :=
  Table.mask?_of_mem registry.nodup_privileges h

theorem privilege?_inRange (h : registry.privilege? name = some mask) :
    mask ≠ 0 ∧ mask.beyond registry.max = 0 := by
  have hmem := Table.mem_of_mask?_eq_some h
  exact ⟨(validEntry_of_mem hmem).2.2.2, Table.beyond_bits_of_mem hmem⟩

theorem exists_privilege?_of_grant (h : name ∈ registry.grants.map Prod.fst) :
    ∃ mask, registry.privilege? name = some mask := by
  obtain ⟨entry, hentry, rfl⟩ := List.mem_map.1 h
  exact Option.isSome_iff_exists.1 (validGrant_of_mem hentry).1

def ofMask (mask : Mask) (h : mask ≠ 0) : Registry where
  privileges := [("all", mask)]
  grants := []
  sound := by
    have hcomma : ',' ∉ "all".toList := by decide +kernel
    have hname : tokenForm "all" = .name := by decide +kernel
    have hentry : Table.ValidEntry ("all", mask) := ⟨by simp, hcomma, hname, h⟩
    have hentries : Table.ValidAfter Table.ValidEntry [] [("all", mask)] :=
      Table.validAfter_cons_iff.2 ⟨hentry, by simp, Table.validAfter_nil⟩
    exact Defect.first?_eq_none_iff.2 ⟨by simp, hentries, Table.validAfter_nil⟩

theorem max_ofMask (h : mask ≠ 0) : (ofMask mask h).max = mask := by
  simp [ofMask, max, Table.bits]

end

end Registry

end Entitlements
