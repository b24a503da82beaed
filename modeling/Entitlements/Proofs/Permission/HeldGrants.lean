import Entitlements.Proofs.Permission.Granting
import Entitlements.Proofs.Registry.Consistency

/-!
# Held grant rights

The grant privileges of a permission are looked up in the tables of its registry. They
are the ones that it is found to hold when it is asked for each by name, because such a
name is a single token that resolves. A grant privilege of a single bit is held in full by
whoever is found to hold it; one of several bits need not be.
-/

namespace Entitlements.Permission

section

variable {permission : Permission} {name : String} {mask : Mask} {entry : String × Mask} {i : Nat}

theorem hasPrivileges_name (h : permission.registry.privilege? name = some mask) :
    permission.hasPrivileges (.text name) = .ok (permission.coversMask mask) := by
  rw [hasPrivileges, Registry.query_name h]
  simp [Except.map]

theorem hasPrivileges_grant (h : name ∈ permission.registry.grants.map Prod.fst) :
    permission.hasPrivileges (.text name) =
      .ok ((permission.registry.privilege? name).any permission.coversMask) := by
  obtain ⟨mask, hmask⟩ := Registry.exists_privilege?_of_grant h
  rw [hasPrivileges_name hmask, hmask, Option.any_some]

theorem mem_grantPrivileges_iff_any (h : name ∈ permission.registry.grants.map Prod.fst) :
    name ∈ permission.grantPrivileges ↔
      (permission.registry.privilege? name).any permission.coversMask = true := by
  rw [grantPrivileges, List.mem_filter, and_iff_right h]

theorem mem_grantPrivileges_iff_covers (h : name ∈ permission.registry.grants.map Prod.fst)
    (hmask : permission.registry.privilege? name = some mask) :
    name ∈ permission.grantPrivileges ↔ Mask.covers permission.privileges mask = true := by
  rw [mem_grantPrivileges_iff_any h, hmask, Option.any_some, coversMask]

theorem mem_grantPrivileges_iff :
    name ∈ permission.grantPrivileges ↔
      name ∈ permission.registry.grants.map Prod.fst ∧
        permission.hasPrivileges (.text name) = .ok true := by
  rw [grantPrivileges, List.mem_filter, and_congr_right_iff]
  intro hname
  rw [hasPrivileges_grant hname, Except.ok.injEq]

theorem grantPrivileges_sublist (permission : Permission) :
    permission.grantPrivileges.Sublist (permission.registry.grants.map Prod.fst) :=
  List.filter_sublist

theorem hasBit_grantsAllowed_iff :
    permission.grantsAllowed.HasBit i ↔
      ∃ entry ∈ permission.registry.grants,
        entry.1 ∈ permission.grantPrivileges ∧ entry.2.HasBit i := by
  have hheld : ∀ entry ∈ permission.registry.grants,
      (entry.1 ∈ permission.grantPrivileges ↔
        (permission.registry.privilege? entry.1).any permission.coversMask = true) :=
    fun entry hentry => mem_grantPrivileges_iff_any (List.mem_map_of_mem hentry)
  rw [grantsAllowed_eq_union, Mask.hasBit_union_iff]
  simp only [List.mem_map, List.mem_filter]
  grind

theorem grantsAllowed_beyond_max (permission : Permission) :
    permission.grantsAllowed.beyond permission.registry.max = 0 := by
  rw [Mask.beyond_eq_zero_iff]
  intro i hi
  obtain ⟨entry, hentry, -, hbit⟩ := hasBit_grantsAllowed_iff.1 hi
  exact Mask.beyond_eq_zero_iff.1 (Registry.validGrant_of_mem hentry).2 i hbit

end

/--
The grant privileges of a permission are the names in its grant table that a query finds
held, each once and in the order of the table; no such query fails. The bits that it may
delegate are those of their grant masks, and all of them are configured.
-/
theorem grantPrivileges_queried {privileges grants : Table} {permission : Permission}
    (h : Registry.ofTables privileges grants = .ok permission.registry) :
    permission.grantPrivileges.Sublist (grants.map Prod.fst) ∧
      permission.grantPrivileges.Nodup ∧
      (∀ name ∈ grants.map Prod.fst, ∃ answer, permission.hasPrivileges (.text name) = .ok answer) ∧
      (∀ name, name ∈ permission.grantPrivileges ↔
        name ∈ grants.map Prod.fst ∧ permission.hasPrivileges (.text name) = .ok true) ∧
      (∀ i, permission.grantsAllowed.HasBit i ↔
        ∃ entry ∈ grants, entry.1 ∈ permission.grantPrivileges ∧ entry.2.HasBit i) ∧
      permission.grantsAllowed.beyond permission.registry.max = 0 := by
  obtain ⟨-, rfl⟩ := Registry.ofTables_eq_ok_iff.1 h
  have hsublist := permission.grantPrivileges_sublist
  refine ⟨hsublist, hsublist.nodup permission.registry.nodup_grants, ?_,
    fun _ => mem_grantPrivileges_iff, fun _ => hasBit_grantsAllowed_iff,
    permission.grantsAllowed_beyond_max⟩
  intro name hname
  exact ⟨_, hasPrivileges_grant hname⟩

/-- A lower grant privilege is not held with a higher one that lacks its bit. -/
theorem grantPrivileges_queried_admin :
    let admin := onRegistry .standard "article/*" 79
    Registry.ofTables Registry.standard.privileges Registry.standard.grants = .ok admin.registry ∧
      admin.hasPrivileges (.text "admin") = .ok true ∧ "admin" ∈ admin.grantPrivileges ∧
      admin.hasPrivileges (.text "manage") = .ok false ∧ "manage" ∉ admin.grantPrivileges ∧
      admin.grantsAllowed.HasBit 6 ∧ admin.grantsAllowed.beyond admin.registry.max = 0 := by
  intro admin
  have hmade : Registry.ofTables Registry.standard.privileges Registry.standard.grants =
      .ok admin.registry :=
    Registry.ofTables_eq_ok_iff.2 ⟨rfl, rfl⟩
  obtain ⟨-, -, -, hmem, hbits, hmax⟩ := grantPrivileges_queried hmade
  have hadmin : admin.hasPrivileges (.text "admin") = .ok true := by
    have hmask : admin.registry.privilege? "admin" = some 64 := by decide +kernel
    have hcovers : admin.coversMask 64 = true := by decide +kernel
    rw [hasPrivileges_name hmask, hcovers]
  have hmanage : admin.hasPrivileges (.text "manage") = .ok false := by
    have hmask : admin.registry.privilege? "manage" = some 16 := by decide +kernel
    have hcovers : admin.coversMask 16 = false := by decide +kernel
    rw [hasPrivileges_name hmask, hcovers]
  have hheld := (hmem "admin").2 ⟨by decide, hadmin⟩
  have hmissing : "manage" ∉ admin.grantPrivileges := by
    intro hname
    have hanswer := ((hmem "manage").1 hname).2
    rw [hmanage, Except.ok.injEq] at hanswer
    contradiction
  have hbit := (hbits 6).2 ⟨("admin", 127), by decide, hheld, by decide⟩
  exact ⟨hmade, hadmin, hheld, hmanage, hmissing, hbit, hmax⟩

/-! ## Grant privileges held in full -/

section

variable {permission : Permission} {name : String} {mask : Mask} {t : Nat}

theorem mem_grantPrivileges_iff_of_single (hname : name ∈ permission.registry.grants.map Prod.fst)
    (hmask : permission.registry.privilege? name = some mask) (hsingle : mask.toNat = 2 ^ t) :
    name ∈ permission.grantPrivileges ↔ mask.beyond permission.privileges = 0 := by
  have hzero : mask ≠ 0 := (Registry.privilege?_inRange hmask).1
  rw [mem_grantPrivileges_iff_covers hname hmask]
  exact ⟨Mask.beyond_eq_zero_of_single_query hsingle, Mask.covers_of_beyond_eq_zero hzero⟩

theorem single_of_mem_standard_grants (h : name ∈ Registry.standard.grants.map Prod.fst) :
    ∃ mask t, Registry.standard.privilege? name = some mask ∧ mask.toNat = 2 ^ t := by
  have hnames : name = "manage" ∨ name = "own" ∨ name = "admin" := by
    simpa [Registry.standard] using h
  rcases hnames with rfl | rfl | rfl
  · exact ⟨16, 4, by decide +kernel, rfl⟩
  · exact ⟨32, 5, by decide +kernel, rfl⟩
  · exact ⟨64, 6, by decide +kernel, rfl⟩

end

/--
Only its supersets cover a query exactly if it is no bit, a single bit, or every bit from
some place up to the top of the word; they do cover it unless it is no bit. So a grant
privilege of a single bit is reported exactly by who holds it in full, and every one of the
standard registry is of a single bit. Any other grant privilege below the top bit of the
word is covered by some mask that lacks one of its bits.
-/
theorem grantPrivileges_in_full :
    (∀ query : Mask,
      (∀ held, Mask.covers held query = true → query.beyond held = 0) ↔
        query = 0 ∨ (∃ t, query.toNat = 2 ^ t) ∨ ∃ k, k ≤ 64 ∧ query.toNat = 2 ^ 64 - 2 ^ k) ∧
    (∀ held query : Mask, query ≠ 0 → query.beyond held = 0 → Mask.covers held query = true) ∧
    (∀ permission : Permission, ∀ name ∈ permission.registry.grants.map Prod.fst,
      ∃ mask, permission.registry.privilege? name = some mask ∧
        ((∃ t, mask.toNat = 2 ^ t) →
          (name ∈ permission.grantPrivileges ↔ mask.beyond permission.privileges = 0)) ∧
        ((¬ ∃ t, mask.toNat = 2 ^ t) → mask.toNat < 2 ^ 63 →
          ∃ held, Mask.covers held mask = true ∧ mask.beyond held ≠ 0)) ∧
    (∀ name ∈ Registry.standard.grants.map Prod.fst,
      ∃ mask t, Registry.standard.privilege? name = some mask ∧ mask.toNat = 2 ^ t) := by
  refine ⟨fun _ => Mask.covered_only_by_supersets_iff, fun _ _ => Mask.covers_of_beyond_eq_zero,
    ?_, fun _ => single_of_mem_standard_grants⟩
  intro permission name hname
  obtain ⟨mask, hmask⟩ := Registry.exists_privilege?_of_grant hname
  have hzero : mask ≠ 0 := (Registry.privilege?_inRange hmask).1
  refine ⟨mask, hmask, ?_, fun hseveral => Mask.exists_covering_missing_of_lt hzero hseveral⟩
  intro hsingle
  obtain ⟨t, ht⟩ := hsingle
  exact mem_grantPrivileges_iff_of_single hname hmask ht

def withJointGrant : Registry where
  privileges := [("read", 1), ("publish", 2), ("archive", 4), ("curate", 6), ("audit", 8)]
  grants := [("publish", 1), ("curate", 7)]
  sound := by decide +kernel

/-- Of two grant privileges that lack a held bit, the one of several bits is reported. -/
theorem grantPrivileges_in_full_archivist :
    let archivist := onRegistry withJointGrant "article/*" 12
    "publish" ∉ archivist.grantPrivileges ∧ Mask.beyond 2 archivist.privileges ≠ 0 ∧
      "curate" ∈ archivist.grantPrivileges ∧ Mask.beyond 6 archivist.privileges ≠ 0 ∧
      ∃ held, Mask.covers held 6 = true ∧ Mask.beyond 6 held ≠ 0 := by
  intro archivist
  obtain ⟨-, -, hgrants, -⟩ := grantPrivileges_in_full
  have hpublish : archivist.registry.privilege? "publish" = some 2 := by decide +kernel
  have hcurate : archivist.registry.privilege? "curate" = some 6 := by decide +kernel
  have hcurateName : "curate" ∈ archivist.registry.grants.map Prod.fst := by decide
  have hmissing : Mask.beyond 2 archivist.privileges ≠ 0 := by decide
  have hreported : "curate" ∈ archivist.grantPrivileges :=
    (mem_grantPrivileges_iff_covers hcurateName hcurate).2 (by decide)
  have hseveral : ¬ ∃ t, UInt64.toNat 6 = 2 ^ t := by
    intro hsingle
    obtain ⟨t, ht⟩ := hsingle
    have hlow := (Mask.toNat_eq_single_iff.1 ht 1).1 (by decide)
    have hhigh := (Mask.toNat_eq_single_iff.1 ht 2).1 (by decide)
    omega
  obtain ⟨publish, hfound, hsingle, -⟩ := hgrants archivist "publish" (by decide)
  obtain rfl : 2 = publish := Option.some.inj (hpublish.symm.trans hfound)
  obtain ⟨curate, hfound', -, hcovered⟩ := hgrants archivist "curate" hcurateName
  obtain rfl : 6 = curate := Option.some.inj (hcurate.symm.trans hfound')
  refine ⟨fun hmem => hmissing ((hsingle ⟨1, rfl⟩).1 hmem), hmissing, hreported, by decide, ?_⟩
  exact hcovered hseveral (by decide)

end Entitlements.Permission
