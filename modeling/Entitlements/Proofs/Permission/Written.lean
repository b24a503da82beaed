import Entitlements.Pattern.RunLimit
import Entitlements.Proofs.Permission.WellFormed
import Entitlements.Validation

/-!
# Written permissions

A permission is written as an identifier and the names of its privileges. It is read
back as it was meant exactly if no name holds a colon, as the last colon is taken to
end the identifier.
-/

namespace Entitlements.Permission

/-- An identifier with the names of privileges. -/
def written (identifier : String) (names : List String) : String :=
  identifier ++ ":" ++ ",".intercalate names

section

variable {registry : Registry} {identifier : String} {names : List String}

theorem cutLast_written_iff :
    Text.cutLast ':' (written identifier names).toList =
        some (identifier.toList, (",".intercalate names).toList) ↔
      ∀ name ∈ names, ':' ∉ name.toList := by
  rw [Text.cutLast_eq_some_iff, Text.mem_intercalate_iff (by decide)]
  simp [written]

theorem ofText_written [SizeLimit] (hfree : ∀ name ∈ names, ':' ∉ name.toList) :
    ofText registry (written identifier names) =
      ofParts registry identifier (.text (",".intercalate names)) := by
  rw [ofText, cutLast_written_iff.2 hfree]
  simp only [String.ofList_toList]

/-- A name with a colon moves the end of the identifier. -/
theorem colon_notMem_of_identifier_eq [SizeLimit] {permission : Permission}
    (h : ofText registry (written identifier names) = .ok permission)
    (hidentifier : permission.identifier = identifier) : ∀ name ∈ names, ':' ∉ name.toList := by
  unfold ofText at h
  split at h
  · next before after hcut =>
      obtain ⟨matcher, mask, -, -, rfl⟩ := ofParts_eq_ok_iff.1 h
      obtain ⟨htext, hfree⟩ := (Text.cutLast_eq_some_iff _ _ _ _).1 hcut
      -- The cut is at the last colon, so behind the whole identifier no colon is left.
      have hbefore : before = identifier.toList := by
        rw [← hidentifier, String.toList_ofList]
      have hafter : (",".intercalate names).toList = after := by
        rw [hbefore] at htext
        simpa [written] using htext
      rw [← hafter, Text.mem_intercalate_iff (by decide)] at hfree
      simpa using hfree
  · contradiction

theorem isPermission_written (hfree : ∀ name ∈ names, ':' ∉ name.toList) (hne : names ≠ [])
    (h : ∀ name ∈ names, ∃ mask, registry.privilege? name = some mask) :
    Validation.isPermission registry (written identifier names) =
      Validation.isIdentifier identifier := by
  have hlist : Validation.isPrivilegeList registry (",".intercalate names) = true := by
    rw [Validation.isPrivilegeList, Registry.tokens_names hne h, List.all_eq_true]
    intro name hname
    obtain ⟨mask, hmask⟩ := h name hname
    rw [Registry.resolveToken_of_privilege? hmask]
    rfl
  rw [Validation.isPermission, cutLast_written_iff.2 hfree]
  simp only [String.ofList_toList, hlist, Bool.and_true]

end

/--
Configured names can be written after any identifier that compiles, and the text is
read back as that identifier with their masks together, exactly if no name holds a
colon. Then the text is valid exactly if the identifier is.
-/
theorem ofText_written_iff [SizeLimit] {registry : Registry} {identifier : String}
    {names : List String} (hne : names ≠ [])
    (hnames : ∀ name ∈ names, ∃ mask, registry.privilege? name = some mask)
    (hidentifier : identifier ≠ "") (hcompile : (Matcher.compile? identifier).isSome = true) :
    ((∃ permission, ofText registry (written identifier names) = .ok permission ∧
        permission.identifier = identifier ∧
        permission.privileges = Mask.union (names.filterMap registry.privilege?)) ↔
      ∀ name ∈ names, ':' ∉ name.toList) ∧
    ((∀ name ∈ names, ':' ∉ name.toList) →
      (Validation.isPermission registry (written identifier names) = true ↔
        Validation.isIdentifier identifier = true)) := by
  refine ⟨⟨?_, ?_⟩, ?_⟩
  · intro h
    obtain ⟨permission, hread, hsame, -⟩ := h
    exact colon_notMem_of_identifier_eq hread hsame
  · intro hfree
    obtain ⟨matcher, hmatcher⟩ := Option.isSome_iff_exists.1 hcompile
    have hcompiled := compileIdentifier_eq_ok_iff.2 ⟨hidentifier, hmatcher⟩
    have hresolved := Registry.resolve_names hne hnames
    rw [ofText_written hfree]
    exact ⟨_, ofParts_eq_ok_iff.2 ⟨matcher, _, hcompiled, hresolved, rfl⟩, rfl, rfl⟩
  · intro hfree
    rw [isPermission_written hfree hne hnames]

/-- A registry with a name that ends in the name of another privilege. -/
def withQualifiedRead : Registry where
  privileges := [("read", 1), ("staff:read", 2), ("naïve 読", 4)]
  grants := []
  sound := by decide +kernel

theorem ofText_written_iff_unicode :
    ∃ permission,
      ofText withQualifiedRead (written "doc:1/*" ["naïve 読", "read"]) = .ok permission ∧
      permission.identifier = "doc:1/*" ∧ permission.privileges = 5 := by
  have hnames : ∀ name ∈ ["naïve 読", "read"],
      ∃ mask, withQualifiedRead.privilege? name = some mask := by
    intro name hname
    rcases List.mem_pair.1 hname with rfl | rfl
    · exact ⟨4, by decide +kernel⟩
    · exact ⟨1, by decide +kernel⟩
  have hidentifier : "doc:1/*" ≠ "" := by decide
  have hcompile : (Matcher.compile? "doc:1/*").isSome = true := by decide +kernel
  obtain ⟨hread, -⟩ := ofText_written_iff (by simp) hnames hidentifier hcompile
  obtain ⟨permission, hok, hsame, hprivileges⟩ := hread.2 (by decide +kernel)
  exact ⟨permission, hok, hsame, hprivileges.trans (by decide +kernel)⟩

/-- A name with a colon is read as another privilege of another identifier. -/
theorem not_ofText_written :
    ¬ ∀ (registry : Registry) (identifier : String) (names : List String), names ≠ [] →
      (∀ name ∈ names, ∃ mask, registry.privilege? name = some mask) → identifier ≠ "" →
      (Matcher.compile? identifier).isSome = true →
      ∃ permission, ofText registry (written identifier names) = .ok permission ∧
        permission.identifier = identifier ∧
        permission.privileges = Mask.union (names.filterMap registry.privilege?) := by
  intro hwritten
  have hname : ∀ name ∈ ["staff:read"], ∃ mask, withQualifiedRead.privilege? name = some mask := by
    intro name hname
    rw [List.mem_singleton.1 hname]
    exact ⟨2, by decide +kernel⟩
  obtain ⟨permission, hread, hsame, -⟩ :=
    hwritten withQualifiedRead "doc" ["staff:read"] (by simp) hname (by decide) (by decide +kernel)
  have hfree := colon_notMem_of_identifier_eq hread hsame "staff:read" (by simp)
  exact absurd hfree (by decide)

end Entitlements.Permission
