import Entitlements.Pattern.RunLimit
import Entitlements.Proofs.Pattern.Sample
import Entitlements.Proofs.Permission.Arguments
import Entitlements.Proofs.Permission.WellFormed

/-!
# Granting

A candidate is granted if its identifier is in scope and the grant masks cover its
privileges. As coverage is no subset test, whether a grantor can hand out bits
beyond its grant masks depends on their shape.
-/

namespace Entitlements.Permission

/-- The grantor may grant the candidate to one who holds nothing. -/
def Grants [SizeLimit] (grantor candidate : Permission) : Prop :=
  (grantor.mayGrant (.built candidate)).answer = .ok true

section

variable {grantor candidate : Permission}

theorem granteeGrants_nil : grantor.granteeGrants [] = 0 := rfl

theorem grants_iff [SizeLimit] :
    grantor.Grants candidate ↔
      grantor.matchesIdentifier candidate.identifier = true ∧
        Mask.covers grantor.grantsAllowed candidate.privileges = true := by
  have hanswer : grantor.Grants candidate ↔ (grantor.delegates candidate []).answer = true := by
    change Except.ok (grantor.delegates candidate []).answer = Except.ok true ↔ _
    simp
  rw [hanswer, delegates_answer_iff, denial?_eq_none_iff]
  simp [granteeGrants_nil]

theorem grantsAllowed_eq_union :
    grantor.grantsAllowed =
      Mask.union ((grantor.registry.grants.filter fun entry =>
        (grantor.registry.privilege? entry.1).any grantor.coversMask).map Prod.snd) := by
  have hmasks : ∀ entries : Table, (∀ entry ∈ entries, entry ∈ grantor.registry.grants) →
      (entries.map Prod.fst).filterMap grantor.registry.grantMask? = entries.map Prod.snd := by
    intro entries hentries
    have hlookup : ∀ entry ∈ entries,
        (grantor.registry.grantMask? ∘ Prod.fst) entry = some entry.2 :=
      fun entry hentry => Registry.grantMask?_of_mem (hentries entry hentry)
    rw [List.filterMap_map, List.filterMap_congr hlookup]
    simp
  rw [grantsAllowed, grantPrivileges, List.filter_map, hmasks]
  · rfl
  · intro entry hentry
    exact (List.mem_filter.1 hentry).1

theorem exists_grants_of_covers [SizeLimit] (h : grantor.WellFormed) {query : Mask}
    (hcovers : Mask.covers grantor.grantsAllowed query = true) :
    ∃ candidate : Permission,
      candidate.WellFormed ∧ grantor.Grants candidate ∧ candidate.privileges = query := by
  have hquery : query ≠ 0 := (Mask.ne_zero_of_covers hcovers).2
  obtain ⟨identifier, hidentifier, hcompile, hmatch⟩ :=
    Matcher.exists_match h.compiled h.identifier_ne
  have hconfigured : query.beyond (Registry.ofMask query hquery).max = 0 := by
    rw [Registry.max_ofMask, Mask.beyond_eq_zero_iff]
    exact fun _ hi => hi
  refine ⟨{ identifier, privileges := query, registry := Registry.ofMask query hquery,
            matcher := Matcher.ofPattern identifier }, ?_, grants_iff.2 ⟨hmatch, hcovers⟩, rfl⟩
  exact ⟨hidentifier, hcompile, hquery, hconfigured⟩

end

/-! ## The standard registry -/

section

variable {grantor candidate : Permission}

theorem grantsAllowed_standard (h : grantor.registry = .standard) :
    grantor.grantsAllowed =
      (if grantor.privileges.covers 16 then 15 else 0) |||
        ((if grantor.privileges.covers 32 then 63 else 0) |||
          (if grantor.privileges.covers 64 then 127 else 0)) := by
  have hmanage : Registry.standard.privilege? "manage" = some 16 := by decide +kernel
  have hown : Registry.standard.privilege? "own" = some 32 := by decide +kernel
  have hadmin : Registry.standard.privilege? "admin" = some 64 := by decide +kernel
  have hgrants : Registry.standard.grants = [("manage", 15), ("own", 63), ("admin", 127)] := rfl
  rw [grantsAllowed_eq_union, h, hgrants]
  simp only [List.filter_cons, List.filter_nil, hmanage, hown, hadmin, Option.any_some, coversMask]
  cases grantor.privileges.covers 16 <;> cases grantor.privileges.covers 32 <;>
    cases grantor.privileges.covers 64 <;> simp

theorem grantsAllowed_standard_cases (h : grantor.registry = .standard) :
    grantor.grantsAllowed.toNat = 0 ∨
      (grantor.grantsAllowed.toNat = 15 ∧ 16 ≤ grantor.privileges.toNat) ∨
      (grantor.grantsAllowed.toNat = 63 ∧ 32 ≤ grantor.privileges.toNat) ∨
      (grantor.grantsAllowed.toNat = 127 ∧ 64 ≤ grantor.privileges.toNat) := by
  rw [grantsAllowed_standard h]
  cases hadmin : grantor.privileges.covers 64 with
  | true =>
      have hle := Mask.toNat_le_of_covers hadmin
      refine .inr (.inr (.inr ⟨?_, hle⟩))
      cases grantor.privileges.covers 16 <;> cases grantor.privileges.covers 32 <;> rfl
  | false =>
      cases hown : grantor.privileges.covers 32 with
      | true =>
          have hle := Mask.toNat_le_of_covers hown
          refine .inr (.inr (.inl ⟨?_, hle⟩))
          cases grantor.privileges.covers 16 <;> rfl
      | false =>
          cases hmanage : grantor.privileges.covers 16 with
          | true =>
              exact .inr (.inl ⟨rfl, Mask.toNat_le_of_covers hmanage⟩)
          | false =>
              exact .inl rfl

theorem grantsAllowed_standard_full (h : grantor.registry = .standard) :
    ∃ k, grantor.grantsAllowed.toNat = 2 ^ k - 1 := by
  rcases grantsAllowed_standard_cases h with hnone | ⟨hmanage, -⟩ | ⟨hown, -⟩ | ⟨hadmin, -⟩
  · exact ⟨0, hnone⟩
  · exact ⟨4, hmanage⟩
  · exact ⟨6, hown⟩
  · exact ⟨7, hadmin⟩

theorem Grants.within_standard [SizeLimit] (h : grantor.Grants candidate)
    (hregistry : grantor.registry = .standard) :
    candidate.privileges.beyond grantor.grantsAllowed = 0 := by
  obtain ⟨k, hfull⟩ := grantsAllowed_standard_full hregistry
  exact Mask.beyond_eq_zero_of_full hfull (Mask.toNat_le_of_covers (grants_iff.1 h).2)

end

/--
Nothing is ever granted beyond the grant masks exactly if they are no bit, a single
bit, or every bit up to some width. The standard registry has no other ones.
-/
theorem grants_within_iff [SizeLimit] {grantor : Permission} (h : grantor.WellFormed) :
    ((∀ candidate : Permission, candidate.WellFormed → grantor.Grants candidate →
        candidate.privileges.beyond grantor.grantsAllowed = 0) ↔
      grantor.grantsAllowed = 0 ∨ (∃ t, grantor.grantsAllowed.toNat = 2 ^ t) ∨
        ∃ k, k ≤ 64 ∧ grantor.grantsAllowed.toNat = 2 ^ k - 1) ∧
    (grantor.registry = .standard →
      ∀ candidate : Permission, candidate.WellFormed → grantor.Grants candidate →
        candidate.privileges.beyond grantor.grantsAllowed = 0) := by
  rw [← Mask.covers_only_subsets_iff]
  refine ⟨⟨?_, ?_⟩, ?_⟩
  · intro hwithin query hcovers
    obtain ⟨candidate, hcandidate, hgrants, hquery⟩ := exists_grants_of_covers h hcovers
    rw [← hquery]
    exact hwithin candidate hcandidate hgrants
  · intro hmasks candidate _ hgrants
    exact hmasks candidate.privileges (grants_iff.1 hgrants).2
  · intro hregistry candidate _ hgrants
    exact hgrants.within_standard hregistry

/-- A permission whose grant masks lack a bit between two that they have. -/
def gapped : Permission where
  identifier := "article/*"
  privileges := 4
  registry :=
    { privileges := [("read", 1), ("write", 2), ("own", 4)]
      grants := [("own", 5)]
      sound := by decide +kernel }
  matcher := Matcher.ofPattern "article/*"

/-- Across a gap some candidate is granted a bit that nobody may delegate. -/
theorem grants_within_iff_gapped :
    gapped.WellFormed ∧
      ∃ candidate : Permission, candidate.WellFormed ∧ gapped.Grants candidate ∧
        candidate.privileges.beyond gapped.grantsAllowed ≠ 0 := by
  have hgapped : gapped.WellFormed :=
    ⟨by decide, Matcher.compile?_ofPattern (by decide +kernel), by decide, by decide +kernel⟩
  have hallowed : gapped.grantsAllowed = 5 := by decide +kernel
  refine ⟨hgapped, ?_⟩
  by_cases hwithin : ∀ candidate : Permission, candidate.WellFormed → gapped.Grants candidate →
      candidate.privileges.beyond gapped.grantsAllowed = 0
  · have hshape := (grants_within_iff hgapped).1.1 hwithin
    rw [hallowed] at hshape
    rcases hshape with hzero | ⟨t, hsingle⟩ | ⟨k, -, hfull⟩
    · contradiction
    · have hlow := (Mask.toNat_eq_single_iff.1 hsingle 0).1 (by decide)
      have hhigh := (Mask.toNat_eq_single_iff.1 hsingle 2).1 (by decide)
      omega
    · have hhigh := (Mask.toNat_eq_full_iff.1 hfull 2).1 (by decide)
      have hgap := (Mask.toNat_eq_full_iff.1 hfull 1).2 (by omega)
      exact absurd hgap (by decide)
  · simpa using hwithin

end Entitlements.Permission
