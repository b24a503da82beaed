import Entitlements.Proofs.Permission.Granting

/-!
# Rights of the grantee

Grant rights that the grantee holds already may stand against a grant. A grant to
one who holds less stands too, unless what is left falls into a gap of the
grantor's grant masks.
-/

namespace Entitlements

namespace Permission

/-- The grantee has overlapping grant rights, and the grantor may delegate none of their bits. -/
def Apart (grantor : Permission) (held : List Permission) : Prop :=
  grantor.granteeGrants held ≠ 0 ∧ grantor.grantsAllowed &&& grantor.granteeGrants held = 0

instance (grantor : Permission) (held : List Permission) : Decidable (grantor.Apart held) :=
  inferInstanceAs (Decidable (_ ∧ _))

section

variable {grantor candidate : Permission} {held more : List Permission}

theorem granteeGrants_beyond (hsub : ∀ permission ∈ held, permission ∈ more) :
    (grantor.granteeGrants held).beyond (grantor.granteeGrants more) = 0 := by
  apply Mask.union_beyond_union
  intro mask hmask
  simp only [List.mem_filterMap, List.mem_flatMap, List.mem_filter] at hmask ⊢
  obtain ⟨name, ⟨permission, ⟨hheld, hoverlaps⟩, hname⟩, hlookup⟩ := hmask
  exact ⟨name, ⟨permission, ⟨hsub permission hheld, hoverlaps⟩, hname⟩, hlookup⟩

/-- Where a grant to one who holds more stands, one who holds less has a part of covered rights. -/
theorem granteeGrants_of_subset (hsub : ∀ permission ∈ held, permission ∈ more)
    (h : grantor.denial? candidate more = none) :
    grantor.granteeGrants held = 0 ∨
      ∃ covered, Mask.covers grantor.grantsAllowed covered = true ∧
        (grantor.granteeGrants held).beyond covered = 0 := by
  have hpart : (grantor.granteeGrants held).beyond (grantor.granteeGrants more) = 0 :=
    granteeGrants_beyond hsub
  obtain ⟨-, -, hmore⟩ := denial?_eq_none_iff.1 h
  rcases hmore with hnone | hcovered
  · rw [hnone] at hpart
    exact .inl (Mask.eq_zero_of_beyond_zero hpart)
  · exact .inr ⟨_, hcovered, hpart⟩

/-- Nothing but a gap denies one who holds less what is granted to one who holds more. -/
theorem denial?_eq_none_iff_of_subset (hsub : ∀ permission ∈ held, permission ∈ more)
    (h : grantor.denial? candidate more = none) :
    grantor.denial? candidate held = none ↔ ¬ grantor.Apart held := by
  obtain ⟨hscope, hcovers, -⟩ := denial?_eq_none_iff.1 h
  rw [denial?_eq_none_iff, Apart]
  rcases granteeGrants_of_subset hsub h with hnone | ⟨covered, hcovered, hpart⟩
  · simp [hscope, hcovers, hnone]
  · rw [Mask.covers_part_iff hcovered hpart]
    simp only [hscope, hcovers, true_and]
    grind

theorem not_apart_of_covers_only_subsets
    (hmasks : ∀ query, Mask.covers grantor.grantsAllowed query = true →
      query.beyond grantor.grantsAllowed = 0)
    (hsub : ∀ permission ∈ held, permission ∈ more)
    (h : grantor.denial? candidate more = none) : ¬ grantor.Apart held := by
  intro hapart
  obtain ⟨hheld, hshared⟩ := hapart
  rcases granteeGrants_of_subset hsub h with hnone | ⟨covered, hcovered, hpart⟩
  · exact hheld hnone
  · have hwithin := Mask.beyond_trans hpart (hmasks covered hcovered)
    have hcovers := Mask.covers_of_beyond_eq_zero hheld hwithin
    exact ((Mask.covers_iff _ _).1 hcovers).2 hshared

theorem not_apart_standard (hregistry : grantor.registry = .standard)
    (hsub : ∀ permission ∈ held, permission ∈ more)
    (h : grantor.denial? candidate more = none) : ¬ grantor.Apart held := by
  obtain ⟨k, hfull⟩ := grantsAllowed_standard_full hregistry
  apply not_apart_of_covers_only_subsets _ hsub h
  intro query hquery
  exact Mask.beyond_eq_zero_of_full hfull (Mask.toNat_le_of_covers hquery)

end

section

variable [SizeLimit] {grantor : Permission} {candidate : Argument} {held more : List Argument}

theorem GrantsTo.of_subset (h : grantor.GrantsTo candidate more)
    (hsub : ∀ argument ∈ held, argument ∈ more) :
    ∃ known, Argument.resolveAll grantor.registry held = .ok known ∧
      (grantor.GrantsTo candidate held ↔ ¬ grantor.Apart known) ∧
      (grantor.registry = .standard → grantor.GrantsTo candidate held) := by
  obtain ⟨parsed, all, hparsed, hall, hgrants⟩ := grantsTo_iff.1 h
  obtain ⟨known, hknown, hsub⟩ := Argument.exists_resolveAll_of_subset hsub hall
  have hdecision : grantor.GrantsTo candidate held ↔ grantor.denial? parsed known = none := by
    rw [grantsTo_iff, hparsed, hknown]
    simp
  have hapart := denial?_eq_none_iff_of_subset hsub hgrants
  refine ⟨known, hknown, hdecision.trans hapart, ?_⟩
  intro hregistry
  exact hdecision.2 (hapart.2 (not_apart_standard hregistry hsub hgrants))

end

end Permission

theorem PermissionSet.GrantsTo.of_subset [SizeLimit] {set : PermissionSet}
    {candidate : Argument} {held more : List Argument} (h : set.GrantsTo candidate more)
    (hsub : ∀ argument ∈ held, argument ∈ more) :
    ∃ parsed all known, candidate.resolve set.registry = .ok parsed ∧
      Argument.resolveAll set.registry more = .ok all ∧
      Argument.resolveAll set.registry held = .ok known ∧
      (set.GrantsTo candidate held ∨
        ∀ member ∈ set.permissions, member.GrantsTo (.built parsed) (all.map .built) →
          member.Apart known ∧ member.registry ≠ .standard) := by
  obtain ⟨parsed, all, hparsed, hall, -⟩ := grantsTo_iff.1 h
  obtain ⟨known, hknown, hsub⟩ := Argument.exists_resolveAll_of_subset hsub hall
  refine ⟨parsed, all, known, hparsed, hall, hknown, ?_⟩
  by_cases hfewer : set.GrantsTo candidate held
  · exact .inl hfewer
  · right
    intro member hmember hgranted
    have hmore := Permission.grantsTo_built_iff.1 hgranted
    have hapart : member.Apart known := by
      by_contra hapart
      have hstill := (Permission.denial?_eq_none_iff_of_subset hsub hmore).2 hapart
      exact hfewer (grantsTo_iff.2 ⟨parsed, known, hparsed, hknown, member, hmember, hstill⟩)
    exact ⟨hapart, fun hregistry => Permission.not_apart_standard hregistry hsub hmore hapart⟩

namespace Permission

/--
Whoever may grant or revoke for one who holds more may do so for one who holds less,
unless the rights left to that one are apart from the grantor's. They never are on
the standard registry. A set may grant as well, unless they are apart from those of
every member that granted.
-/
theorem grantsTo_fewer_held [SizeLimit] {candidate : Argument} {held more : List Argument}
    (hsub : ∀ argument ∈ held, argument ∈ more) :
    (∀ grantor : Permission, grantor.GrantsTo candidate more →
      ∃ known, Argument.resolveAll grantor.registry held = .ok known ∧
        (grantor.GrantsTo candidate held ↔ ¬ grantor.Apart known) ∧
        (grantor.registry = .standard → grantor.GrantsTo candidate held)) ∧
    (∀ grantor : Permission, grantor.RevokesTo candidate more →
      ∃ known, Argument.resolveAll grantor.registry held = .ok known ∧
        (grantor.RevokesTo candidate held ↔ ¬ grantor.Apart known) ∧
        (grantor.registry = .standard → grantor.RevokesTo candidate held)) ∧
    ∀ set : PermissionSet, set.GrantsTo candidate more →
      ∃ parsed all known, candidate.resolve set.registry = .ok parsed ∧
        Argument.resolveAll set.registry more = .ok all ∧
        Argument.resolveAll set.registry held = .ok known ∧
        (set.GrantsTo candidate held ∨
          ∀ member ∈ set.permissions, member.GrantsTo (.built parsed) (all.map .built) →
            member.Apart known ∧ member.registry ≠ .standard) :=
  ⟨fun _ h => h.of_subset hsub, fun _ h => GrantsTo.of_subset h hsub, fun _ h => h.of_subset hsub⟩

/-- A registry whose owners may delegate reading and owning, but not the writing between them. -/
def readOrOwn : Registry where
  privileges := [("read", 1), ("write", 2), ("own", 4)]
  grants := [("read", 1), ("write", 2), ("own", 5)]
  sound := by decide +kernel

def onReadOrOwn (identifier : String) (privileges : Mask) : Permission :=
  onRegistry readOrOwn identifier privileges

theorem grantsTo_fewer_held_reader :
    (onReadOrOwn "doc/*" 4).GrantsTo (.built (onReadOrOwn "doc/1" 4))
        ([onReadOrOwn "doc/1" 1, onReadOrOwn "doc/**" 2].map .built) ∧
      (onReadOrOwn "doc/*" 4).GrantsTo (.built (onReadOrOwn "doc/1" 4))
        ([onReadOrOwn "doc/1" 1].map .built) := by
  have hmore : (onReadOrOwn "doc/*" 4).GrantsTo (.built (onReadOrOwn "doc/1" 4))
      ([onReadOrOwn "doc/1" 1, onReadOrOwn "doc/**" 2].map .built) :=
    grantsTo_built_iff.2 (by decide +kernel)
  have hsub : ∀ argument ∈ [onReadOrOwn "doc/1" 1].map Argument.built,
      argument ∈ [onReadOrOwn "doc/1" 1, onReadOrOwn "doc/**" 2].map Argument.built := by
    simp
  obtain ⟨known, hknown, hiff, -⟩ := (grantsTo_fewer_held hsub).1 _ hmore
  rw [Argument.resolveAll_built] at hknown
  cases hknown
  exact ⟨hmore, hiff.2 (by decide +kernel)⟩

/-- A writer is in the gap of an owner's grant masks until reading is added to it. -/
theorem not_grantsTo_fewer_held :
    ¬ ∀ (grantor candidate : Permission) (held more : List Permission),
      grantor.WellFormed → candidate.WellFormed → (∀ permission ∈ more, permission.WellFormed) →
      (∀ permission ∈ held, permission ∈ more) →
      grantor.GrantsTo (.built candidate) (more.map .built) →
        grantor.GrantsTo (.built candidate) (held.map .built) := by
  intro hfewer
  have howner : (onReadOrOwn "doc" 4).WellFormed := wellFormed_onRegistry (by decide +kernel)
  have hwriter : (onReadOrOwn "doc" 2).WellFormed := wellFormed_onRegistry (by decide +kernel)
  have hreader : (onReadOrOwn "doc" 1).WellFormed := wellFormed_onRegistry (by decide +kernel)
  have hmore : (onReadOrOwn "doc" 4).GrantsTo (.built (onReadOrOwn "doc" 1))
      ([onReadOrOwn "doc" 2, onReadOrOwn "doc" 1].map .built) :=
    grantsTo_built_iff.2 (by decide +kernel)
  have hheld := hfewer _ _ [onReadOrOwn "doc" 2] [onReadOrOwn "doc" 2, onReadOrOwn "doc" 1]
    howner hreader (by simp [hwriter, hreader]) (by simp) hmore
  exact absurd (grantsTo_built_iff.1 hheld) (by decide +kernel)

end Permission

end Entitlements
