import Entitlements.Proofs.Pattern.Containment
import Entitlements.Proofs.Permission.Granting

/-!
# Redelegation

Whoever was granted a permission may grant on. On the standard registry a chain of
two grants never reaches privileges that its first grantor could not delegate; it
may leave the first grantor's scope, but only to the parent of a trailing globstar.
-/

namespace Entitlements.Permission

section

variable {first second third : Permission} {identifier : String}

theorem matchesIdentifier_or_parent [SizeLimit] (hfirst : first.WellFormed)
    (hsecond : second.WellFormed)
    (hscope : first.matchesIdentifier second.identifier = true)
    (hmatch : second.matchesIdentifier identifier = true) :
    first.matchesIdentifier identifier = true ∨
      ∃ parent matcher, Pattern.IsParent parent.toList second.identifier.toList ∧
        Matcher.compile? parent = some matcher ∧ matcher.isMatch identifier = true :=
  Matcher.isMatch_or_parent hfirst.compiled hsecond.compiled hscope hmatch

/-- On the standard registry, covered privileges carry no wider grant masks. -/
theorem grantsAllowed_beyond_standard (hfirst : first.registry = .standard)
    (hsecond : second.registry = .standard)
    (h : Mask.covers first.grantsAllowed second.privileges = true) :
    second.grantsAllowed.beyond first.grantsAllowed = 0 := by
  have hprivileges := Mask.toNat_le_of_covers h
  have hle : second.grantsAllowed.toNat ≤ first.grantsAllowed.toNat := by
    have hheld := grantsAllowed_standard_cases hfirst
    have hgranted := grantsAllowed_standard_cases hsecond
    omega
  obtain ⟨k, hfull⟩ := grantsAllowed_standard_full hfirst
  exact Mask.beyond_eq_zero_of_full hfull hle

theorem Grants.grantsAllowed_beyond [SizeLimit] (h : first.Grants second)
    (hfirst : first.registry = .standard) (hsecond : second.registry = .standard) :
    second.grantsAllowed.beyond first.grantsAllowed = 0 :=
  grantsAllowed_beyond_standard hfirst hsecond (grants_iff.1 h).2

end

/--
On the standard registry, what is granted on stays within the privileges and the
grant masks of the first grantor, who grants it too if it is in scope. It is out of
scope at most at the parent of a trailing globstar.
-/
theorem grants_redelegated [SizeLimit] {first second third : Permission}
    (hfirst : first.WellFormed) (hsecond : second.WellFormed) (hthird : third.WellFormed)
    (hfirstRegistry : first.registry = .standard) (hsecondRegistry : second.registry = .standard)
    (hthirdRegistry : third.registry = .standard)
    (hgranted : first.Grants second) (hredelegated : second.Grants third) :
    third.privileges.beyond first.grantsAllowed = 0 ∧
      third.grantsAllowed.beyond first.grantsAllowed = 0 ∧
      (first.Grants third ↔ first.matchesIdentifier third.identifier = true) ∧
      (first.Grants third ∨
        ∃ parent matcher, Pattern.IsParent parent.toList second.identifier.toList ∧
          Matcher.compile? parent = some matcher ∧
            matcher.isMatch third.identifier = true) := by
  have hmasks := hgranted.grantsAllowed_beyond hfirstRegistry hsecondRegistry
  have hprivileges : third.privileges.beyond first.grantsAllowed = 0 :=
    Mask.beyond_trans (hredelegated.within_standard hsecondRegistry) hmasks
  have hgrants : third.grantsAllowed.beyond first.grantsAllowed = 0 :=
    Mask.beyond_trans (hredelegated.grantsAllowed_beyond hsecondRegistry hthirdRegistry) hmasks
  have hcovers : Mask.covers first.grantsAllowed third.privileges = true :=
    Mask.covers_of_beyond_eq_zero hthird.privileges_ne hprivileges
  have hscope : first.Grants third ↔ first.matchesIdentifier third.identifier = true := by
    rw [grants_iff]
    exact ⟨fun h => h.1, fun h => ⟨h, hcovers⟩⟩
  refine ⟨hprivileges, hgrants, hscope, ?_⟩
  rw [hscope]
  exact matchesIdentifier_or_parent hfirst hsecond (grants_iff.1 hgranted).1
    (grants_iff.1 hredelegated).1

def onStandard (identifier : String) (privileges : Mask) : Permission :=
  onRegistry .standard identifier privileges

theorem wellFormed_onStandard [SizeLimit] {identifier : String} {privileges : Mask}
    (h : identifier ≠ "" ∧ SizeLimit.admits identifier.toList = true ∧
      privileges ≠ 0 ∧ privileges.beyond Registry.standard.max = 0) :
    (onStandard identifier privileges).WellFormed :=
  wellFormed_onRegistry h

theorem grants_redelegated_subtree :
    (onStandard "org/**" 64).Grants (onStandard "org/team/*" 32) ∧
      (onStandard "org/team/*" 32).Grants (onStandard "org/team/notes" 5) ∧
      Mask.beyond 5 (onStandard "org/**" 64).grantsAllowed = 0 ∧
      (onStandard "org/**" 64).Grants (onStandard "org/team/notes" 5) := by
  have hfirst : (onStandard "org/**" 64).WellFormed :=
    wellFormed_onStandard (by decide +kernel)
  have hsecond : (onStandard "org/team/*" 32).WellFormed :=
    wellFormed_onStandard (by decide +kernel)
  have hthird : (onStandard "org/team/notes" 5).WellFormed :=
    wellFormed_onStandard (by decide +kernel)
  have hgranted : (onStandard "org/**" 64).Grants (onStandard "org/team/*" 32) :=
    grants_iff.2 (by decide +kernel)
  have hredelegated : (onStandard "org/team/*" 32).Grants (onStandard "org/team/notes" 5) :=
    grants_iff.2 (by decide +kernel)
  obtain ⟨hprivileges, -, hscope, -⟩ :=
    grants_redelegated hfirst hsecond hthird rfl rfl rfl hgranted hredelegated
  exact ⟨hgranted, hredelegated, hprivileges, hscope.2 (by decide +kernel)⟩

/--
The first grantor may be passed by: its second globstar keeps out the parent that
the pattern it grants takes in.
-/
theorem not_grants_redelegated_parent :
    ¬ ∀ first second third : Permission,
      first.WellFormed → second.WellFormed → third.WellFormed →
      first.registry = .standard → second.registry = .standard → third.registry = .standard →
      first.Grants second → second.Grants third →
        first.Grants third ∧ third.privileges.beyond first.grantsAllowed = 0 ∧
          third.grantsAllowed.beyond first.grantsAllowed = 0 := by
  intro hclosed
  have hfirst : (onStandard "a/**/**" 64).WellFormed :=
    wellFormed_onStandard (by decide +kernel)
  have hsecond : (onStandard "a/**" 64).WellFormed :=
    wellFormed_onStandard (by decide +kernel)
  have hthird : (onStandard "a" 1).WellFormed :=
    wellFormed_onStandard (by decide +kernel)
  have hgranted : (onStandard "a/**/**" 64).Grants (onStandard "a/**" 64) :=
    grants_iff.2 (by decide +kernel)
  have hredelegated : (onStandard "a/**" 64).Grants (onStandard "a" 1) :=
    grants_iff.2 (by decide +kernel)
  obtain ⟨hgrants, -⟩ := hclosed _ _ _ hfirst hsecond hthird rfl rfl rfl hgranted hredelegated
  have houtside : (onStandard "a/**/**" 64).matchesIdentifier "a" = false := by decide +kernel
  have hinside : (onStandard "a/**/**" 64).matchesIdentifier "a" = true :=
    (grants_iff.1 hgrants).1
  rw [houtside] at hinside
  contradiction

end Entitlements.Permission
