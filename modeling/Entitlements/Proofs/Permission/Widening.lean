import Entitlements.Proofs.Permission.Arguments
import Entitlements.Proofs.Permission.WellFormed

/-!
# Wider masks

A permission with further bits on the same identifier and registry answers yes to
whatever the narrower one does. Coverage compares masks as numbers, so this needs to
be seen for each decision that rests on it.
-/

namespace Entitlements.Permission

/-- The second permission has the identifier, the registry and every bit of the first. -/
structure Within (first second : Permission) : Prop where
  identifier : first.identifier = second.identifier
  registry : first.registry = second.registry
  privileges : first.privileges.beyond second.privileges = 0

section

variable [SizeLimit] {first second : Permission} {identifier : String} {mask : Mask}
  {spec : PrivilegeSpec} {requested held : List Argument} {candidate : Argument}
  {parsed : Permission} {known : List Permission}

theorem Within.matcher_eq (h : first.Within second) (hfirst : first.WellFormed)
    (hsecond : second.WellFormed) : first.matcher = second.matcher := by
  have hcompiled := hfirst.compiled
  rw [h.identifier, hsecond.compiled, Option.some.injEq] at hcompiled
  exact hcompiled.symm

theorem Within.matchesIdentifier_eq (h : first.Within second) (hfirst : first.WellFormed)
    (hsecond : second.WellFormed) :
    first.matchesIdentifier identifier = second.matchesIdentifier identifier := by
  rw [matchesIdentifier, matchesIdentifier, h.matcher_eq hfirst hsecond]

omit [SizeLimit] in
theorem Within.coversMask (h : first.Within second) (hcovers : first.coversMask mask = true) :
    second.coversMask mask = true :=
  Mask.covers_of_covers_of_beyond hcovers h.privileges

omit [SizeLimit] in
theorem Within.hasPrivileges (h : first.Within second)
    (hheld : first.hasPrivileges spec = .ok true) : second.hasPrivileges spec = .ok true := by
  obtain ⟨masks, hmasks, hall⟩ := hasPrivileges_iff.1 hheld
  rw [h.registry] at hmasks
  exact hasPrivileges_iff.2 ⟨masks, hmasks, fun mask hmask => h.coversMask (hall mask hmask)⟩

theorem Within.allows (h : first.Within second) (hfirst : first.WellFormed)
    (hsecond : second.WellFormed) (hallows : first.allows requested = pure true) :
    second.allows requested = pure true := by
  obtain ⟨known, hknown, hall⟩ := allows_iff.1 hallows
  rw [h.registry] at hknown
  refine allows_iff.2 ⟨known, hknown, ?_⟩
  intro request hrequest
  obtain ⟨hmatch, hcovers⟩ := Bool.and_eq_true_iff.1 (hall request hrequest)
  rw [h.matchesIdentifier_eq hfirst hsecond] at hmatch
  exact Bool.and_eq_true_iff.2 ⟨hmatch, h.coversMask hcovers⟩

/-! ## Grant rights -/

omit [SizeLimit] in
theorem Within.grantPrivileges_sublist (h : first.Within second) :
    first.grantPrivileges.Sublist second.grantPrivileges := by
  unfold grantPrivileges
  rw [h.registry]
  apply List.monotone_filter_right
  intro name hname
  cases hmask : second.registry.privilege? name with
  | none =>
      rw [hmask] at hname
      contradiction
  | some mask =>
      rw [hmask] at hname
      exact h.coversMask hname

omit [SizeLimit] in
theorem Within.grantsAllowed_beyond (h : first.Within second) :
    first.grantsAllowed.beyond second.grantsAllowed = 0 := by
  unfold grantsAllowed
  rw [h.registry]
  apply Mask.union_beyond_union
  intro mask hmask
  exact (h.grantPrivileges_sublist.filterMap _).subset hmask

/-- The grant rights of the grantee depend on the grantor's identifier and registry only. -/
theorem Within.granteeGrants_eq (h : first.Within second) (hfirst : first.WellFormed)
    (hsecond : second.WellFormed) : first.granteeGrants known = second.granteeGrants known := by
  have hoverlaps : first.overlaps = second.overlaps := by
    funext permission
    rw [overlaps, overlaps, h.matchesIdentifier_eq hfirst hsecond, h.identifier]
  rw [granteeGrants, granteeGrants, hoverlaps, h.registry]

theorem Within.denial?_eq_none (h : first.Within second) (hfirst : first.WellFormed)
    (hsecond : second.WellFormed) (hnone : first.denial? parsed known = none) :
    second.denial? parsed known = none := by
  obtain ⟨hscope, hcovers, hgrantee⟩ := denial?_eq_none_iff.1 hnone
  rw [h.matchesIdentifier_eq hfirst hsecond] at hscope
  rw [h.granteeGrants_eq hfirst hsecond] at hgrantee
  have hallowed := h.grantsAllowed_beyond
  refine denial?_eq_none_iff.2
    ⟨hscope, Mask.covers_of_covers_of_beyond hcovers hallowed, ?_⟩
  rcases hgrantee with hnone | hcovered
  · exact .inl hnone
  · exact .inr (Mask.covers_of_covers_of_beyond hcovered hallowed)

theorem Within.grantsTo (h : first.Within second) (hfirst : first.WellFormed)
    (hsecond : second.WellFormed) (hgrants : first.GrantsTo candidate held) :
    second.GrantsTo candidate held := by
  obtain ⟨parsed, known, hparsed, hknown, hnone⟩ := grantsTo_iff.1 hgrants
  rw [h.registry] at hparsed hknown
  exact grantsTo_iff.2 ⟨parsed, known, hparsed, hknown, h.denial?_eq_none hfirst hsecond hnone⟩

end

end Entitlements.Permission
