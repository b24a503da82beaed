import Entitlements.Pattern.RunLimit
import Entitlements.Proofs.Permission.Widening
import Entitlements.Proofs.PermissionSet.Coverage

/-!
# Wider authority

Further bits, further members and another order never take an answer back. What a
permission or a set may do, it may do when it holds more.
-/

namespace Entitlements.PermissionSet

/-- Each member of the first set is within some member of the second, wherever that one stands. -/
structure Within (first second : PermissionSet) : Prop where
  registry : first.registry = second.registry
  members : ∀ member ∈ first.permissions, ∃ wider ∈ second.permissions, member.Within wider

section

variable [SizeLimit] {first second : PermissionSet} {identifier : String}
  {requested held : List Argument} {candidate : Argument}

theorem Within.held_beyond (h : first.Within second)
    (hfirst : ∀ member ∈ first.permissions, member.WellFormed)
    (hsecond : ∀ member ∈ second.permissions, member.WellFormed) :
    (first.held identifier).beyond (second.held identifier) = 0 := by
  rw [Mask.beyond_eq_zero_iff]
  intro i hi
  obtain ⟨member, hmember, hmatch, hbit⟩ := hasBit_held_iff.1 hi
  obtain ⟨wider, hwider, hwithin⟩ := h.members member hmember
  rw [hwithin.matchesIdentifier_eq (hfirst member hmember) (hsecond wider hwider)] at hmatch
  have hwiderBit := Mask.beyond_eq_zero_iff.1 hwithin.privileges i hbit
  exact hasBit_held_iff.2 ⟨wider, hwider, hmatch, hwiderBit⟩

theorem Within.allows (h : first.Within second)
    (hfirst : ∀ member ∈ first.permissions, member.WellFormed)
    (hsecond : ∀ member ∈ second.permissions, member.WellFormed)
    (hallows : first.Allows requested) : second.Allows requested := by
  obtain ⟨known, hknown, hall⟩ := allows_iff.1 hallows
  rw [h.registry] at hknown
  refine allows_iff.2 ⟨known, hknown, ?_⟩
  intro request hrequest
  have hcovered := hall request hrequest
  rw [uncovered_eq_beyond_held] at hcovered ⊢
  exact Mask.beyond_trans hcovered (h.held_beyond hfirst hsecond)

theorem Within.grantsTo (h : first.Within second)
    (hfirst : ∀ member ∈ first.permissions, member.WellFormed)
    (hsecond : ∀ member ∈ second.permissions, member.WellFormed)
    (hgrants : first.GrantsTo candidate held) : second.GrantsTo candidate held := by
  obtain ⟨parsed, known, hparsed, hknown, member, hmember, hnone⟩ := grantsTo_iff.1 hgrants
  rw [h.registry] at hparsed hknown
  obtain ⟨wider, hwider, hwithin⟩ := h.members member hmember
  have hstill :=
    hwithin.denial?_eq_none (hfirst member hmember) (hsecond wider hwider) hnone
  exact grantsTo_iff.2 ⟨parsed, known, hparsed, hknown, wider, hwider, hstill⟩

/-! ## Members in another order -/

theorem allows_answer_congr (hregistry : first.registry = second.registry)
    (hmembers : ∀ member, member ∈ first.permissions ↔ member ∈ second.permissions) :
    (first.allows requested).answer = (second.allows requested).answer := by
  unfold allows
  rw [hregistry]
  cases Argument.resolveAll second.registry requested with
  | error e =>
      rfl
  | ok known =>
      exact congrArg Except.ok (coversAll_answer_congr hmembers fun _ => Iff.rfl)

theorem mayGrantTo_answer_congr (hregistry : first.registry = second.registry)
    (hmembers : ∀ member, member ∈ first.permissions ↔ member ∈ second.permissions) :
    (first.mayGrantTo candidate held).answer = (second.mayGrantTo candidate held).answer := by
  unfold mayGrantTo
  rw [hregistry]
  apply Argument.decision_congr
  intro parsed known
  rw [Bool.eq_iff_iff, anyDelegates_answer_iff, anyDelegates_answer_iff]
  simp only [hmembers]

end

/--
A wider permission holds, allows and grants all that the narrower one does, and has
its grant rights. A set with a wider member for each member of another one allows and
grants all that the other does. So neither the order nor the repetition of members
changes an answer.
-/
theorem authority_monotone [SizeLimit] :
    (∀ first second : Permission, first.WellFormed → second.WellFormed → first.Within second →
      (∀ spec, first.hasPrivileges spec = .ok true → second.hasPrivileges spec = .ok true) ∧
      (∀ requested, first.allows requested = pure true → second.allows requested = pure true) ∧
      (∀ candidate held, first.GrantsTo candidate held → second.GrantsTo candidate held) ∧
      first.grantPrivileges.Sublist second.grantPrivileges ∧
      first.grantsAllowed.beyond second.grantsAllowed = 0) ∧
    (∀ first second : PermissionSet, (∀ member ∈ first.permissions, member.WellFormed) →
      (∀ member ∈ second.permissions, member.WellFormed) → first.Within second →
      (∀ requested, first.Allows requested → second.Allows requested) ∧
      ∀ candidate held, first.GrantsTo candidate held → second.GrantsTo candidate held) ∧
    ∀ first second : PermissionSet, first.registry = second.registry →
      (∀ member, member ∈ first.permissions ↔ member ∈ second.permissions) →
      (∀ requested, (first.allows requested).answer = (second.allows requested).answer) ∧
      ∀ candidate held,
        (first.mayGrantTo candidate held).answer = (second.mayGrantTo candidate held).answer := by
  refine ⟨?_, ?_, ?_⟩
  · intro first second hfirst hsecond h
    exact ⟨fun _ => h.hasPrivileges, fun _ => h.allows hfirst hsecond,
      fun _ _ => h.grantsTo hfirst hsecond, h.grantPrivileges_sublist, h.grantsAllowed_beyond⟩
  · intro first second hfirst hsecond h
    exact ⟨fun _ => h.allows hfirst hsecond, fun _ _ => h.grantsTo hfirst hsecond⟩
  · intro first second hregistry hmembers
    exact ⟨fun _ => allows_answer_congr hregistry hmembers,
      fun _ _ => mayGrantTo_answer_congr hregistry hmembers⟩

/-- An owner made administrator goes on covering a mask across a gap and granting to managers. -/
theorem authority_monotone_owner :
    let owner := Permission.onRegistry .standard "article/**" 37
    let administrator := Permission.onRegistry .standard "article/**" 101
    let reader := Permission.onRegistry .standard "album/*" 1
    let candidate := Permission.onRegistry .standard "article/1" 31
    let manager := Permission.onRegistry .standard "article/*" 16
    let before : PermissionSet := { permissions := [owner], registry := .standard }
    let after : PermissionSet := { permissions := [reader, administrator], registry := .standard }
    let swapped : PermissionSet := { permissions := [administrator, reader], registry := .standard }
    owner.hasPrivileges (.list [.mask 3, .mask 36]) = .ok true ∧
      administrator.hasPrivileges (.list [.mask 3, .mask 36]) = .ok true ∧
      administrator.GrantsTo (.built candidate) ([manager].map .built) ∧
      before.GrantsTo (.built candidate) ([manager].map .built) ∧
      after.GrantsTo (.built candidate) ([manager].map .built) ∧
      (swapped.mayGrantTo (.text "article/2:owner") []).answer =
        (after.mayGrantTo (.text "article/2:owner") []).answer := by
  intro owner administrator reader candidate manager before after swapped
  obtain ⟨hpermission, hset, horder⟩ := authority_monotone
  have howner : owner.WellFormed := Permission.wellFormed_onRegistry (by decide +kernel)
  have hadministrator : administrator.WellFormed :=
    Permission.wellFormed_onRegistry (by decide +kernel)
  have hreader : reader.WellFormed := Permission.wellFormed_onRegistry (by decide +kernel)
  have hwithin : owner.Within administrator := ⟨rfl, rfl, by decide +kernel⟩
  have hsets : before.Within after :=
    ⟨rfl, by simpa [before, after] using Or.inr hwithin⟩
  have hquery : Registry.standard.query (.list [.mask 3, .mask 36]) = .ok [3, 36] := by
    cbv
  have hmasks : ∀ mask ∈ [3, 36], owner.coversMask mask = true :=
    List.all_eq_true.1 (by decide +kernel)
  have hheld : owner.hasPrivileges (.list [.mask 3, .mask 36]) = .ok true :=
    Permission.hasPrivileges_iff.2 ⟨[3, 36], hquery, hmasks⟩
  have hgrants : owner.GrantsTo (.built candidate) ([manager].map .built) :=
    Permission.grantsTo_built_iff.2 (by decide +kernel)
  have hsetGrants : before.GrantsTo (.built candidate) ([manager].map .built) :=
    grantsTo_iff.2 ⟨candidate, [manager], rfl, rfl, owner, by simp [before],
      Permission.grantsTo_built_iff.1 hgrants⟩
  obtain ⟨hprivileges, -, hgrantsTo, -⟩ := hpermission _ _ howner hadministrator hwithin
  have hafter := (hset before after (by simpa [before] using howner)
    (by simpa [after] using ⟨hreader, hadministrator⟩) hsets).2
  have hswapped := (horder swapped after rfl (by simp [swapped, after, or_comm])).2
  exact ⟨hheld, hprivileges _ hheld, hgrantsTo _ _ hgrants, hsetGrants, hafter _ _ hsetGrants,
    hswapped _ _⟩

end Entitlements.PermissionSet
