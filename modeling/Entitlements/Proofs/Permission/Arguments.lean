import Entitlements.PermissionSet
import Entitlements.Proofs.Mask.Coverage
import Entitlements.Proofs.Outcome

/-!
# Decisions about arguments

All arguments are read before anything is decided. What a decision is, once they
are read, is said here without them.
-/

namespace Entitlements

namespace Argument

section

variable [SizeLimit] {registry : Registry} {held more : List Argument} {parsed : Permission}
  {all : List Permission}

theorem resolveAll_built (held : List Permission) :
    resolveAll registry (held.map .built) = .ok held := by
  rw [resolveAll, Outcome.mapM_eq_ok_iff, List.forall₂_map_left_iff, List.forall₂_same]
  exact fun _ _ => rfl

theorem exists_resolveAll_of_subset (hsub : ∀ argument ∈ held, argument ∈ more)
    (h : resolveAll registry more = .ok all) :
    ∃ known, resolveAll registry held = .ok known ∧ ∀ permission ∈ known, permission ∈ all :=
  Outcome.exists_mapM_of_subset hsub h

theorem decision_eq_lift {candidate : Argument}
    {decision : Permission → List Permission → Logged Bool}
    (hcandidate : candidate.resolve registry = .ok parsed)
    (hheld : resolveAll registry held = .ok all) :
    (do
        let parsed ← candidate.resolve registry
        let known ← resolveAll registry held
        decision parsed known : Reporting Error Bool) =
      ExceptT.lift (decision parsed all) := by
  simp [hcandidate, hheld]

/-- There is an answer if the arguments can be read, and it is the one about what was read. -/
theorem decision_iff {candidate : Argument} {decision : Permission → List Permission → Logged Bool}
    {answer : Bool} :
    (do
        let parsed ← candidate.resolve registry
        let known ← resolveAll registry held
        decision parsed known : Reporting Error Bool).answer = .ok answer ↔
      ∃ parsed known, candidate.resolve registry = .ok parsed ∧
        resolveAll registry held = .ok known ∧ (decision parsed known).answer = answer := by
  cases candidate.resolve registry with
  | error e =>
      simp
  | ok parsed =>
      cases resolveAll registry held with
      | error e =>
          simp
      | ok known =>
          simp

theorem decision_congr {candidate : Argument}
    {decision other : Permission → List Permission → Logged Bool}
    (h : ∀ parsed known, (decision parsed known).answer = (other parsed known).answer) :
    (do
        let parsed ← candidate.resolve registry
        let known ← resolveAll registry held
        decision parsed known : Reporting Error Bool).answer =
      (do
        let parsed ← candidate.resolve registry
        let known ← resolveAll registry held
        other parsed known : Reporting Error Bool).answer := by
  cases candidate.resolve registry with
  | error e =>
      rfl
  | ok parsed =>
      cases resolveAll registry held with
      | error e =>
          rfl
      | ok known =>
          exact congrArg Except.ok (h parsed known)

theorem decisionAll_eq_lift {α : Type} {decision : List Permission → Logged α}
    (hheld : resolveAll registry held = .ok all) :
    (do
        let known ← resolveAll registry held
        decision known : Reporting Error α) = ExceptT.lift (decision all) := by
  simp [hheld]

theorem decisionAll_iff {α : Type} {decision : List Permission → Logged α} {answer : α} :
    (do
        let known ← resolveAll registry held
        decision known : Reporting Error α).answer = .ok answer ↔
      ∃ known, resolveAll registry held = .ok known ∧ (decision known).answer = answer := by
  cases resolveAll registry held with
  | error e =>
      simp
  | ok known =>
      simp

end

end Argument

namespace Permission

def GrantsTo [SizeLimit] (grantor : Permission) (candidate : Argument) (held : List Argument) :
    Prop :=
  (grantor.mayGrantTo candidate held).answer = .ok true

def RevokesTo [SizeLimit] (grantor : Permission) (candidate : Argument) (held : List Argument) :
    Prop :=
  (grantor.mayRevokeTo candidate held).answer = .ok true

section

variable {grantor permission parsed : Permission} {candidate : Argument} {held : List Argument}
  {known : List Permission}

theorem denial?_eq_none_iff :
    grantor.denial? parsed known = none ↔
      grantor.matchesIdentifier parsed.identifier = true ∧
        Mask.covers grantor.grantsAllowed parsed.privileges = true ∧
          (grantor.granteeGrants known = 0 ∨
            Mask.covers grantor.grantsAllowed (grantor.granteeGrants known) = true) := by
  have hallowed : Mask.covers grantor.grantsAllowed parsed.privileges = true →
      grantor.grantsAllowed ≠ 0 := fun h => (Mask.ne_zero_of_covers h).1
  unfold denial?
  grind

theorem delegates_answer_iff :
    (grantor.delegates parsed known).answer = true ↔ grantor.denial? parsed known = none := by
  unfold delegates
  cases grantor.denial? parsed known with
  | none =>
      simp
  | some denial =>
      simp

variable [SizeLimit]

theorem grantsTo_iff :
    grantor.GrantsTo candidate held ↔
      ∃ parsed known, candidate.resolve grantor.registry = .ok parsed ∧
        Argument.resolveAll grantor.registry held = .ok known ∧
          grantor.denial? parsed known = none := by
  simp only [← delegates_answer_iff]
  exact Argument.decision_iff

theorem grantsTo_built_iff :
    grantor.GrantsTo (.built parsed) (known.map .built) ↔ grantor.denial? parsed known = none := by
  rw [grantsTo_iff, Argument.resolveAll_built]
  simp [Argument.resolve]

/-- Nothing is reported about a permission that allows what it covers. -/
theorem allows_iff {requested : List Argument} :
    permission.allows requested = pure true ↔
      ∃ parsed, Argument.resolveAll permission.registry requested = .ok parsed ∧
        ∀ request ∈ parsed, permission.covers request = true := by
  unfold allows
  cases Argument.resolveAll permission.registry requested with
  | error e =>
      simp
  | ok parsed =>
      simp

theorem allows_built_iff {requested : List Permission} :
    permission.allows (requested.map .built) = pure true ↔
      ∀ request ∈ requested, permission.covers request = true := by
  rw [allows_iff, Argument.resolveAll_built]
  simp

omit [SizeLimit] in
theorem hasPrivileges_iff {spec : PrivilegeSpec} :
    permission.hasPrivileges spec = .ok true ↔
      ∃ masks, permission.registry.query spec = .ok masks ∧
        ∀ mask ∈ masks, permission.coversMask mask = true := by
  simp only [hasPrivileges, Outcome.map_eq_ok_iff, List.all_eq_true]

end

end Permission

namespace PermissionSet

def GrantsTo [SizeLimit] (set : PermissionSet) (candidate : Argument) (held : List Argument) :
    Prop :=
  (set.mayGrantTo candidate held).answer = .ok true

def Allows [SizeLimit] (set : PermissionSet) (requested : List Argument) : Prop :=
  (set.allows requested).answer = .ok true

section

variable {set : PermissionSet} {candidate : Argument} {held : List Argument}
  {parsed : Permission} {known members requested : List Permission}

theorem anyDelegates_answer_iff :
    (anyDelegates parsed known members).answer = true ↔
      ∃ member ∈ members, member.denial? parsed known = none := by
  induction members with
  | nil =>
      simp [anyDelegates]
  | cons member members ih =>
      have hmember : (member.delegates parsed known).answer = true ↔
          member.denial? parsed known = none := Permission.delegates_answer_iff
      rw [List.exists_mem_cons_iff, ← ih, ← hmember]
      cases hanswer : (member.delegates parsed known).answer with
      | false =>
          simp [anyDelegates, hanswer]
      | true =>
          simp [anyDelegates, hanswer]

variable [SizeLimit]

theorem grantsTo_iff :
    set.GrantsTo candidate held ↔
      ∃ parsed known, candidate.resolve set.registry = .ok parsed ∧
        Argument.resolveAll set.registry held = .ok known ∧
          ∃ member ∈ set.permissions, member.denial? parsed known = none := by
  simp only [← anyDelegates_answer_iff]
  exact Argument.decision_iff

omit [SizeLimit] in
theorem coversAll_answer_iff :
    (set.coversAll requested).answer = true ↔
      ∀ request ∈ requested, set.uncovered request = 0 := by
  induction requested with
  | nil =>
      simp [coversAll]
  | cons request requested ih =>
      rw [List.forall_mem_cons, ← ih]
      by_cases hcovered : set.uncovered request = 0
      · simp [coversAll, hcovered]
      · simp [coversAll, hcovered]

theorem allows_iff {arguments : List Argument} :
    set.Allows arguments ↔
      ∃ parsed, Argument.resolveAll set.registry arguments = .ok parsed ∧
        ∀ request ∈ parsed, set.uncovered request = 0 := by
  simp only [← coversAll_answer_iff]
  exact Argument.decisionAll_iff

theorem allows_built_iff :
    set.Allows (requested.map .built) ↔ ∀ request ∈ requested, set.uncovered request = 0 := by
  rw [allows_iff, Argument.resolveAll_built]
  simp

end

end PermissionSet

end Entitlements
