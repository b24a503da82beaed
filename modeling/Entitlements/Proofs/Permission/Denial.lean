import Entitlements.Pattern.RunLimit
import Entitlements.Proofs.Event
import Entitlements.Proofs.Permission.HeldGrants

/-!
# Denied delegations

A grant is not reported. A denial is reported once, with the first reason that stands
against it. A set asks its members in order until one of them grants, and reports the
denials of those before.
-/

namespace Entitlements

/-- The reason stands against the candidate; the masks are the ones that it names. -/
def Denial.stands (grantor candidate : Permission) : Denial → Bool
  | .noGrantRights => grantor.grantsAllowed == 0
  | .outOfScope => !grantor.matchesIdentifier candidate.identifier
  | .exceedsGrantRights allowed => !Mask.covers allowed candidate.privileges
  | .granteeExceeds allowed granteeGrants =>
      granteeGrants != 0 && !Mask.covers allowed granteeGrants

/-- Positive if one of the decisions is; the events are those of the decisions before it. -/
def Logged.firstPositive (decisions : List (Logged Bool)) : Logged Bool where
  answer := decisions.any Logged.answer
  events := (decisions.takeWhile fun decision => !decision.answer).flatMap Logged.events

namespace Permission

/-- The reasons against a grant in the order of the checks, with the masks that are compared. -/
def reasons (grantor : Permission) (held : List Permission) : List Denial :=
  [.noGrantRights, .outOfScope, .exceedsGrantRights grantor.grantsAllowed,
    .granteeExceeds grantor.grantsAllowed (grantor.granteeGrants held)]

/-- A grant reports nothing, a denial the first reason that stands against it. -/
structure Explained (grantor candidate : Permission) (held : List Permission)
    (decision : Logged Bool) : Prop where
  granted : decision.answer = true →
    decision.events = [] ∧
      ∀ reason ∈ grantor.reasons held, reason.stands grantor candidate = false
  denied : decision.answer = false →
    ∃ reason, (grantor.reasons held).find? (Denial.stands grantor candidate) = some reason ∧
      decision.events = [.denied grantor candidate reason]

section

variable {grantor parsed : Permission} {candidate : Argument} {held : List Argument}
  {known : List Permission} {answer : Bool} {i : Nat}

/--
The rights of the grantee are those of its overlapping permissions. Each permission names
them by its own registry, and the registry of the grantor has their masks.
-/
theorem hasBit_granteeGrants_iff :
    (grantor.granteeGrants known).HasBit i ↔
      ∃ permission ∈ known,
        (permission.matchesIdentifier grantor.identifier = true ∨
          grantor.matchesIdentifier permission.identifier = true) ∧
        ∃ name ∈ permission.grantPrivileges, ∃ mask,
          grantor.registry.privilege? name = some mask ∧ mask.HasBit i := by
  rw [granteeGrants, Mask.hasBit_union_iff]
  simp only [List.mem_filterMap, List.mem_flatMap, List.mem_filter, overlaps, Bool.or_eq_true]
  grind

theorem denial?_eq_find? :
    grantor.denial? parsed known =
      (grantor.reasons known).find? (Denial.stands grantor parsed) := by
  unfold denial? reasons
  simp only [List.find?_cons, List.find?_nil, Denial.stands]
  grind

theorem explained_delegates : grantor.Explained parsed known (grantor.delegates parsed known) := by
  unfold delegates
  rw [denial?_eq_find?]
  cases hfirst : (grantor.reasons known).find? (Denial.stands grantor parsed) with
  | none =>
      have hnone : ∀ reason ∈ grantor.reasons known, reason.stands grantor parsed = false := by
        simpa using List.find?_eq_none.1 hfirst
      exact ⟨fun _ => ⟨rfl, hnone⟩, nofun⟩
  | some reason =>
      exact ⟨nofun, fun _ => ⟨reason, hfirst, rfl⟩⟩

theorem delegates_of_answer (h : (grantor.delegates parsed known).answer = true) :
    grantor.delegates parsed known = { answer := true, events := [] } := by
  rw [← h, ← (explained_delegates.granted h).1]

variable [SizeLimit]

theorem mayGrantTo_built :
    grantor.mayGrantTo (.built parsed) (known.map .built) =
      ExceptT.lift (grantor.delegates parsed known) :=
  Argument.decision_eq_lift rfl (Argument.resolveAll_built known)

theorem exists_explained (h : (grantor.mayGrantTo candidate held).answer = .ok answer) :
    ∃ parsed known, candidate.resolve grantor.registry = .ok parsed ∧
      Argument.resolveAll grantor.registry held = .ok known ∧
        grantor.Explained parsed known
          { answer, events := (grantor.mayGrantTo candidate held).events } := by
  obtain ⟨parsed, known, hparsed, hknown, rfl⟩ := Argument.decision_iff.1 h
  have hlift : grantor.mayGrantTo candidate held = ExceptT.lift (grantor.delegates parsed known) :=
    Argument.decision_eq_lift hparsed hknown
  rw [hlift]
  exact ⟨parsed, known, hparsed, hknown, explained_delegates⟩

end

end Permission

namespace PermissionSet

section

variable {set : PermissionSet} {candidate : Permission} {held members : List Permission}

theorem anyDelegates_eq :
    anyDelegates candidate held members =
      Logged.firstPositive (members.map fun member => member.delegates candidate held) := by
  induction members with
  | nil =>
      rfl
  | cons member members ih =>
      unfold anyDelegates
      cases hanswer : (member.delegates candidate held).answer with
      | true =>
          -- The member that grants reports nothing, so the log ends before it.
          simp [Logged.firstPositive, Permission.delegates_of_answer hanswer]
      | false =>
          simp [Logged.firstPositive, ih, hanswer]

variable [SizeLimit]

theorem mayGrantTo_built :
    set.mayGrantTo (.built candidate) (held.map .built) =
      ExceptT.lift (anyDelegates candidate held set.permissions) :=
  Argument.decision_eq_lift rfl (Argument.resolveAll_built held)

theorem exists_decisions :
    ∃ decisions,
      List.Forall₂ (fun (member : Permission) decision =>
        member.mayGrantTo (.built candidate) (held.map .built) = ExceptT.lift decision)
        set.permissions decisions ∧
      set.mayGrantTo (.built candidate) (held.map .built) =
        ExceptT.lift (Logged.firstPositive decisions) := by
  refine ⟨set.permissions.map fun member => member.delegates candidate held, ?_, ?_⟩
  · rw [List.forall₂_map_right_iff, List.forall₂_same]
    exact fun _ _ => Permission.mayGrantTo_built
  · rw [mayGrantTo_built, anyDelegates_eq]

theorem grantsTo_built_iff :
    set.GrantsTo (.built candidate) (held.map .built) ↔
      ∃ member ∈ set.permissions, member.GrantsTo (.built candidate) (held.map .built) := by
  rw [grantsTo_iff, Argument.resolveAll_built]
  simp [Argument.resolve, Permission.grantsTo_built_iff]

end

end PermissionSet

namespace Permission

/--
Every denial is explained by one event with the first reason that stands, and no grant is
reported. The line that is logged determines the reason and its masks, which are the grant
masks of the grantor and the rights of the grantee that overlap. A set grants as soon as a
single member does and reports the denials of the members before it. Revoking is granting.
-/
theorem delegation_explained [SizeLimit] :
    (∀ (grantor : Permission) candidate held answer,
      (grantor.mayGrantTo candidate held).answer = .ok answer →
      ∃ parsed known, candidate.resolve grantor.registry = .ok parsed ∧
        Argument.resolveAll grantor.registry held = .ok known ∧
          grantor.Explained parsed known
            { answer, events := (grantor.mayGrantTo candidate held).events }) ∧
    (∀ (grantor candidate : Permission) (allowed granteeGrants : Mask),
      (Event.denied grantor candidate .noGrantRights).text =
        "DEBUG Delegation denied: no grant privileges held grantor=" ++ grantor.toText ∧
      (Event.denied grantor candidate .outOfScope).text =
        "DEBUG Delegation denied: identifier out of scope grantor=" ++ grantor.toText ++
          " candidate=" ++ candidate.toText ∧
      (Event.denied grantor candidate (.exceedsGrantRights allowed)).text =
        "DEBUG Delegation denied: privileges exceed grant rights grantor=" ++ grantor.toText ++
          " candidate=" ++ candidate.toText ++ " allowed=" ++ toString allowed ∧
      (Event.denied grantor candidate (.granteeExceeds allowed granteeGrants)).text =
        "DEBUG Delegation denied: grantee holds grant rights beyond the grantor's grantor=" ++
          grantor.toText ++ " candidate=" ++ candidate.toText ++
            " allowed=" ++ toString allowed ++ " grantee_grants=" ++ toString granteeGrants) ∧
    (∀ (grantor candidate other another : Permission) (denial reason : Denial),
      (Event.denied grantor candidate denial).text = (Event.denied other another reason).text →
      denial = reason ∧
        (' ' ∉ grantor.identifier.toList → ' ' ∉ other.identifier.toList →
          (grantor == other) = true ∧
            (denial ≠ .noGrantRights → (candidate == another) = true))) ∧
    (∀ (grantor : Permission) i, grantor.grantsAllowed.HasBit i ↔
      ∃ entry ∈ grantor.registry.grants,
        entry.1 ∈ grantor.grantPrivileges ∧ entry.2.HasBit i) ∧
    (∀ (grantor : Permission) held i, (grantor.granteeGrants held).HasBit i ↔
      ∃ permission ∈ held,
        (permission.matchesIdentifier grantor.identifier = true ∨
          grantor.matchesIdentifier permission.identifier = true) ∧
        ∃ name ∈ permission.grantPrivileges, ∃ mask,
          grantor.registry.privilege? name = some mask ∧ mask.HasBit i) ∧
    (∀ (set : PermissionSet) (candidate : Permission) (held : List Permission),
      (set.GrantsTo (.built candidate) (held.map .built) ↔
        ∃ member ∈ set.permissions, member.GrantsTo (.built candidate) (held.map .built)) ∧
      ∃ decisions,
        List.Forall₂ (fun (member : Permission) decision =>
          member.mayGrantTo (.built candidate) (held.map .built) = ExceptT.lift decision)
          set.permissions decisions ∧
        set.mayGrantTo (.built candidate) (held.map .built) =
          ExceptT.lift (Logged.firstPositive decisions)) ∧
    (∀ (grantor : Permission) candidate,
      grantor.mayRevokeTo candidate = grantor.mayGrantTo candidate ∧
        grantor.mayRevoke candidate = grantor.mayGrant candidate ∧
          grantor.mayGrant candidate = grantor.mayGrantTo candidate []) ∧
    ∀ (set : PermissionSet) candidate,
      set.mayRevokeTo candidate = set.mayGrantTo candidate ∧
        set.mayRevoke candidate = set.mayGrant candidate ∧
          set.mayGrant candidate = set.mayGrantTo candidate [] :=
  ⟨fun _ _ _ _ => exists_explained, fun _ _ _ _ => Event.text_denied_lines,
    fun _ _ _ _ _ _ => Event.text_denied_inj, fun _ _ => hasBit_grantsAllowed_iff,
    fun _ _ _ => hasBit_granteeGrants_iff,
    fun _ _ _ => ⟨PermissionSet.grantsTo_built_iff, PermissionSet.exists_decisions⟩,
    fun _ _ => ⟨rfl, rfl, rfl⟩, fun _ _ => ⟨rfl, rfl, rfl⟩⟩

/-- The grantee exceeds the grantor too, but the candidate is checked first. -/
theorem delegation_explained_manager :
    let manager := onRegistry .standard "article/*" 16
    let candidate := onRegistry .standard "article/1" 32
    let held := [onRegistry .standard "article/**" 64]
    let decision := manager.mayGrantTo (.built candidate) (held.map .built)
    decision.answer = .ok false ∧
      decision.events = [.denied manager candidate (.exceedsGrantRights 15)] ∧
      (Denial.granteeExceeds 15 64).stands manager candidate = true ∧
      Denial.granteeExceeds 15 64 ∈ manager.reasons held ∧
      ∀ other another reason,
        (Event.denied other another reason).text =
          "DEBUG Delegation denied: privileges exceed grant rights grantor=article/*:16" ++
            " candidate=article/1:32 allowed=15" →
        reason = .exceedsGrantRights 15 := by
  intro manager candidate held decision
  have hanswer : decision.answer = .ok false := by
    rw [show decision = ExceptT.lift (manager.delegates candidate held) from mayGrantTo_built]
    exact congrArg Except.ok (by decide +kernel)
  obtain ⟨hexplained, -, hdetermined, -⟩ := delegation_explained
  obtain ⟨parsed, known, hparsed, hknown, hdenial⟩ :=
    hexplained manager (.built candidate) (held.map .built) false hanswer
  rw [Argument.resolveAll_built] at hknown
  cases hparsed
  cases hknown
  have hreason : (manager.reasons held).find? (Denial.stands manager candidate) =
      some (.exceedsGrantRights 15) := by
    decide +kernel
  obtain ⟨reason, hfirst, hevents⟩ := hdenial.denied rfl
  rw [hreason] at hfirst
  cases hfirst
  refine ⟨hanswer, hevents, by decide +kernel, by decide +kernel, ?_⟩
  intro other another reason hline
  have hown : (Event.denied manager candidate (.exceedsGrantRights 15)).text =
      (Event.denied other another reason).text := by
    rw [hline]
    decide +kernel
  exact (hdetermined _ _ _ _ _ _ hown).1.symm

end Permission

end Entitlements
