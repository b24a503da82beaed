import Entitlements.Pattern.RunLimit
import Entitlements.Proofs.Permission.Arguments
import Entitlements.Proofs.Permission.WellFormed

/-!
# Malformed arguments

The receiver of a question reads all arguments in order before it looks at its own pattern,
mask or members. So a malformed argument is reported whatever the answer would be.
-/

namespace Entitlements

namespace Argument

/-- The first text that cannot be read, with all texts before it read. -/
def FirstMalformed [SizeLimit] (registry : Registry) (arguments : List Argument)
    (error : Error) : Prop :=
  ∃ front t back, arguments = front ++ .text t :: back ∧
    (∀ earlier, .text earlier ∈ front →
      ∃ parsed, Permission.ofText registry earlier = .ok parsed) ∧
    Permission.ofText registry t = .error error

/-- An outcome is a failure exactly as the reading of the arguments is, and is silent then. -/
structure ReadFirst [SizeLimit] {α : Type} (registry : Registry) (arguments : List Argument)
    (outcome : Reporting Error α) : Prop where
  fails_iff : (∃ error, outcome.answer = .error error) ↔
    ∃ t, .text t ∈ arguments ∧ ∃ error, Permission.ofText registry t = .error error
  error_iff : ∀ error, outcome.answer = .error error ↔ FirstMalformed registry arguments error
  silent : (∃ error, outcome.answer = .error error) → outcome.events = []
  answers : (∀ t, .text t ∈ arguments →
      ∃ parsed, Permission.ofText registry t = .ok parsed) →
    ∃ a, outcome.answer = .ok a

section

variable [SizeLimit] {α : Type} {registry : Registry} {arguments held : List Argument}
  {candidate : Argument} {error : Error} {outcome : Reporting Error α}

theorem failsFirst_resolve_iff :
    Outcome.FailsFirst (resolve registry) arguments error ↔
      FirstMalformed registry arguments error := by
  constructor
  · intro h
    obtain ⟨front, argument, back, rfl, hfront, herror⟩ := h
    cases argument with
    | built permission =>
        contradiction
    | text t =>
        exact ⟨front, t, back, rfl, fun earlier hearlier => hfront _ hearlier, herror⟩
  · intro h
    obtain ⟨front, t, back, rfl, hfront, herror⟩ := h
    refine ⟨front, .text t, back, rfl, ?_, herror⟩
    intro argument hargument
    cases argument with
    | built permission =>
        exact ⟨permission, rfl⟩
    | text earlier =>
        exact hfront earlier hargument

theorem resolveAll_eq_error_iff :
    resolveAll registry arguments = .error error ↔ FirstMalformed registry arguments error := by
  rw [resolveAll, Outcome.mapM_eq_error_iff, failsFirst_resolve_iff]

theorem exists_resolveAll_eq_error_iff :
    (∃ error, resolveAll registry arguments = .error error) ↔
      ∃ t, .text t ∈ arguments ∧ ∃ error, Permission.ofText registry t = .error error := by
  rw [resolveAll, Outcome.exists_mapM_eq_error_iff]
  constructor
  · intro h
    obtain ⟨argument, hargument, error, herror⟩ := h
    cases argument with
    | built permission =>
        contradiction
    | text t =>
        exact ⟨t, hargument, error, herror⟩
  · intro h
    obtain ⟨t, ht, error, herror⟩ := h
    exact ⟨.text t, ht, error, herror⟩

/-- All arguments are read first, and what is decided about them never fails. -/
theorem readFirst_of_resolveAll
    (hfailure : ∀ error, resolveAll registry arguments = .error error → outcome = throw error)
    (hdecision : ∀ all, resolveAll registry arguments = .ok all →
      ∃ logged, outcome = ExceptT.lift logged) :
    ReadFirst registry arguments outcome := by
  have herror : ∀ error,
      outcome.answer = .error error ↔ resolveAll registry arguments = .error error := by
    intro error
    cases hall : resolveAll registry arguments with
    | error first =>
        rw [hfailure first hall, Reporting.answer_throw, Except.error.injEq]
        simp
    | ok all =>
        obtain ⟨logged, rfl⟩ := hdecision all hall
        simp
  refine ⟨(exists_congr herror).trans exists_resolveAll_eq_error_iff,
    fun error => (herror error).trans resolveAll_eq_error_iff, ?_, ?_⟩
  · intro hfails
    obtain ⟨error, h⟩ := hfails
    rw [hfailure error ((herror error).1 h)]
    rfl
  · intro hread
    cases hall : resolveAll registry arguments with
    | ok all =>
        obtain ⟨logged, rfl⟩ := hdecision all hall
        exact ⟨logged.answer, rfl⟩
    | error error =>
        obtain ⟨t, ht, reason, hreason⟩ := exists_resolveAll_eq_error_iff.1 ⟨error, hall⟩
        obtain ⟨parsed, hparsed⟩ := hread t ht
        rw [hparsed] at hreason
        contradiction

theorem readFirst_decision (decision : List Permission → Logged α) :
    ReadFirst registry arguments (do
      let all ← resolveAll registry arguments
      decision all) := by
  apply readFirst_of_resolveAll
  · intro error hall
    rw [hall, Reporting.error_bind]
  · intro all hall
    exact ⟨decision all, decisionAll_eq_lift hall⟩

theorem readFirst_candidate_decision (decision : Permission → List Permission → Logged Bool) :
    ReadFirst registry (candidate :: held) (do
      let parsed ← candidate.resolve registry
      let known ← resolveAll registry held
      decision parsed known) := by
  apply readFirst_of_resolveAll
  · intro error hall
    rw [resolveAll, List.mapM_cons] at hall
    cases hparsed : candidate.resolve registry with
    | error first =>
        rw [hparsed] at hall
        cases hall
        rfl
    | ok parsed =>
        cases hknown : resolveAll registry held with
        | error later =>
            rw [hparsed, ← resolveAll, hknown] at hall
            cases hall
            rfl
        | ok known =>
            rw [hparsed, ← resolveAll, hknown] at hall
            cases hall
  · intro all hall
    obtain ⟨parsed, known, hparsed, hknown, -⟩ :=
      List.forall₂_cons_left_iff.1 (Outcome.mapM_eq_ok_iff.1 hall)
    exact ⟨decision parsed known, decision_eq_lift hparsed (Outcome.mapM_eq_ok_iff.2 hknown)⟩

end

end Argument

section

variable [SizeLimit] {permission : Permission} {set : PermissionSet}
  {requested held : List Argument} {candidate : Argument}

theorem Permission.readFirst_allows :
    Argument.ReadFirst permission.registry requested (permission.allows requested) :=
  Argument.readFirst_decision fun all => pure (all.all permission.covers)

theorem Permission.readFirst_mayGrantTo :
    Argument.ReadFirst permission.registry (candidate :: held)
      (permission.mayGrantTo candidate held) :=
  Argument.readFirst_candidate_decision permission.delegates

theorem PermissionSet.readFirst_allows :
    Argument.ReadFirst set.registry requested (set.allows requested) :=
  Argument.readFirst_decision set.coversAll

theorem PermissionSet.readFirst_allowedBy :
    Argument.ReadFirst set.registry requested (set.allowedBy requested) :=
  Argument.readFirst_decision (set.coveredBy [])

theorem PermissionSet.readFirst_mayGrantTo :
    Argument.ReadFirst set.registry (candidate :: held) (set.mayGrantTo candidate held) :=
  Argument.readFirst_candidate_decision fun parsed known =>
    anyDelegates parsed known set.permissions

end

/--
Every receiver on a registry reports the first malformed argument, the candidate before what
the grantee holds. It does so whatever its pattern, its mask and its members are, and reports
nothing else. If no argument is malformed there is an answer.
-/
theorem Argument.malformed_reported [SizeLimit] (registry : Registry) :
    (∀ permission : Permission, permission.registry = registry →
      (∀ requested, ReadFirst registry requested (permission.allows requested)) ∧
      ∀ candidate held,
        ReadFirst registry (candidate :: held) (permission.mayGrantTo candidate held) ∧
        ReadFirst registry (candidate :: held) (permission.mayRevokeTo candidate held)) ∧
    ∀ set : PermissionSet, set.registry = registry →
      (∀ requested,
        ReadFirst registry requested (set.allows requested) ∧
        ReadFirst registry requested (set.allowedBy requested)) ∧
      ∀ candidate held,
        ReadFirst registry (candidate :: held) (set.mayGrantTo candidate held) ∧
        ReadFirst registry (candidate :: held) (set.mayRevokeTo candidate held) := by
  constructor
  · intro permission hregistry
    subst hregistry
    exact ⟨fun _ => Permission.readFirst_allows,
      fun _ _ => ⟨Permission.readFirst_mayGrantTo, Permission.readFirst_mayGrantTo⟩⟩
  · intro set hregistry
    subst hregistry
    exact ⟨fun _ => ⟨PermissionSet.readFirst_allows, PermissionSet.readFirst_allowedBy⟩,
      fun _ _ => ⟨PermissionSet.readFirst_mayGrantTo, PermissionSet.readFirst_mayGrantTo⟩⟩

/--
A reader does not cover the first permission requested and has no grant rights, and an empty
set holds nothing. Both still report the first text that they cannot read.
-/
theorem Argument.malformed_reported_reader :
    let reader := Permission.onRegistry .standard "article/*" 1
    let nobody := PermissionSet.empty .standard
    let requested := [.built (Permission.onRegistry .standard "user/1" 8), .text "nocolon",
      .text ":read"]
    (reader.allows requested).answer = .error (.malformedPermission "nocolon") ∧
      (reader.mayGrantTo (.text ":read") requested).answer = .error .emptyIdentifier ∧
      (reader.mayGrantTo (.text ":read") requested).events = [] ∧
      (nobody.allows requested).answer = .error (.malformedPermission "nocolon") ∧
      (nobody.mayGrantTo (.text ":read") requested).answer = .error .emptyIdentifier := by
  intro reader nobody requested
  obtain ⟨hpermission, hset⟩ := malformed_reported .standard
  obtain ⟨hallows, hgrant⟩ := hpermission reader rfl
  obtain ⟨hallowsAll, hgrantAll⟩ := hset nobody rfl
  have hnocolon : FirstMalformed .standard requested (.malformedPermission "nocolon") :=
    ⟨requested.take 1, "nocolon", [.text ":read"], rfl, by simp [requested], rfl⟩
  have hempty : FirstMalformed .standard (.text ":read" :: requested) .emptyIdentifier :=
    ⟨[], ":read", requested, rfl, by simp, rfl⟩
  have hrefused := ((hgrant _ _).1.error_iff _).2 hempty
  exact ⟨((hallows requested).error_iff _).2 hnocolon, hrefused,
    (hgrant _ _).1.silent ⟨_, hrefused⟩, ((hallowsAll _).1.error_iff _).2 hnocolon,
    ((hgrantAll _ _).1.error_iff _).2 hempty⟩

end Entitlements
