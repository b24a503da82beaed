import Entitlements.Permission.Basic

/-!
# Events

Operations report what an audit trail has to hold: each denied delegation, each
coverage check of a set, each change of the default registry.
-/

namespace Entitlements

inductive Denial where
  | noGrantRights
  | outOfScope
  | exceedsGrantRights (allowed : Mask)
  | granteeExceeds (allowed granteeGrants : Mask)
deriving DecidableEq, Repr

inductive Event where
  | denied (grantor candidate : Permission) (denial : Denial)
  | coverageChecked (requested : Permission) (remaining : Mask)
  | defaultReplaced (privileges grants : Nat)
  | defaultReset
  | defaultOverridden (privileges : Nat)

namespace Event

def field (name value : String) : String :=
  " " ++ name ++ "=" ++ value

end Event

namespace Denial

open Event

def message : Denial → String
  | .noGrantRights => "Delegation denied: no grant privileges held"
  | .outOfScope => "Delegation denied: identifier out of scope"
  | .exceedsGrantRights _ => "Delegation denied: privileges exceed grant rights"
  | .granteeExceeds _ _ =>
      "Delegation denied: grantee holds grant rights beyond the grantor's"

/-- The candidate is named only where it was looked at, the masks only where they were compared. -/
def fields (grantor candidate : Permission) : Denial → String
  | .noGrantRights => field "grantor" grantor.toText
  | .outOfScope => field "grantor" grantor.toText ++ field "candidate" candidate.toText
  | .exceedsGrantRights allowed =>
      field "grantor" grantor.toText ++ field "candidate" candidate.toText ++
        field "allowed" (toString allowed)
  | .granteeExceeds allowed granteeGrants =>
      field "grantor" grantor.toText ++ field "candidate" candidate.toText ++
        field "allowed" (toString allowed) ++ field "grantee_grants" (toString granteeGrants)

end Denial

namespace Event

def text : Event → String
  | .denied grantor candidate denial =>
      "DEBUG " ++ denial.message ++ denial.fields grantor candidate
  | .coverageChecked requested remaining =>
      "TRACE Checked permission set coverage" ++ field "requested" requested.toText ++
        field "remaining" (toString remaining)
  | .defaultReplaced privileges grants =>
      "INFO Default permission registry replaced" ++ field "privileges" (toString privileges) ++
        field "grant_privileges" (toString grants)
  | .defaultReset => "INFO Default permission registry reset"
  | .defaultOverridden privileges =>
      "INFO Default permission registry overridden" ++ field "privileges" (toString privileges)

theorem text_denied (grantor candidate : Permission) (denial : Denial) :
    (denied grantor candidate denial).text =
      "DEBUG " ++ denial.message ++ denial.fields grantor candidate := rfl

end Event

/-- An answer with the events reported on the way to it, in order. -/
structure Logged (α : Type) where
  answer : α
  events : List Event

instance : Monad Logged where
  pure answer := { answer, events := [] }
  map f logged := { answer := f logged.answer, events := logged.events }
  bind first next :=
    let later := next first.answer
    { answer := later.answer, events := first.events ++ later.events }

/-- What may fail and reports events; a failure keeps the events before it. -/
abbrev Reporting (ε α : Type) := ExceptT ε Logged α

namespace Reporting

variable {ε α β : Type}

@[simp] theorem ok_bind (a : α) (later : α → Reporting ε β) :
    (liftM (Except.ok a : Except ε α) >>= later : Reporting ε β) = later a := rfl

@[simp] theorem error_bind (error : ε) (later : α → Reporting ε β) :
    (liftM (Except.error error : Except ε α) >>= later : Reporting ε β) = throw error := rfl

@[simp] theorem liftM_eq_lift (logged : Logged α) :
    (liftM logged : Reporting ε α) = ExceptT.lift logged := rfl

@[simp] theorem map_lift (f : α → β) (logged : Logged α) :
    (f <$> ExceptT.lift logged : Reporting ε β) = ExceptT.lift (f <$> logged) :=
  congrArg (Logged.mk (Except.ok (f logged.answer))) (List.append_nil logged.events)

@[simp] theorem map_throw (f : α → β) (error : ε) :
    (f <$> (throw error : Reporting ε α) : Reporting ε β) = throw error := rfl

@[simp] theorem answer_lift (logged : Logged α) :
    (ExceptT.lift logged : Reporting ε α).answer = .ok logged.answer := rfl

@[simp] theorem events_lift (logged : Logged α) :
    (ExceptT.lift logged : Reporting ε α).events = logged.events := rfl

@[simp] theorem pure_eq_pure_iff {a b : α} :
    (pure a : Reporting ε α) = pure b ↔ a = b := by
  constructor
  · intro h
    exact Except.ok.inj (congrArg Logged.answer h)
  · intro h
    rw [h]

@[simp] theorem throw_ne_pure (error : ε) (a : α) : (throw error : Reporting ε α) ≠ pure a := by
  intro h
  have hanswer : (Except.error error : Except ε α) = .ok a := congrArg Logged.answer h
  contradiction

@[simp] theorem answer_throw (error : ε) :
    (throw error : Reporting ε α).answer = .error error := rfl

end Reporting

end Entitlements
