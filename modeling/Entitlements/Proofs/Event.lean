import Mathlib.Data.List.Basic
import Entitlements.Text.Frame
import Entitlements.Proofs.Permission.RoundTrip

/-!
# Lines of denials

A denial is logged as one line. Its message tells the reason, and its last fields are
read back from the end, where a number or a permission holds no delimiter of its own.
-/

namespace Entitlements

theorem Permission.eq_of_toText {permission other : Permission}
    (h : permission.toText = other.toText) : (permission == other) = true := by
  have hcut := congrArg (fun text : String => Text.cutLast ':' text.toList) h
  simp only [cutLast_toText, Option.some.injEq, Prod.mk.injEq, String.toList_inj] at hcut
  exact (beq_iff _ _).2 ⟨hcut.1, Mask.toString_inj hcut.2⟩

theorem Permission.blank_notMem_toText {permission : Permission}
    (h : ' ' ∉ permission.identifier.toList) : ' ' ∉ permission.toText.toList := by
  have hdigits : ' ' ∉ (toString permission.privileges).toList :=
    Mask.notMem_toString (by decide) _
  simp [toText, h, hdigits]

namespace Event

section

variable {before after name : String} {mask number : Mask}
  {grantor candidate other another : Permission} {denial reason : Denial}

theorem field_mask_inj
    (h : before ++ field name (toString mask) = after ++ field name (toString number)) :
    before = after ∧ mask = number := by
  have hfree : ∀ mask : Mask, '=' ∉ (toString mask).toList := Mask.notMem_toString (by decide)
  have hlists : (before ++ " " ++ name).toList ++ '=' :: (toString mask).toList =
      (after ++ " " ++ name).toList ++ '=' :: (toString number).toList := by
    simpa [field] using congrArg String.toList h
  obtain ⟨hbefore, hvalue⟩ := Text.append_sep_inj (hfree mask) (hfree number) hlists
  have hlabel : before ++ " " ++ name = after ++ " " ++ name := String.toList_inj.1 hbefore
  exact ⟨by simpa [String.append_assoc] using hlabel,
    Mask.toString_inj (String.toList_inj.1 hvalue)⟩

/-- The grantor and the candidate are read back if the identifier of the grantor has no blank. -/
theorem field_permission_inj (hgrantor : ' ' ∉ grantor.identifier.toList)
    (hother : ' ' ∉ other.identifier.toList)
    (h : field "grantor" grantor.toText ++ field "candidate" candidate.toText =
      field "grantor" other.toText ++ field "candidate" another.toText) :
    (grantor == other) = true ∧ (candidate == another) = true := by
  have hlists : grantor.toText.toList ++ ' ' :: ("candidate=" ++ candidate.toText).toList =
      other.toText.toList ++ ' ' :: ("candidate=" ++ another.toText).toList := by
    simpa [field] using congrArg String.toList h
  obtain ⟨hleft, hright⟩ := Text.sep_append_inj (Permission.blank_notMem_toText hgrantor)
    (Permission.blank_notMem_toText hother) hlists
  have hcandidate : candidate.toText.toList = another.toText.toList := by
    simpa using hright
  exact ⟨Permission.eq_of_toText (String.toList_inj.1 hleft),
    Permission.eq_of_toText (String.toList_inj.1 hcandidate)⟩

theorem message_eq_of_prefix
    (h : denial.message.toList <+: reason.message.toList) : denial.message = reason.message := by
  revert h
  cases denial <;> cases reason <;> simp only [Denial.message] <;> decide

theorem text_denied_lines {allowed granteeGrants : Mask} :
    (denied grantor candidate .noGrantRights).text =
      "DEBUG Delegation denied: no grant privileges held grantor=" ++ grantor.toText ∧
    (denied grantor candidate .outOfScope).text =
      "DEBUG Delegation denied: identifier out of scope grantor=" ++ grantor.toText ++
        " candidate=" ++ candidate.toText ∧
    (denied grantor candidate (.exceedsGrantRights allowed)).text =
      "DEBUG Delegation denied: privileges exceed grant rights grantor=" ++ grantor.toText ++
        " candidate=" ++ candidate.toText ++ " allowed=" ++ toString allowed ∧
    (denied grantor candidate (.granteeExceeds allowed granteeGrants)).text =
      "DEBUG Delegation denied: grantee holds grant rights beyond the grantor's grantor=" ++
        grantor.toText ++ " candidate=" ++ candidate.toText ++
          " allowed=" ++ toString allowed ++ " grantee_grants=" ++ toString granteeGrants := by
  have hgrantor : ∀ value, field "grantor" value = " grantor=" ++ value := fun value =>
    congrArg (· ++ value) (by decide : " " ++ "grantor" ++ "=" = " grantor=")
  have hcandidate : ∀ value, field "candidate" value = " candidate=" ++ value := fun value =>
    congrArg (· ++ value) (by decide : " " ++ "candidate" ++ "=" = " candidate=")
  have hallowed : ∀ value, field "allowed" value = " allowed=" ++ value := fun value =>
    congrArg (· ++ value) (by decide : " " ++ "allowed" ++ "=" = " allowed=")
  have hgrants : ∀ value, field "grantee_grants" value = " grantee_grants=" ++ value := fun value =>
    congrArg (· ++ value) (by decide : " " ++ "grantee_grants" ++ "=" = " grantee_grants=")
  simp only [text_denied, Denial.fields, Denial.message, hgrantor, hcandidate, hallowed, hgrants,
    ← String.append_assoc]
  refine ⟨?_, ?_, ?_, ?_⟩
  · have hopening : "DEBUG " ++ "Delegation denied: no grant privileges held" ++ " grantor=" =
        "DEBUG Delegation denied: no grant privileges held grantor=" := by
      decide
    rw [hopening]
  · have hopening : "DEBUG " ++ "Delegation denied: identifier out of scope" ++ " grantor=" =
        "DEBUG Delegation denied: identifier out of scope grantor=" := by
      decide
    rw [hopening]
  · have hopening : "DEBUG " ++ "Delegation denied: privileges exceed grant rights" ++ " grantor=" =
        "DEBUG Delegation denied: privileges exceed grant rights grantor=" := by
      decide
    rw [hopening]
  · have hopening : "DEBUG " ++
        "Delegation denied: grantee holds grant rights beyond the grantor's" ++ " grantor=" =
          "DEBUG Delegation denied: grantee holds grant rights beyond the grantor's grantor=" := by
      decide
    rw [hopening]

/-- The line of a denial determines the reason with its masks, and the permissions it names. -/
theorem text_denied_inj
    (h : (denied grantor candidate denial).text = (denied other another reason).text) :
    denial = reason ∧
      (' ' ∉ grantor.identifier.toList → ' ' ∉ other.identifier.toList →
        (grantor == other) = true ∧
          (denial ≠ .noGrantRights → (candidate == another) = true)) := by
  have hline : denial.message ++ denial.fields grantor candidate =
      reason.message ++ reason.fields other another := by
    simpa only [text_denied, String.append_assoc, String.append_right_inj] using h
  obtain ⟨hmessage, hfields⟩ := Text.opening_inj message_eq_of_prefix message_eq_of_prefix hline
  have hnamed : field "grantor" grantor.toText ++ field "candidate" candidate.toText =
      field "grantor" other.toText ++ field "candidate" another.toText →
        ' ' ∉ grantor.identifier.toList → ' ' ∉ other.identifier.toList →
          (grantor == other) = true ∧
            (denial ≠ .noGrantRights → (candidate == another) = true) := by
    intro hscope hgrantor hother
    obtain ⟨hsame, hcandidate⟩ := field_permission_inj hgrantor hother hscope
    exact ⟨hsame, fun _ => hcandidate⟩
  -- the message tells the reason, so only pairs of one reason are left
  cases denial with
  | noGrantRights =>
      cases reason with
      | noGrantRights =>
          have hgrantor : grantor.toText = other.toText := by
            simpa [Denial.fields, field] using hfields
          exact ⟨rfl, fun _ _ => ⟨Permission.eq_of_toText hgrantor, nofun⟩⟩
      | _ =>
          simp [Denial.message] at hmessage
  | outOfScope =>
      cases reason with
      | outOfScope =>
          exact ⟨rfl, hnamed hfields⟩
      | _ =>
          simp [Denial.message] at hmessage
  | exceedsGrantRights allowed =>
      cases reason with
      | exceedsGrantRights bound =>
          obtain ⟨hscope, rfl⟩ := field_mask_inj hfields
          exact ⟨rfl, hnamed hscope⟩
      | _ =>
          simp [Denial.message] at hmessage
  | granteeExceeds allowed granteeGrants =>
      cases reason with
      | granteeExceeds bound grants =>
          obtain ⟨hallowed, rfl⟩ := field_mask_inj hfields
          obtain ⟨hscope, rfl⟩ := field_mask_inj hallowed
          exact ⟨rfl, hnamed hscope⟩
      | _ =>
          simp [Denial.message] at hmessage

end

end Event

end Entitlements
