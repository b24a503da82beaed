import Entitlements.Error
import Entitlements.Text.Delimited
import Entitlements.Text.Frame

/-!
# Messages of defects

Each message is a subject between fixed words, and the subject is the name of the entry
at fault. The words tell the checks apart, so a message says which entry failed which check.
-/

namespace Entitlements

namespace Mask

theorem binary_inj {mask other : Mask} (h : mask.binary = other.binary) : mask = other := by
  have hdigits : Nat.toDigits 2 mask.toNat = Nat.toDigits 2 other.toNat := by
    simpa [binary] using congrArg String.toList h
  apply UInt64.toNat_inj.1
  calc mask.toNat
      = Nat.ofDigitChars 2 (Nat.toDigits 2 mask.toNat) 0 :=
        (Nat.ofDigitChars_toDigits (by decide) (by decide)).symm
    _ = Nat.ofDigitChars 2 (Nat.toDigits 2 other.toNat) 0 := by
        rw [hdigits]
    _ = other.toNat :=
        Nat.ofDigitChars_toDigits (by decide) (by decide)

theorem blank_notMem_binary (mask : Mask) : ' ' ∉ mask.binary.toList := by
  have hdigits : ' ' ∉ Nat.toDigits 2 mask.toNat := by
    intro hmem
    have hdigit : ' '.isDigit = true := Nat.isDigit_of_mem_toDigits (by decide) (by decide) hmem
    contradiction
  simp [binary, hdigits]

end Mask

namespace Defect

def opening : Defect → String
  | .noPrivileges => "at least one privilege is "
  | .invalidName _ => "invalid privilege name '"
  | .numericName _ => "privilege name '"
  | .zeroMask _ | .repeatedPrivilege _ => "privilege '"
  | .unknownGrant _ | .strayGrant _ _ | .repeatedGrant _ => "grant privilege '"

def closing : Defect → String
  | .noPrivileges => "required"
  | .invalidName _ => "'"
  | .numericName _ => "' must not be numeric"
  | .zeroMask _ => "' must have a non-zero value"
  | .repeatedPrivilege _ | .repeatedGrant _ => "' is defined twice"
  | .unknownGrant _ => "' is not a configured privilege"
  | .strayGrant _ _ => " that no privilege provides"

def subject : Defect → String
  | .noPrivileges => ""
  | .invalidName name | .numericName name | .zeroMask name | .repeatedPrivilege name
  | .unknownGrant name | .repeatedGrant name => name
  | .strayGrant name stray => name ++ "' delegates bits " ++ stray.binary

section

variable {defect found : Defect}

theorem message_eq (defect : Defect) :
    defect.message = defect.opening ++ (defect.subject ++ defect.closing) := by
  cases defect with
  | noPrivileges =>
      decide
  | strayGrant name stray =>
      change "grant privilege '" ++ name ++ "' delegates bits " ++ stray.binary ++
        " that no privilege provides" = _
      simp only [opening, subject, closing, String.append_assoc]
  | _ =>
      exact String.append_assoc

theorem opening_eq_of_prefix (h : defect.opening.toList <+: found.opening.toList) :
    defect.opening = found.opening := by
  revert h
  cases defect <;> cases found <;> simp only [opening] <;> decide

theorem closing_eq_of_suffix (h : defect.closing.toList <:+ found.closing.toList) :
    defect.closing = found.closing := by
  revert h
  cases defect <;> cases found <;> simp only [closing] <;> decide

theorem eq_of_subject (hopening : defect.opening = found.opening)
    (hclosing : defect.closing = found.closing) (h : defect.subject = found.subject) :
    defect = found := by
  cases defect with
  | strayGrant name stray =>
      cases found with
      | strayGrant other bits =>
          -- the numeral holds no blank, so it is what follows the last one
          have hlists : (name ++ "' delegates bits").toList ++ ' ' :: stray.binary.toList =
              (other ++ "' delegates bits").toList ++ ' ' :: bits.binary.toList := by
            simpa [subject] using congrArg String.toList h
          obtain ⟨hname, hbits⟩ := Text.append_sep_inj stray.blank_notMem_binary
            bits.blank_notMem_binary hlists
          have hnames : name = other := by
            simpa using String.toList_inj.1 hname
          rw [hnames, Mask.binary_inj (String.toList_inj.1 hbits)]
      | _ =>
          simp [closing] at hclosing
  | _ =>
      cases found <;> simp_all [opening, closing, subject]

/-- The message determines the entry and the check that it failed. -/
theorem message_inj (h : defect.message = found.message) : defect = found := by
  rw [message_eq, message_eq] at h
  obtain ⟨hopening, hrest⟩ := Text.opening_inj opening_eq_of_prefix opening_eq_of_prefix h
  obtain ⟨hsubject, hclosing⟩ := Text.closing_inj closing_eq_of_suffix closing_eq_of_suffix hrest
  exact eq_of_subject hopening hclosing hsubject

end

end Defect

theorem Error.inconsistentRegistry_message_inj {defect found : Defect}
    (h : (inconsistentRegistry defect).message = (inconsistentRegistry found).message) :
    defect = found := by
  apply Defect.message_inj
  exact (String.append_right_inj "configuration error: ").1 h

end Entitlements
