import Entitlements.Document.Field
import Entitlements.Proofs.Json.RoundTrip

/-!
# Fields of a written document

What a document writes is exact, so it is read as the value that was written. A record
written as an object with both of its fields is read field by field.
-/

namespace Entitlements

namespace Json

theorem exact_string (room : Nat) (s : String) : Exact room (.string s) := .scalar trivial

theorem exact_natural (room : Nat) (n : UInt64) : Exact room (.natural n) := .scalar trivial

end Json

namespace Document

section

variable {ε α β : Type} {value : Json}

theorem readAll_text (h : Json.Exact Json.maxDepth value)
    (read : Json → Except (Failure ε) α) : readAll value.text read = read value := by
  rw [readAll, Json.Reading.ofText?_text h]
  dsimp only
  cases read value with
  | error failure =>
      rfl
  | ok result =>
      rfl

theorem Layout.read_object {layout : Layout α β} {first second : Json} {x : α} {y : β}
    (hnames : layout.first ≠ layout.second) (hfirst : layout.readFirst first = .ok x)
    (hsecond : layout.readSecond second = .ok y) :
    layout.read (.object [(layout.first, first), (layout.second, second)]) = .ok (x, y) := by
  simp [read, members, complete, hfirst, hsecond, hnames.symm]

end

end Document

end Entitlements
