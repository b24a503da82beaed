/-!
# Privilege masks

A privilege is a set of bits of one machine word.
-/

namespace Entitlements

/-- One bit for each elementary privilege. -/
abbrev Mask := UInt64

namespace Mask

/--
Whether a holder of `held` passes a query for `query`: the query is not larger
as a number and shares a bit. It need not be a subset.
-/
def covers (held query : Mask) : Bool :=
  decide (query ≤ held) && held &&& query != 0

theorem covers_iff (held query : Mask) :
    covers held query = true ↔ query ≤ held ∧ held &&& query ≠ 0 := by
  simp [covers]

@[simp] theorem covers_zero (held : Mask) : covers held 0 = false := by
  simp [covers]

/-- The bits of `mask` that `bound` lacks. -/
def beyond (mask bound : Mask) : Mask :=
  mask &&& ~~~bound

def union (masks : List Mask) : Mask :=
  masks.foldr (· ||| ·) 0

@[simp] theorem union_nil : union [] = 0 := rfl

@[simp] theorem union_cons (mask : Mask) (masks : List Mask) :
    union (mask :: masks) = mask ||| union masks := rfl

def binary (mask : Mask) : String :=
  "0b" ++ String.ofList (Nat.toDigits 2 mask.toNat)

end Mask

end Entitlements
