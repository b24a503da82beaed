import Mathlib.Data.List.Basic
import Entitlements.Privilege.Spec
import Entitlements.Proofs.Decimal.Digits

/-!
# Leaves of an argument

The row of leaves is what is left of an argument when its nesting is forgotten. It
holds the masks, the tokens and the empty lists that occur at any depth, and the text
of the argument holds one token for each of them.
-/

namespace Entitlements.PrivilegeSpec

@[elab_as_elim, induction_eliminator]
theorem nestedInduction {property : PrivilegeSpec → Prop} (mask : ∀ m, property (.mask m))
    (text : ∀ t, property (.text t))
    (list : ∀ items, (∀ item ∈ items, property item) → property (.list items)) :
    (spec : PrivilegeSpec) → property spec
  | .mask m => mask m
  | .text t => text t
  | .list items => list items fun item _ => nestedInduction mask text list item

theorem leavesOfAll_eq (items : List PrivilegeSpec) : leavesOfAll items = items.flatMap leaves := by
  induction items with
  | nil =>
      simp [leavesOfAll]
  | cons item rest ih =>
      simp [leavesOfAll, ih]

theorem textsOfAll_eq (items : List PrivilegeSpec) : textsOfAll items = items.map toText := by
  induction items with
  | nil =>
      simp [textsOfAll]
  | cons item rest ih =>
      simp [textsOfAll, ih]

theorem leaves_list {items : List PrivilegeSpec} (h : items ≠ []) :
    (list items).leaves = items.flatMap leaves := by
  simp [leaves, h, leavesOfAll_eq]

theorem leaves_ne_nil (spec : PrivilegeSpec) : spec.leaves ≠ [] := by
  induction spec with
  | mask m =>
      simp [leaves]
  | text t =>
      simp [leaves, Text.tokens, List.splitOn_ne_nil]
  | list items ih =>
      cases items with
      | nil =>
          simp [leaves]
      | cons item rest =>
          have hitem := ih item List.mem_cons_self
          simp [leaves_list, hitem]

/-! ## The text of an argument -/

/-- How a leaf is written; a list without items leaves an empty token. -/
def Leaf.toText : Leaf → String
  | .mask m => toString m
  | .token t => t
  | .void => ""

/-- The text of an argument is cut into its leaves, whatever commas its own texts hold. -/
theorem tokens_toText (spec : PrivilegeSpec) :
    Text.tokens spec.toText = spec.leaves.map Leaf.toText := by
  induction spec with
  | mask m =>
      rw [toText, Text.tokens_of_notMem (Mask.notMem_toString (by decide) m)]
      simp [leaves, Leaf.toText]
  | text t =>
      simp [toText, leaves, Leaf.toText, Function.comp_def]
  | list items ih =>
      rw [toText, textsOfAll_eq]
      by_cases hempty : items = []
      · -- nothing is written for an empty list, and the text still has one token
        rw [hempty]
        simp [leaves, Leaf.toText, Text.tokens_of_notMem]
      · rw [leaves_list hempty, Text.tokens_intercalate_flatMap (by simpa using hempty),
          List.flatMap_map, List.map_flatMap]
        exact List.flatMap_congr ih

/-! ## What occurs in an argument -/

/-- The first argument is the second one or stands in it, at any depth. -/
inductive Part (part : PrivilegeSpec) : PrivilegeSpec → Prop where
  | self : Part part part
  | item {items : List PrivilegeSpec} {item : PrivilegeSpec} (hmem : item ∈ items)
      (h : Part part item) : Part part (.list items)

/-- The leaves that an argument has by itself and not through its items. -/
def ownLeaves : PrivilegeSpec → List Leaf
  | .mask m => [.mask m]
  | .text t => (Text.tokens t).map .token
  | .list [] => [.void]
  | .list (_ :: _) => []

section

variable {part spec : PrivilegeSpec} {leaf : Leaf} {m : Mask} {token : String}

theorem mem_leaves_of_mem_ownLeaves (h : leaf ∈ spec.ownLeaves) : leaf ∈ spec.leaves := by
  unfold ownLeaves at h
  split at h
  · exact h
  · exact h
  · exact h
  · simp at h

theorem Part.mem_leaves (h : Part part spec) (hleaf : leaf ∈ part.leaves) : leaf ∈ spec.leaves := by
  induction h with
  | self =>
      exact hleaf
  | item hmem _ ih =>
      rw [leaves_list (List.ne_nil_of_mem hmem)]
      exact List.mem_flatMap.2 ⟨_, hmem, ih⟩

theorem mem_leaves_iff : leaf ∈ spec.leaves ↔ ∃ part, Part part spec ∧ leaf ∈ part.ownLeaves := by
  constructor
  · intro hleaf
    induction spec with
    | mask m =>
        exact ⟨_, .self, hleaf⟩
    | text t =>
        exact ⟨_, .self, hleaf⟩
    | list items ih =>
        by_cases hempty : items = []
        · rw [hempty] at hleaf ⊢
          exact ⟨_, .self, hleaf⟩
        · rw [leaves_list hempty, List.mem_flatMap] at hleaf
          obtain ⟨item, hmem, hitem⟩ := hleaf
          obtain ⟨part, hpart, hown⟩ := ih item hmem hitem
          exact ⟨part, .item hmem hpart, hown⟩
  · intro h
    obtain ⟨part, hpart, hown⟩ := h
    exact hpart.mem_leaves (mem_leaves_of_mem_ownLeaves hown)

theorem mask_mem_leaves_iff : .mask m ∈ spec.leaves ↔ Part (.mask m) spec := by
  have hown : ∀ part : PrivilegeSpec, .mask m ∈ part.ownLeaves ↔ part = .mask m := by
    intro part
    unfold ownLeaves
    split
    all_goals simp [eq_comm]
  simp [mem_leaves_iff, hown]

theorem token_mem_leaves_iff :
    .token token ∈ spec.leaves ↔ ∃ text, Part (.text text) spec ∧ token ∈ Text.tokens text := by
  have hown : ∀ part : PrivilegeSpec, .token token ∈ part.ownLeaves ↔
      ∃ text, part = .text text ∧ token ∈ Text.tokens text := by
    intro part
    unfold ownLeaves
    split
    all_goals simp
  simp only [mem_leaves_iff, hown]
  grind

theorem void_mem_leaves_iff : .void ∈ spec.leaves ↔ Part (.list []) spec := by
  have hown : ∀ part : PrivilegeSpec, .void ∈ part.ownLeaves ↔ part = .list [] := by
    intro part
    unfold ownLeaves
    split
    all_goals simp
  simp [mem_leaves_iff, hown]

end

end Entitlements.PrivilegeSpec
