import Mathlib.Data.List.Forall2

/-!
# Outcomes

What a computation that may fail went through when it did not, and what it leaves
behind when it did.
-/

namespace Entitlements.Outcome

section

variable {α β ε : Type}

theorem bind_eq_ok_iff {x : Except ε α} {f : α → Except ε β} {b : β} :
    x >>= f = .ok b ↔ ∃ a, x = .ok a ∧ f a = .ok b := by
  cases x with
  | error e =>
      simp [bind, Except.bind]
  | ok a =>
      simp [bind, Except.bind]

theorem map_eq_ok_iff {f : α → β} {x : Except ε α} {b : β} :
    x.map f = .ok b ↔ ∃ a, x = .ok a ∧ f a = b := by
  cases x with
  | error e =>
      simp [Except.map]
  | ok a =>
      simp [Except.map]

theorem map_eq_error_iff {f : α → β} {x : Except ε α} {e : ε} :
    x.map f = .error e ↔ x = .error e := by
  cases x with
  | error e =>
      simp [Except.map]
  | ok a =>
      simp [Except.map]

theorem mapError_eq_ok_iff {δ : Type} {f : ε → δ} {x : Except ε α} {a : α} :
    x.mapError f = .ok a ↔ x = .ok a := by
  cases x with
  | error e =>
      simp [Except.mapError]
  | ok a =>
      simp [Except.mapError]

theorem mapError_eq_error_iff {δ : Type} {f : ε → δ} {x : Except ε α} {d : δ} :
    x.mapError f = .error d ↔ ∃ e, x = .error e ∧ f e = d := by
  cases x with
  | error e =>
      simp [Except.mapError]
  | ok a =>
      simp [Except.mapError]

theorem mapM_eq_ok_iff {f : α → Except ε β} {xs : List α} {ys : List β} :
    xs.mapM f = .ok ys ↔ List.Forall₂ (fun x y => f x = .ok y) xs ys := by
  induction xs generalizing ys with
  | nil =>
      rw [List.mapM_nil, List.forall₂_nil_left_iff]
      constructor
      · intro h
        cases h
        rfl
      · intro h
        rw [h]
        rfl
  | cons x xs ih =>
      rw [List.mapM_cons, bind_eq_ok_iff, List.forall₂_cons_left_iff]
      constructor
      · intro h
        obtain ⟨y, hy, htail⟩ := h
        obtain ⟨rest, hrest, heq⟩ := bind_eq_ok_iff.1 htail
        cases heq
        exact ⟨y, rest, hy, ih.1 hrest, rfl⟩
      · intro h
        obtain ⟨y, rest, hy, hrest, rfl⟩ := h
        exact ⟨y, hy, bind_eq_ok_iff.2 ⟨rest, ih.2 hrest, rfl⟩⟩

theorem exists_mem_of_mapM {f : α → Except ε β} {x : α} {xs : List α} {ys : List β} (hx : x ∈ xs)
    (h : xs.mapM f = .ok ys) : ∃ y ∈ ys, f x = .ok y := by
  have hpairs := mapM_eq_ok_iff.1 h
  clear h
  induction hpairs with
  | nil =>
      simp at hx
  | cons hfirst _ ih =>
      rcases List.mem_cons.1 hx with rfl | hrest
      · exact ⟨_, List.mem_cons_self, hfirst⟩
      · obtain ⟨y, hy, hresult⟩ := ih hrest
        exact ⟨y, List.mem_cons_of_mem _ hy, hresult⟩

theorem exists_mapM_of_subset {f : α → Except ε β} {xs more : List α} {all : List β}
    (hsub : ∀ x ∈ xs, x ∈ more) (h : more.mapM f = .ok all) :
    ∃ ys, xs.mapM f = .ok ys ∧ ∀ y ∈ ys, y ∈ all := by
  induction xs with
  | nil =>
      exact ⟨[], mapM_eq_ok_iff.2 .nil, by simp⟩
  | cons x xs ih =>
      rw [List.forall_mem_cons] at hsub
      obtain ⟨hx, hxs⟩ := hsub
      obtain ⟨y, hy, hfirst⟩ := exists_mem_of_mapM hx h
      obtain ⟨ys, hrest, hys⟩ := ih hxs
      refine ⟨y :: ys, mapM_eq_ok_iff.2 (.cons hfirst (mapM_eq_ok_iff.1 hrest)), ?_⟩
      rw [List.forall_mem_cons]
      exact ⟨hy, hys⟩

theorem mem_iff_of_mapM {f : α → Except ε β} {xs : List α} {ys : List β} {y : β}
    (h : xs.mapM f = .ok ys) : y ∈ ys ↔ ∃ x ∈ xs, f x = .ok y := by
  have hpairs := mapM_eq_ok_iff.1 h
  clear h
  induction hpairs with
  | nil =>
      simp
  | cons hfirst _ ih =>
      simp [hfirst, ih, eq_comm (a := y)]

theorem forall_mem_of_mapM {f : α → Except ε β} {xs : List α} {ys : List β} {P : β → Prop}
    (hstep : ∀ x y, f x = .ok y → P y) (h : xs.mapM f = .ok ys) : ∀ y ∈ ys, P y := by
  intro y hy
  obtain ⟨x, -, hx⟩ := (mem_iff_of_mapM h).1 hy
  exact hstep x y hx

theorem mapM_eq_ok_filterMap {f : α → Except ε β} {g : α → Option β}
    {xs : List α} (h : ∀ x ∈ xs, ∃ y, g x = some y ∧ f x = .ok y) :
    xs.mapM f = .ok (xs.filterMap g) := by
  induction xs with
  | nil =>
      rfl
  | cons x xs ih =>
      rw [List.forall_mem_cons] at h
      obtain ⟨⟨y, hsome, hok⟩, hrest⟩ := h
      rw [List.mapM_cons, hok, ih hrest, List.filterMap_cons_some hsome]
      rfl

theorem isOk_eq_true_iff {x : Except ε α} : x.isOk = true ↔ ∃ a, x = .ok a := by
  cases x with
  | error e =>
      simp [Except.isOk, Except.toBool]
  | ok a =>
      simp [Except.isOk, Except.toBool]

theorem isOk_mapM {f : α → Except ε β} {xs : List α} :
    (xs.mapM f).isOk = xs.all fun x => (f x).isOk := by
  induction xs with
  | nil =>
      rfl
  | cons x xs ih =>
      rw [List.mapM_cons, List.all_cons, ← ih]
      cases f x with
      | error e =>
          rfl
      | ok y =>
          cases xs.mapM f with
          | error e =>
              rfl
          | ok ys =>
              rfl

/-- The step fails so at one of the items, and at none before it. -/
def FailsFirst (f : α → Except ε β) (xs : List α) (e : ε) : Prop :=
  ∃ front x back, xs = front ++ x :: back ∧ (∀ y ∈ front, ∃ b, f y = .ok b) ∧ f x = .error e

theorem failsFirst_cons_iff {f : α → Except ε β} {x : α} {xs : List α} {e : ε} :
    FailsFirst f (x :: xs) e ↔ f x = .error e ∨ (∃ b, f x = .ok b) ∧ FailsFirst f xs e := by
  constructor
  · intro h
    obtain ⟨front, y, back, heq, hfront, hy⟩ := h
    rcases List.cons_eq_append_iff.1 heq with ⟨rfl, hback⟩ | ⟨rest, rfl, hback⟩
    · cases hback
      exact .inl hy
    · rw [List.forall_mem_cons] at hfront
      exact .inr ⟨hfront.1, rest, y, back, hback, hfront.2, hy⟩
  · intro h
    rcases h with hx | ⟨hx, front, y, back, rfl, hfront, hy⟩
    · exact ⟨[], x, xs, rfl, by simp, hx⟩
    · exact ⟨x :: front, y, back, rfl, List.forall_mem_cons.2 ⟨hx, hfront⟩, hy⟩

theorem mapM_eq_error_iff {f : α → Except ε β} {xs : List α} {e : ε} :
    xs.mapM f = .error e ↔ FailsFirst f xs e := by
  induction xs with
  | nil =>
      simp [FailsFirst, pure, Except.pure]
  | cons x xs ih =>
      rw [List.mapM_cons, failsFirst_cons_iff, ← ih]
      cases f x with
      | error first =>
          simp [bind, Except.bind]
      | ok b =>
          cases xs.mapM f with
          | error later =>
              simp [bind, Except.bind]
          | ok ys =>
              simp [bind, Except.bind, pure, Except.pure]

theorem exists_mapM_eq_error_iff {f : α → Except ε β} {xs : List α} :
    (∃ e, xs.mapM f = .error e) ↔ ∃ x ∈ xs, ∃ e, f x = .error e := by
  simp only [mapM_eq_error_iff]
  induction xs with
  | nil =>
      simp [FailsFirst]
  | cons x xs ih =>
      simp only [failsFirst_cons_iff, List.exists_mem_cons_iff, ← ih]
      cases f x with
      | error e =>
          simp
      | ok b =>
          simp

theorem mapM_congr {f g : α → Except ε β} {xs : List α} (h : ∀ x ∈ xs, f x = g x) :
    xs.mapM f = xs.mapM g := by
  induction xs with
  | nil =>
      rfl
  | cons x xs ih =>
      rw [List.forall_mem_cons] at h
      rw [List.mapM_cons, List.mapM_cons, h.1, ih h.2]

theorem mapM_map_result {γ : Type} {f : α → Except ε β} {g : β → γ} {xs : List α} :
    (xs.mapM fun x => (f x).map g) = (xs.mapM f).map (List.map g) := by
  induction xs with
  | nil =>
      rfl
  | cons x xs ih =>
      rw [List.mapM_cons, List.mapM_cons, ih]
      cases f x with
      | error e =>
          rfl
      | ok y =>
          cases xs.mapM f with
          | error e =>
              rfl
          | ok ys =>
              rfl

theorem mapM_flatMap {γ : Type} {f : β → Except ε γ} {rows : α → List β} {xs : List α} :
    (xs.flatMap rows).mapM f = (xs.mapM fun x => (rows x).mapM f).map List.flatten := by
  induction xs with
  | nil =>
      rfl
  | cons x xs ih =>
      rw [List.flatMap_cons, List.mapM_append, List.mapM_cons, ih]
      cases (rows x).mapM f with
      | error e =>
          rfl
      | ok row =>
          cases xs.mapM fun x => (rows x).mapM f with
          | error e =>
              rfl
          | ok later =>
              rfl

theorem mapM_ne_nil {f : α → Except ε β} {xs : List α} {ys : List β} (hxs : xs ≠ [])
    (h : xs.mapM f = .ok ys) : ys ≠ [] := by
  have hlength := (mapM_eq_ok_iff.1 h).length_eq
  intro hys
  rw [hys] at hlength
  exact hxs (List.eq_nil_of_length_eq_zero hlength)

end

/-! ## Work on a state -/

/-- From the state, a success keeps the invariant and a failure leaves everything as it was. -/
def Guarded {ε σ α : Type} (invariant : σ → Prop) (work : EStateM ε σ α) (state : σ) : Prop :=
  match work.run state with
  | .ok _ next => invariant state → invariant next
  | .error _ next => next = state

section

variable {ε σ α β : Type} {invariant : σ → Prop} {work : EStateM ε σ α} {state next : σ} {a : α}
  {e : ε}

theorem guarded_of_run_ok (hrun : work.run state = .ok a next)
    (h : invariant state → invariant next) : Guarded invariant work state := by
  rw [Guarded, hrun]
  exact h

theorem guarded_of_run_error (hrun : work.run state = .error e state) :
    Guarded invariant work state := by
  rw [Guarded, hrun]

theorem guarded_get_bind {later : σ → EStateM ε σ α}
    (h : Guarded invariant (later state) state) : Guarded invariant (get >>= later) state := by
  rw [Guarded, EStateM.run_bind, EStateM.run_get]
  exact h

theorem guarded_ofExcept_bind {x : Except ε β} {later : β → EStateM ε σ α}
    (h : ∀ b, x = .ok b → Guarded invariant (later b) state) :
    Guarded invariant (ofExcept x >>= later) state := by
  cases x with
  | error e =>
      exact guarded_of_run_error rfl
  | ok b =>
      exact h b rfl

end

end Entitlements.Outcome
