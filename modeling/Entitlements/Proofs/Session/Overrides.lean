import Entitlements.Proofs.Session.Defaults
import Mathlib.Data.List.Induction

/-!
# Scoped overrides

A guard keeps the default that its override replaced and puts it back when it is
dropped. While guards are dropped in reverse order, the oldest of them keeps the default
from outside all overrides, and that is what a run leaves when it has dropped them all.
-/

namespace Entitlements

namespace Slots

section

variable {α : Type} {slots : Slots α} {name : String} {value : α}

theorem ne_of_get?_eq_none (h : slots.get? name = none) : ∀ slot ∈ slots, slot.1 ≠ name := by
  intro slot hslot heq
  have hother := List.lookup_eq_none_iff.1 h slot hslot
  simp [heq] at hother

theorem erase_eq_self (h : ∀ slot ∈ slots, slot.1 ≠ name) : slots.erase name = slots := by
  unfold erase
  rw [List.filter_eq_self]
  intro slot hslot
  simpa using h slot hslot

theorem mem_erase_iff {slot : String × α} :
    slot ∈ slots.erase name ↔ slot ∈ slots ∧ slot.1 ≠ name := by
  simp [erase]

def Distinct (slots : Slots α) : Prop :=
  (slots.map Prod.fst).Nodup

theorem Distinct.erase (h : slots.Distinct) : (slots.erase name).Distinct :=
  (List.filter_sublist.map Prod.fst).nodup h

theorem Distinct.put (h : slots.Distinct) : (slots.put name value).Distinct := by
  refine List.nodup_cons.2 ⟨?_, h.erase⟩
  intro hmem
  obtain ⟨slot, hslot, hname⟩ := List.mem_map.1 hmem
  exact (mem_erase_iff.1 hslot).2 hname

theorem Distinct.erase_newest (h : Distinct ((name, value) :: slots)) :
    Slots.erase ((name, value) :: slots) name = slots := by
  obtain ⟨hnew, -⟩ := List.nodup_cons.1 h
  have hrest : ∀ slot ∈ slots, slot.1 ≠ name :=
    fun slot hslot heq => hnew (List.mem_map.2 ⟨slot, hslot, heq⟩)
  have hhead : Slots.erase ((name, value) :: slots) name = slots.erase name := by
    simp [Slots.erase]
  rw [hhead, erase_eq_self hrest]

end

end Slots

namespace Store

/-! ## Conditions along a run -/

def Throughout [SizeLimit] (p : Store → Change → Prop) : Store → List Change → Prop
  | _, [] => True
  | store, change :: rest => p store change ∧ Throughout p (store.changed change) rest

instance decidableThroughout [SizeLimit] {p : Store → Change → Prop}
    [∀ store change, Decidable (p store change)] :
    ∀ store changes, Decidable (Throughout p store changes)
  | _, [] => inferInstanceAs (Decidable True)
  | store, change :: rest =>
      @instDecidableAnd _ _ inferInstance (decidableThroughout (store.changed change) rest)

/-- No guard takes the name of another one, and only the newest guard is dropped. -/
def Nests (store : Store) : Change → Prop
  | .overrideDefault _ guard => store.guards.get? guard = none
  | .dropGuard guard => store.guards.head?.map Prod.fst = some guard
  | _ => True

instance (store : Store) : ∀ change, Decidable (store.Nests change)
  | .overrideDefault _ guard => inferInstanceAs (Decidable (store.guards.get? guard = none))
  | .dropGuard guard => inferInstanceAs (Decidable (store.guards.head?.map Prod.fst = some guard))
  | .registry .. | .permission .. | .setIdentifier .. | .setPrivileges .. | .withIdentifier ..
  | .withPrivileges .. | .set .. | .setAdd .. | .setExtend .. | .setReplace .. | .setClear ..
  | .setWith .. | .setRecollect .. | .setTake .. | .replaceDefault .. | .resetDefault =>
      isTrue trivial

def SetsGuarded (store : Store) : Change → Prop
  | .replaceDefault _ | .resetDefault => store.guards ≠ []
  | _ => True

instance (store : Store) : ∀ change, Decidable (store.SetsGuarded change)
  | .replaceDefault _ => inferInstanceAs (Decidable (store.guards ≠ []))
  | .resetDefault => inferInstanceAs (Decidable (store.guards ≠ []))
  | .registry .. | .permission .. | .setIdentifier .. | .setPrivileges .. | .withIdentifier ..
  | .withPrivileges .. | .set .. | .setAdd .. | .setExtend .. | .setReplace .. | .setClear ..
  | .setWith .. | .setRecollect .. | .setTake .. | .overrideDefault .. | .dropGuard .. =>
      isTrue trivial

section

variable [SizeLimit] {p : Store → Change → Prop} {store next : Store} {change : Change}
  {changes front back before : List Change} {guard : String} {slot : String × Option Registry}

theorem throughout_append_iff :
    Throughout p store (front ++ back) ↔
      Throughout p store front ∧ Throughout p (store.changedAll front) back := by
  induction front generalizing store with
  | nil =>
      simp [Throughout]
  | cons change front ih =>
      simp only [List.cons_append, Throughout, ih, changedAll_cons, and_assoc]

/-! ## The override of a guard -/

/--
The change behind `before` began the guard, and no change since then names it. What
the guard restores is the default that `before` had left.
-/
def OwnOverride (store : Store) (changes : List Change) (guard : String)
    (before : List Change) : Prop :=
  ∃ source body registry, changes = before ++ .overrideDefault source guard :: body ∧
    source.build (store.changedAll before) = .ok registry ∧
      ∀ change ∈ body, change.guard? ≠ some guard

theorem OwnOverride.concat (h : store.OwnOverride changes guard before)
    (hchange : change.guard? ≠ some guard) :
    store.OwnOverride (changes ++ [change]) guard before := by
  obtain ⟨source, body, registry, rfl, hbuild, hbody⟩ := h
  refine ⟨source, body ++ [change], registry, by simp, hbuild, ?_⟩
  intro other hother
  rcases List.mem_append.1 hother with hmem | hlast
  · exact hbody other hmem
  · rw [List.mem_singleton.1 hlast]
    exact hchange

omit [SizeLimit] in
/-- A guard was there before and is not named, or it is new and keeps the default. -/
theorem DefaultStep.guard_cases (h : store.DefaultStep change next) (hnests : store.Nests change)
    (hslot : slot ∈ next.guards) :
    (slot ∈ store.guards ∧ change.guard? ≠ some slot.1) ∨
      ∃ source registry, change = .overrideDefault source slot.1 ∧
        source.build store = .ok registry ∧ slot.2 = store.override := by
  cases h with
  | @refused change source _ hnew _ =>
      refine .inl ⟨hslot, ?_⟩
      cases change with
      | overrideDefault source guard =>
          intro heq
          exact Slots.ne_of_get?_eq_none hnests _ hslot (Option.some.inj heq).symm
      | replaceDefault source =>
          simp [Change.guard?]
      | _ =>
          contradiction
  | replaced _ =>
      exact .inl ⟨hslot, by simp [Change.guard?]⟩
  | reset =>
      exact .inl ⟨hslot, by simp [Change.guard?]⟩
  | @overridden source registry guard hbuild =>
      rcases List.mem_cons.1 hslot with rfl | hold
      · exact .inr ⟨source, registry, rfl, hbuild, rfl⟩
      · obtain ⟨hmem, hname⟩ := Slots.mem_erase_iff.1 hold
        refine .inl ⟨hmem, fun heq => ?_⟩
        exact hname (Option.some.inj heq).symm
  | absent hget =>
      refine .inl ⟨hslot, fun heq => ?_⟩
      exact Slots.ne_of_get?_eq_none hget _ hslot (Option.some.inj heq).symm
  | dropped _ =>
      obtain ⟨hmem, hname⟩ := Slots.mem_erase_iff.1 hslot
      refine .inl ⟨hmem, fun heq => ?_⟩
      exact hname (Option.some.inj heq).symm

theorem exists_ownOverride (hguards : store.guards = [])
    (hchanges : ∀ change ∈ changes, change.OnDefault) (hnests : Throughout Nests store changes)
    (hslot : slot ∈ (store.changedAll changes).guards) :
    ∃ before, store.OwnOverride changes slot.1 before ∧
      slot.2 = (store.changedAll before).override := by
  induction changes using List.reverseRecOn with
  | nil =>
      rw [changedAll_nil, hguards] at hslot
      contradiction
  | append_singleton changes change ih =>
      obtain ⟨hearlier, hlast⟩ := List.forall_mem_append.1 hchanges
      obtain ⟨hnested, hnest, -⟩ := throughout_append_iff.1 hnests
      rw [changedAll_concat] at hslot
      have hstep : (store.changedAll changes).DefaultStep change _ :=
        defaultStep (List.forall_mem_singleton.1 hlast)
      rcases hstep.guard_cases hnest hslot with
        ⟨hold, hname⟩ | ⟨source, registry, rfl, hbuild, hsaved⟩
      · obtain ⟨before, hown, hsaved⟩ := ih hearlier hnested hold
        exact ⟨before, hown.concat hname, hsaved⟩
      · exact ⟨changes, ⟨source, [], registry, rfl, hbuild, by simp⟩, hsaved⟩

/-- The newest guard restores what its own override replaced. -/
theorem changedAll_dropGuard (hguards : store.guards = [])
    (hchanges : ∀ change ∈ front, change.OnDefault) (hnests : Throughout Nests store front)
    (hnewest : (store.changedAll front).Nests (.dropGuard guard)) :
    ∃ before, store.OwnOverride front guard before ∧
      (store.changedAll (front ++ [.dropGuard guard])).override =
        (store.changedAll before).override := by
  obtain ⟨⟨name, previous⟩, hhead, rfl⟩ := Option.map_eq_some_iff.1 hnewest
  obtain ⟨older, hstack⟩ := List.head?_eq_some_iff.1 hhead
  have hmem : (name, previous) ∈ (store.changedAll front).guards := by
    rw [hstack]
    exact List.mem_cons_self
  have hget : (store.changedAll front).guards.get? name = some previous := by
    rw [hstack]
    exact List.lookup_cons_self
  obtain ⟨before, hown, hsaved⟩ := exists_ownOverride hguards hchanges hnests hmem
  refine ⟨before, hown, ?_⟩
  rw [changedAll_concat, ← hsaved]
  have hstep : (store.changedAll front).DefaultStep (.dropGuard name) _ := defaultStep trivial
  generalize (store.changedAll front).changed (.dropGuard name) = next at hstep ⊢
  cases hstep with
  | refused hnew _ =>
      contradiction
  | absent hnone =>
      rw [hget] at hnone
      contradiction
  | dropped hsome =>
      rw [hget] at hsome
      exact (Option.some.inj hsome).symm

/-! ## The default below all guards -/

/-- The default that is left when the guards are dropped, the newest first. -/
def outermost (store : Store) : Option Registry :=
  (store.guards.getLast?.map Prod.snd).getD store.override

omit [SizeLimit] in
theorem DefaultStep.distinct (h : store.DefaultStep change next)
    (hdistinct : store.guards.Distinct) : next.guards.Distinct := by
  cases h with
  | refused _ _ =>
      exact hdistinct
  | replaced _ =>
      exact hdistinct
  | reset =>
      exact hdistinct
  | overridden _ =>
      exact hdistinct.put
  | absent _ =>
      exact hdistinct
  | dropped _ =>
      exact hdistinct.erase

omit [SizeLimit] in
theorem outermost_eq_of_guards (hne : store.guards ≠ []) (hguards : next.guards = store.guards) :
    next.outermost = store.outermost := by
  unfold outermost
  rw [hguards, List.getLast?_eq_some_getLast hne]
  rfl

omit [SizeLimit] in
theorem DefaultStep.outermost_eq (h : store.DefaultStep change next)
    (hdistinct : store.guards.Distinct) (hnests : store.Nests change)
    (hsets : store.SetsGuarded change) : next.outermost = store.outermost := by
  cases h with
  | refused _ _ =>
      rfl
  | replaced _ =>
      exact outermost_eq_of_guards hsets rfl
  | reset =>
      exact outermost_eq_of_guards hsets rfl
  | @overridden _ registry guard _ =>
      have hput : (store.overrideDefault registry guard).guards =
          (guard, store.override) :: store.guards := by
        rw [overrideDefault, Slots.put, Slots.erase_eq_self (Slots.ne_of_get?_eq_none hnests)]
      unfold outermost
      rw [hput, List.getLast?_cons]
      cases store.guards.getLast? with
      | none =>
          rfl
      | some oldest =>
          rfl
  | absent _ =>
      rfl
  | @dropped guard previous hget =>
      obtain ⟨⟨name, saved⟩, hhead, rfl⟩ := Option.map_eq_some_iff.1 hnests
      obtain ⟨older, hstack⟩ := List.head?_eq_some_iff.1 hhead
      rw [hstack] at hdistinct hget
      have hsaved : saved = previous := by
        simpa [Slots.get?, List.lookup_cons_self] using hget
      unfold outermost
      rw [hstack, hdistinct.erase_newest, List.getLast?_cons, hsaved]
      cases older.getLast? with
      | none =>
          rfl
      | some oldest =>
          rfl

theorem outermost_changedAll (hdistinct : store.guards.Distinct)
    (hchanges : ∀ change ∈ changes, change.OnDefault) (hnests : Throughout Nests store changes)
    (hsets : Throughout SetsGuarded store changes) :
    (store.changedAll changes).outermost = store.outermost := by
  induction changes generalizing store with
  | nil =>
      rfl
  | cons change changes ih =>
      obtain ⟨hchange, hlater⟩ := List.forall_mem_cons.1 hchanges
      have hstep : store.DefaultStep change (store.changed change) := defaultStep hchange
      rw [changedAll_cons, ih (hstep.distinct hdistinct) hlater hnests.2 hsets.2]
      exact hstep.outermost_eq hdistinct hnests.1 hsets.1

omit [SizeLimit] in
theorem outermost_of_guards_nil (h : store.guards = []) : store.outermost = store.override := by
  rw [outermost, h]
  rfl

/-! ## Where a default comes from -/

def Passed (store : Store) (changes : List Change) (registry : Registry) : Prop :=
  ∃ front change back source, changes = front ++ change :: back ∧
    change.newDefault? = some source ∧ source.build (store.changedAll front) = .ok registry

theorem Passed.concat {registry : Registry} (h : store.Passed changes registry) :
    store.Passed (changes ++ [change]) registry := by
  obtain ⟨front, passing, back, source, rfl, hnew, hbuild⟩ := h
  exact ⟨front, passing, back ++ [change], source, by simp, hnew, hbuild⟩

def Known (store : Store) (changes : List Change) (default : Option Registry) : Prop :=
  default = store.override ∨ default = none ∨
    ∃ registry, default = some registry ∧ store.Passed changes registry

theorem Known.concat {default : Option Registry} (h : store.Known changes default) :
    store.Known (changes ++ [change]) default := by
  rcases h with hfirst | hnone | ⟨registry, heq, hpassed⟩
  · exact .inl hfirst
  · exact .inr (.inl hnone)
  · exact .inr (.inr ⟨registry, heq, hpassed.concat⟩)

def AllDefaults (P : Option Registry → Prop) (store : Store) : Prop :=
  P store.override ∧ store.guards.All P

omit [SizeLimit] in
theorem DefaultStep.allDefaults {P : Option Registry → Prop}
    (h : store.DefaultStep change next) (hnone : P none)
    (hnew : ∀ source registry, change.newDefault? = some source →
      source.build store = .ok registry → P (some registry))
    (hdefaults : store.AllDefaults P) : next.AllDefaults P := by
  obtain ⟨hoverride, hguards⟩ := hdefaults
  cases h with
  | refused _ _ =>
      exact ⟨hoverride, hguards⟩
  | replaced hbuild =>
      exact ⟨hnew _ _ rfl hbuild, hguards⟩
  | reset =>
      exact ⟨hnone, hguards⟩
  | @overridden source registry guard hbuild =>
      have hput : (store.guards.keep (some guard) store.override).All P := hguards.keep hoverride
      refine ⟨?_, hput⟩
      unfold overrideDefault
      cases hget : store.guards.get? guard with
      | none =>
          exact hnew _ _ rfl hbuild
      | some previous =>
          exact hguards.get? hget
  | absent _ =>
      exact ⟨hoverride, hguards⟩
  | dropped hget =>
      refine ⟨hguards.get? hget, fun slot hslot => ?_⟩
      exact hguards slot (Slots.mem_erase_iff.1 hslot).1

theorem known_changedAll (hguards : store.guards = [])
    (hchanges : ∀ change ∈ changes, change.OnDefault) :
    (store.changedAll changes).AllDefaults (store.Known changes) := by
  induction changes using List.reverseRecOn with
  | nil =>
      refine ⟨.inl rfl, fun slot hslot => ?_⟩
      rw [changedAll_nil, hguards] at hslot
      contradiction
  | append_singleton changes change ih =>
      obtain ⟨hearlier, hlast⟩ := List.forall_mem_append.1 hchanges
      obtain ⟨hoverride, hsaved⟩ := ih hearlier
      rw [changedAll_concat]
      have hstep : (store.changedAll changes).DefaultStep change _ :=
        defaultStep (List.forall_mem_singleton.1 hlast)
      refine hstep.allDefaults (.inr (.inl rfl)) ?_ ⟨hoverride.concat, ?_⟩
      · intro source registry hnew hbuild
        exact .inr (.inr ⟨registry, rfl, changes, change, [], source, rfl, hnew, hbuild⟩)
      · exact fun slot hslot => (hsaved slot hslot).concat

end

/--
When guards are dropped in reverse order, each drop restores what the override of the
guard replaced, and a run that sets and resets only under a guard, and drops all of
them, ends with the default it began with. In any order, the default is the first one,
the standard one or one that was passed. The permissions and sets that are stored
answer all the time as before.
-/
theorem overrides_restore [SizeLimit] (store : Store) (changes : List Change)
    (hguards : store.guards = []) (hchanges : ∀ change ∈ changes, change.OnDefault) :
    (Throughout Nests store changes →
      (∀ front guard back, changes = front ++ .dropGuard guard :: back →
        ∃ before, store.OwnOverride front guard before ∧
          (store.changedAll (front ++ [.dropGuard guard])).current =
            (store.changedAll before).current) ∧
      (Throughout SetsGuarded store changes → (store.changedAll changes).guards = [] →
        (store.changedAll changes).current = store.current)) ∧
    ((store.changedAll changes).current = store.current ∨
      (store.changedAll changes).current = .standard ∨
        store.Passed changes (store.changedAll changes).current) ∧
    ∀ query : Query, query.Explicit →
      query.answer (store.changedAll changes) = query.answer store := by
  refine ⟨fun hnests => ⟨?_, ?_⟩, ?_, ?_⟩
  · intro front guard back heq
    subst heq
    obtain ⟨hfront, hnewest, -⟩ := throughout_append_iff.1 hnests
    obtain ⟨before, hown, hrestored⟩ := changedAll_dropGuard hguards
      (List.forall_mem_append.1 hchanges).1 hfront hnewest
    exact ⟨before, hown, congrArg (·.getD .standard) hrestored⟩
  · intro hsets hdropped
    have hdistinct : store.guards.Distinct := by
      rw [hguards]
      exact List.nodup_nil
    have houtermost := outermost_changedAll hdistinct hchanges hnests hsets
    rw [outermost_of_guards_nil hdropped, outermost_of_guards_nil hguards] at houtermost
    exact congrArg (·.getD .standard) houtermost
  · rcases (known_changedAll hguards hchanges).1 with hfirst | hnone | ⟨registry, heq, hpassed⟩
    · exact .inl (congrArg (·.getD .standard) hfirst)
    · exact .inr (.inl (congrArg (·.getD .standard) hnone))
    · have hcurrent : (store.changedAll changes).current = registry :=
        congrArg (·.getD .standard) heq
      rw [hcurrent]
      exact .inr (.inr hpassed)
  · intro query hquery
    exact query.answer_eq hquery (sameSlots_changedAll hchanges)

/-- Sets and resets the default inside two guards, and drops them. -/
def nestedOverrides : List Change :=
  [.overrideDefault (.tables [("view", 1), ("curate", 2)] [("curate", 1)]) "outer",
    .replaceDefault .standard, .overrideDefault .current "inner", .resetDefault,
    .dropGuard "inner", .dropGuard "outer"]

theorem overrides_restore_nested :
    ((Store.run {} readAndCollect).changedAll nestedOverrides).current =
        (Store.run {} readAndCollect).current ∧
      (Query.setAllows (.slot "readers") [.text "doc/1:read"]).answer
          ((Store.run {} readAndCollect).changedAll nestedOverrides) =
        (Query.setAllows (.slot "readers") [.text "doc/1:read"]).answer
          (Store.run {} readAndCollect) := by
  have hguards : (Store.run {} readAndCollect).guards = [] := by
    decide +kernel
  have hchanges : ∀ change ∈ nestedOverrides, change.OnDefault := by
    simp [nestedOverrides, Change.OnDefault]
  have hnests : Throughout Nests (Store.run {} readAndCollect) nestedOverrides := by
    decide +kernel
  have hsets : Throughout SetsGuarded (Store.run {} readAndCollect) nestedOverrides := by
    decide +kernel
  have hdropped : ((Store.run {} readAndCollect).changedAll nestedOverrides).guards = [] := by
    decide +kernel
  obtain ⟨hnested, -, hanswers⟩ := overrides_restore _ nestedOverrides hguards hchanges
  refine ⟨(hnested hnests).2 hsets hdropped, hanswers _ ⟨trivial, ?_⟩⟩
  exact List.forall_mem_singleton.2 trivial

end Store

end Entitlements
