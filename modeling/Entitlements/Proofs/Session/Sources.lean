import Entitlements.Proofs.Permission.WellFormed
import Entitlements.Session.Source

/-!
# Well-formed sources

Wherever the parts of a permission come from, they pass the same checks. A store that
holds well-formed permissions only is a source of nothing else.
-/

namespace Entitlements

/-! ## Documents -/

theorem Document.exists_read_of_readAll {ε α : Type} {text : String}
    {read : Json → Except (Failure ε) α} {result : α} (h : readAll text read = .ok result) :
    ∃ value, read value = .ok result := by
  unfold readAll at h
  split at h
  · contradiction
  · next reading _ =>
      split at h
      · next found hread =>
          cases h
          exact ⟨reading.value, hread⟩
      · contradiction

theorem Document.wellFormed_readPermission [SizeLimit] {registry : Registry} {value : Json}
    {permission : Permission} (h : readPermission registry value = .ok permission) :
    permission.WellFormed := by
  unfold readPermission at h
  split at h
  · contradiction
  · exact Permission.wellFormed_ofParts (Outcome.mapError_eq_ok_iff.1 h)

theorem Permission.wellFormed_ofJson [SizeLimit] {registry : Registry} {document : String}
    {permission : Permission} (h : ofJson registry document = .ok permission) :
    permission.WellFormed := by
  obtain ⟨value, hvalue⟩ := Document.exists_read_of_readAll h
  exact Document.wellFormed_readPermission hvalue

namespace PermissionSet

variable [SizeLimit]

def WellFormed (set : PermissionSet) : Prop :=
  ∀ member ∈ set.permissions, member.WellFormed

section

variable {registry fallback : Registry} {set : PermissionSet} {permission : Permission}
  {all : List Permission}

theorem wellFormed_empty : (empty registry).WellFormed := by
  simp [WellFormed, empty]

theorem wellFormed_clear : set.clear.WellFormed := by
  simp [WellFormed, clear]

theorem wellFormed_ofPermissions (hall : ∀ permission ∈ all, permission.WellFormed) :
    (ofPermissions fallback all).WellFormed := hall

theorem wellFormed_withPermissions (hall : ∀ permission ∈ all, permission.WellFormed) :
    (set.withPermissions all).WellFormed := hall

theorem WellFormed.addAll (h : set.WellFormed) (hall : ∀ permission ∈ all, permission.WellFormed) :
    (set.addAll all).WellFormed :=
  List.forall_mem_append.2 ⟨h, hall⟩

theorem WellFormed.add (h : set.WellFormed) (hpermission : permission.WellFormed) :
    (set.add permission).WellFormed :=
  List.forall_mem_append.2 ⟨h, List.forall_mem_singleton.2 hpermission⟩

theorem wellFormed_ofTexts {texts : List String} (h : ofTexts registry texts = .ok set) :
    set.WellFormed := by
  obtain ⟨members, hmembers, heq⟩ := Outcome.bind_eq_ok_iff.1 h
  cases heq
  exact Outcome.forall_mem_of_mapM (fun _ _ => Permission.wellFormed_ofText) hmembers

theorem wellFormed_ofJson {document : String} (h : ofJson registry document = .ok set) :
    set.WellFormed := by
  obtain ⟨value, hvalue⟩ := Document.exists_read_of_readAll h
  obtain ⟨members, hmembers, rfl⟩ := Outcome.map_eq_ok_iff.1 hvalue
  unfold Document.readPermissions at hmembers
  split at hmembers
  · exact Outcome.forall_mem_of_mapM (fun _ _ => Document.wellFormed_readPermission) hmembers
  · contradiction

end

end PermissionSet

/-! ## Slots -/

namespace Slots

section

variable {α : Type} {P : α → Prop} {slots : Slots α} {name : String} {value : α}

def All (P : α → Prop) (slots : Slots α) : Prop :=
  ∀ slot ∈ slots, P slot.2

theorem All.get? (h : slots.All P) (hget : slots.get? name = some value) : P value := by
  obtain ⟨front, back, rfl, -⟩ := List.lookup_eq_some_iff.1 hget
  exact h (name, value) (by simp)

theorem All.keep {name : Option String} (h : slots.All P) (hvalue : P value) :
    (slots.keep name value).All P := by
  cases name with
  | none =>
      exact h
  | some name =>
      intro slot hslot
      rcases mem_of_mem_put hslot with rfl | hold
      · exact hvalue
      · exact h slot hold

theorem All.replace (h : slots.All P) (hvalue : P value) : (slots.replace name value).All P := by
  induction slots with
  | nil =>
      exact h
  | cons slot slots ih =>
      obtain ⟨hslot, hslots⟩ := List.forall_mem_cons.1 h
      unfold Slots.replace
      split
      · exact List.forall_mem_cons.2 ⟨hvalue, hslots⟩
      · exact List.forall_mem_cons.2 ⟨hslot, ih hslots⟩

theorem replace_get? (h : slots.get? name = some value) : slots.replace name value = slots := by
  induction slots with
  | nil =>
      rfl
  | cons slot slots ih =>
      obtain ⟨other, old⟩ := slot
      unfold Slots.get? at h
      by_cases hname : other = name
      · subst hname
        rw [List.lookup_cons_self, Option.some.injEq] at h
        simp [Slots.replace, h]
      · rw [List.lookup_cons, beq_false_of_ne (Ne.symm hname)] at h
        simp [Slots.replace, hname, ih h]

end

end Slots

/-! ## Stores -/

/-- A store whose permissions, also those in sets, are well formed. -/
structure Store.WellFormed [SizeLimit] (store : Store) : Prop where
  permissions : store.permissions.All Permission.WellFormed
  sets : store.sets.All PermissionSet.WellFormed

theorem Attempt.get?_of_ofSlot {α : Type} {name : String} {slots : Slots α} {value : α}
    (h : Attempt.ofSlot name slots = .ok value) : slots.get? name = some value := by
  unfold ofSlot at h
  split at h
  · next found hfound =>
      cases h
      exact hfound
  · contradiction

section

variable [SizeLimit] {store : Store}

theorem PermissionSource.wellFormed_of_build {source : PermissionSource} {permission : Permission}
    (hstore : store.WellFormed) (h : source.build store = .ok permission) :
    permission.WellFormed := by
  cases source with
  | slot name =>
      exact hstore.permissions.get? (Attempt.get?_of_ofSlot h)
  | text registry t =>
      obtain ⟨_, -, hread⟩ := Outcome.bind_eq_ok_iff.1 h
      exact Permission.wellFormed_ofText (Outcome.mapError_eq_ok_iff.1 hread)
  | record registry fields =>
      obtain ⟨_, -, hread⟩ := Outcome.bind_eq_ok_iff.1 h
      exact Permission.wellFormed_ofParts (Outcome.mapError_eq_ok_iff.1 hread)
  | parts registry identifier spec =>
      obtain ⟨_, -, hread⟩ := Outcome.bind_eq_ok_iff.1 h
      exact Permission.wellFormed_ofParts (Outcome.mapError_eq_ok_iff.1 hread)
  | json document =>
      exact Permission.wellFormed_ofJson (Outcome.mapError_eq_ok_iff.1 h)

theorem PermissionSource.wellFormed_of_mapM {sources : List PermissionSource}
    {all : List Permission} (hstore : store.WellFormed)
    (h : sources.mapM (build store) = .ok all) : ∀ permission ∈ all, permission.WellFormed :=
  Outcome.forall_mem_of_mapM (fun _ _ => wellFormed_of_build hstore) h

theorem SetSource.wellFormed_of_build {source : SetSource} {set : PermissionSet}
    (hstore : store.WellFormed) (h : source.build store = .ok set) : set.WellFormed := by
  cases source with
  | slot name =>
      exact hstore.sets.get? (Attempt.get?_of_ofSlot h)
  | empty registry =>
      obtain ⟨_, -, rfl⟩ := Outcome.map_eq_ok_iff.1 h
      exact PermissionSet.wellFormed_empty
  | texts registry all =>
      obtain ⟨_, -, hread⟩ := Outcome.bind_eq_ok_iff.1 h
      exact PermissionSet.wellFormed_ofTexts (Outcome.mapError_eq_ok_iff.1 hread)
  | collected sources =>
      obtain ⟨_, hall, rfl⟩ := Outcome.map_eq_ok_iff.1 h
      exact PermissionSet.wellFormed_ofPermissions (PermissionSource.wellFormed_of_mapM hstore hall)
  | json document =>
      exact PermissionSet.wellFormed_ofJson (Outcome.mapError_eq_ok_iff.1 h)

end

end Entitlements
