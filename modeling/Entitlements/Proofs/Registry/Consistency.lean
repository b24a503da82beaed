import Entitlements.Proofs.Outcome
import Entitlements.Proofs.Registry.Message
import Entitlements.Proofs.Registry.Tables

/-!
# Consistent tables

The tables that make a registry are described without the order in which they are
checked. Tables that make none are refused for the first entry that has a defect, and
for the first defect of that entry.
-/

namespace Entitlements

/-- One or more digits, with or without a minus sign before them. -/
def IsSignedNumeral (text : List Char) : Prop :=
  ∃ digits, digits ≠ [] ∧ (∀ c ∈ digits, c.isDigit = true) ∧
    (text = digits ∨ text = '-' :: digits)

theorem isNumeral_iff {text : List Char} :
    TokenForm.isNumeral text = true ↔ text ≠ [] ∧ ∀ c ∈ text, c.isDigit = true := by
  simp [TokenForm.isNumeral]

theorem isSignedNumeral_iff {text : List Char} :
    IsSignedNumeral text ↔ TokenForm.isNumeral text = true ∨
      ∃ digits, text = '-' :: digits ∧ TokenForm.isNumeral digits = true := by
  simp only [IsSignedNumeral, isNumeral_iff]
  constructor
  · rintro ⟨digits, hne, hall, rfl | rfl⟩
    · exact .inl ⟨hne, hall⟩
    · exact .inr ⟨digits, rfl, hne, hall⟩
  · rintro (⟨hne, hall⟩ | ⟨digits, rfl, hne, hall⟩)
    · exact ⟨text, hne, hall, .inl rfl⟩
    · exact ⟨digits, hne, hall, .inr rfl⟩

theorem tokenForm_eq_name_iff {token : String} :
    tokenForm token = .name ↔ ¬ IsSignedNumeral token.toList := by
  rw [tokenForm, isSignedNumeral_iff]
  unfold TokenForm.ofText
  split
  · next digits htext =>
      have hminus : TokenForm.isNumeral ('-' :: digits) = false := by
        simp [TokenForm.isNumeral]
      rw [htext, hminus]
      cases hdigits : TokenForm.isNumeral digits <;> simp [hdigits]
  · next hunsigned =>
      have hnone : ¬ ∃ digits, token.toList = '-' :: digits ∧
          TokenForm.isNumeral digits = true := by
        rintro ⟨digits, htext, -⟩
        exact hunsigned digits htext
      cases TokenForm.isNumeral token.toList <;> simp [hnone]

/-- Tables in which every name can be written, every name stands once and no grant is in excess. -/
structure Table.Consistent (privileges grants : Table) : Prop where
  nonempty : privileges ≠ []
  names : ∀ entry ∈ privileges,
    entry.1 ≠ "" ∧ ',' ∉ entry.1.toList ∧ ¬ IsSignedNumeral entry.1.toList
  masks : ∀ entry ∈ privileges, entry.2 ≠ 0
  privilegesOnce : (privileges.map Prod.fst).Nodup
  grantNames : ∀ entry ∈ grants, entry.1 ∈ privileges.map Prod.fst
  grantMasks : ∀ entry ∈ grants, ∀ i, entry.2.HasBit i → ∃ other ∈ privileges, other.2.HasBit i
  grantsOnce : (grants.map Prod.fst).Nodup

theorem Table.consistent_iff {privileges grants : Table} :
    Table.Consistent privileges grants ↔ Defect.first? privileges grants = none := by
  have hgrant : ∀ entry : String × Mask, Table.ValidGrant privileges entry ↔
      entry.1 ∈ privileges.map Prod.fst ∧
        ∀ i, entry.2.HasBit i → ∃ other ∈ privileges, other.2.HasBit i := by
    intro entry
    simp only [ValidGrant, mask?_isSome_iff, Mask.beyond_eq_zero_iff, hasBit_bits_iff]
  rw [Defect.first?_eq_none_iff]
  simp only [ValidAfter, ValidEntry, hgrant, tokenForm_eq_name_iff]
  constructor
  · rintro ⟨hne, hnames, hmasks, honce, hgrantNames, hgrantMasks, hgrantsOnce⟩
    refine ⟨hne, ⟨?_, honce⟩, ?_, hgrantsOnce⟩
    · intro entry hentry
      obtain ⟨hword, hcomma, hnumeral⟩ := hnames entry hentry
      exact ⟨⟨hword, hcomma, hnumeral, hmasks entry hentry⟩, by simp⟩
    · intro entry hentry
      exact ⟨⟨hgrantNames entry hentry, hgrantMasks entry hentry⟩, by simp⟩
  · rintro ⟨hne, ⟨hentries, honce⟩, hgrants, hgrantsOnce⟩
    refine ⟨hne, ?_, ?_, honce, ?_, ?_, hgrantsOnce⟩
    · intro entry hentry
      obtain ⟨hword, hcomma, hnumeral, -⟩ := (hentries entry hentry).1
      exact ⟨hword, hcomma, hnumeral⟩
    · exact fun entry hentry => (hentries entry hentry).1.2.2.2
    · exact fun entry hentry => (hgrants entry hentry).1.1
    · exact fun entry hentry => (hgrants entry hentry).1.2

namespace Defect

inductive OfPrivilege (before : Table) : String × Mask → Defect → Prop where
  | form {name : String} {mask : Mask} (h : name = "" ∨ ',' ∈ name.toList) :
      OfPrivilege before (name, mask) (.invalidName name)
  | numeric {name : String} {mask : Mask} (hform : ¬ (name = "" ∨ ',' ∈ name.toList))
      (h : IsSignedNumeral name.toList) : OfPrivilege before (name, mask) (.numericName name)
  | zero {name : String} (hform : ¬ (name = "" ∨ ',' ∈ name.toList))
      (hword : ¬ IsSignedNumeral name.toList) : OfPrivilege before (name, 0) (.zeroMask name)
  | repeated {name : String} {mask : Mask} (hform : ¬ (name = "" ∨ ',' ∈ name.toList))
      (hword : ¬ IsSignedNumeral name.toList) (hmask : mask ≠ 0)
      (h : name ∈ before.map Prod.fst) :
      OfPrivilege before (name, mask) (.repeatedPrivilege name)

inductive OfGrant (privileges before : Table) : String × Mask → Defect → Prop where
  | unknown {name : String} {mask : Mask} (h : name ∉ privileges.map Prod.fst) :
      OfGrant privileges before (name, mask) (.unknownGrant name)
  | stray {name : String} {mask : Mask} (hname : name ∈ privileges.map Prod.fst)
      (h : mask.beyond privileges.bits ≠ 0) :
      OfGrant privileges before (name, mask) (.strayGrant name (mask.beyond privileges.bits))
  | repeated {name : String} {mask : Mask} (hname : name ∈ privileges.map Prod.fst)
      (hmask : mask.beyond privileges.bits = 0) (h : name ∈ before.map Prod.fst) :
      OfGrant privileges before (name, mask) (.repeatedGrant name)

/-- The defect of the first entry that has one, when the entries follow those of `before`. -/
def AtFirst (offends : Table → String × Mask → Defect → Prop) (before table : Table)
    (defect : Defect) : Prop :=
  ∃ front entry back, table = front ++ entry :: back ∧ offends (before ++ front) entry defect ∧
    ∀ earlier other later, front = earlier ++ other :: later →
      ∀ found, ¬ offends (before ++ earlier) other found

inductive First (privileges grants : Table) : Defect → Prop where
  | empty (h : privileges = []) : First privileges grants .noPrivileges
  | privilege {defect : Defect} (h : AtFirst OfPrivilege [] privileges defect) :
      First privileges grants defect
  | grant {defect : Defect} (hne : privileges ≠ [])
      (hprivileges : ∀ found, ¬ AtFirst OfPrivilege [] privileges found)
      (h : AtFirst (OfGrant privileges) [] grants defect) : First privileges grants defect

section

variable {offends : Table → String × Mask → Defect → Prop} {privileges grants before table : Table}
  {entry : String × Mask} {seen : List String} {defect : Defect}

theorem atFirst_cons_iff :
    AtFirst offends before (entry :: table) defect ↔
      offends before entry defect ∨
        (∀ found, ¬ offends before entry found) ∧
          AtFirst offends (before ++ [entry]) table defect := by
  constructor
  · intro h
    obtain ⟨front, offender, back, heq, hdefect, hfront⟩ := h
    rcases List.cons_eq_append_iff.1 heq with ⟨rfl, hback⟩ | ⟨rest, rfl, hback⟩
    · cases hback
      exact .inl (by simpa using hdefect)
    · refine .inr ⟨by simpa using hfront [] entry rest rfl, rest, offender, back, hback, ?_, ?_⟩
      · simpa using hdefect
      · intro earlier other later hrest found
        simpa using hfront (entry :: earlier) other later (by simp [hrest]) found
  · intro h
    rcases h with hdefect | ⟨hsound, front, offender, back, rfl, hdefect, hfront⟩
    · exact ⟨[], entry, table, rfl, by simpa using hdefect, by simp⟩
    · refine ⟨entry :: front, offender, back, rfl, by simpa using hdefect, ?_⟩
      intro earlier other later heq found
      rcases List.cons_eq_append_iff.1 heq with ⟨rfl, hother⟩ | ⟨rest, rfl, hrest⟩
      · cases hother
        simpa using hsound found
      · simpa using hfront rest other later hrest found

theorem mem_seen_iff {name : String} {mask : Mask}
    (hseen : ∀ other, other ∈ seen ↔ other ∈ before.map Prod.fst) (other : String) :
    other ∈ name :: seen ↔ other ∈ (before ++ [(name, mask)]).map Prod.fst := by
  simp [hseen, or_comm]

theorem ofPrivilege_iff {name : String} {mask : Mask} :
    OfPrivilege before (name, mask) defect ↔
      (name = "" ∨ ',' ∈ name.toList) ∧ defect = .invalidName name ∨
      ¬ (name = "" ∨ ',' ∈ name.toList) ∧
        (IsSignedNumeral name.toList ∧ defect = .numericName name ∨
        ¬ IsSignedNumeral name.toList ∧
          (mask = 0 ∧ defect = .zeroMask name ∨
          mask ≠ 0 ∧ name ∈ before.map Prod.fst ∧ defect = .repeatedPrivilege name)) := by
  constructor
  · intro h
    cases h with
    | form h => exact .inl ⟨h, rfl⟩
    | numeric hform h => exact .inr ⟨hform, .inl ⟨h, rfl⟩⟩
    | zero hform hword => exact .inr ⟨hform, .inr ⟨hword, .inl ⟨rfl, rfl⟩⟩⟩
    | repeated hform hword hmask h => exact .inr ⟨hform, .inr ⟨hword, .inr ⟨hmask, h, rfl⟩⟩⟩
  · intro h
    rcases h with ⟨h, rfl⟩ | ⟨hform, ⟨h, rfl⟩ | ⟨hword, ⟨rfl, rfl⟩ | ⟨hmask, h, rfl⟩⟩⟩
    · exact .form h
    · exact .numeric hform h
    · exact .zero hform hword
    · exact .repeated hform hword hmask h

theorem forall_not_ofPrivilege_iff {name : String} {mask : Mask} :
    (∀ found, ¬ OfPrivilege before (name, mask) found) ↔
      ¬ (name = "" ∨ ',' ∈ name.toList) ∧ ¬ IsSignedNumeral name.toList ∧ mask ≠ 0 ∧
        name ∉ before.map Prod.fst := by
  rw [← not_exists]
  simp only [ofPrivilege_iff, exists_or, exists_and_left, exists_eq, and_true]
  tauto

theorem inPrivileges_eq_some_iff (hseen : ∀ name, name ∈ seen ↔ name ∈ before.map Prod.fst) :
    inPrivileges seen table = some defect ↔ AtFirst OfPrivilege before table defect := by
  -- the invariant is `hseen`: the checks remember names, the specification the entries
  induction table generalizing seen before with
  | nil =>
      simp [inPrivileges, AtFirst]
  | cons entry table ih =>
      obtain ⟨name, mask⟩ := entry
      rw [atFirst_cons_iff, ← ih (mem_seen_iff hseen), forall_not_ofPrivilege_iff, ofPrivilege_iff]
      simp only [inPrivileges, ← hseen]
      grind [String.isEmpty_iff, tokenForm_eq_name_iff]

theorem ofGrant_iff {name : String} {mask : Mask} :
    OfGrant privileges before (name, mask) defect ↔
      name ∉ privileges.map Prod.fst ∧ defect = .unknownGrant name ∨
      name ∈ privileges.map Prod.fst ∧
        (mask.beyond privileges.bits ≠ 0 ∧
            defect = .strayGrant name (mask.beyond privileges.bits) ∨
          mask.beyond privileges.bits = 0 ∧ name ∈ before.map Prod.fst ∧
            defect = .repeatedGrant name) := by
  constructor
  · intro h
    cases h with
    | unknown h => exact .inl ⟨h, rfl⟩
    | stray hname h => exact .inr ⟨hname, .inl ⟨h, rfl⟩⟩
    | repeated hname hmask h => exact .inr ⟨hname, .inr ⟨hmask, h, rfl⟩⟩
  · intro h
    rcases h with ⟨h, rfl⟩ | ⟨hname, ⟨h, rfl⟩ | ⟨hmask, h, rfl⟩⟩
    · exact .unknown h
    · exact .stray hname h
    · exact .repeated hname hmask h

theorem forall_not_ofGrant_iff {name : String} {mask : Mask} :
    (∀ found, ¬ OfGrant privileges before (name, mask) found) ↔
      name ∈ privileges.map Prod.fst ∧ mask.beyond privileges.bits = 0 ∧
        name ∉ before.map Prod.fst := by
  rw [← not_exists]
  simp only [ofGrant_iff, exists_or, exists_and_left, exists_eq, and_true]
  tauto

theorem inGrants_eq_some_iff (hseen : ∀ name, name ∈ seen ↔ name ∈ before.map Prod.fst) :
    inGrants privileges seen table = some defect ↔
      AtFirst (OfGrant privileges) before table defect := by
  induction table generalizing seen before with
  | nil =>
      simp [inGrants, AtFirst]
  | cons entry table ih =>
      obtain ⟨name, mask⟩ := entry
      have hname : (privileges.mask? name).isNone = true ↔ name ∉ privileges.map Prod.fst := by
        rw [← Table.mask?_isSome_iff]
        simp
      rw [atFirst_cons_iff, ← ih (mem_seen_iff hseen), forall_not_ofGrant_iff, ofGrant_iff]
      simp only [inGrants, ← hseen, hname]
      grind

theorem first?_eq_some_iff :
    first? privileges grants = some defect ↔ First privileges grants defect := by
  have hprivilege : ∀ found, inPrivileges [] privileges = some found ↔
      AtFirst OfPrivilege [] privileges found := fun _ => inPrivileges_eq_some_iff (by simp)
  have hgrant : inGrants privileges [] grants = some defect ↔
      AtFirst (OfGrant privileges) [] grants defect := inGrants_eq_some_iff (by simp)
  have hsound : inPrivileges [] privileges = none ↔
      ∀ found, ¬ AtFirst OfPrivilege [] privileges found := by
    simp only [← hprivilege, Option.eq_none_iff_forall_ne_some, ne_eq]
  unfold first?
  constructor
  · intro h
    split at h
    · next hempty =>
        cases h
        exact .empty (List.isEmpty_iff.1 hempty)
    · next hne =>
        rcases Option.or_eq_some_iff.1 h with h | ⟨hprivileges, h⟩
        · exact .privilege ((hprivilege defect).1 h)
        · exact .grant (mt List.isEmpty_iff.2 hne) (hsound.1 hprivileges) (hgrant.1 h)
  · intro h
    cases h with
    | empty hempty =>
        simp [hempty]
    | privilege h =>
        have hfound := (hprivilege defect).2 h
        have hne : privileges ≠ [] := by
          rintro rfl
          simp [inPrivileges] at hfound
        simp [hne, hfound]
    | grant hne hprivileges h =>
        simp [hne, hsound.2 hprivileges, hgrant.2 h]

end

end Defect

namespace Registry

section

variable {privileges grants : Table} {registry : Registry} {error : Error}

theorem ofTables_eq_ok_iff :
    ofTables privileges grants = .ok registry ↔
      registry.privileges = privileges ∧ registry.grants = grants := by
  rw [ofTables, Outcome.mapError_eq_ok_iff, check_eq_ok_iff]

theorem ofTables_eq_error_iff :
    ofTables privileges grants = .error error ↔
      ∃ defect, error = .inconsistentRegistry defect ∧ Defect.First privileges grants defect := by
  simp only [ofTables, Outcome.mapError_eq_error_iff, check_eq_error_iff,
    Defect.first?_eq_some_iff]
  grind

theorem exists_ofTables_iff :
    (∃ registry, ofTables privileges grants = .ok registry) ↔
      Table.Consistent privileges grants := by
  rw [Table.consistent_iff]
  constructor
  · rintro ⟨registry, h⟩
    obtain ⟨rfl, rfl⟩ := ofTables_eq_ok_iff.1 h
    exact registry.sound
  · intro hsound
    exact ⟨⟨privileges, grants, hsound⟩, ofTables_eq_ok_iff.2 ⟨rfl, rfl⟩⟩

end

/--
Two tables make a registry exactly if they are consistent. The registry keeps them in their
order, has the bits of the privileges and finds every listed name with its mask. Other tables
are refused for the first defect of their first entry that has one, with a message that
determines the entry and the check.
-/
theorem ofTables_consistent (privileges grants : Table) :
    ((∃ registry, ofTables privileges grants = .ok registry) ↔
      Table.Consistent privileges grants) ∧
    (∀ registry, ofTables privileges grants = .ok registry →
      registry.privileges = privileges ∧ registry.grants = grants ∧
      (∀ i, registry.max.HasBit i ↔ ∃ entry ∈ privileges, entry.2.HasBit i) ∧
      (∀ entry ∈ privileges, registry.privilege? entry.1 = some entry.2) ∧
      ∀ entry ∈ grants, registry.grantMask? entry.1 = some entry.2) ∧
    (∀ error, ofTables privileges grants = .error error ↔
      ∃ defect, error = .inconsistentRegistry defect ∧
        Defect.First privileges grants defect) ∧
    ∀ defect found, (Error.inconsistentRegistry defect).message =
      (Error.inconsistentRegistry found).message → defect = found := by
  refine ⟨exists_ofTables_iff, ?_, fun _ => ofTables_eq_error_iff,
    fun _ _ => Error.inconsistentRegistry_message_inj⟩
  intro registry h
  obtain ⟨rfl, rfl⟩ := ofTables_eq_ok_iff.1 h
  exact ⟨rfl, rfl, fun _ => Table.hasBit_bits_iff, fun _ => privilege?_of_mem,
    fun _ => grantMask?_of_mem⟩

/-- A privilege is numeric before it is zero, and a grant is stray before it is repeated. -/
theorem ofTables_consistent_writer :
    let privileges : Table := [("read", 1), ("write", 6)]
    let grants : Table := [("write", 3)]
    Table.Consistent privileges grants ∧
      (∃ registry, ofTables privileges grants = .ok registry ∧
        registry.privilege? "write" = some 6 ∧ registry.grantMask? "write" = some 3) ∧
      Defect.First [("read", 1), ("-12", 0)] grants (.numericName "-12") ∧
      Defect.First privileges [("write", 3), ("write", 8)] (.strayGrant "write" 8) := by
  intro privileges grants
  have hmade : ofTables privileges grants = .ok ⟨privileges, grants, by decide +kernel⟩ :=
    ofTables_eq_ok_iff.2 ⟨rfl, rfl⟩
  have hnumeric : ofTables [("read", 1), ("-12", 0)] grants =
      .error (.inconsistentRegistry (.numericName "-12")) :=
    Outcome.mapError_eq_error_iff.2 ⟨_, check_eq_error_iff.2 (by decide +kernel), rfl⟩
  have hstray : ofTables privileges [("write", 3), ("write", 8)] =
      .error (.inconsistentRegistry (.strayGrant "write" 8)) :=
    Outcome.mapError_eq_error_iff.2 ⟨_, check_eq_error_iff.2 (by decide +kernel), rfl⟩
  obtain ⟨hconsistent, hfound, -⟩ := ofTables_consistent privileges grants
  obtain ⟨-, -, -, hprivilege, hgrant⟩ := hfound _ hmade
  obtain ⟨-, -, herror, -⟩ := ofTables_consistent [("read", 1), ("-12", 0)] grants
  obtain ⟨_, ⟨⟩, hfirst⟩ := (herror _).1 hnumeric
  obtain ⟨-, -, herror, -⟩ := ofTables_consistent privileges [("write", 3), ("write", 8)]
  obtain ⟨_, ⟨⟩, hsecond⟩ := (herror _).1 hstray
  exact ⟨hconsistent.1 ⟨_, hmade⟩,
    ⟨_, hmade, hprivilege ("write", 6) (by simp [privileges]),
      hgrant ("write", 3) (by simp [grants])⟩, hfirst, hsecond⟩

end Registry

end Entitlements
