import Mathlib.Data.List.Nodup
import Entitlements.Proofs.PermissionSet.Coverage

/-!
# Listed members

A set that allows requests can list the members that cover them. The listing has no
member to spare and lacks none: each member in it holds a bit of some request, and
together they allow what the set does. It is put together from the listings for the
single requests.
-/

namespace Entitlements.PermissionSet

/-- The members listed for the requests. -/
def Lists [SizeLimit] (set : PermissionSet) (requested : List Argument) (listed : List Member) :
    Prop :=
  (set.allowedBy requested).answer = .ok (some listed)

def atNewPositions (entries : List Member) : List Member :=
  entries.eraseDupsBy fun later earlier => later.1 == earlier.1

section

variable {set : PermissionSet} {request : Permission} {requests : List Permission}
  {member other : Member} {listed entries result : List Member} {requested : List Argument}
  {identifier : String} {mask : Mask}

/-! ## Members with their positions -/

theorem mem_members_iff : member ∈ set.members ↔ set.permissions[member.1]? = some member.2 := by
  obtain ⟨position, permission⟩ := member
  simp [members, List.mem_zipIdx_iff_getElem?]

theorem map_snd_members (set : PermissionSet) : set.members.map Prod.snd = set.permissions := by
  simp [members, Function.comp_def]

theorem nodup_members (set : PermissionSet) : (set.members.map Prod.fst).Nodup := by
  have hpositions : set.members.map Prod.fst = List.range set.permissions.length := by
    simp [members, Function.comp_def, List.zipIdx_map_snd, List.range_eq_range']
  rw [hpositions]
  exact List.nodup_range

theorem eq_of_position_eq (hmember : member ∈ set.members) (hother : other ∈ set.members)
    (h : member.1 = other.1) : member = other := by
  rw [mem_members_iff] at hmember hother
  rw [h, hother, Option.some.injEq] at hmember
  exact Prod.ext h hmember.symm

/-! ## The members that cover one request -/

theorem clearing_sublist : (clearing identifier mask entries).Sublist entries := by
  induction entries generalizing mask with
  | nil =>
      exact .refl _
  | cons member entries ih =>
      rw [clearing]
      split
      · exact List.nil_sublist _
      · split
        · exact ih.cons_cons member
        · exact ih.cons member

/-- A member is taken for a bit that was left when its turn came. -/
theorem shared_of_mem_clearing (h : member ∈ clearing identifier mask entries) :
    member.2.matchesIdentifier identifier = true ∧
      ∃ i, mask.HasBit i ∧ member.2.privileges.HasBit i := by
  induction entries generalizing mask with
  | nil =>
      simp [clearing] at h
  | cons first entries ih =>
      rw [clearing] at h
      split at h
      · simp at h
      · split at h
        · next hclears =>
            rw [Bool.and_eq_true, bne_iff_ne] at hclears
            rcases List.mem_cons.1 h with rfl | hlater
            · obtain ⟨i, hi⟩ := Mask.ne_zero_iff.1 hclears.2
              exact ⟨hclears.1, i, Mask.hasBit_and_iff.1 hi⟩
            · obtain ⟨hmatch, i, hi, hheld⟩ := ih hlater
              exact ⟨hmatch, i, (Mask.hasBit_beyond_iff.1 hi).1, hheld⟩
        · exact ih h

theorem remaining_clearing :
    remaining identifier mask ((clearing identifier mask entries).map Prod.snd) =
      remaining identifier mask (entries.map Prod.snd) := by
  induction entries generalizing mask with
  | nil =>
      rfl
  | cons member entries ih =>
      rw [List.map_cons, remaining, clearing]
      split
      · next hnone =>
          rw [hnone, List.map_nil, remaining_zero]
      · split
        · next hclears =>
            rw [List.map_cons, remaining_cons, if_pos (Bool.and_eq_true_iff.1 hclears).1]
            exact ih
        · exact ih

theorem contributors_sublist : (set.contributors request).Sublist set.members :=
  clearing_sublist

theorem remaining_eq_zero_iff {permissions : List Permission} :
    remaining identifier mask permissions = 0 ↔
      ∀ i, mask.HasBit i → ∃ held ∈ permissions,
        held.matchesIdentifier identifier = true ∧ held.privileges.HasBit i := by
  have hleft : ¬ remaining identifier mask permissions = 0 ↔
      ∃ i, mask.HasBit i ∧ ∀ held ∈ permissions,
        held.matchesIdentifier identifier = true → ¬ held.privileges.HasBit i := by
    rw [← ne_eq, Mask.ne_zero_iff]
    simp only [hasBit_remaining_iff]
  rw [← not_iff_not, hleft]
  simp

theorem uncovered_of_contributors {holder : PermissionSet}
    (hsub : ∀ member ∈ set.contributors request, member.2 ∈ holder.permissions)
    (h : set.uncovered request = 0) : holder.uncovered request = 0 := by
  have htaken : remaining request.identifier request.privileges
      ((set.contributors request).map Prod.snd) = 0 := by
    rw [contributors, remaining_clearing, map_snd_members]
    exact h
  rw [uncovered, remaining_eq_zero_iff]
  intro i hi
  obtain ⟨held, hheld, hcovers⟩ := remaining_eq_zero_iff.1 htaken i hi
  obtain ⟨member, hmember, rfl⟩ := List.mem_map.1 hheld
  exact ⟨member.2, hsub member hmember, hcovers⟩

/-! ## Repeats -/

theorem atNewPositions_cons :
    atNewPositions (member :: entries) =
      member :: atNewPositions (entries.filter fun later => later.1 != member.1) := by
  rw [atNewPositions, List.eraseDupsBy_cons]
  congr 3
  funext later
  simp [bne, beq_eq_decide]

/-- Members are added to a listing as if it had been taken out of them first. -/
theorem addNew_eq :
    addNew listed entries =
      listed ++ atNewPositions
        (entries.filter fun later => !listed.any fun seen => seen.1 == later.1) := by
  induction entries generalizing listed with
  | nil =>
      simp [addNew, atNewPositions]
  | cons member entries ih =>
      rw [addNew]
      split
      · next hseen =>
          simp [ih, hseen]
      · next hnew =>
          have hkept : (!listed.any fun seen => seen.1 == member.1) = true := by
            rw [Bool.eq_false_iff.2 hnew, Bool.not_false]
          -- the grown listing keeps out what was kept out before and the member itself
          have hlater : ∀ later : Member,
              (!(listed ++ [member]).any fun seen => seen.1 == later.1) =
                ((later.1 != member.1) && !listed.any fun seen => seen.1 == later.1) := by
            intro later
            rw [List.any_append, Bool.not_or, Bool.and_comm]
            simp [bne, beq_eq_decide, eq_comm]
          rw [List.filter_cons, if_pos hkept, atNewPositions_cons, ih, List.filter_filter,
            List.append_assoc]
          simp only [hlater]
          rfl

theorem addNew_nil_eq (entries : List Member) : addNew [] entries = atNewPositions entries := by
  simp [addNew_eq]

theorem addNew_append (first second : List Member) :
    addNew listed (first ++ second) = addNew (addNew listed first) second := by
  induction first generalizing listed with
  | nil =>
      rfl
  | cons member first ih =>
      rw [List.cons_append, addNew, addNew]
      split
      · exact ih
      · exact ih

theorem nodup_addNew (h : (listed.map Prod.fst).Nodup) :
    ((addNew listed entries).map Prod.fst).Nodup := by
  induction entries generalizing listed with
  | nil =>
      exact h
  | cons member entries ih =>
      rw [addNew]
      split
      · exact ih h
      · next hnew =>
          apply ih
          have hfresh : member.1 ∉ listed.map Prod.fst := by
            intro hmem
            obtain ⟨seen, hseen, hposition⟩ := List.mem_map.1 hmem
            exact hnew (List.any_eq_true.2 ⟨seen, hseen, beq_iff_eq.2 hposition⟩)
          rw [List.map_append, List.map_singleton, ← List.concat_eq_append]
          exact List.Nodup.concat hfresh h

theorem mem_addNew_iff (hlisted : ∀ seen ∈ listed, seen ∈ set.members)
    (hentries : ∀ entry ∈ entries, entry ∈ set.members) :
    member ∈ addNew listed entries ↔ member ∈ listed ∨ member ∈ entries := by
  induction entries generalizing listed with
  | nil =>
      simp [addNew]
  | cons first entries ih =>
      rw [List.forall_mem_cons] at hentries
      rw [addNew]
      split
      · next hseen =>
          -- a repeat is dropped by its position, which in one set is the member itself
          obtain ⟨seen, hmem, hposition⟩ := List.any_eq_true.1 hseen
          have hsame : seen = first :=
            eq_of_position_eq (hlisted seen hmem) hentries.1 (beq_iff_eq.1 hposition)
          rw [ih hlisted hentries.2]
          grind
      · have hmore : ∀ seen ∈ listed ++ [first], seen ∈ set.members := by
          rw [List.forall_mem_append, List.forall_mem_singleton]
          exact ⟨hlisted, hentries.1⟩
        rw [ih hmore hentries.2]
        grind

theorem atNewPositions_of_nodup (h : (entries.map Prod.fst).Nodup) :
    atNewPositions entries = entries := by
  induction entries with
  | nil =>
      rfl
  | cons member entries ih =>
      rw [List.map_cons, List.nodup_cons] at h
      have hkept : (entries.filter fun later => later.1 != member.1) = entries := by
        rw [List.filter_eq_self]
        intro later hlater
        rw [bne_iff_ne]
        intro hposition
        exact h.1 (hposition ▸ List.mem_map_of_mem hlater)
      rw [atNewPositions_cons, hkept, ih h.2]

/-! ## Listings -/

/-- A set lists members for the requests that it allows, and goes through the same checks. -/
theorem coveredBy_map_isSome :
    Option.isSome <$> set.coveredBy listed requests = set.coversAll requests := by
  induction requests generalizing listed with
  | nil =>
      rfl
  | cons request requests ih =>
      rw [coveredBy, coversAll]
      split
      · rw [← ih]
        rfl
      · rfl

theorem coveredBy_answer_iff :
    (set.coveredBy listed requests).answer = some result ↔
      (∀ request ∈ requests, set.uncovered request = 0) ∧
        result = addNew listed (requests.flatMap set.contributors) := by
  induction requests generalizing listed with
  | nil =>
      simp [coveredBy, addNew, eq_comm]
  | cons request requests ih =>
      rw [coveredBy, List.forall_mem_cons, List.flatMap_cons, addNew_append]
      by_cases hcovered : set.uncovered request = 0
      · simp [hcovered, ih]
      · simp [hcovered]

theorem lists_iff [SizeLimit] :
    set.Lists requested listed ↔
      ∃ known, Argument.resolveAll set.registry requested = .ok known ∧
        (∀ request ∈ known, set.uncovered request = 0) ∧
          listed = atNewPositions (known.flatMap set.contributors) := by
  simp only [← addNew_nil_eq, ← coveredBy_answer_iff]
  exact Argument.decisionAll_iff

/-! ## What a listing holds -/

theorem mem_atNewPositions_iff (h : ∀ entry ∈ entries, entry ∈ set.members) :
    member ∈ atNewPositions entries ↔ member ∈ entries := by
  rw [← addNew_nil_eq, mem_addNew_iff (by simp) h]
  simp

theorem mem_members_of_mem_contributors :
    ∀ member ∈ requests.flatMap set.contributors, member ∈ set.members := by
  intro member hmember
  obtain ⟨request, -, hcontributor⟩ := List.mem_flatMap.1 hmember
  exact contributors_sublist.subset hcontributor

theorem mem_listed_iff :
    member ∈ atNewPositions (requests.flatMap set.contributors) ↔
      ∃ request ∈ requests, member ∈ set.contributors request := by
  rw [mem_atNewPositions_iff mem_members_of_mem_contributors, List.mem_flatMap]

theorem lists_singleton [SizeLimit] {argument : Argument}
    (hrequest : argument.resolve set.registry = .ok request) (h : set.uncovered request = 0) :
    set.Lists [argument] (set.contributors request) := by
  have hknown : Argument.resolveAll set.registry [argument] = .ok [request] :=
    Outcome.mapM_eq_ok_iff.2 (.cons hrequest .nil)
  have hdistinct : ((set.contributors request).map Prod.fst).Nodup :=
    (nodup_members set).sublist (contributors_sublist.map Prod.fst)
  refine lists_iff.2 ⟨[request], hknown, by simpa using h, ?_⟩
  rw [List.flatMap_singleton, atNewPositions_of_nodup hdistinct]

theorem exists_listings [SizeLimit] {known : List Permission}
    (hknown : Argument.resolveAll set.registry requested = .ok known)
    (h : ∀ request ∈ known, set.uncovered request = 0) :
    List.Forall₂ (fun argument listing =>
        set.Lists [argument] listing ∧ listing.Sublist set.members)
      requested (known.map set.contributors) := by
  have hpairs := Outcome.mapM_eq_ok_iff.1 hknown
  clear hknown
  induction hpairs with
  | nil =>
      exact .nil
  | cons hrequest _ ih =>
      rw [List.forall_mem_cons] at h
      exact .cons ⟨lists_singleton hrequest h.1, contributors_sublist⟩ (ih h.2)

end

/--
Listing the members that cover requests fails, reports and succeeds as allowing them does.
Then no position is listed twice, each member that is listed matches a request and has a bit
of it, and the members that are listed allow the requests by themselves. They are those that
are listed for the requests one by one, each time in the order of the set, less repeats.
-/
theorem allowedBy_listed [SizeLimit] (set : PermissionSet) (requested : List Argument) :
    Option.isSome <$> set.allowedBy requested = set.allows requested ∧
    ∀ listed, set.Lists requested listed →
      (listed.map Prod.fst).Nodup ∧
      (∀ member ∈ listed, set.permissions[member.1]? = some member.2) ∧
      (∃ known, Argument.resolveAll set.registry requested = .ok known ∧
        ∀ member ∈ listed, ∃ request ∈ known,
          member.2.matchesIdentifier request.identifier = true ∧
            request.privileges &&& member.2.privileges ≠ 0) ∧
      PermissionSet.Allows { permissions := listed.map Prod.snd, registry := set.registry }
        requested ∧
      ∃ listings, List.Forall₂ (fun argument listing =>
          set.Lists [argument] listing ∧ listing.Sublist set.members) requested listings ∧
        listed = atNewPositions listings.flatten := by
  constructor
  · rw [allowedBy, allows]
    cases Argument.resolveAll set.registry requested with
    | error e =>
        simp
    | ok known =>
        simp [coveredBy_map_isSome]
  · intro listed h
    obtain ⟨known, hknown, hcovered, rfl⟩ := lists_iff.1 h
    refine ⟨?_, ?_, ⟨known, hknown, ?_⟩, ?_, known.map set.contributors,
      exists_listings hknown hcovered, ?_⟩
    · rw [← addNew_nil_eq]
      exact nodup_addNew (by simp)
    · intro member hmember
      obtain ⟨request, -, hcontributor⟩ := mem_listed_iff.1 hmember
      exact mem_members_iff.1 (contributors_sublist.subset hcontributor)
    · intro member hmember
      obtain ⟨request, hrequest, hcontributor⟩ := mem_listed_iff.1 hmember
      obtain ⟨hmatch, i, hshared⟩ := shared_of_mem_clearing hcontributor
      exact ⟨request, hrequest, hmatch,
        Mask.ne_zero_iff.2 ⟨i, Mask.hasBit_and_iff.2 hshared⟩⟩
    · refine allows_iff.2 ⟨known, hknown, ?_⟩
      intro request hrequest
      refine uncovered_of_contributors ?_ (hcovered request hrequest)
      intro member hmember
      exact List.mem_map_of_mem (mem_listed_iff.2 ⟨request, hrequest, hmember⟩)
    · rw [List.flatMap_def]

/-- Both requests take the first member that matches, which is listed once. -/
theorem allowedBy_listed_deleter :
    let article := Permission.onRegistry .standard "article/*"
    let user := Permission.onRegistry .standard "user" 1
    let set : PermissionSet :=
      { permissions := [user, article 1, article 4, article 15], registry := .standard }
    let reads := Permission.onRegistry .standard "article/1" 1
    let deletes := Permission.onRegistry .standard "article/2" 9
    ∃ listed, set.Lists ([reads, deletes].map .built) listed ∧ listed.map Prod.fst = [1, 3] ∧
      PermissionSet.Allows { permissions := listed.map Prod.snd, registry := .standard }
        ([reads, deletes].map .built) ∧
      ∃ listings, List.Forall₂ (fun argument listing =>
          set.Lists [argument] listing ∧ listing.Sublist set.members)
        ([reads, deletes].map .built) listings ∧ listed = atNewPositions listings.flatten := by
  intro article user set reads deletes
  have hlists : set.Lists ([reads, deletes].map .built)
      (atNewPositions ([reads, deletes].flatMap set.contributors)) :=
    lists_iff.2 ⟨_, Argument.resolveAll_built _, by decide +kernel, rfl⟩
  have hpositions : (atNewPositions ([reads, deletes].flatMap set.contributors)).map Prod.fst =
      [1, 3] := by
    decide +kernel
  obtain ⟨-, hlisted⟩ := allowedBy_listed set ([reads, deletes].map .built)
  obtain ⟨-, -, -, hallows, hlistings⟩ := hlisted _ hlists
  exact ⟨_, hlists, hpositions, hallows, hlistings⟩

end Entitlements.PermissionSet
