import Entitlements.Pattern.RunLimit
import Entitlements.Proofs.Permission.Arguments
import Entitlements.Proofs.Permission.WellFormed

/-!
# Coverage by a set

A set covers a request exactly if its members that match hold all of the requested
bits between them. A single permission covers some requests that it does not hold all
bits of, and for those it takes other members.
-/

namespace Entitlements.PermissionSet

/-- Every bit that some member holds over the identifier. -/
def held (set : PermissionSet) (identifier : String) : Mask :=
  Mask.union
    ((set.permissions.filter fun member => member.matchesIdentifier identifier).map
      Permission.privileges)

section

variable {set : PermissionSet} {member request : Permission} {members : List Permission}
  {identifier : String} {mask : Mask} {i : Nat}

theorem hasBit_held_iff :
    (set.held identifier).HasBit i ↔
      ∃ member ∈ set.permissions,
        member.matchesIdentifier identifier = true ∧ member.privileges.HasBit i := by
  simp [held, Mask.hasBit_union_iff, and_assoc]

theorem remaining_zero : remaining identifier 0 members = 0 := by
  cases members with
  | nil =>
      rfl
  | cons member members =>
      simp [remaining]

theorem remaining_cons :
    remaining identifier mask (member :: members) =
      if member.matchesIdentifier identifier then
        remaining identifier (mask.beyond member.privileges) members
      else remaining identifier mask members := by
  rw [remaining]
  by_cases hnone : mask = 0
  · simp [hnone, remaining_zero]
  · cases hmatch : member.matchesIdentifier identifier with
    | false =>
        simp [hnone]
    | true =>
        by_cases hshared : mask &&& member.privileges = 0
        · simp [hnone, hshared, Mask.beyond_eq_self hshared]
        · simp [hnone, hshared]

/-- What is left are the bits that no matching member holds, in whatever order they clear theirs. -/
theorem hasBit_remaining_iff :
    (remaining identifier mask members).HasBit i ↔
      mask.HasBit i ∧ ∀ member ∈ members,
        member.matchesIdentifier identifier = true → ¬ member.privileges.HasBit i := by
  induction members generalizing mask with
  | nil =>
      simp [remaining]
  | cons member members ih =>
      rw [List.forall_mem_cons, remaining_cons]
      cases hmatch : member.matchesIdentifier identifier with
      | true =>
          simp [ih, Mask.hasBit_beyond_iff, and_assoc]
      | false =>
          simp [ih]

theorem uncovered_eq_beyond_held :
    set.uncovered request = request.privileges.beyond (set.held request.identifier) := by
  apply Mask.eq_of_hasBit_iff
  intro i
  rw [uncovered, hasBit_remaining_iff, Mask.hasBit_beyond_iff, hasBit_held_iff]
  simp

theorem privileges_beyond_held (hmember : member ∈ set.permissions)
    (hmatch : member.matchesIdentifier identifier = true) :
    member.privileges.beyond (set.held identifier) = 0 := by
  rw [Mask.beyond_eq_zero_iff]
  intro i hi
  exact hasBit_held_iff.2 ⟨member, hmember, hmatch, hi⟩

theorem held_congr {other : PermissionSet}
    (h : ∀ member, member ∈ other.permissions ↔ member ∈ set.permissions) :
    other.held identifier = set.held identifier := by
  apply Mask.eq_of_hasBit_iff
  intro i
  simp only [hasBit_held_iff, h]

theorem coversAll_answer_congr {other : PermissionSet} {requested more : List Permission}
    (hmembers : ∀ member, member ∈ other.permissions ↔ member ∈ set.permissions)
    (hrequests : ∀ request, request ∈ more ↔ request ∈ requested) :
    (other.coversAll more).answer = (set.coversAll requested).answer := by
  rw [Bool.eq_iff_iff, coversAll_answer_iff, coversAll_answer_iff]
  simp only [uncovered_eq_beyond_held, held_congr hmembers, hrequests]

theorem uncovered_eq_zero_iff_of_member (hmember : member ∈ set.permissions)
    (hmatch : member.matchesIdentifier request.identifier = true) :
    set.uncovered request = 0 ↔
      (request.privileges.beyond member.privileges).beyond (set.held request.identifier) = 0 := by
  have hheld := Mask.beyond_eq_zero_iff.1 (privileges_beyond_held hmember hmatch)
  rw [uncovered_eq_beyond_held, Mask.beyond_eq_zero_iff, Mask.beyond_eq_zero_iff]
  constructor
  · intro h i hi
    exact h i (Mask.hasBit_beyond_iff.1 hi).1
  · intro h i hi
    by_cases hown : member.privileges.HasBit i
    · exact hheld i hown
    · exact h i (Mask.hasBit_beyond_iff.2 ⟨hi, hown⟩)

end

/--
A set allows requests exactly if it holds every bit of each over its identifier. So
neither order nor repetition counts, among members or among requests, and a request
may be made in parts.
-/
theorem allows_iff_within_held [SizeLimit] (set : PermissionSet) (requested : List Permission) :
    (set.Allows (requested.map .built) ↔
      ∀ request ∈ requested, request.privileges.beyond (set.held request.identifier) = 0) ∧
    (∀ (other : PermissionSet) (more : List Permission),
      (∀ member, member ∈ other.permissions ↔ member ∈ set.permissions) →
      (∀ request, request ∈ more ↔ request ∈ requested) →
        (other.allows (more.map .built)).answer = (set.allows (requested.map .built)).answer) ∧
    ∀ whole first second : Permission,
      first.identifier = whole.identifier → second.identifier = whole.identifier →
      whole.privileges = first.privileges ||| second.privileges →
        (set.Allows [.built whole] ↔ set.Allows [.built first] ∧ set.Allows [.built second]) := by
  have hunion : ∀ requests : List Permission, set.Allows (requests.map .built) ↔
      ∀ request ∈ requests, request.privileges.beyond (set.held request.identifier) = 0 := by
    intro requests
    rw [allows_built_iff]
    simp only [uncovered_eq_beyond_held]
  refine ⟨hunion requested, ?_, ?_⟩
  · intro other more hmembers hrequests
    unfold allows
    rw [Argument.resolveAll_built, Argument.resolveAll_built]
    exact congrArg Except.ok (coversAll_answer_congr hmembers hrequests)
  · intro whole first second hfirst hsecond hprivileges
    have hwhole := hunion [whole]
    have hparts := and_congr (hunion [first]) (hunion [second])
    simp only [List.map_cons, List.map_nil, List.forall_mem_singleton] at hwhole hparts
    rw [hwhole, hparts, hfirst, hsecond, hprivileges, Mask.or_beyond_eq_zero_iff]

/-- Members with gaps fill each other's; the one that does not match adds nothing. -/
theorem allows_iff_within_held_gaps :
    let members := [Permission.onRegistry .standard "article/*" 5,
      Permission.onRegistry .standard "album/**" 8, Permission.onRegistry .standard "**" 18]
    let set : PermissionSet := { permissions := members, registry := .standard }
    let shuffled : PermissionSet :=
      { permissions := members.reverse ++ members, registry := .standard }
    let request := Permission.onRegistry .standard "article/1"
    set.Allows [.built (request 7)] ∧ ¬ set.Allows [.built (request 15)] ∧
      (shuffled.allows [.built (request 15), .built (request 15)]).answer =
        (set.allows [.built (request 15)]).answer ∧
      set.Allows [.built (request 6)] ∧ set.Allows [.built (request 3)] := by
  intro members set shuffled request
  obtain ⟨hwithin, -, hparts⟩ := allows_iff_within_held set [request 7]
  obtain ⟨hbeyond, hsame, -⟩ := allows_iff_within_held set [request 15]
  have hallowed : set.Allows [.built (request 7)] := hwithin.2 (by decide +kernel)
  have hrefused : ¬ set.Allows [.built (request 15)] := by
    intro hallows
    exact absurd (hbeyond.1 hallows) (by decide +kernel)
  have hmembers : ∀ member, member ∈ shuffled.permissions ↔ member ∈ set.permissions := by
    simp [shuffled, set]
  have hshuffled := hsame shuffled [request 15, request 15] hmembers (by simp)
  have hsplit := (hparts (request 7) (request 6) (request 3) rfl rfl (by decide)).1 hallowed
  exact ⟨hallowed, hrefused, hshuffled, hsplit⟩

/--
What a member allows, its set allows exactly if other members hold the requested bits
that the member lacks. It lacks none if the requests are subsets of its mask, which
they are for a mask of a single bit or of every bit up to some width.
-/
theorem allows_of_member_allows [SizeLimit] {set : PermissionSet} {member : Permission}
    {requested : List Permission} (hmember : member ∈ set.permissions)
    (h : member.allows (requested.map .built) = pure true) :
    (set.Allows (requested.map .built) ↔
      ∀ request ∈ requested,
        (request.privileges.beyond member.privileges).beyond (set.held request.identifier) = 0) ∧
    ((∀ request ∈ requested, request.privileges.beyond member.privileges = 0) →
      set.Allows (requested.map .built)) ∧
    ((∃ t, member.privileges.toNat = 2 ^ t) ∨ (∃ k, member.privileges.toNat = 2 ^ k - 1) →
      set.Allows (requested.map .built)) := by
  have hrequests : ∀ request ∈ requested,
      member.matchesIdentifier request.identifier = true ∧
        Mask.covers member.privileges request.privileges = true := by
    intro request hrequest
    exact Bool.and_eq_true_iff.1 (Permission.allows_built_iff.1 h request hrequest)
  have hset : set.Allows (requested.map .built) ↔ ∀ request ∈ requested,
      (request.privileges.beyond member.privileges).beyond (set.held request.identifier) = 0 := by
    rw [allows_built_iff]
    exact forall₂_congr fun request hrequest =>
      uncovered_eq_zero_iff_of_member hmember (hrequests request hrequest).1
  have hsubsets : (∀ request ∈ requested, request.privileges.beyond member.privileges = 0) →
      set.Allows (requested.map .built) := by
    intro hwithin
    refine hset.2 fun request hrequest => ?_
    rw [hwithin request hrequest]
    exact Mask.zero_beyond
  refine ⟨hset, hsubsets, fun hshape => hsubsets fun request hrequest => ?_⟩
  have hcovers := (hrequests request hrequest).2
  rcases hshape with ⟨t, hsingle⟩ | ⟨k, hfull⟩
  · exact Mask.beyond_eq_zero_of_single hsingle hcovers
  · exact Mask.beyond_eq_zero_of_full hfull (Mask.toNat_le_of_covers hcovers)

theorem allows_of_member_allows_creator :
    let updater := Permission.onRegistry .standard "article/*" 5
    let creator := Permission.onRegistry .standard "article/**" 2
    let request := Permission.onRegistry .standard "article/1" 3
    let set : PermissionSet := { permissions := [updater, creator], registry := .standard }
    updater.allows ([request].map .built) = pure true ∧
      request.privileges.beyond updater.privileges ≠ 0 ∧ set.Allows ([request].map .built) := by
  intro updater creator request set
  have hmember : updater ∈ set.permissions := List.mem_cons_self
  have hallows : updater.allows ([request].map .built) = pure true :=
    Permission.allows_built_iff.2 (by decide +kernel)
  obtain ⟨hset, -, -⟩ := allows_of_member_allows hmember hallows
  exact ⟨hallows, by decide +kernel, hset.2 (by decide +kernel)⟩

/-- A request for the bit between two that the only member holds is allowed by that member alone. -/
theorem not_allows_of_member_allows :
    ¬ ∀ (set : PermissionSet) (member : Permission) (requested : List Permission),
      (∀ permission ∈ set.permissions, permission.WellFormed) →
      (∀ request ∈ requested, request.WellFormed) → member ∈ set.permissions →
      member.allows (requested.map .built) = pure true → set.Allows (requested.map .built) := by
  intro hset
  have hmember : (Permission.onRegistry .standard "article" 5).WellFormed :=
    Permission.wellFormed_onRegistry (by decide +kernel)
  have hrequest : (Permission.onRegistry .standard "article" 3).WellFormed :=
    Permission.wellFormed_onRegistry (by decide +kernel)
  have hallows : (Permission.onRegistry .standard "article" 5).allows
      ([Permission.onRegistry .standard "article" 3].map .built) = pure true :=
    Permission.allows_built_iff.2 (by decide +kernel)
  have hcovered := hset
    { permissions := [Permission.onRegistry .standard "article" 5], registry := .standard } _ _
    (by simpa using hmember) (by simpa using hrequest) List.mem_cons_self hallows
  exact absurd (allows_built_iff.1 hcovered) (by decide +kernel)

end Entitlements.PermissionSet
