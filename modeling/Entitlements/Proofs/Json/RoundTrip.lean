import Entitlements.Json.Reader
import Entitlements.Proofs.Json.Spelling

/-!
# Reading what was written

The tokens of a value are read as that value in any context. So the compact text of a
value is read back as the value, and soundly, if its numbers are integers and it does not
nest too deeply.
-/

namespace Entitlements.Json

/-! ## Values in a context -/

/-- In every context the tokens of the value are read as the value. -/
def Read (value : Json) : Prop :=
  ∀ stack rest, readValue stack (value.tokens ++ rest) = readAfter value stack rest

section

variable {items before : List Json} {members earlier : List (String × Json)}
  {stack : List Frame} {rest : List Token} {room : Nat} {value : Json}

/-- The rest of an array; only an array without items may close where an item would begin. -/
theorem readValue_items (h : ∀ item ∈ items, Read item) (hopen : items = [] → before = []) :
    readValue (.array before :: stack)
        ([Token.comma].intercalate (itemTokens items) ++ .closeArray :: rest) =
      readAfter (.array (before.reverse ++ items)) stack rest := by
  induction items generalizing before with
  | nil =>
      rw [hopen rfl]
      rfl
  | cons item items ih =>
      rw [List.forall_mem_cons] at h
      obtain ⟨hitem, hitems⟩ := h
      cases items with
      | nil =>
          have hlast := hitem (.array before :: stack) (.closeArray :: rest)
          simpa [itemTokens, readAfter] using hlast
      | cons next items =>
          -- The comma puts the item in front of those before it, as they are kept backwards.
          have hlater : readValue (.array (item :: before) :: stack)
                ([Token.comma].intercalate (itemTokens (next :: items)) ++ .closeArray :: rest) =
              readAfter (.array ((item :: before).reverse ++ next :: items)) stack rest :=
            ih hitems (by simp)
          have hnext := hitem (.array before :: stack)
            (.comma :: [Token.comma].intercalate (itemTokens (next :: items)) ++
              .closeArray :: rest)
          rw [List.cons_append, readAfter, hlater] at hnext
          simpa [itemTokens] using hnext

theorem readKey_members (h : ∀ member ∈ members, Read member.2)
    (hopen : members = [] → earlier = []) :
    readKey (some earlier) stack
        ([Token.comma].intercalate (memberTokens members) ++ .closeObject :: rest) =
      readAfter (.object (earlier.reverse ++ members)) stack rest := by
  induction members generalizing earlier with
  | nil =>
      rw [hopen rfl]
      rfl
  | cons member members ih =>
      rw [List.forall_mem_cons] at h
      obtain ⟨hmember, hmembers⟩ := h
      cases members with
      | nil =>
          have hlast := hmember (.object (some earlier) (some member.1) :: stack)
            (.closeObject :: rest)
          simpa [memberTokens, readKey, readAfter, Members.add, Members.close] using hlast
      | cons next members =>
          have hlater : readKey (some (member :: earlier)) stack
                ([Token.comma].intercalate (memberTokens (next :: members)) ++
                  .closeObject :: rest) =
              readAfter (.object ((member :: earlier).reverse ++ next :: members)) stack rest :=
            ih hmembers (by simp)
          have hnext := hmember (.object (some earlier) (some member.1) :: stack)
            (.comma :: [Token.comma].intercalate (memberTokens (next :: members)) ++
              .closeObject :: rest)
          rw [List.cons_append, readAfter, Members.add, hlater] at hnext
          simpa [memberTokens, readKey] using hnext

theorem read_tokens (h : Exact room value) : Read value := by
  -- On how the value nests; each container opens its own frame for its children.
  induction h with
  | scalar _ =>
      intro stack rest
      cases stack with
      | nil =>
          rfl
      | cons frame stack =>
          rfl
  | @array room items _ ih =>
      intro stack rest
      have hitems : readValue (.array [] :: stack)
            ([Token.comma].intercalate (itemTokens items) ++ .closeArray :: rest) =
          readAfter (.array items) stack rest :=
        readValue_items ih (by simp)
      simpa [tokens, readValue] using hitems
  | @object room members _ ih =>
      intro stack rest
      have hmembers : readKey (some []) stack
            ([Token.comma].intercalate (memberTokens members) ++ .closeObject :: rest) =
          readAfter (.object members) stack rest :=
        readKey_members ih (by simp)
      simpa [tokens, readValue] using hmembers

end

/-! ## Nesting -/

/-- The tokens have values and close what they open, never with more than `room` open at once. -/
structure Closed (room : Nat) (tokens : List Token) : Prop where
  sound : tokens.all Token.isSound = true
  level : ∀ rest, nestWithin room (tokens ++ rest) = nestWithin room rest

section

variable {row more : List Token} {rows : List (List Token)} {room : Nat} {value : Json}
  {members : List (String × Json)}

theorem closed_nil : Closed room [] := ⟨rfl, fun _ => rfl⟩

theorem closed_scalar (value : Scalar) : Closed room [.scalar value] := ⟨rfl, fun _ => rfl⟩

theorem closed_comma : Closed room [.comma] := ⟨rfl, fun _ => rfl⟩

theorem closed_key (key : String) : Closed room [.scalar (.string key), .colon] :=
  ⟨rfl, fun _ => rfl⟩

theorem Closed.append (hrow : Closed room row) (hmore : Closed room more) :
    Closed room (row ++ more) where
  sound := by
    rw [List.all_append, hrow.sound, hmore.sound]
    rfl
  level rest := by
    rw [List.append_assoc, hrow.level, hmore.level]

theorem Closed.array (h : Closed room row) :
    Closed (room + 1) (.openArray :: row ++ [.closeArray]) where
  sound := by
    simp [h.sound, Token.isSound]
  level rest := by
    simp [nestWithin, h.level]

theorem Closed.object (h : Closed room row) :
    Closed (room + 1) (.openObject :: row ++ [.closeObject]) where
  sound := by
    simp [h.sound, Token.isSound]
  level rest := by
    simp [nestWithin, h.level]

theorem closed_intercalate (h : ∀ row ∈ rows, Closed room row) :
    Closed room ([Token.comma].intercalate rows) := by
  induction rows with
  | nil =>
      exact closed_nil
  | cons row rows ih =>
      rw [List.forall_mem_cons] at h
      obtain ⟨hrow, hrows⟩ := h
      cases rows with
      | nil =>
          simpa using hrow
      | cons next rows =>
          simpa using hrow.append (closed_comma.append (ih hrows))

theorem closed_memberTokens (h : ∀ member ∈ members, Closed room member.2.tokens) :
    ∀ row ∈ memberTokens members, Closed room row := by
  induction members with
  | nil =>
      simp [memberTokens]
  | cons member members ih =>
      rw [List.forall_mem_cons] at h
      obtain ⟨hmember, hmembers⟩ := h
      rw [memberTokens, List.forall_mem_cons]
      exact ⟨(closed_key member.1).append hmember, ih hmembers⟩

theorem closed_tokens (h : Exact room value) : Closed room value.tokens := by
  induction h with
  | scalar _ =>
      exact closed_scalar _
  | array _ ih =>
      refine (closed_intercalate ?_).array
      rw [itemTokens_eq_map, List.forall_mem_map]
      exact ih
  | object _ ih =>
      exact (closed_intercalate (closed_memberTokens ih)).object

theorem Reading.ofText?_text (h : Exact maxDepth value) :
    Reading.ofText? value.text = some { value, sound := true } := by
  have htokens : Token.ofText [] value.text.toList = some value.tokens := by
    rw [text, String.toList_ofList]
    exact ofText_write h
  have hvalue : readValue [] value.tokens = some value := by
    simpa [readAfter] using read_tokens h [] []
  have hclosed : Closed maxDepth value.tokens := closed_tokens h
  have hlevel : nestWithin maxDepth value.tokens = true := by
    simpa [nestWithin] using hclosed.level []
  simp [ofText?, htokens, hvalue, hclosed.sound, hlevel]

end

end Entitlements.Json
