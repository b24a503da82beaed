/-!
# Delimited text

A permission is written as an identifier and a privilege list around the last
colon, and a privilege list as tokens between commas.
-/

namespace Entitlements.Text

/-- Cuts a text at the last `sep`, which belongs to neither part. -/
def cutLast (sep : Char) : List Char → Option (List Char × List Char)
  | [] => none
  | c :: rest =>
      match cutLast sep rest with
      | some (before, after) => some (c :: before, after)
      | none => if c = sep then some ([], rest) else none

theorem cutLast_eq_none_iff (sep : Char) (text : List Char) :
    cutLast sep text = none ↔ sep ∉ text := by
  induction text with
  | nil =>
      simp [cutLast]
  | cons c rest ih =>
      unfold cutLast
      cases hrest : cutLast sep rest with
      | some parts =>
          have hmem : sep ∈ rest := by
            simpa [hrest] using ih
          simp [hmem]
      | none =>
          have hmem : sep ∉ rest := ih.1 hrest
          by_cases hc : c = sep
          · simp [hc]
          · simp [hc, hmem, Ne.symm hc]

theorem cutLast_append (sep : Char) (before after : List Char)
    (hafter : sep ∉ after) :
    cutLast sep (before ++ sep :: after) = some (before, after) := by
  induction before with
  | nil =>
      simp [cutLast, (cutLast_eq_none_iff sep after).2 hafter]
  | cons c before ih =>
      simp [cutLast, ih]

theorem cutLast_eq_some_iff (sep : Char) (text before after : List Char) :
    cutLast sep text = some (before, after) ↔
      text = before ++ sep :: after ∧ sep ∉ after := by
  constructor
  · induction text generalizing before with
    | nil =>
        simp [cutLast]
    | cons c rest ih =>
        unfold cutLast
        cases hrest : cutLast sep rest with
        | some parts =>
            obtain ⟨first, second⟩ := parts
            intro h
            simp only [Option.some.injEq, Prod.mk.injEq] at h
            obtain ⟨rfl, rfl⟩ := h
            obtain ⟨htext, hfree⟩ := ih first hrest
            exact ⟨by simp [htext], hfree⟩
        | none =>
            have hfree := (cutLast_eq_none_iff sep rest).1 hrest
            by_cases hc : c = sep
            · intro h
              simp only [if_pos hc, Option.some.injEq, Prod.mk.injEq] at h
              obtain ⟨rfl, rfl⟩ := h
              exact ⟨by simp [hc], hfree⟩
            · simp [hc]
  · rintro ⟨rfl, hfree⟩
    exact cutLast_append sep before after hfree

/-- Texts with the same last delimiter are equal part by part. -/
theorem append_sep_inj {sep : Char} {before after first second : List Char} (hafter : sep ∉ after)
    (hsecond : sep ∉ second) (h : before ++ sep :: after = first ++ sep :: second) :
    before = first ∧ after = second := by
  have hcut := congrArg (cutLast sep) h
  rw [cutLast_append sep before after hafter, cutLast_append sep first second hsecond] at hcut
  simpa using hcut

theorem sep_append_inj {sep : Char} {before after first second : List Char}
    (hbefore : sep ∉ before) (hfirst : sep ∉ first)
    (h : before ++ sep :: after = first ++ sep :: second) : before = first ∧ after = second := by
  have hreverse : after.reverse ++ sep :: before.reverse =
      second.reverse ++ sep :: first.reverse := by
    simpa using congrArg List.reverse h
  obtain ⟨hafter, hleft⟩ := append_sep_inj (by simpa using hbefore) (by simpa using hfirst) hreverse
  exact ⟨List.reverse_inj.1 hleft, List.reverse_inj.1 hafter⟩

/-- The tokens of a comma-separated list; an empty text is one empty token. -/
def tokens (text : String) : List String :=
  (text.toList.splitOn ',').map String.ofList

theorem tokens_of_notMem {text : String} (h : ',' ∉ text.toList) : tokens text = [text] := by
  rw [tokens, List.splitOn_eq_singleton h]
  simp

theorem tokens_append_comma (first second : String) :
    tokens (first ++ "," ++ second) = tokens first ++ tokens second := by
  have htext : (first ++ "," ++ second).toList = first.toList ++ ',' :: second.toList := by
    simp
  rw [tokens, htext, List.splitOn_append_cons_self, List.map_append]
  rfl

theorem tokens_intercalate_flatMap {texts : List String} (hne : texts ≠ []) :
    tokens (",".intercalate texts) = texts.flatMap tokens := by
  induction texts with
  | nil =>
      contradiction
  | cons first rest ih =>
      cases rest with
      | nil =>
          simp
      | cons second later =>
          rw [String.intercalate_cons_cons, tokens_append_comma, ih (by simp)]
          rfl

theorem tokens_intercalate {all : List String} (hne : all ≠ [])
    (hfree : ∀ token ∈ all, ',' ∉ token.toList) : tokens (",".intercalate all) = all := by
  have hown : all.map tokens = all.map fun token => [token] :=
    List.map_congr_left fun token htoken => tokens_of_notMem (hfree token htoken)
  rw [tokens_intercalate_flatMap hne, List.flatMap_def, hown, ← List.flatMap_def]
  exact List.flatMap_singleton' all

theorem mem_intercalate_iff {c : Char} (hc : c ≠ ',') {all : List String} :
    c ∈ (",".intercalate all).toList ↔ ∃ token ∈ all, c ∈ token.toList := by
  induction all with
  | nil =>
      simp
  | cons token all ih =>
      cases all with
      | nil =>
          simp
      | cons next later =>
          rw [String.intercalate_cons_cons]
          simp only [String.toList_append, List.mem_append, ih]
          simp [hc]

end Entitlements.Text
