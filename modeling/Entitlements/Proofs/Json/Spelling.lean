import Mathlib.Data.List.Forall2
import Mathlib.Data.List.TakeWhile
import Entitlements.Json.Token
import Entitlements.Json.Writer
import Entitlements.Proofs.Decimal.Digits

/-!
# Spelled tokens

The compact text of a value is cut into the tokens of that value, one row of tokens
for each part of the text. A word goes on until something ends it, so a text is looked
at together with what follows it.
-/

namespace Entitlements.Json

/-! ## Strings -/

namespace Piece

/-- How a written string holds a character: a control without a short escape is a unit. -/
def ofEscape (c : Char) : Piece :=
  if c.toNat < 0x20 && !"\x08\t\n\x0c\r".toList.contains c then .unit c.toNat else .char c

theorem join_ofEscape_cons (c : Char) (pieces : List Piece) :
    join (ofEscape c :: pieces) = (join pieces).map (c :: ·) := by
  unfold ofEscape
  split
  · next hcontrol =>
      rw [Bool.and_eq_true, decide_eq_true_eq] at hcontrol
      obtain ⟨hlt, -⟩ := hcontrol
      have hhigh : isHigh c.toNat = false := by
        simp [isHigh]
        omega
      have hlow : isLow c.toNat = false := by
        simp [isLow]
        omega
      rw [join.eq_def]
      simp [hhigh, hlow]
  · rfl

theorem join_map_ofEscape (s : List Char) : join (s.map ofEscape) = some s := by
  induction s with
  | nil =>
      rfl
  | cons c s ih =>
      rw [List.map_cons, join_ofEscape_cons, ih]
      rfl

end Piece

namespace Token

section

variable {pieces : List Piece} {word rest text : List Char} {c : Char} {token : Token}

theorem unit?_hexDigit :
    ∀ n < 0x20, unit? '0' '0' (hexDigit (n / 16)) (hexDigit (n % 16)) = some n := by
  decide

theorem escape_cases (c : Char) :
    (∃ e, escape c = ['\\', e] ∧ escaped? e = some c ∧ Piece.ofEscape c = .char c) ∨
    (∃ a b d e, escape c = ['\\', 'u', a, b, d, e] ∧ unit? a b d e = some c.toNat ∧
      Piece.ofEscape c = .unit c.toNat) ∨
    (escape c = [c] ∧ c ≠ '"' ∧ c ≠ '\\' ∧ 0x20 ≤ c.toNat ∧ Piece.ofEscape c = .char c) := by
  by_cases hshort : c ∈ ['"', '\\', '\x08', '\t', '\n', '\x0c', '\r']
  · left
    simp only [List.mem_cons, List.not_mem_nil, or_false] at hshort
    rcases hshort with rfl | rfl | rfl | rfl | rfl | rfl | rfl
    all_goals exact ⟨_, rfl, rfl, rfl⟩
  · -- Any other control is a unit below 0x20, so its first two digits are zeros.
    right
    simp only [List.mem_cons, List.not_mem_nil, or_false, not_or] at hshort
    obtain ⟨hquote, hbackslash, hb, ht, hn, hf, hr⟩ := hshort
    by_cases hlt : c.toNat < 0x20
    · left
      refine ⟨'0', '0', _, _, ?_, unit?_hexDigit c.toNat hlt, ?_⟩
      · simp [escape, *]
      · simp [Piece.ofEscape, *]
    · right
      refine ⟨?_, hquote, hbackslash, by omega, ?_⟩
      · simp [escape, *]
      · simp [Piece.ofEscape, *]

theorem ofString_quote : ofString pieces ('"' :: rest) = withString pieces (ofText [] rest) := by
  rw [ofString.eq_def]
  simp

theorem ofString_char (hquote : c ≠ '"') (hbackslash : c ≠ '\\') (hcontrol : 0x20 ≤ c.toNat) :
    ofString pieces (c :: rest) = ofString (.char c :: pieces) rest := by
  have hlow : ¬ c.toNat < 0x20 := by omega
  rw [ofString.eq_def]
  simp [hquote, hbackslash, hlow]

theorem ofString_escaped {e : Char} (h : escaped? e = some c) :
    ofString pieces ('\\' :: e :: rest) = ofString (.char c :: pieces) rest := by
  have hunit : e ≠ 'u' := by
    intro hu
    rw [hu] at h
    contradiction
  rw [ofString.eq_def]
  simp only [Char.reduceEq, if_false, if_true]
  split
  · next hu =>
      exact absurd (List.cons.inj hu).1 hunit
  · next heq =>
      obtain ⟨rfl, rfl⟩ := List.cons.inj heq
      rw [h]
  · contradiction

theorem ofString_unit {a b d e : Char} {n : Nat} (h : unit? a b d e = some n) :
    ofString pieces ('\\' :: 'u' :: a :: b :: d :: e :: rest) =
      ofString (.unit n :: pieces) rest := by
  rw [ofString.eq_def]
  simp [h]

theorem ofString_escape (c : Char) :
    ofString pieces (escape c ++ rest) = ofString (.ofEscape c :: pieces) rest := by
  rcases escape_cases c with ⟨e, hescape, hchar, hpiece⟩ | ⟨a, b, d, e, hescape, hunit, hpiece⟩ |
    ⟨hescape, hquote, hbackslash, hcontrol, hpiece⟩
  · rw [hescape, hpiece]
    exact ofString_escaped hchar
  · rw [hescape, hpiece]
    exact ofString_unit hunit
  · rw [hescape, hpiece]
    exact ofString_char hquote hbackslash hcontrol

theorem ofString_flatMap_escape (s : List Char) :
    ofString pieces (s.flatMap escape ++ '"' :: rest) =
      withString ((s.map Piece.ofEscape).reverse ++ pieces) (ofText [] rest) := by
  induction s generalizing pieces with
  | nil =>
      exact ofString_quote
  | cons c s ih =>
      rw [List.flatMap_cons, List.append_assoc, ofString_escape, ih]
      simp

theorem ofText_quote (s : String) :
    ofText [] (quote s ++ rest) = (ofText [] rest).map (.scalar (.string s) :: ·) := by
  have hpieces : ofPieces (s.toList.map Piece.ofEscape) = .scalar (.string s) := by
    rw [ofPieces, Piece.join_map_ofEscape]
    simp
  have hstring : ofText [] (quote s ++ rest) =
      ofString [] (s.toList.flatMap escape ++ '"' :: rest) := by
    simp only [quote, List.cons_append, List.append_assoc, List.nil_append]
    rw [ofText]
    simp [withWord]
  rw [hstring, ofString_flatMap_escape]
  simp [withString, hpieces]

/-! ## Words -/

def Ends : List Char → Prop
  | [] => True
  | c :: _ => (punctuation? c).isSome = true

def isWordChar (c : Char) : Bool :=
  c != '"' && !isBlank c && (punctuation? c).isNone

theorem isWordChar_iff :
    isWordChar c = true ↔ c ≠ '"' ∧ isBlank c = false ∧ punctuation? c = none := by
  simp [isWordChar, and_assoc]

theorem isWordChar_of_isDigit (h : c.isDigit = true) : isWordChar c = true := by
  refine isWordChar_iff.2 ⟨?_, ?_, ?_⟩
  · rintro rfl
    contradiction
  · by_contra hblank
    simp only [isBlank, Bool.not_eq_false, Bool.or_eq_true, beq_iff_eq] at hblank
    rcases hblank with ((rfl | rfl) | rfl) | rfl
    all_goals contradiction
  · unfold punctuation?
    split
    all_goals first | contradiction | rfl

theorem ofText_punctuation (h : punctuation? c = some token) :
    ofText word (c :: rest) = withWord word ((ofText [] rest).map (token :: ·)) := by
  have hplain : c ≠ '"' ∧ isBlank c = false := by
    unfold punctuation? at h
    split at h
    all_goals first | contradiction | decide
  rw [ofText]
  simp [hplain, h]

theorem ofText_of_ends (h : Ends rest) : ofText word rest = withWord word (ofText [] rest) := by
  cases rest with
  | nil =>
      simp [ofText, withWord]
  | cons c rest =>
      obtain ⟨token, htoken⟩ := Option.isSome_iff_exists.1 h
      rw [ofText_punctuation htoken, ofText_punctuation htoken]
      rfl

theorem ofText_append_word (h : text.all isWordChar = true) :
    ofText word (text ++ rest) = ofText (text.reverse ++ word) rest := by
  induction text generalizing word with
  | nil =>
      rfl
  | cons c text ih =>
      rw [List.all_cons, Bool.and_eq_true, isWordChar_iff] at h
      obtain ⟨⟨hquote, hblank, hnone⟩, htext⟩ := h
      rw [List.cons_append, ofText]
      simp [hquote, hblank, hnone, ih htext]

end

/-- In front of whatever ends it, the text is cut into the tokens. -/
def Spells (text : List Char) (tokens : List Token) : Prop :=
  ∀ rest, Ends rest → ofText [] (text ++ rest) = (ofText [] rest).map (tokens ++ ·)

theorem spells_word {text : List Char} {token : Token} (h : text.all isWordChar = true)
    (hword : word? text = some token) : Spells text [token] := by
  intro rest hrest
  have hne : text ≠ [] := by
    rintro rfl
    cases hword
  rw [ofText_append_word h, ofText_of_ends hrest, List.append_nil]
  cases ofText [] rest with
  | none =>
      simp [withWord, hne, hword]
  | some tokens =>
      simp [withWord, hne, hword]

end Token

/-! ## Numbers -/

section

/-- A number that is written without a loss: an integer of 64 bits. -/
def Number.Exact : Number → Prop
  | .natural _ => True
  | .negative magnitude => 0 < magnitude ∧ magnitude ≤ 0x8000000000000000
  | .real _ => False

def Numeral.integer (minus : Bool) (n : Nat) : Numeral where
  minus := minus
  whole := Nat.toDigits 10 n
  fraction := none
  exponent := none

namespace Numeral

def integerText (minus : Bool) (n : Nat) : List Char :=
  (if minus then ['-'] else []) ++ Nat.toDigits 10 n

variable {n : Nat}

/-- The digits are cut as a whole, and their leading zero is one that may stand alone. -/
theorem ofText?_integerText (minus : Bool) (n : Nat) :
    ofText? (integerText minus n) = some (integer minus n) := by
  have hdigits : ∀ c ∈ Nat.toDigits 10 n, c.isDigit = true :=
    List.all_eq_true.1 (Decimal.all_isDigit_toDigits n)
  have hwhole : (Nat.toDigits 10 n).takeWhile Char.isDigit = Nat.toDigits 10 n :=
    List.takeWhile_eq_self_iff.2 hdigits
  have hrest : (Nat.toDigits 10 n).dropWhile Char.isDigit = [] :=
    List.dropWhile_eq_nil_iff.2 hdigits
  have hzero := Decimal.toDigits_of_head?_zero (n := n)
  cases minus with
  | false =>
      have hsign := Decimal.toDigits_ne_cons (by decide : '-'.isDigit = false) n
      simpa [ofText?, integerText, integer, hsign, hwhole, hrest, Nat.toDigits_ne_nil,
        fraction?, exponent?] using hzero
  | true =>
      simpa [ofText?, integerText, integer, hwhole, hrest, Nat.toDigits_ne_nil, fraction?,
        exponent?] using hzero

theorem value_integer (minus : Bool) (n : Nat) : value (integer minus n).whole = n :=
  Nat.ofDigitChars_toDigits (by decide) (by decide)

theorem number?_integer_false (hn : n < UInt64.size) :
    (integer false n).number? = some (.natural (UInt64.ofNat n)) := by
  rw [number?, value_integer]
  simp [integer, hn]

theorem number?_integer_true (hpos : 0 < n) (hn : n ≤ 0x8000000000000000) :
    (integer true n).number? = some (.negative n) := by
  rw [number?, value_integer]
  simp [integer, hpos, hn]

theorem all_isWordChar_integerText (minus : Bool) (n : Nat) :
    (integerText minus n).all Token.isWordChar = true := by
  have hdigits : (Nat.toDigits 10 n).all Token.isWordChar = true := by
    rw [List.all_eq_true]
    intro c hc
    exact Token.isWordChar_of_isDigit
      (Nat.isDigit_of_mem_toDigits (by decide) (by decide) hc)
  rw [integerText, List.all_append, hdigits]
  cases minus with
  | false =>
      rfl
  | true =>
      rfl

end Numeral

theorem Token.word?_of_numeral {text : List Char} {numeral : Numeral}
    (h : Numeral.ofText? text = some numeral) : word? text = some (ofNumeral numeral) := by
  have hnull : text ≠ "null".toList := by
    rintro rfl
    contradiction
  have htrue : text ≠ "true".toList := by
    rintro rfl
    contradiction
  have hfalse : text ≠ "false".toList := by
    rintro rfl
    contradiction
  rw [word?, if_neg hnull, if_neg htrue, if_neg hfalse, h]
  rfl

theorem Token.spells_integer {minus : Bool} {n : Nat} {number : Number}
    (h : (Numeral.integer minus n).number? = some number) :
    Spells (Numeral.integerText minus n) [.scalar (.number number)] := by
  have hword : word? (Numeral.integerText minus n) = some (.scalar (.number number)) := by
    rw [word?_of_numeral (Numeral.ofText?_integerText minus n), ofNumeral, h]
  exact spells_word (Numeral.all_isWordChar_integerText minus n) hword

theorem Number.spells_text {n : Number} (h : n.Exact) :
    Token.Spells n.text.toList [.scalar (.number n)] := by
  cases n with
  | natural n =>
      have htext : (Number.natural n).text.toList = Numeral.integerText false n.toNat := by
        simp [Number.text, Numeral.integerText, Mask.toList_toString]
      have hnumber : (Numeral.integer false n.toNat).number? = some (.natural n) := by
        rw [Numeral.number?_integer_false n.toNat_lt, UInt64.ofNat_toNat]
      rw [htext]
      exact Token.spells_integer hnumber
  | negative magnitude =>
      obtain ⟨hpos, hmax⟩ := h
      have htext : (Number.negative magnitude).text.toList =
          Numeral.integerText true magnitude := by
        simp [Number.text, Numeral.integerText, Nat.toList_repr]
      rw [htext]
      exact Token.spells_integer (Numeral.number?_integer_true hpos hmax)
  | real x =>
      contradiction

end

/-! ## Values -/

def Scalar.Exact : Scalar → Prop
  | .number n => n.Exact
  | _ => True

/-- A value that is written without a loss and with no more than `room` containers in each other. -/
inductive Exact : Nat → Json → Prop where
  | scalar {room : Nat} {value : Scalar} (h : value.Exact) : Exact room (.scalar value)
  | array {room : Nat} {items : List Json} (h : ∀ item ∈ items, Exact room item) :
      Exact (room + 1) (.array items)
  | object {room : Nat} {members : List (String × Json)}
      (h : ∀ member ∈ members, Exact room member.2) : Exact (room + 1) (.object members)

mutual

def tokens : Json → List Token
  | .scalar value => [.scalar value]
  | .array items => .openArray :: [Token.comma].intercalate (itemTokens items) ++ [.closeArray]
  | .object members =>
      .openObject :: [Token.comma].intercalate (memberTokens members) ++ [.closeObject]

def itemTokens : List Json → List (List Token)
  | [] => []
  | item :: rest => item.tokens :: itemTokens rest

def memberTokens : List (String × Json) → List (List Token)
  | [] => []
  | (key, value) :: rest =>
      (.scalar (.string key) :: .colon :: value.tokens) :: memberTokens rest

end

section

variable {text more : List Char} {texts : List (List Char)} {spelled later : List Token}
  {rows : List (List Token)} {c : Char} {token : Token} {room : Nat} {value : Json}

theorem Scalar.spells_write {value : Scalar} (h : value.Exact) :
    Token.Spells value.write [.scalar value] := by
  cases value with
  | null =>
      exact Token.spells_word rfl rfl
  | bool b =>
      cases b with
      | false =>
          exact Token.spells_word rfl rfl
      | true =>
          exact Token.spells_word rfl rfl
  | number n =>
      exact Number.spells_text h
  | string s =>
      intro rest _
      exact Token.ofText_quote s

theorem spells_nil : Token.Spells [] [] := by
  intro rest _
  simp

theorem spells_append_cons (htext : Token.Spells text spelled)
    (hc : Token.punctuation? c = some token) (hmore : Token.Spells more later) :
    Token.Spells (text ++ c :: more) (spelled ++ token :: later) := by
  intro rest hrest
  have hends : Token.Ends (c :: (more ++ rest)) := by
    simp [Token.Ends, hc]
  rw [List.append_assoc, List.cons_append, htext _ hends, Token.ofText_punctuation hc,
    hmore rest hrest]
  cases Token.ofText [] rest with
  | none =>
      rfl
  | some tokens =>
      simp [Token.withWord]

theorem spells_enclosed {opening closing : Char} {first last : Token}
    (hopening : Token.punctuation? opening = some first)
    (hclosing : Token.punctuation? closing = some last) (htext : Token.Spells text spelled) :
    Token.Spells (opening :: text ++ [closing]) (first :: spelled ++ [last]) :=
  spells_append_cons (spells_append_cons spells_nil hopening htext) hclosing spells_nil

theorem spells_intercalate (h : List.Forall₂ Token.Spells texts rows) :
    Token.Spells ([','].intercalate texts) ([Token.comma].intercalate rows) := by
  induction h with
  | nil =>
      exact spells_nil
  | cons hfirst hrest ih =>
      cases hrest with
      | nil =>
          simpa using hfirst
      | cons _ _ =>
          simpa using spells_append_cons hfirst rfl ih

theorem writeItems_eq_map (items : List Json) : writeItems items = items.map write := by
  induction items with
  | nil =>
      rfl
  | cons item items ih =>
      rw [writeItems, ih, List.map_cons]

theorem itemTokens_eq_map (items : List Json) : itemTokens items = items.map tokens := by
  induction items with
  | nil =>
      rfl
  | cons item items ih =>
      rw [itemTokens, ih, List.map_cons]

theorem spells_writeMembers {members : List (String × Json)}
    (h : ∀ member ∈ members, Token.Spells member.2.write member.2.tokens) :
    List.Forall₂ Token.Spells (writeMembers members) (memberTokens members) := by
  induction members with
  | nil =>
      exact .nil
  | cons member members ih =>
      rw [List.forall_mem_cons] at h
      obtain ⟨hfirst, hrest⟩ := h
      have hkey : Token.Spells (quote member.1) [.scalar (.string member.1)] := by
        intro rest _
        exact Token.ofText_quote member.1
      exact .cons (spells_append_cons hkey rfl hfirst) (ih hrest)

theorem spells_write (h : Exact room value) : Token.Spells value.write value.tokens := by
  induction h with
  | scalar hscalar =>
      exact Scalar.spells_write hscalar
  | array _ ih =>
      rename_i items _
      have hitems : List.Forall₂ Token.Spells (writeItems items) (itemTokens items) := by
        rw [writeItems_eq_map, itemTokens_eq_map, List.forall₂_map_left_iff,
          List.forall₂_map_right_iff, List.forall₂_same]
        exact ih
      exact spells_enclosed rfl rfl (spells_intercalate hitems)
  | object _ ih =>
      exact spells_enclosed rfl rfl (spells_intercalate (spells_writeMembers ih))

/-- The text of a value is cut into its tokens and nothing else. -/
theorem ofText_write (h : Exact room value) : Token.ofText [] value.write = some value.tokens := by
  simpa [Token.ofText, Token.withWord] using spells_write h [] trivial

end

end Entitlements.Json
