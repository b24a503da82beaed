import Entitlements.Proofs.Pattern.Regex

/-!
# Expressions read back

An expression is read character by character. Outside of sets some characters are
operators, a backslash makes punctuation stand for itself, and the groups that are still
open lie on a stack. What a pattern is shown as is read as the expression of its elements,
so no character of a pattern is taken for an operator.
-/

namespace Entitlements.Pattern.Regex

/-- The characters with a meaning of their own outside of sets. -/
def operators : List Char :=
  ['\\', '.', '+', '*', '?', '(', ')', '|', '[', ']', '\x7b', '\x7d', '^', '$']

def isEscapable (c : Char) : Bool :=
  c.toNat < 128 && !c.isAlphanum && c != '<' && c != '>'

/-- A group under way: what stands before its last bar, and the items behind, latest first. -/
structure Level where
  left : Option Regex
  row : List Regex

def Level.start : Level where
  left := none
  row := []

def Level.regex? (level : Level) : Option Regex :=
  match level.row with
  | [] => none
  | last :: earlier =>
      let row := earlier.foldl (fun later item => .seq item later) last
      match level.left with
      | none => some row
      | some left => some (.either left row)

/-- What the next character belongs to. -/
inductive Mode where
  | item
  | escaped
  | opening (seen : List Char)
  | set (negated : Bool) (chars : List Char)

structure Reader where
  mode : Mode
  level : Level
  outer : List Level

namespace Reader

def start : Reader where
  mode := .item
  level := .start
  outer := []

def add (reader : Reader) (item : Regex) : Reader :=
  { reader with mode := .item, level := { reader.level with row := item :: reader.level.row } }

/-- Repeats the last item; what is repeated already or takes no text is refused. -/
def repeated (reader : Reader) (wrap : Regex → Regex) : Option Reader :=
  match reader.level.row with
  | .many _ :: _ | .optional _ :: _ | .atStart :: _ | .atEnd :: _ | [] => none
  | item :: earlier =>
      some { reader with level := { reader.level with row := wrap item :: earlier } }

def bar (reader : Reader) : Option Reader := do
  let left ← reader.level.regex?
  return { reader with level := { left := some left, row := [] } }

def close (reader : Reader) : Option Reader := do
  let body ← reader.level.regex?
  match reader.outer with
  | [] => none
  | level :: outer =>
      return { mode := .item, level := { level with row := .group body :: level.row }, outer }

def operator (reader : Reader) : Char → Option Reader
  | '\\' => some { reader with mode := .escaped }
  | '(' => some { reader with mode := .opening [] }
  | '[' => some { reader with mode := .set false [] }
  | ')' => reader.close
  | '|' => reader.bar
  | '*' => reader.repeated .many
  | '?' => reader.repeated .optional
  | '^' => some (reader.add .atStart)
  | '$' => some (reader.add .atEnd)
  | _ => none

/-- Groups are not captured, and the only flag is the one that lets a dot take a newline. -/
def opened (reader : Reader) (seen : List Char) : Option Reader :=
  if seen = ['?', ':'] then
    some { mode := .item, level := .start, outer := reader.level :: reader.outer }
  else if seen = ['?', 's', ':', '.', '*', ')'] then some (reader.add .anyText)
  else if seen.isPrefixOf ['?', 's', ':', '.', '*', ')'] then
    some { reader with mode := .opening seen }
  else none

/-- Sets are listed character by character, without ranges and without sets in them. -/
def inSet (reader : Reader) (negated : Bool) (chars : List Char) (c : Char) : Option Reader :=
  if c = '^' && chars.isEmpty && !negated then some { reader with mode := .set true [] }
  else if c = ']' && !chars.isEmpty then
    some (reader.add (if negated then .noneOf chars else .oneOf chars))
  else if ['\\', '[', ']', '^', '-', '&', '~'].contains c then none
  else some { reader with mode := .set negated (chars ++ [c]) }

def step (reader : Reader) (c : Char) : Option Reader :=
  match reader.mode with
  | .item => if operators.contains c then reader.operator c else some (reader.add (.char c))
  | .escaped => if isEscapable c then some (reader.add (.char c)) else none
  | .opening seen => reader.opened (seen ++ [c])
  | .set negated chars => reader.inSet negated chars c

def steps (reader : Reader) (text : List Char) : Option Reader :=
  text.foldlM step reader

def finish (reader : Reader) : Option Regex :=
  match reader.mode, reader.outer with
  | .item, [] => reader.level.regex?
  | _, _ => none

end Reader

def read? (text : List Char) : Option Regex := do
  let reader ← Reader.start.steps text
  reader.finish

/-- The items of a row of elements, one after another. -/
def itemsOf (elements : List Element) : List Regex :=
  elements.flatMap fun e => e.regex.items

theorem itemsOf_cons (e : Element) (elements : List Element) :
    itemsOf (e :: elements) = e.regex.items ++ itemsOf elements := rfl

namespace Reader

section

variable {reader : Reader}

theorem steps_append (reader : Reader) (first second : List Char) :
    reader.steps (first ++ second) = (reader.steps first).bind fun next => next.steps second :=
  List.foldlM_append

theorem steps_escape (h : reader.mode = .item) (c : Char) :
    reader.steps (escape c) = some (reader.add (.char c)) := by
  have hescapable : metacharacters.all isEscapable = true := by decide +kernel
  have hoperator : operators.all metacharacters.contains = true := by decide +kernel
  rw [List.all_eq_true] at hescapable hoperator
  obtain ⟨mode, level, outer⟩ := reader
  obtain rfl : mode = .item := h
  rw [escape_eq]
  by_cases hc : c ∈ metacharacters
  · rw [if_pos hc]
    have hslash : step ⟨.item, level, outer⟩ '\\' = some ⟨.escaped, level, outer⟩ := rfl
    have hchar : step ⟨.escaped, level, outer⟩ c = some (add ⟨.item, level, outer⟩ (.char c)) :=
      if_pos (hescapable c hc)
    simp [steps, hslash, hchar]
  · rw [if_neg hc]
    have hplain : c ∉ operators := fun hmem => hc (List.contains_iff_mem.1 (hoperator c hmem))
    simp [steps, step, hplain]

/-- Adds items, the first one first. -/
def addAll (reader : Reader) (items : List Regex) : Reader :=
  { reader with level := { reader.level with row := items.reverse ++ reader.level.row } }

theorem addAll_append (reader : Reader) (first second : List Regex) :
    reader.addAll (first ++ second) = (reader.addAll first).addAll second := by
  simp [addAll]

theorem steps_below (h : reader.mode = .item) (d : Char) :
    reader.steps (Element.below d).expression =
      some (reader.addAll (Element.below d).regex.items) := by
  have hopening : "(?:".toList = ['(', '?', ':'] := by decide +kernel
  have hclosing : "(?s:.*))?".toList = ['(', '?', 's', ':', '.', '*', ')', ')', '?'] := by
    decide +kernel
  obtain ⟨mode, level, outer⟩ := reader
  obtain rfl : mode = .item := h
  have hopen : steps ⟨.item, level, outer⟩ ['(', '?', ':'] =
      some ⟨.item, .start, level :: outer⟩ := rfl
  have hclose : steps ⟨.item, ⟨none, [.char d]⟩, level :: outer⟩
      ['(', '?', 's', ':', '.', '*', ')', ')', '?'] =
        some (addAll ⟨.item, level, outer⟩ (Element.below d).regex.items) := rfl
  have hshown : (Element.below d).expression =
      "(?:".toList ++ escape d ++ "(?s:.*))?".toList := rfl
  rw [hshown, hopening, hclosing, steps_append, steps_append, hopen, Option.bind_some,
    steps_escape rfl, Option.bind_some]
  exact hclose

theorem steps_expression (h : reader.mode = .item) (e : Element) :
    reader.steps e.expression = some (reader.addAll e.regex.items) := by
  obtain ⟨mode, level, outer⟩ := reader
  obtain rfl : mode = .item := h
  cases e with
  | literal c =>
      exact steps_escape rfl c
  | wildcard =>
      have hshown : Element.wildcard.expression =
          ['(', '?', ':', '[', '^', '/', ':', '*', ']', '|', '\\', '*', '[', '^', '/', ':', '*',
            ']', ')', '*', '\\', '*', '?'] := by
        decide +kernel
      rw [hshown]
      rfl
  | globstar =>
      have hshown : Element.globstar.expression =
          ['(', '?', ':', '[', '^', '/', ':', ']', '*', '(', '?', ':', '[', '/', ':', ']', '|',
            '$', ')', ')', '*'] := by
        decide +kernel
      rw [hshown]
      rfl
  | everything =>
      have hshown : Element.everything.expression = ['(', '?', 's', ':', '.', '*', ')'] := by
        decide +kernel
      rw [hshown]
      rfl
  | below d =>
      exact steps_below rfl d

theorem steps_elements (h : reader.mode = .item) (elements : List Element) :
    reader.steps (elements.flatMap Element.expression) =
      some (reader.addAll (itemsOf elements)) := by
  induction elements generalizing reader with
  | nil =>
      rfl
  | cons e elements ih =>
      have hmode : (reader.addAll e.regex.items).mode = .item := h
      rw [List.flatMap_cons, steps_append, steps_expression h, Option.bind_some, ih hmode,
        itemsOf_cons, addAll_append]

end

end Reader

/-- An escaped character is an expression for itself. -/
theorem read?_escape (c : Char) : read? (escape c) = some (.char c) := by
  have hread : Reader.start.steps (escape c) = some (Reader.start.add (.char c)) :=
    Reader.steps_escape rfl c
  simp only [read?, hread]
  rfl

theorem rowOf_eq_foldr (elements : List Element) :
    rowOf elements = (itemsOf elements).foldr .seq .atEnd := by
  induction elements with
  | nil =>
      rfl
  | cons e elements ih =>
      rw [rowOf_cons, ih, itemsOf_cons, List.foldr_append]
      rfl

/-- The text of the expression of a pattern is read back as that expression. -/
theorem read?_regexOf (elements : List Element) :
    read? (regexOf elements).text = some (regexOf elements) := by
  have htext : (regexOf elements).text =
      ['^'] ++ (elements.flatMap Element.expression ++ ['$']) := by
    rw [regexOf, text_seq, text_rowOf]
    rfl
  have hsteps : Reader.start.steps (regexOf elements).text =
      some (((Reader.start.add .atStart).addAll (itemsOf elements)).add .atEnd) := by
    have hstart : Reader.start.steps ['^'] = some (Reader.start.add .atStart) := rfl
    rw [htext, Reader.steps_append, hstart, Option.bind_some, Reader.steps_append,
      Reader.steps_elements rfl, Option.bind_some]
    rfl
  -- the row is kept in reverse, and the last item is nested deepest
  have hrow : ((itemsOf elements).reverse ++ [atStart]).foldl (fun later item => seq item later)
      atEnd = regexOf elements := by
    rw [List.foldl_append, List.foldl_reverse, regexOf, rowOf_eq_foldr]
    rfl
  simp only [read?, hsteps]
  exact congrArg some hrow

-- A repetition is not repeated again.
example : (read? "a**".toList).isNone = true := by decide +kernel

end Entitlements.Pattern.Regex
