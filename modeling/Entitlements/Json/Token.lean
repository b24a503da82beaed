import Entitlements.Json.Numeral

/-!
# Tokens of a JSON text

A text is cut into punctuation, scalars and blanks. A string is collected as
characters and 16-bit units; two surrogate units in a row are one character. A
string with a surrogate on its own has no value, nor has a number beyond the
doubles.
-/

namespace Entitlements

namespace Json

inductive Token where
  | openArray
  | closeArray
  | openObject
  | closeObject
  | comma
  | colon
  | scalar (value : Scalar)
  | brokenString
  | hugeNumber
deriving Repr

/-- A character of a string, or a 16-bit unit written as an escape. -/
inductive Piece where
  | char (c : Char)
  | unit (n : Nat)
deriving DecidableEq, Repr

namespace Piece

def isHigh (n : Nat) : Bool := 0xD800 ≤ n && n < 0xDC00

def isLow (n : Nat) : Bool := 0xDC00 ≤ n && n < 0xE000

def ofSurrogates (high low : Nat) : Char :=
  Char.ofNat (0x10000 + (high - 0xD800) * 0x400 + (low - 0xDC00))

def join : List Piece → Option (List Char)
  | [] => some []
  | .char c :: rest => (join rest).map (c :: ·)
  | .unit n :: rest =>
      if isHigh n then
        match rest with
        | .unit m :: after => if isLow m then (join after).map (ofSurrogates n m :: ·) else none
        | _ => none
      else if isLow n then none
      else (join rest).map (Char.ofNat n :: ·)

end Piece

namespace Token

def isBlank (c : Char) : Bool :=
  c == ' ' || c == '\n' || c == '\t' || c == '\r'

def punctuation? : Char → Option Token
  | '[' => some .openArray
  | ']' => some .closeArray
  | '{' => some .openObject
  | '}' => some .closeObject
  | ',' => some .comma
  | ':' => some .colon
  | _ => none

/-- Whether a token has a value, or needs none. -/
def isSound : Token → Bool
  | .brokenString | .hugeNumber => false
  | _ => true

def ofNumeral (numeral : Numeral) : Token :=
  match numeral.number? with
  | some n => .scalar (.number n)
  | none => .hugeNumber

def ofPieces (pieces : List Piece) : Token :=
  match Piece.join pieces with
  | some chars => .scalar (.string (String.ofList chars))
  | none => .brokenString

def word? (word : List Char) : Option Token :=
  if word = "null".toList then some (.scalar .null)
  else if word = "true".toList then some (.scalar (.bool true))
  else if word = "false".toList then some (.scalar (.bool false))
  else (Numeral.ofText? word).map ofNumeral

/-- Puts a word, collected backwards and perhaps empty, in front of tokens. -/
def withWord (word : List Char) (tokens : Option (List Token)) : Option (List Token) :=
  if word.isEmpty then tokens
  else
    match word? word.reverse, tokens with
    | some token, some tokens => some (token :: tokens)
    | _, _ => none

def withString (pieces : List Piece) (tokens : Option (List Token)) : Option (List Token) :=
  tokens.map (ofPieces pieces.reverse :: ·)

def escaped? : Char → Option Char
  | '"' => some '"'
  | '\\' => some '\\'
  | '/' => some '/'
  | 'b' => some '\x08'
  | 'f' => some '\x0c'
  | 'n' => some '\n'
  | 'r' => some '\r'
  | 't' => some '\t'
  | _ => none

def hexDigit? (c : Char) : Option Nat :=
  if c.isDigit then some (c.toNat - '0'.toNat)
  else if 'a' ≤ c && c ≤ 'f' then some (c.toNat - 'a'.toNat + 10)
  else if 'A' ≤ c && c ≤ 'F' then some (c.toNat - 'A'.toNat + 10)
  else none

def unit? (a b c d : Char) : Option Nat := do
  some ((((← hexDigit? a) * 16 + (← hexDigit? b)) * 16 + (← hexDigit? c)) * 16 + (← hexDigit? d))

mutual

/-- The tokens of a text that goes on after part of a word. -/
def ofText (word : List Char) : List Char → Option (List Token)
  | [] => withWord word (some [])
  | c :: rest =>
      if c = '"' then withWord word (ofString [] rest)
      else if isBlank c then withWord word (ofText [] rest)
      else
        match punctuation? c with
        | some token => withWord word ((ofText [] rest).map (token :: ·))
        | none => ofText (c :: word) rest

def ofString (pieces : List Piece) : List Char → Option (List Token)
  | [] => none
  | c :: rest =>
      if c = '"' then withString pieces (ofText [] rest)
      else if c = '\\' then
        match rest with
        | 'u' :: a :: b :: d :: e :: after =>
            match unit? a b d e with
            | some n => ofString (.unit n :: pieces) after
            | none => none
        | e :: after =>
            match escaped? e with
            | some c => ofString (.char c :: pieces) after
            | none => none
        | [] => none
      else if c.toNat < 0x20 then none
      else ofString (.char c :: pieces) rest

end

end Token

end Json

end Entitlements
