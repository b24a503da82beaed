import Entitlements.Text.Unmarked
import Entitlements.Text.Extender

/-!
# Quoted text

A text is shown between quotes so that each of its characters can be told. A
backslash stands before what would be misread, and a number in place of a
character that has no mark of its own.
-/

namespace Entitlements.Text

/-- A character by its number in lower-case hexadecimal. -/
def numbered (c : Char) : List Char :=
  "\\u\x7b".toList ++ Nat.toDigits 16 c.toNat ++ ['}']

/-- Letters that fill a place of a syllable and are not seen. -/
def fillers : List Char :=
  ['\u115f', '\u1160', '\u3164', '\uffa0']

/-- Halfwidth sound marks: they extend the character before them, in a place of their own. -/
def soundMarks : List Char :=
  ['\uff9e', '\uff9f']

def isDistinct (c : Char) : Bool :=
  c == ' ' || soundMarks.contains c ||
    !(unmarked.holds c.toNat || extenders.holds c.toNat || fillers.contains c)

def quotedChar (c : Char) : List Char :=
  if c = '"' then ['\\', '"']
  else if c = '\\' then ['\\', '\\']
  else if c = '\n' then ['\\', 'n']
  else if c = '\r' then ['\\', 'r']
  else if c = '\t' then ['\\', 't']
  else if c = '\x00' then ['\\', '0']
  else if isDistinct c then [c]
  else numbered c

def quoted (text : String) : String :=
  String.ofList ('"' :: text.toList.flatMap quotedChar ++ ['"'])

example : quoted "e\u0301 a" = "\"e\\u\x7b301\x7d a\"" := by decide +kernel

end Entitlements.Text
