import StatementCheck.Text.Extending
import StatementCheck.Text.Unprintable

/-!
# Quoted text

The form in which a text is shown on one line: between double quotes, with a backslash form for each
character that would end the text, break the line or not be seen.

## Main definitions

* `Text.escapeChar` : the written form of one character.
* `Text.quote` : the quoted form of a text.
-/
namespace StatementCheck.Text

/-- A code point by its number in lowercase hexadecimal, between braces. -/
def escapeCodePoint (n : Nat) : List Char :=
  ['\\', 'u', '\x7b'] ++ Nat.toDigits 16 n ++ ['\x7d']

/-- The written form of a character. A tab, a line feed, a carriage return, a null, a double quote
and a backslash have short forms; any other character that extends or cannot be printed is written
by its number; the rest stand for themselves. -/
def escapeChar (c : Char) : List Char :=
  if c = '\t' then ['\\', 't']
  else if c = '\r' then ['\\', 'r']
  else if c = '\n' then ['\\', 'n']
  else if c = '\x00' then ['\\', '0']
  else if c = '"' then ['\\', '"']
  else if c = '\\' then ['\\', '\\']
  else if isExtending c || isUnprintable c then escapeCodePoint c.toNat
  else [c]

/-- A text between double quotes, each character in its written form. -/
def quote (s : String) : String :=
  String.ofList ('"' :: (s.toList.flatMap escapeChar ++ ['"']))

theorem toList_quote (s : String) :
    (quote s).toList = '"' :: (s.toList.flatMap escapeChar ++ ['"']) := by
  simp [quote]

/-- Quoted texts between brackets, separated by commas. -/
def quoteList (ss : List String) : String :=
  "[" ++ ", ".intercalate (ss.map quote) ++ "]"

end StatementCheck.Text
