/-!
# Scanning TOML

The smallest parts of a TOML document: blanks, line ends and comments. A scanner takes the
characters that are left and returns what it read with the characters that are left after it.

## Main definitions

* `Toml.Scan` : a scanner.
* `Toml.skipBlanks` : past blanks.
* `Toml.skipLines` : past blanks, line ends and comments.
* `Toml.lineEnd` : past what may follow on a line that is complete.
* `Toml.separated` : one or more things with a mark between them.
-/
namespace StatementCheck.Toml

/-- A scanner: what was read and what is left, if it can read at all. -/
abbrev Scan (α : Type) := List Char → Option (α × List Char)

/-- Blanks within a line are the space and the tab. -/
def isBlank (c : Char) : Bool := c = ' ' || c = '\t'

/-- The characters that may stand in a comment, and unescaped in a text: all but the control
characters other than the tab. -/
def isPlain (c : Char) : Bool := c = '\t' || (' ' ≤ c && c ≠ '\x7f')

/-- Past blanks. -/
def skipBlanks (cs : List Char) : List Char := cs.dropWhile isBlank

/-- Past blanks, line ends and comments; past the rest of a comment first if `inComment`. A comment
ends with its line. -/
def skipLines (inComment : Bool) : List Char → Option (List Char)
  | [] => if inComment then none else some []
  | '\n' :: cs => skipLines false cs
  | '\r' :: '\n' :: cs => skipLines false cs
  | c :: cs =>
    if inComment then if isPlain c then skipLines true cs else none
    else if c = '#' then skipLines true cs
    else if isBlank c then skipLines false cs
    else some (c :: cs)

/-- Past a line end, or at the end of the document. -/
def newline : List Char → Option (List Char)
  | [] => some []
  | '\n' :: cs => some cs
  | '\r' :: '\n' :: cs => some cs
  | _ => none

/-- Past what may follow on a line that is complete: blanks, a comment, and its end. -/
def lineEnd (cs : List Char) : Option (List Char) :=
  match skipBlanks cs with
  | '#' :: cs => newline (cs.dropWhile isPlain)
  | cs => newline cs

/-- Past one particular character. -/
def mark (c : Char) : List Char → Option (List Char)
  | x :: cs => if x = c then some cs else none
  | [] => none

/-- Past one particular text. -/
def word (w : List Char) (cs : List Char) : Option (List Char) :=
  if w.isPrefixOf cs then some (cs.drop w.length) else none

/-- One or more things with a mark between two of them. -/
def separated {α : Type} (item : Scan α) (sep : Char) (cs : List Char) :
    Option (List α × List Char) :=
  match item cs with
  | none => none
  | some (a, rest) =>
    match mark sep rest with
    | none => some ([a], rest)
    | some rest =>
      if rest.length < cs.length then
        (separated item sep rest).map fun (as, rest) => (a :: as, rest)
      else none
termination_by cs.length

end StatementCheck.Toml
