import StatementCheck.Toml.Scan

/-!
# TOML dates and times

A date, a time of day, or both, and then with or without an offset. They are only recognised, since
no setting is a date; but one that does not exist makes a document invalid.

## Main definitions

* `Toml.date`, `Toml.time`, `Toml.offset` : past the parts.
* `Toml.moment` : past a date, a time, or both.
-/
namespace StatementCheck.Toml

/-- A number of exactly so many decimal digits. -/
def fixedNumber (count : Nat) : Scan Nat := fun cs =>
  let ds := cs.take count
  if ds.length = count && ds.all Char.isDigit then
    some (ds.foldl (fun n d => 10 * n + (d.toNat - '0'.toNat)) 0, cs.drop count)
  else none

/-- A number of two digits between two others. -/
def twoDigits (least most : Nat) : Scan Nat := fun cs => do
  let (n, rest) ← fixedNumber 2 cs
  if least ≤ n && n ≤ most then return (n, rest) else none

/-- Has the year a 29th of February? -/
def isLeap (year : Nat) : Bool := year % 4 = 0 && (year % 100 ≠ 0 || year % 400 = 0)

/-- The number of days in a month. -/
def daysIn (year month : Nat) : Nat :=
  match month with
  | 2 => if isLeap year then 29 else 28
  | 4 | 6 | 9 | 11 => 30
  | _ => 31

/-- Past a date. -/
def date (cs : List Char) : Option (List Char) := do
  let (year, cs) ← fixedNumber 4 cs
  let cs ← mark '-' cs
  let (month, cs) ← twoDigits 1 12 cs
  let cs ← mark '-' cs
  let (_, cs) ← twoDigits 1 (daysIn year month) cs
  return cs

/-- Past the part of a second behind a point, if it is there. -/
def secondFraction (cs : List Char) : List Char :=
  match cs with
  | '.' :: d :: rest => if d.isDigit then rest.dropWhile Char.isDigit else cs
  | cs => cs

/-- Past a time of day. There may be a leap second. -/
def time (cs : List Char) : Option (List Char) := do
  let (_, cs) ← twoDigits 0 23 cs
  let cs ← mark ':' cs
  let (_, cs) ← twoDigits 0 59 cs
  let cs ← mark ':' cs
  let (_, cs) ← twoDigits 0 60 cs
  return secondFraction cs

/-- Past an offset from universal time. -/
def offset (cs : List Char) : Option (List Char) :=
  match cs with
  | [] => none
  | c :: cs =>
    if c = 'Z' || c = 'z' then some cs
    else if c = '+' || c = '-' then do
      let (_, cs) ← twoDigits 0 23 cs
      let cs ← mark ':' cs
      let (_, cs) ← twoDigits 0 59 cs
      return cs
    else none

/-- Past a time after a date, with an offset if it is there. -/
def timeAfterDate (cs : List Char) : Option (List Char) :=
  match cs with
  | [] => none
  | c :: cs =>
    if c = 'T' || c = 't' || c = ' ' then (time cs).map fun rest => (offset rest).getD rest
    else none

/-- Past a date with or without a time, or a time alone. -/
def moment (cs : List Char) : Option (List Char) :=
  match date cs with
  | some rest => some ((timeAfterDate rest).getD rest)
  | none => time cs

end StatementCheck.Toml
