import StatementCheck.Toml.Text
import StatementCheck.Toml.Value

/-!
# TOML numbers

Integers, in four bases and of 64 bits, and floating point numbers. An underscore may stand between
two digits.

## Main definitions

* `Toml.digitRun` : digits, with underscores between them.
* `Toml.integer`, `Toml.float` : the numbers.
-/
namespace StatementCheck.Toml

/-- The digits at the start, and what is left after them. An underscore is passed over between two
digits; `afterDigit` says that a digit came before. -/
def digitRun (isDigit : Char → Bool) (afterDigit : Bool) : List Char → List Char × List Char
  | '_' :: c :: cs =>
    if afterDigit && isDigit c then
      let (ds, rest) := digitRun isDigit true cs
      (c :: ds, rest)
    else ([], '_' :: c :: cs)
  | c :: cs =>
    if isDigit c then
      let (ds, rest) := digitRun isDigit true cs
      (c :: ds, rest)
    else ([], c :: cs)
  | [] => ([], [])

/-- One or more digits. -/
def digits (isDigit : Char → Bool) : Scan (List Char) := fun cs =>
  match digitRun isDigit false cs with
  | ([], _) => none
  | (ds, rest) => some (ds, rest)

/-- One or more decimal digits, of which the first is zero only if it is the only one. -/
def wholePart : Scan (List Char) := fun cs =>
  match cs with
  | '0' :: rest => some (['0'], rest)
  | cs => digits Char.isDigit cs

/-- The value of digits in a base. -/
def valueOf (base : Nat) (ds : List Char) : Nat :=
  ds.foldl (fun n d => base * n + (hexValue? d).getD 0) 0

/-- A sign, if there is one: is it a minus? -/
def sign (cs : List Char) : Bool × List Char :=
  match cs with
  | '-' :: rest => (true, rest)
  | '+' :: rest => (false, rest)
  | cs => (false, cs)

/-- A number with a sign. -/
def signed (negative : Bool) (n : Nat) : Int := if negative then -(n : Int) else n

/-- Integers are those of 64 bits. -/
def inRange (n : Int) : Bool := -9223372036854775808 ≤ n && n ≤ 9223372036854775807

/-- An integer that is in range. -/
def bounded (n : Int) (rest : List Char) : Option (Value × List Char) :=
  if inRange n then some (.integer n, rest) else none

/-- Is the character a digit of this base, at most sixteen? -/
def isDigitOf (base : Nat) (c : Char) : Bool :=
  match hexValue? c with
  | some n => n < base
  | none => false

/-- An integer in one of the bases that are marked by a letter after a zero. -/
def markedInteger (base : Nat) : Scan Value := fun cs => do
  let (ds, rest) ← digits (isDigitOf base) cs
  bounded (valueOf base ds) rest

/-- An integer. -/
def integer : Scan Value
  | '0' :: 'x' :: cs => markedInteger 16 cs
  | '0' :: 'o' :: cs => markedInteger 8 cs
  | '0' :: 'b' :: cs => markedInteger 2 cs
  | cs => do
    let (negative, cs) := sign cs
    let (ds, rest) ← wholePart cs
    bounded (signed negative (valueOf 10 ds)) rest

/-- The digits behind a point. -/
def fraction : Scan (List Char)
  | '.' :: cs => digits Char.isDigit cs
  | _ => none

/-- A power of ten. -/
def exponent : Scan Int
  | c :: cs =>
    if c = 'e' || c = 'E' then do
      let (negative, cs) := sign cs
      let (ds, rest) ← digits Char.isDigit cs
      return (signed negative (valueOf 10 ds), rest)
    else none
  | [] => none

/-- A fraction with an exponent, or one of the two: the digits behind the point, and the exponent.
-/
def fractionOrExponent : Scan (List Char × Int) := fun cs =>
  match fraction cs with
  | some (ds, rest) =>
    match exponent rest with
    | some (e, rest) => some ((ds, e), rest)
    | none => some ((ds, 0), rest)
  | none => (exponent cs).map fun (e, rest) => (([], e), rest)

/-- A floating point number written in digits. One that is too great to be finite is refused, while
one that is too small becomes minus infinity. -/
def decimalFloat : Scan Value := fun cs => do
  let (negative, cs) := sign cs
  let (whole, rest) ← wholePart cs
  let ((behind, e), rest) ← fractionOrExponent rest
  let x := Binary64.ofDecimal negative (valueOf 10 (whole ++ behind)) (e - behind.length)
  if x = .infinite false then none else return (.float x, rest)

/-- Infinity, or no number. -/
def namedFloat : Scan Value := fun cs =>
  let (negative, cs) := sign cs
  match cs with
  | 'i' :: 'n' :: 'f' :: rest => some (.float (.infinite negative), rest)
  | 'n' :: 'a' :: 'n' :: rest => some (.float .nan, rest)
  | _ => none

/-- A number. -/
def number : Scan Value := fun cs => decimalFloat cs <|> namedFloat cs <|> integer cs

end StatementCheck.Toml
