/-!
# Tokens and their classes

A token is its text. The grammar sees a token only through the classes below and through equality
with a fixed word or mark, so what a token means never depends on where it stands.

## Main definitions

* `Token` : a piece of source text without blanks.
* `Token.isType`, `Token.isIdentifier`, `Token.isNumber`, … : the classes.
* `Category`, `Category.admits` : the classes that a grammar rule can ask for.
-/
namespace StatementCheck

/-- A token is its text. -/
abbrev Token := String

namespace Token

/-- The opening brace, with which a block begins. -/
@[match_pattern] abbrev openBrace : Token := "\x7b"

/-- The closing brace, with which a block ends. -/
@[match_pattern] abbrev closeBrace : Token := "\x7d"

/-- The type names that a declaration may use. -/
def typeNames : List Token := ["int", "boolean", "String", "char"]

/-- Type names that are recognised only to be refused. -/
def rejectedTypeNames : List Token := ["float", "double"]

/-- The comparison operators. -/
def comparisons : List Token := ["<", ">", "<=", ">=", "==", "!="]

/-- The operators that join terms into a sum. -/
def additives : List Token := ["+", "-"]

/-- The operators that join factors into a term. -/
def multiplicatives : List Token := ["*", "/"]

/-- Operators that no expression contains. -/
def strayOperators : List Token := ["=", "!", "%", "&&", "||", "&", "|", "^"]

/-- Is the token the name of a usable type? -/
def isType (t : Token) : Bool := typeNames.contains t

/-- Is the token the name of a refused type? -/
def isRejectedType (t : Token) : Bool := rejectedTypeNames.contains t

/-- An identifier is one letter from `a` to `z`. -/
def isIdentifier (t : Token) : Bool :=
  match t.toList with
  | [c] => c.isLower
  | _ => false

/-- A number is one or more of the digits `0` to `9`. -/
def isNumber (t : Token) : Bool := !t.toList.isEmpty && t.toList.all Char.isDigit

/-- Is the token a comparison operator? -/
def isComparison (t : Token) : Bool := comparisons.contains t

/-- Is the token `+` or `-`? -/
def isAdditive (t : Token) : Bool := additives.contains t

/-- Is the token `*` or `/`? -/
def isMultiplicative (t : Token) : Bool := multiplicatives.contains t

/-- Has the token the shape of an operator? Such a token cannot follow a complete expression. -/
def isOperator (t : Token) : Bool :=
  t.isComparison || t.isAdditive || t.isMultiplicative || strayOperators.contains t

theorem isOperator_of_isComparison {t : Token} (h : t.isComparison = true) :
    t.isOperator = true := by
  simp [isOperator, h]

theorem isOperator_of_isAdditive {t : Token} (h : t.isAdditive = true) : t.isOperator = true := by
  simp [isOperator, h]

theorem isOperator_of_isMultiplicative {t : Token} (h : t.isMultiplicative = true) :
    t.isOperator = true := by
  simp [isOperator, h]

end Token

/-- A class of tokens that a grammar rule asks for, where no single word would do. -/
inductive Category
  | type
  | identifier
  | number
  | comparison
  deriving DecidableEq

namespace Category

/-- The name of the class in messages. -/
def name : Category → String
  | type => "type"
  | identifier => "identifier"
  | number => "number"
  | comparison => "relop"

/-- Does the token belong to the class? -/
def admits : Category → Token → Bool
  | type => Token.isType
  | identifier => Token.isIdentifier
  | number => Token.isNumber
  | comparison => Token.isComparison

end Category

end StatementCheck
