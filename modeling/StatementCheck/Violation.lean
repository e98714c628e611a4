import StatementCheck.Token

/-!
# Grammar violations

The first thing that is wrong with a sequence of tokens. A violation ends the check: no second one
is ever reported for the same input.

## Main definitions

* `Rule` : the grammar rules that choose an alternative by the token ahead.
* `Violation` : what can be wrong.
* `Violation.message` : the text shown to the user.
-/
namespace StatementCheck

/-- A grammar rule that chooses between alternatives by the token ahead. -/
inductive Rule
  | statement
  | factor
  deriving DecidableEq

/-- What is wrong with a sequence of tokens, with the token `found` where it is noticed. -/
inductive Violation
  /-- The input ended where a token was required. The literal tokens that would have been accepted
  are `expected`, if the rule knows them. -/
  | endOfInput (expected : List Token)
  /-- One of the literal tokens `expected` was required. -/
  | mismatch (expected : List Token) (found : Token)
  /-- A token of a class was required. -/
  | wrongCategory (category : Category) (found : Token)
  /-- No alternative of the rule starts with the token. -/
  | noAlternative (rule : Rule) (found : Token)
  /-- A statement starts with a number. -/
  | numberAsIdentifier (found : Token)
  /-- A declaration names a type that is refused. -/
  | unsupportedType (found : Token)
  /-- An operator follows a complete expression. -/
  | trailingOperator (found : Token)
  deriving DecidableEq

namespace Violation

/-- Tokens between single quotes, joined by `or`. -/
def oneOf (expected : List Token) : String :=
  " or ".intercalate (expected.map fun t => "'" ++ t ++ "'")

/-- What a message says after its fixed opening. Tokens are inserted as they are. -/
def complaint : Violation → String
  | endOfInput [] => "Unexpected end of input"
  | endOfInput expected => "Expected " ++ oneOf expected ++ " but reached end of input"
  | mismatch expected found => "Expected " ++ oneOf expected ++ ", found '" ++ found ++ "'"
  | wrongCategory category found => "Expected " ++ category.name ++ ", found '" ++ found ++ "'"
  | noAlternative .statement found => "Unexpected token for statement: '" ++ found ++ "'"
  | noAlternative .factor found => "Unexpected factor: '" ++ found ++ "'"
  | numberAsIdentifier found => "Expected identifier, found number '" ++ found ++ "'"
  | unsupportedType found =>
      "Invalid type '" ++ found ++ "', allowed: " ++ ", ".intercalate Token.typeNames
  | trailingOperator found => "Unexpected operator in expression: '" ++ found ++ "'"

/-- The message of a violation. -/
def message (v : Violation) : String := "Syntax error: " ++ v.complaint

/-- Is the violation a failure to choose an alternative? A number in place of an identifier and a
refused type are such failures with a message of their own. -/
def isNoAlternative : Violation → Bool
  | noAlternative _ _ => true
  | numberAsIdentifier _ => true
  | unsupportedType _ => true
  | _ => false

end Violation

end StatementCheck
