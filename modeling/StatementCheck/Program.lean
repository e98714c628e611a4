import StatementCheck.Goal
import StatementCheck.Token.Split

/-!
# Programs

A program is zero or more statements, up to the end of the input.

## Main definitions

* `Parse.program` : read a program from where the reader stands.
* `firstViolation?` : what is wrong with a sequence of tokens, if it is no program.
-/
namespace StatementCheck

/-- Read statements up to the end of the input. -/
def Parse.program : Parse Unit := Parse.meet [.statements]

/-- The violation found in a sequence of tokens, or none if it is a program. -/
def firstViolation? (tokens : List Token) : Option Violation :=
  match Parse.program (Reader.ofTokens tokens false) with
  | .ok _ _ => none
  | .error v _ => some v

end StatementCheck
