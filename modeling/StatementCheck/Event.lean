import StatementCheck.Text.Quoted
import StatementCheck.Token

/-!
# Trace events

What a verbose reader records: each token that it consumes, and before that each demand for one
particular token, met or not.

## Main definitions

* `Event` : one record.
* `Event.line` : the line that shows it.
-/
namespace StatementCheck

open Text

/-- One record of a verbose reader. -/
inductive Event
  /-- The token at a position was consumed. -/
  | consumed (token : Token) (position : Nat)
  /-- One particular token was demanded where `found`, or the end of the input, stood. -/
  | demanded (want : Token) (found : Option Token)
  deriving DecidableEq

namespace Event

/-- The token that a demand met with, or the word for none. -/
def showFound : Option Token → String
  | some t => "Some(" ++ quote t ++ ")"
  | none => "None"

/-- The line that shows an event. -/
def line : Event → String
  | consumed token position => "Bumping: " ++ quote token ++ " at " ++ toString position
  | demanded want found => "Expecting: " ++ quote want ++ ", found " ++ showFound found

/-- The event as seen when the tokens before it are preceded by `n` more. -/
def shift (n : Nat) : Event → Event
  | consumed token position => consumed token (n + position)
  | demanded want found => demanded want found

end Event

end StatementCheck
