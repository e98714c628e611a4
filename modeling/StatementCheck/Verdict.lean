import StatementCheck.Program
import StatementCheck.Settings

/-!
# Verdicts

A verdict is what checking one input comes to. It is reached from the name of the input and its
content alone.

## Main definitions

* `Verdict` : accepted, rejected, or not checked.
* `Status` : the grade of a verdict, and the exit code.
* `Write` : a text for one of the output streams.
* `Settings.judge` : the verdict on an input, with what is written on the way.
-/
namespace StatementCheck

/-- What checking an input comes to. -/
inductive Verdict
  | accepted
  | rejected (v : Violation)
  | failed (f : Fault)

/-- The grade of a verdict, or of a run. -/
inductive Status
  | accepted
  | rejected
  | failed
  deriving DecidableEq

namespace Status

/-- The exit code of a run with this status. The worse the status, the greater the code. -/
def exitCode : Status → Nat
  | accepted => 0
  | rejected => 1
  | failed => 2

/-- The worse of two. -/
def worse (s t : Status) : Status := if s.exitCode < t.exitCode then t else s

theorem exitCode_worse (s t : Status) : (worse s t).exitCode = max s.exitCode t.exitCode := by
  cases s <;> cases t <;> decide

end Status

/-- The grade of a verdict. -/
def Verdict.status : Verdict → Status
  | accepted => .accepted
  | rejected _ => .rejected
  | failed _ => .failed

/-- An output stream. -/
inductive Stream
  | out
  | err
  deriving DecidableEq

/-- A text for an output stream. -/
structure Write where
  stream : Stream
  text : String
  deriving DecidableEq

/-- A line for an output stream. -/
def Write.line (stream : Stream) (text : String) : Write := ⟨stream, text ++ "\n"⟩

/-- What is written about a verdict. That an input could not be checked is no result, and goes to
the error stream. -/
def Verdict.write (label : String) : Verdict → Write
  | accepted => .line .out (label ++ "Parsing successful.")
  | rejected v => .line .out (label ++ v.message)
  | failed f => .line .err (label ++ f.message)

/-- The fault of an input whose content cannot be read. -/
def Input.fault (input : Input) (failure : ReadFailure) : Fault :=
  match input, failure with
  | .file name _, .missing => .fileNotFound name
  | input, failure => .unreadable input.name failure

namespace Settings

/-- The dump of the tokens, followed by an empty line, if it is wanted. -/
def tokenDump (s : Settings) (tokens : List Token) : List Write :=
  if s.logFlags.tokens then [.line .err (Text.quoteList tokens ++ "\n")] else []

/-- Where the check ended, if that is wanted. -/
def positionDump (s : Settings) (r : Reader) : List Write :=
  if s.logFlags.position then
    [.line .err ("Stopped at token " ++ toString r.position ++ " of " ++ toString r.tokens.size)]
  else []

/-- The verdict on a text, with the dumps and the trace that are wanted. -/
def judgeText (s : Settings) (text : String) : List Write × Verdict :=
  let tokens := Token.ofSource text
  let (reader, verdict) : Reader × Verdict :=
    match Parse.program (Reader.ofTokens tokens s.verbose) with
    | .ok _ r => (r, .accepted)
    | .error v r => (r, .rejected v)
  (s.tokenDump tokens ++ reader.trace.toList.map (fun e => .line .err e.line) ++
    s.positionDump reader, verdict)

/-- The verdict on an input with this content, and what is written about it. -/
def judge (s : Settings) (label : String) (input : Input) (content : Except ReadFailure String) :
    List Write × Verdict :=
  let (notes, verdict) :=
    match content with
    | .ok text => s.judgeText text
    | .error failure => ([], .failed (input.fault failure))
  (notes ++ [verdict.write label], verdict)

end Settings

end StatementCheck
