import StatementCheck.Fault
import StatementCheck.Library

/-!
# Inputs

An input is what one check reads: standard input or a file. A source that the user names stands for
one input or, if it is a pattern, for all files and directories that the pattern finds.

## Main definitions

* `Input` : what one check reads.
* `Host.resolve` : a path as the user writes it, made ready for use.
* `Host.expand` : the inputs that a source stands for.
-/
namespace StatementCheck

/-- What one check reads. A file has the name by which it is shown, and its path. -/
inductive Input
  | stdin
  | file (name path : String)
  deriving DecidableEq

namespace Input

/-- The source that stands for standard input. -/
def stdinName : String := "-"

/-- The name by which an input is shown. -/
def name : Input → String
  | stdin => stdinName
  | file name _ => name

end Input

namespace Host

variable {m : Type → Type} [Monad m]

/-- A path as the user writes it, made ready for use. -/
def resolve (host : Host m) (path : String) : Except Fault String :=
  match Path.resolve? host.home host.current path with
  | some resolved => .ok resolved
  | none => .error (.unresolved path)

/-- The fault that a failed search for a pattern is. -/
def faultOfTrouble (pattern : String) : Glob.Trouble → Fault
  | .flawed words => .pattern pattern words
  | .unreadable path failure => .unreadable path failure

/-- The inputs that a source stands for. A file whose name has wildcards in it is taken as it is. -/
def expand (lib : Library) (host : Host m) (source : String) : ExceptT Fault m (List Input) := do
  if source = Input.stdinName then return [.stdin]
  let path ← MonadExcept.ofExcept (host.resolve source)
  if !Glob.isPattern source || (← host.isFile path) then return [.file source path]
  let found ← ExceptT.adapt (faultOfTrouble path) (lib.search host path)
  if found.isEmpty then throw (.noMatches source)
  return found.map fun path => .file path path

end Host

end StatementCheck
