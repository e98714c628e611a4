import StatementCheck.Verdict

/-!
# Runs

A run works out its settings, and then checks the inputs one after the other. If the settings cannot
be worked out nothing is read and nothing is checked.

## Main definitions

* `Report` : all that a run writes, and its status.
* `Settings.checkAll` : the report on the inputs.
* `run` : the report on a command line.
-/
namespace StatementCheck

variable {m : Type → Type} [Monad m]

/-- What a run writes, in order, and how it ends. -/
structure Report where
  writes : List Write
  status : Status

namespace Report

/-- The report on no input. -/
def empty : Report := ⟨[], .accepted⟩

/-- A report, and then another. The worse status counts. -/
def append (r s : Report) : Report := ⟨r.writes ++ s.writes, r.status.worse s.status⟩

/-- All that is written to a stream. -/
def text (r : Report) (stream : Stream) : String :=
  String.join ((r.writes.filter fun w => w.stream = stream).map Write.text)

end Report

/-- The content of an input. Standard input is read to its end by the first input that it is, and is
empty for a later one. This takes it that the first reading leaves nothing behind even if it fails,
as it does when what it reads is no text. -/
def Host.content (host : Host m) (inputRead : Bool) : Input → m (Except ReadFailure String)
  | .stdin => if inputRead then pure (.ok "") else host.inputText
  | .file _ path => host.readText path

namespace Settings

/-- What stands before the message about an input: its name, unless it is the only one. -/
def label (s : Settings) (input : Input) : String :=
  if 1 < s.inputs.length then input.name ++ ": " else ""

/-- The report on some of the inputs. -/
def checkFrom (s : Settings) (host : Host m) (inputRead : Bool) : List Input → m Report
  | [] => pure .empty
  | input :: rest => do
    let content ← host.content inputRead input
    let (writes, verdict) := s.judge (s.label input) input content
    let later ← s.checkFrom host (inputRead || input = .stdin) rest
    return Report.append ⟨writes, verdict.status⟩ later

/-- The report on the inputs. -/
def checkAll (s : Settings) (host : Host m) : m Report := s.checkFrom host false s.inputs

end Settings

/-- The report on a run that could not begin. -/
def Report.fatal (f : Fault) : Report := ⟨[.line .err ("Fatal: " ++ f.message)], .failed⟩

/-- The report on a command line. -/
def run (lib : Library) (host : Host m) (options : Options) : m Report := do
  match ← (Settings.prepare lib host options).run with
  | .ok settings => settings.checkAll host
  | .error f => return .fatal f

end StatementCheck
