import StatementCheck.Run

/-!
# The program

The outer layer: the machine as a host, the command line, and the output streams. Everything that is
decided is decided elsewhere.
-/
namespace StatementCheck.Main

/-- The number and the words of the operating system for an error, if they are known. -/
def detail? : IO.Error → Option (UInt32 × String)
  | .alreadyExists _ code words => some (code, words)
  | .otherError code words => some (code, words)
  | .resourceBusy code words => some (code, words)
  | .resourceVanished code words => some (code, words)
  | .unsupportedOperation code words => some (code, words)
  | .hardwareFault code words => some (code, words)
  | .unsatisfiedConstraints code words => some (code, words)
  | .illegalOperation code words => some (code, words)
  | .protocolError code words => some (code, words)
  | .timeExpired code words => some (code, words)
  | .interrupted _ code words => some (code, words)
  | .noFileOrDirectory _ code words => some (code, words)
  | .invalidArgument _ code words => some (code, words)
  | .permissionDenied _ code words => some (code, words)
  | .resourceExhausted _ code words => some (code, words)
  | .inappropriateType _ code words => some (code, words)
  | .noSuchThing _ code words => some (code, words)
  | .unexpectedEof => none
  | .userError _ => none

/-- The number of an error, which some operations give with its sign changed. -/
def errorNumber (code : UInt32) : Nat := min code.toNat (0 - code).toNat

/-- An error of the operating system as a failure to read. -/
def failureOf (e : IO.Error) : ReadFailure :=
  match detail? e with
  | none => .other (toString e)
  | some (code, words) =>
    match errorNumber code with
    | 2 => .missing
    | 20 => .notDirectory
    | 21 => .isDirectory
    | 36 => .nameTooLong
    | n => .other (words ++ " (os error " ++ toString n ++ ")")

/-- Carry out an action, with an error of the operating system as a failure to read. -/
def attempt {α : Type} (action : IO α) : IO (Except ReadFailure α) := do
  try
    return .ok (← action)
  catch e =>
    return .error (failureOf e)

/-- What is left of a stream. -/
partial def drain (stream : IO.FS.Stream) (read : ByteArray) : IO ByteArray := do
  let chunk ← stream.read 65536
  if chunk.isEmpty then return read else drain stream (read ++ chunk)

/-- The kind of thing that a path leads to. -/
def kindOf (path : String) : IO (Option Kind) := do
  let place : IO.FS.DirEntry := { root := path, fileName := "" }
  match ← attempt place.root.metadata with
  | .error _ => return none
  | .ok found =>
    match found.type with
    | .file => return some .file
    | .dir => return some .directory
    | _ => return some .other

/-- The names in a directory. -/
def namesIn (path : String) : IO (List String) := do
  let place : IO.FS.DirEntry := { root := path, fileName := "" }
  return (← place.root.readDir).toList.map fun e => e.fileName

/-- The machine that the program runs on. -/
def machine : IO (Host IO) := do
  let current := (← IO.currentDir).toString
  let input ← IO.getStdin
  return {
    home := (← IO.getEnv "HOME").filter fun path => path ≠ ""
    current := (Path.pieces current).filter fun p => !Path.isIdle p
    kind? := kindOf
    names := fun path => attempt (namesIn path)
    read := fun path => attempt (IO.FS.readBinFile path)
    input := attempt (drain input .empty) }

/-- How the program is used. -/
def usage : String :=
  "Usage: statement-check [OPTIONS] [SOURCES]...\n\n" ++
  "Checks whitespace-separated token files against the statement grammar.\n\n" ++
  "Sources are files, glob patterns, or - for standard input.\n\n" ++
  "  -c, --config <CONFIG>        a TOML config file (default: descent.toml, if it exists)\n" ++
  "  -v, --verbose                trace every token that is consumed\n" ++
  "  -f, --log-flags <LOG_FLAGS>  k: list the tokens, p: show the final position\n" ++
  "  -h, --help                   show this text\n" ++
  "  -V, --version                show the version\n"

/-- What is shown for a refused command line. -/
def explain : Refusal → Write
  | .help => ⟨.out, usage⟩
  | .version => .line .out "statement-check 1.0.0"
  | .unknownArgument => ⟨.err, "error: unexpected argument\n\n" ++ usage⟩
  | .missingValue => ⟨.err, "error: a value is required\n\n" ++ usage⟩
  | .conflict => ⟨.err, "error: an option is given twice\n\n" ++ usage⟩
  | .surplusValue => ⟨.err, "error: a value is not wanted\n\n" ++ usage⟩

/-- Write a text to its stream. -/
def emit (w : Write) : IO Unit :=
  match w.stream with
  | .out => IO.print w.text
  | .err => IO.eprint w.text

end StatementCheck.Main

/-- Check what the command line asks for. -/
def main (arguments : List String) : IO UInt32 := do
  match StatementCheck.Options.ofArguments StatementCheck.Library.own.arguments arguments with
  | .error refusal =>
    StatementCheck.Main.emit (StatementCheck.Main.explain refusal)
    return refusal.exitCode.toUInt32
  | .ok options =>
    let report ← StatementCheck.run .own (← StatementCheck.Main.machine) options
    report.writes.forM StatementCheck.Main.emit
    return report.status.exitCode.toUInt32
