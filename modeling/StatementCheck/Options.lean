import StatementCheck.Arguments
import StatementCheck.LogFlags

/-!
# The command line

What the user asks for. The command has three options and takes sources as its operands. How a
command line is read is left to a library, which is told the names of the options and which of them
want a value.

## Main definitions

* `Options` : what the user asks for.
* `Options.command` : the options of the command.
* `Options.ofArguments` : what a command line asks for.
-/
namespace StatementCheck

/-- What the user asks for. -/
structure Options where
  /-- Files, patterns, or `-` for standard input. -/
  sources : List String
  /-- The config file, if one is named. -/
  config : Option String
  /-- Is a trace wanted? -/
  verbose : Bool
  /-- The extra dumps, if they are given. -/
  logFlags : Option LogFlags
  deriving DecidableEq

namespace Options

/-- The option that names the config file. -/
def configOpt : Opt := ⟨'c', "config", true⟩

/-- The option that asks for a trace. -/
def verboseOpt : Opt := ⟨'v', "verbose", false⟩

/-- The option that asks for dumps. -/
def logFlagsOpt : Opt := ⟨'f', "log-flags", true⟩

/-- The options of the command. -/
def command : Arguments.Command := [configOpt, verboseOpt, logFlagsOpt]

/-- What the user asks for, by what the command line gives. -/
def ofMatches (m : Arguments.Matches) : Options :=
  ⟨m.operands, m.value? configOpt.long, m.isOn verboseOpt.long,
    (m.value? logFlagsOpt.long).map LogFlags.ofText⟩

/-- What a command line, without the name of the program, asks for, if command lines are read in
this way. -/
def ofArguments (read : Arguments.Reading) (arguments : List String) : Except Refusal Options :=
  (read command arguments).map ofMatches

end Options

end StatementCheck
