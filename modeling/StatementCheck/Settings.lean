import StatementCheck.Config
import StatementCheck.Input
import StatementCheck.Options

/-!
# Settings

What a run does, worked out from the command line and the config before anything is checked. What
the command line says wins over the config.

## Main definitions

* `Config.load` : the config that a run uses.
* `Settings` : what a run does.
* `Settings.resolve` : the settings of a command line and a config.
* `Settings.prepare` : the settings of a command line on a host.
-/
namespace StatementCheck

variable {m : Type → Type} [Monad m] (lib : Library)

/-- The config that is used if none is named and this one exists. -/
def Config.defaultPath : String := "descent.toml"

/-- The input that is checked if neither the command line nor the config names one. -/
def Settings.defaultSource : String := "input.txt"

/-- The config that a run uses. One that is named has to exist; without a name the default one need
not. -/
def Config.load (host : Host m) (named : Option String) : ExceptT Fault m Config := do
  let path ←
    match named with
    | some path => MonadExcept.ofExcept (host.resolve path)
    | none => pure Config.defaultPath
  match ← host.readText path with
  | .ok document => MonadExcept.ofExcept (Config.ofToml lib.toml path document)
  | .error .missing => if named.isSome then throw (.configNotFound path) else return .default
  | .error failure => throw (.unreadable path failure)

/-- What a run does. -/
structure Settings where
  inputs : List Input
  /-- Is a trace wanted? -/
  verbose : Bool
  logFlags : LogFlags

namespace Settings

/-- The sources that a run checks. -/
def sources (options : Options) (config : Config) : List String :=
  if !options.sources.isEmpty then options.sources
  else if !config.inputs.isEmpty then config.inputs
  else [defaultSource]

/-- The log flags of a run. -/
def flags (options : Options) (config : Config) : LogFlags :=
  match options.logFlags with
  | some flags => flags
  | none => (config.logFlags.map LogFlags.ofText).getD .off

/-- The settings of a command line and a config. The first source that stands for nothing is
reported. -/
def resolve (host : Host m) (options : Options) (config : Config) : ExceptT Fault m Settings := do
  let inputs ← (sources options config).mapM (host.expand lib)
  return ⟨inputs.flatten, options.verbose || config.verbose, flags options config⟩

/-- The settings of a command line on a host. -/
def prepare (host : Host m) (options : Options) : ExceptT Fault m Settings := do
  resolve lib host options (← Config.load lib host options.config)

end Settings

end StatementCheck
