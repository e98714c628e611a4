import StatementCheck.Fault
import StatementCheck.Toml.Record

/-!
# Configs

A config is a TOML document with at most three keys: `inputs`, `verbose` and `log_flags`. A key that
is absent has its default; no other key may be there.

## Main definitions

* `Config` : what a config says.
* `Config.declaration` : the keys of a config, as the fields of a record.
* `Config.ofToml` : the config in a document.
-/
namespace StatementCheck

open Toml

/-- What a config says. -/
structure Config where
  /-- Sources for a command line that has none. -/
  inputs : List String
  /-- Is a trace wanted? -/
  verbose : Bool
  /-- Log flags for a command line that has none. -/
  logFlags : Option String
  deriving DecidableEq

namespace Config

/-- The config of an empty document. -/
def default : Config := ⟨[], false, none⟩

/-- The key for sources. -/
def inputsField : Toml.Field Config := ⟨"inputs", .strings, fun ss c => { c with inputs := ss }⟩

/-- The key for a trace. -/
def verboseField : Toml.Field Config := ⟨"verbose", .boolean, fun b c => { c with verbose := b }⟩

/-- The key for log flags. -/
def logFlagsField : Toml.Field Config :=
  ⟨"log_flags", .string, fun s c => { c with logFlags := some s }⟩

/-- A config as a record. -/
def declaration : Declaration Config := ⟨default, [inputsField, verboseField, logFlagsField]⟩

/-- The config in a document that is found at a path. -/
def ofToml (toml : Toml.Reading) (path document : String) : Except Fault Config :=
  (toml.read declaration document).mapError (Fault.config path)

end Config

end StatementCheck
