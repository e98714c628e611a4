import StatementCheck.Host

/-!
# Faults

Why an input cannot be checked at all, as opposed to a violation found by checking it. What a
library says is wrong is kept in its own words.

## Main definitions

* `Fault` : why an input cannot be checked.
* `Fault.message` : the text shown to the user.
-/
namespace StatementCheck

/-- Why an input cannot be checked. -/
inductive Fault
  /-- An input does not exist. -/
  | fileNotFound (name : String)
  /-- A file or directory cannot be read. -/
  | unreadable (name : String) (failure : ReadFailure)
  /-- A path as the user writes it stands for none. -/
  | unresolved (path : String)
  /-- A config that was asked for does not exist. -/
  | configNotFound (path : String)
  /-- A config is flawed. -/
  | config (path words : String)
  /-- A pattern is flawed. -/
  | pattern (written words : String)
  /-- A pattern finds nothing. -/
  | noMatches (source : String)

/-- The message of a fault. -/
def Fault.message : Fault → String
  | fileNotFound name => "File not found: " ++ name
  | unreadable name failure => "Failed to read " ++ name ++ ": " ++ failure.text
  | unresolved path => "Failed to resolve path " ++ path ++ ": entity not found"
  | configNotFound path => "Config file not found: " ++ path
  | config path words => "Invalid config " ++ path ++ ": " ++ words
  | pattern written words => "Invalid glob pattern " ++ written ++ ": " ++ words
  | noMatches source => "No files match " ++ source

end StatementCheck
