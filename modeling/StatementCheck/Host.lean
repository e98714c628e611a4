import StatementCheck.Path

/-!
# Hosts

What a check needs of the machine that it runs on: a home directory and a current one, files, and
standard input. A host gives its answers in a monad of its own, so the same check runs on a real
machine and on a file tree that is a value.

Two limits of this: a path is a text, so that names which are no valid text do not occur and a path
is always shown as it is; and the current directory is known from the start, so that asking for it
does not fail.

## Main definitions

* `ReadFailure` : why a file cannot be read.
* `Host` : the questions that a check asks.
* `Host.readText` : a file as text.
-/
namespace StatementCheck

/-- Why a file cannot be read. -/
inductive ReadFailure
  /-- There is no such file. -/
  | missing
  | isDirectory
  /-- The path leads through something that is no directory. -/
  | notDirectory
  /-- The path, or a name in it, is longer than any name can be. -/
  | nameTooLong
  /-- The path holds a null character. -/
  | badName
  /-- The content is not valid UTF-8. -/
  | notText
  /-- Anything else, in the words of the host. -/
  | other (text : String)
  deriving DecidableEq

/-- The words for a failure. -/
def ReadFailure.text : ReadFailure → String
  | missing => "No such file or directory (os error 2)"
  | isDirectory => "Is a directory (os error 21)"
  | notDirectory => "Not a directory (os error 20)"
  | nameTooLong => "File name too long (os error 36)"
  | badName => "file name contained an unexpected NUL byte"
  | notText => "stream did not contain valid UTF-8"
  | other text => text

/-- What a path can lead to. -/
inductive Kind
  | file
  | directory
  | other
  deriving DecidableEq

/-- The questions that a check asks of the machine. -/
structure Host (m : Type → Type) where
  /-- The home directory, if there is one. -/
  home : Option String
  /-- The current directory. -/
  current : Directory
  /-- What a path leads to, if it leads anywhere. -/
  kind? : String → m (Option Kind)
  /-- The names in a directory, in any order. -/
  names : String → m (Except ReadFailure (List String))
  /-- The content of a file. -/
  read : String → m (Except ReadFailure ByteArray)
  /-- Standard input, up to its end. -/
  input : m (Except ReadFailure ByteArray)

/-- Content as text. -/
def decodeText (content : ByteArray) : Except ReadFailure String :=
  match String.fromUTF8? content with
  | some text => .ok text
  | none => .error .notText

namespace Host

variable {m : Type → Type} [Monad m]

/-- A file as text. -/
def readText (host : Host m) (path : String) : m (Except ReadFailure String) := do
  return (← host.read path).bind decodeText

/-- Standard input as text. -/
def inputText (host : Host m) : m (Except ReadFailure String) := do
  return (← host.input).bind decodeText

/-- Does a path lead to a file? -/
def isFile (host : Host m) (path : String) : m Bool := do
  return (← host.kind? path) = some .file

/-- Does a path lead to a directory? -/
def isDirectory (host : Host m) (path : String) : m Bool := do
  return (← host.kind? path) = some .directory

/-- Does a path lead anywhere? -/
def exists? (host : Host m) (path : String) : m Bool := do
  return (← host.kind? path).isSome

end Host

end StatementCheck
