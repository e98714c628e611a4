import StatementCheck.Arguments
import StatementCheck.Glob.Walk
import StatementCheck.Toml.Record

/-!
# Libraries

The reading of command lines, the reading of TOML documents and the search for patterns are no part
of what a check is, and any library may provide them. The program runs on a library of its own; its
laws are stated for every library, with what a law needs of the library as a hypothesis.

## Main definitions

* `Library` : what a library provides.
* `Library.own` : the library that the program runs on.
-/
namespace StatementCheck

/-- What a library provides. -/
structure Library where
  /-- The reading of command lines. -/
  arguments : Arguments.Reading
  /-- The reading of TOML documents. -/
  toml : Toml.Reading
  /-- The paths that a pattern finds on a host, up to the first trouble. -/
  search : {m : Type → Type} → [Monad m] → Host m → String → Glob.Walk m (List String)

/-- The library that the program runs on. -/
def Library.own : Library where
  arguments := Arguments.scan
  toml := Toml.reading
  search := Glob.search

end StatementCheck
