/-!
# Paths

A path is a text, read as pieces between slashes. An empty piece and a piece `.` are *idle*: they
lead nowhere. Paths are kept as they were written, since they are shown to the user; only what
stands before a user's own path is worked out.

## Main definitions

* `Path.pieces` : the pieces of a path.
* `Path.join` : a path below another.
* `Directory` : an absolute directory, as the names that lead to it.
* `Path.resolve?` : a path as the user writes it, with the home directory, the current directory or
  one of its ancestors put in place of a leading `~`, `.` or `..`.
-/
namespace StatementCheck

/-- An absolute directory: the names that lead to it from the root. -/
abbrev Directory := List String

/-- The path of a directory. -/
def Directory.path (d : Directory) : String := "/" ++ "/".intercalate d

namespace Path

/-- Put one more character in front of the pieces of what follows it. -/
def addChar (c : Char) (pieces : List (List Char)) : List (List Char) :=
  if c = '/' then [] :: pieces
  else
    match pieces with
    | [] => [[c]]
    | p :: ps => (c :: p) :: ps

/-- The pieces of a path, between its slashes. The empty path has one, empty piece. -/
def pieces (path : String) : List String :=
  (path.toList.foldr addChar [[]]).map String.ofList

/-- Does a piece lead nowhere? -/
def isIdle (piece : String) : Bool := piece = "" || piece = "."

/-- Is the path absolute? -/
def isAbsolute (path : String) : Bool := path.toList.head? = some '/'

/-- A path below another. A slash is put between the two unless one is there already; an absolute
path stands for itself. -/
def join (base path : String) : String :=
  if isAbsolute path then path
  else if base = "" || base.toList.getLast? = some '/' then base ++ path
  else base ++ "/" ++ path

/-- The pieces without the idle ones at their end. -/
def dropIdleEnd (pieces : List String) : List String :=
  (pieces.reverse.dropWhile isIdle).reverse

/-- The path written by some pieces, without the idle ones at either edge. Idle pieces between two
others stay. -/
def trimmed (pieces : List String) : String :=
  "/".intercalate (dropIdleEnd (pieces.dropWhile isIdle))

/-- Go up one directory for each leading `..`. What is left are the first directory not left, and
the pieces from the first one that is neither idle nor `..` on. There is no way up from the root. -/
def climb? (d : Directory) : List String → Option (Directory × List String)
  | [] => some (d, [])
  | p :: ps =>
    if isIdle p then climb? d ps
    else if p = ".." then if d = [] then none else climb? d.dropLast ps
    else some (d, p :: ps)

/-- A path as the user writes it, made ready for use. A first piece `~` stands for the home
directory, `.` for the current one; leading pieces `..` climb from the current one. Any other path
is left as it is. None if there is no home directory, or nothing left to climb to. -/
def resolve? (home : Option String) (current : Directory) (path : String) : Option String :=
  match pieces path with
  | "~" :: rest => home.map (join · (trimmed rest))
  | "." :: rest => some (join current.path (trimmed rest))
  | ".." :: rest => (climb? current (".." :: rest)).map fun (d, rest) => join d.path (trimmed rest)
  | _ => some path

end Path

end StatementCheck
