import StatementCheck.Glob.Pattern
import StatementCheck.Host

/-!
# Finding what a pattern matches

A pattern is matched piece by piece along the directories of a host. What is found is ordered:
within a directory by the bytes of the names, and a directory before what is inside it. A piece
without wildcards is not compared with the names in a directory but simply looked up, so it can also
be `.` or `..`; a piece with wildcards finds those two only if it begins with a dot.

## Main definitions

* `Glob.Piece` : the part of a pattern between two slashes.
* `Glob.Walk` : a search, which may fail on a directory that cannot be read.
* `Glob.below` : what some pieces find below a directory.
* `Glob.search` : what a pattern finds.
-/
namespace StatementCheck.Glob

/-- The part of a pattern between two slashes. -/
abbrev Piece := List Atom

/-- Does the piece stand for any number of directories? -/
def Piece.isDeep (p : Piece) : Bool := p.contains .deep

/-- The character that an atom stands for if it is no wildcard. -/
def Atom.char? : Atom → Option Char
  | char c => some c
  | _ => none

/-- The name that a piece without wildcards stands for. -/
def Piece.literal? (p : Piece) : Option String := (p.mapM Atom.char?).map String.ofList

/-- The names that every directory has for itself and for the one above it. -/
def isSelfOrUp (name : String) : Bool := name = "." || name = ".."

/-- Does the path stand for the current directory itself? -/
def isHere (path : String) : Bool :=
  match Path.pieces path with
  | "." :: rest => rest.all Path.isIdle
  | _ => false

/-- The path of a name in a directory. The current directory is not written. -/
def child (path name : String) : String :=
  if isHere path then name else Path.join path name

/-- Why a search fails. -/
inductive Trouble
  /-- The pattern is flawed, in these words. -/
  | flawed (words : String)
  /-- A directory cannot be read. -/
  | unreadable (path : String) (failure : ReadFailure)

/-- A search on a host that answers in `m`. -/
abbrev Walk (m : Type → Type) := ExceptT Trouble m

section
variable {m : Type → Type} [Monad m] (host : Host m) (needsDirectory : Bool)

/-- The names in a directory, ordered by their bytes. -/
def sortedNames (path : String) : Walk m (List String) := do
  match ← host.names path with
  | .error failure => throw (.unreadable path failure)
  | .ok names => return names.mergeSort fun a b => !decide (b < a)

/-- Go on to a path with the pieces that are left. If none are left the path is found, unless only
directories are wanted and it is none. -/
def reach (goOn : List Piece → String → Walk m (List String)) (rest : List Piece) (path : String) :
    Walk m (List String) := do
  if rest.isEmpty then
    if needsDirectory && !(← host.isDirectory path) then return [] else return [path]
  else goOn rest path

/-- Match a name in a directory with the first of some pieces, and go on with the others. -/
def reachNamed (goOn : List Piece → String → Walk m (List String)) (pieces : List Piece)
    (path name : String) : Walk m (List String) :=
  match pieces with
  | [] => return []
  | p :: rest => if accepts p name then reach host needsDirectory goOn rest path else return []

/-- Visit a name in a directory. A deep piece stands for no directory here, so that the next pieces
have to match the name, and also for whatever is inside. With nothing after it, it finds directories
only. -/
def visit (goOn : List Piece → String → Walk m (List String)) (p : Piece) (rest : List Piece)
    (path name : String) : Walk m (List String) := do
  if p.isDeep then
    let rest := rest.dropWhile Piece.isDeep
    let inside ← host.isDirectory path
    let here ←
      if rest.isEmpty then pure (if inside then [path] else [])
      else reachNamed host needsDirectory goOn rest path name
    let deeper ← if inside then goOn (p :: rest) path else pure []
    return here ++ deeper
  else reachNamed host needsDirectory goOn (p :: rest) path name

/-- What some pieces find below a directory, at most `depth` levels down. -/
def below (depth : Nat) (pieces : List Piece) (path : String) : Walk m (List String) :=
  match depth, pieces with
  | 0, _ => return []
  | _, [] => return []
  | depth + 1, p :: rest => do
    let goOn := below depth
    match p.literal? with
    | some name =>
      let next := child path name
      let there ← if isSelfOrUp name then host.isDirectory path else host.exists? next
      if there then reach host needsDirectory goOn rest next else return []
    | none =>
      unless ← host.isDirectory path do return []
      let names ← sortedNames host path
      let dots := if p.head? = some (.char '.') then ["..", "."].filter (accepts p) else []
      let first ← dots.mapM fun name => reach host needsDirectory goOn rest (Path.join path name)
      let later ← names.mapM fun name =>
        visit host needsDirectory goOn p rest (child path name) name
      return (first ++ later).flatten

end

/-- The pieces of a pattern and the directory where they begin. A slash at the end begins no piece.
-/
def piecesOf (pattern : String) : Except Error (String × List Piece) := do
  let absolute := Path.isAbsolute pattern
  let texts := Path.pieces (if absolute then String.ofList pattern.toList.tail else pattern)
  let texts := if texts.getLast? = some "" then texts.dropLast else texts
  let pieces ← texts.mapM parse
  if absolute then return ("/", if pieces.isEmpty then [[]] else pieces) else return (".", pieces)

/-- A bound on how far down a search goes. Each level makes the path longer by a character at least,
and no path of this many bytes leads anywhere on the machines that this is for; on a host that knows
longer paths, `**` would find too little. -/
def maxDepth : Nat := 4096

/-- What a pattern finds. A pattern that ends in a slash finds directories only. -/
def search {m : Type → Type} [Monad m] (host : Host m) (pattern : String) : Walk m (List String) :=
  match parse pattern *> piecesOf pattern with
  | .error e => throw (.flawed e.text)
  | .ok (start, pieces) =>
    below host (pattern.toList.getLast? = some '/') (maxDepth + pieces.length) pieces start

end StatementCheck.Glob
