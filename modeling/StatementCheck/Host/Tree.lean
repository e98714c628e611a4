import StatementCheck.Host

/-!
# File trees

A file tree is a value. A host over a tree answers at once, without effects; the laws of a check are
stated on such hosts.

## Main definitions

* `Tree` : a file or a directory.
* `Tree.insert` : a tree with one more file or directory in it.
* `Tree.find` : what a path leads to.
* `Host.ofTree` : the host over a tree.
-/
namespace StatementCheck

/-- A file with its content, or a directory with its entries by name. -/
inductive Tree
  | file (content : ByteArray)
  | directory (entries : List (String × Tree))

namespace Tree

/-- The entries of a directory; a file has none. -/
def entries : Tree → List (String × Tree)
  | file _ => []
  | directory es => es

/-- A tree with one more thing in it, at the end of some names. Directories on the way are made as
needed; a directory put where one is already changes nothing. -/
def insert (t : Tree) (new : Tree) : List String → Tree
  | [] =>
    match t, new with
    | directory es, directory [] => directory es
    | _, _ => new
  | name :: rest =>
    let old := (t.entries.lookup name).getD (directory [])
    directory ((name, old.insert new rest) :: t.entries.filter fun e => e.1 ≠ name)

/-- The longest name that a directory can hold, in bytes. -/
def maxName : Nat := 255

/-- The longest path that can be asked for, in bytes. -/
def maxPath : Nat := 4095

/-- Follow pieces of a path from a tree inside the directories `above`, nearest first. -/
def follow (above : List Tree) (t : Tree) : List String → Except ReadFailure Tree
  | [] => .ok t
  | p :: ps =>
    match t with
    | file _ => .error .notDirectory
    | directory es =>
      if Path.isIdle p then follow above t ps
      else if p = ".." then
        match above with
        | [] => follow [] t ps
        | up :: above => follow above up ps
      else if maxName < p.utf8ByteSize then .error .nameTooLong
      else
        match es.lookup p with
        | none => .error .missing
        | some child => follow (t :: above) child ps

/-- What a path leads to, read from a current directory unless it is absolute. -/
def find (root : Tree) (current : Directory) (path : String) : Except ReadFailure Tree :=
  if path.toList.contains '\x00' then .error .badName
  else if path = "" then .error .missing
  else if maxPath < path.utf8ByteSize then .error .nameTooLong
  else if Path.isAbsolute path then follow [] root (Path.pieces path)
  else follow [] root (current ++ Path.pieces path)

/-- What kind of thing a tree is. -/
def kind : Tree → Kind
  | file _ => .file
  | directory _ => .directory

end Tree

/-- The host over a file tree. -/
def Host.ofTree (root : Tree) (home : Option String) (current : Directory) (input : ByteArray) :
    Host Id where
  home := home
  current := current
  kind? path := (root.find current path).toOption.map Tree.kind
  names path :=
    match root.find current path with
    | .error e => .error e
    | .ok (.file _) => .error .notDirectory
    | .ok (.directory es) => .ok (es.map (·.1))
  read path :=
    match root.find current path with
    | .error e => .error e
    | .ok (.file content) => .ok content
    | .ok (.directory _) => .error .isDirectory
  input := .ok input

end StatementCheck
