import StatementCheck.Toml.Moment
import StatementCheck.Toml.Number

/-!
# TOML documents

A document is a sequence of lines: entries, and headers that say which table the entries after them
belong to.

## Main definitions

* `Toml.value` : a value.
* `Toml.Line`, `Toml.lines?` : the lines of a document.
* `Toml.Builder` : the table as far as its lines have been read.
* `Toml.parse` : the table that a document stands for.
-/
namespace StatementCheck.Toml

/-! ## Keys -/

/-- The characters of a bare key. -/
def isBare (c : Char) : Bool := c.isAlphanum || c = '-' || c = '_'

/-- One part of a key, with the blanks around it. -/
def keyPart : Scan String := fun cs =>
  let cs := skipBlanks cs
  match cs.takeWhile isBare with
  | [] => (shortText cs).map fun (s, rest) => (s, skipBlanks rest)
  | bare => some (String.ofList bare, skipBlanks (cs.dropWhile isBare))

/-- A limit on the parts of a key, and on the brackets and braces around a value. -/
def nestingLimit : Nat := 80

/-- A key: the path to its table and its last part. -/
def key : Scan (List String × String) := fun cs => do
  let (parts, rest) ← separated keyPart '.' cs
  if parts.length < nestingLimit then return ((parts.dropLast, parts.getLast?.getD ""), rest)
  else none

/-! ## Values -/

/-- A value without parts. -/
def scalar : Scan Value := fun cs =>
  match cs with
  | 't' :: 'r' :: 'u' :: 'e' :: rest => some (.boolean true, rest)
  | 'f' :: 'a' :: 'l' :: 's' :: 'e' :: rest => some (.boolean false, rest)
  | cs =>
    match text cs with
    | some (s, rest) => some (.string s, rest)
    | none =>
      match moment cs with
      | some rest => some (.moment, rest)
      | none => number cs

/-- The elements of an array up to its closing bracket. A comma may follow the last. -/
def elements (item : Scan Value) (cs : List Char) : Option (List Value × List Char) :=
  match skipLines false cs with
  | some (']' :: rest) => some ([], rest)
  | some start =>
    match item start with
    | none => none
    | some (v, rest) =>
      match skipLines false rest with
      | some (',' :: rest) =>
        if rest.length < cs.length then
          (elements item rest).map fun (vs, rest) => (v :: vs, rest)
        else none
      | some (']' :: rest) => some ([v], rest)
      | _ => none
  | none => none
termination_by cs.length

/-- An entry: the path to its table, the last part of its key, and its value. -/
def entry (item : Scan Value) : Scan (List String × String × Value) := fun cs => do
  let ((path, last), rest) ← key cs
  let rest ← mark '=' rest
  let (v, rest) ← item (skipBlanks rest)
  return ((path, last, v), skipBlanks rest)

/-- The entries of an inline table up to its closing brace. -/
def inlineEntries (item : Scan Value) : Scan (List (List String × String × Value)) := fun cs =>
  match skipBlanks cs with
  | '\x7d' :: rest => some ([], rest)
  | cs => do
    let (entries, rest) ← separated (entry item) ',' cs
    return (entries, ← mark '\x7d' rest)

/-- The inline table with some entries. -/
def inlineTable? (entries : List (List String × String × Value)) : Option Value :=
  (entries.foldlM (fun t e => Table.enter e.1 e.2.1 e.2.2 t) ⟨.inline, []⟩).map Table.toValue

/-- A value with at most so many brackets and braces around its parts. -/
def value : Nat → Scan Value
  | 0, cs => scalar cs
  | depth + 1, '[' :: cs =>
    (elements (value depth) cs).map fun (vs, rest) => (.array vs, rest)
  | depth + 1, '\x7b' :: cs => do
    let (entries, rest) ← inlineEntries (value depth) cs
    return (← inlineTable? entries, rest)
  | _, cs => scalar cs

/-! ## Lines -/

/-- A line that says something. -/
inductive Line
  | entry (path : List String) (last : String) (v : Value)
  /-- A header of a table. -/
  | table (path : List String) (last : String)
  /-- A header of one more table in an array of tables. -/
  | nextTable (path : List String) (last : String)

/-- A line that says something, with its end. -/
def line : Scan Line
  | '[' :: '[' :: cs => do
    let ((path, last), rest) ← key cs
    let rest ← lineEnd (← mark ']' (← mark ']' rest))
    return (.nextTable path last, rest)
  | '[' :: cs => do
    let ((path, last), rest) ← key cs
    let rest ← lineEnd (← mark ']' rest)
    return (.table path last, rest)
  | cs => do
    let ((path, last, v), rest) ← entry (value (nestingLimit - 1)) cs
    return (.entry path last v, ← lineEnd rest)

/-- The lines that say something. -/
def lines? (cs : List Char) : Option (List Line) :=
  match skipBlanks cs with
  | [] => some []
  | '#' :: rest =>
    match newline (rest.dropWhile isPlain) with
    | some rest => if rest.length < cs.length then lines? rest else none
    | none => none
  | c :: start =>
    if c = '\n' || c = '\r' then
      match newline (c :: start) with
      | some rest => if rest.length < cs.length then lines? rest else none
      | none => none
    else
      match line (c :: start) with
      | some (l, rest) => if rest.length < cs.length then (lines? rest).map (l :: ·) else none
      | none => none
termination_by cs.length

/-! ## Building the table -/

/-- Where a table goes when its lines have been read. -/
inductive Place
  | root
  | under (path : List String) (last : String)
  /-- At the end of an array of tables. -/
  | next (path : List String) (last : String)

/-- The table of a document as far as its lines have been read: what is complete, and the table that
the next entries belong to, with its place. -/
structure Builder where
  root : Table
  place : Place
  current : Table

namespace Builder

/-- Nothing read. -/
def start : Builder := ⟨⟨.headed, []⟩, .root, ⟨.headed, []⟩⟩

/-- One more table at the end of an array of tables. -/
def pushTable (last : String) (new : List Value) (t : Table) : Option Table :=
  match t.entries.lookup last with
  | none => some (t.set last (.tables new))
  | some (.tables elements) => some (t.set last (.tables (elements ++ new)))
  | some _ => none

/-- Put the current table in its place. -/
def finish (b : Builder) : Option Table :=
  match b.place with
  | .root => some b.current
  | .under path last => b.root.edit .implied (·.add? last b.current.toValue) path
  | .next path last => b.root.edit .implied (pushTable last [b.current.toValue]) path

/-- The table at the end of a path. -/
def tableAt? (path : List String) (t : Table) : Option Table :=
  path.foldlM (fun t key =>
    match t.entries.lookup key with
    | some (.table own entries) => some ⟨own, entries⟩
    | some (.tables elements) =>
      match elements.getLast? with
      | some (.table own entries) => some ⟨own, entries⟩
      | _ => none
    | _ => none) t

/-- Begin a table with a header. A table that was only implied is taken out and goes on; any other
thing with that key is in the way. -/
def beginTable (root : Table) (path : List String) (last : String) : Option Builder := do
  let root ← root.edit .implied some path
  let parent ← tableAt? path root
  match parent.entries.lookup last with
  | none => return ⟨root, .under path last, ⟨.headed, []⟩⟩
  | some (.table .implied entries) =>
    return ⟨← root.edit .implied (fun t => some (t.erase last)) path, .under path last,
      ⟨.headed, entries⟩⟩
  | some _ => none

/-- Begin one more table of an array. -/
def beginNext (root : Table) (path : List String) (last : String) : Option Builder := do
  return ⟨← root.edit .implied (pushTable last []) path, .next path last, ⟨.headed, []⟩⟩

/-- Read a line. -/
def read (b : Builder) : Line → Option Builder
  | .entry path last v => do return { b with current := ← b.current.enter path last v }
  | .table path last => do beginTable (← b.finish) path last
  | .nextTable path last => do beginNext (← b.finish) path last

end Builder

/-- The table that some lines stand for. -/
def tableOf? (ls : List Line) : Option Table := do (← ls.foldlM Builder.read .start).finish

/-- A byte order mark at the start of a document is passed over. -/
def skipByteOrderMark (cs : List Char) : List Char :=
  match cs with
  | '\uFEFF' :: rest => rest
  | cs => cs

/-- The entries of the table that a document stands for; none if the document is not valid. -/
def parse (source : String) : Option Entries := do
  return (← tableOf? (← lines? (skipByteOrderMark source.toList))).entries

end StatementCheck.Toml
