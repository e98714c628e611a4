import StatementCheck.Text.Quoted
import StatementCheck.Toml.Document

/-!
# Records in TOML documents

A document is read as a record by a declaration of the fields that the record has. A field that the
document does not have keeps what it has at the start; a key that is no field is refused, and so is
a value that does not fit its field.

How documents are read is left to a library. What a library offers is a `Reading`; there is one
here that reads documents with `Toml.parse`.

## Main definitions

* `Toml.Shape`, `Toml.Field`, `Toml.Declaration` : records that documents can be read as.
* `Toml.Reading` : what a library offers.
* `Toml.Flaw` : what can be wrong with a document.
* `Toml.reading` : the reading by `Toml.parse`.
-/
namespace StatementCheck.Toml

/-- What the fields of records can hold. -/
inductive Shape
  | strings
  | boolean
  | string
  deriving DecidableEq

namespace Shape

/-- What a field of a shape holds. -/
@[reducible]
def Holds : Shape → Type
  | strings => List String
  | boolean => Bool
  | string => String

/-- The value that says what a field holds. -/
def toValue : (s : Shape) → s.Holds → Value
  | strings, ss => .array (ss.map .string)
  | boolean, b => .boolean b
  | string, s => .string s

/-- The words for what a field asks for. -/
def text : Shape → String
  | strings => "a sequence"
  | boolean => "a boolean"
  | string => "a string"

end Shape

/-- A field of a record. -/
structure Field (σ : Type) where
  name : String
  shape : Shape
  /-- The record with something in this field. -/
  set : shape.Holds → σ → σ

/-- A record that documents can be read as: what it is at the start, and its fields. -/
structure Declaration (σ : Type) where
  start : σ
  fields : List (Field σ)

/-- The names of the fields. -/
def Declaration.names {σ : Type} (d : Declaration σ) : List String := d.fields.map Field.name

/-- What a library for TOML offers. -/
structure Reading where
  /-- What can be wrong with a document. -/
  Error : Type
  /-- The words for what is wrong with a document. -/
  text : String → Error → String
  /-- The entries of the table that a document stands for. -/
  parse : String → Except Error Entries
  /-- The record that some entries make up. -/
  record : {σ : Type} → Declaration σ → Entries → Except Error σ

/-- A document as a record, or the words for what is wrong with it. -/
def Reading.read {σ : Type} (toml : Reading) (d : Declaration σ) (document : String) :
    Except String σ :=
  (toml.parse document >>= toml.record d).mapError (toml.text document)

/-! ## A reading -/

/-- What is wrong with a document as a record. -/
inductive Flaw
  /-- It is no valid TOML. -/
  | notToml
  | unknownKey (key : String) (names : List String)
  | wrongType (found : Value) (want : Shape)

/-- The words for a value. -/
def describe : Value → String
  | .string s => "string " ++ Text.quote s
  | .integer n => "integer `" ++ toString n ++ "`"
  | .float x => "floating point `" ++ x.text ++ "`"
  | .boolean b => "boolean `" ++ toString b ++ "`"
  | .array _ => "sequence"
  | .tables _ => "sequence"
  | .moment => "map"
  | .table _ _ => "map"

/-- The words for what is wrong. -/
def Flaw.text : Flaw → String
  | notToml => "not a TOML document"
  | unknownKey key names =>
    "unknown field `" ++ key ++ "`, expected one of " ++
      ", ".intercalate (names.map fun name => "`" ++ name ++ "`")
  | wrongType found want => "invalid type: " ++ describe found ++ ", expected " ++ want.text

/-- A value as a text. -/
def asString : Value → Except Flaw String
  | .string s => .ok s
  | v => .error (.wrongType v .string)

/-- A value as what a field holds. -/
def Shape.read : (s : Shape) → Value → Except Flaw s.Holds
  | strings, .array vs => vs.mapM asString
  | strings, .tables vs => vs.mapM asString
  | strings, v => .error (.wrongType v .strings)
  | boolean, .boolean b => .ok b
  | boolean, v => .error (.wrongType v .boolean)
  | string, v => asString v

section

variable {σ : Type}

/-- Read an entry into a record. -/
def Declaration.enter (d : Declaration σ) (r : σ) (e : String × Value) : Except Flaw σ :=
  match d.fields.find? fun f => f.name = e.1 with
  | none => .error (.unknownKey e.1 d.names)
  | some f => (f.shape.read e.2).map fun x => f.set x r

/-- The record that some entries make up, read in order; the first flaw is reported. -/
def record (d : Declaration σ) (entries : Entries) : Except Flaw σ := entries.foldlM d.enter d.start

end

/-- The reading of documents by `parse`. -/
def reading : Reading where
  Error := Flaw
  text _ flaw := flaw.text
  parse document :=
    match parse document with
    | none => .error .notToml
    | some entries => .ok entries
  record := record

end StatementCheck.Toml
