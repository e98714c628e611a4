import Mathlib.Data.List.Forall2
import StatementCheck.Library
import StatementCheck.Proofs.Keeping
import StatementCheck.Proofs.Spelling

/-!
# What a library makes of documents

A document with one line for each of some keys stands for the values that are written in it, and a
line for a key puts that key in the table, whatever is behind its equals sign. A record takes up the
entries for its fields and refuses any other. This is what the laws of configs ask of a library that
reads TOML; the program's own library does so.

## Main definitions

* `Toml.Denotes`, `Toml.LinesSay` : the written forms of values, and lines that say some entries.
* `Toml.Setting` : a field of a record with what it is to hold.
* `Toml.Rules` : the rules by which a library reads documents and records.
* `Toml.rules_reading` : the program's own library follows them.
-/
namespace StatementCheck.Toml

/-! ## Rules for reading documents -/

/-- The written forms of texts, truth values and lists of texts. -/
inductive Denotes : List Char → Value → Prop
  | string {s : String} {w : List Char} (h : Quoted s w) : Denotes w (.string s)
  | boolean (b : Bool) : Denotes (toString b).toList (.boolean b)
  | strings {ss : List String} {w : List Char} (h : Listed ss w) :
      Denotes ('[' :: w) (.array (ss.map .string))

/-- Lines, given as in `Lays`, say entries: each has the key of its entry, which needs no quotes,
and a written form of its value. -/
abbrev LinesSay (ls : List (String × List Char)) (entries : Entries) : Prop :=
  List.Forall₂ (fun l e => l.1 = e.1 ∧ IsBareKey l.1 ∧ Denotes l.2 e.2) ls entries

/-- A field of a record, and what it is to hold. -/
structure Setting (σ : Type) where
  field : Field σ
  content : field.shape.Holds

namespace Setting

variable {σ : Type}

/-- The entry that says so. -/
def entry (x : Setting σ) : String × Value := (x.field.name, x.field.shape.toValue x.content)

/-- The record in which it is so. -/
def apply (r : σ) (x : Setting σ) : σ := x.field.set x.content r

theorem map_fst_map_entry (xs : List (Setting σ)) :
    (xs.map entry).map Prod.fst = xs.map fun x => x.field.name := by
  rw [List.map_map]
  rfl

end Setting

/-- Rules for reading documents and records. -/
structure Rules (toml : Reading) : Prop where
  /-- Lines with different keys stand for the entries that they say, in some order. -/
  lines {ls : List (String × List Char)} {entries : Entries} {source : String}
    (hlines : LinesSay ls entries) (hdiffer : (entries.map Prod.fst).Nodup)
    (h : Lays ls source.toList) :
    ∃ read, toml.parse source = .ok read ∧ read.Perm entries
  /-- Behind such lines, a line for another key puts the key in the table. -/
  keeps {pre post : List (String × List Char)} {entries read : Entries} {key : String}
    {w : List Char} {source : String} (hlines : LinesSay pre entries) (hkey : IsBareKey key)
    (hdiffer : (entries.map Prod.fst ++ [key]).Nodup)
    (h : Lays (pre ++ (key, w) :: post) source.toList) (hread : toml.parse source = .ok read) :
    ∃ v, (key, v) ∈ read
  /-- Entries for different fields make up the record in which these hold what the entries say. -/
  fills {σ : Type} {d : Declaration σ} {xs : List (Setting σ)} (hnames : d.names.Nodup)
    (hfields : ∀ x ∈ xs, x.field ∈ d.fields) (hdiffer : (xs.map fun x => x.field.name).Nodup) :
    toml.record d (xs.map Setting.entry) = .ok (xs.foldl Setting.apply d.start)
  /-- An entry for no field is refused. -/
  refuses {σ : Type} {d : Declaration σ} {entries : Entries} {key : String} {v : Value}
    (hkey : key ∉ d.names) (hmem : (key, v) ∈ entries) : ∃ e, toml.record d entries = .error e

/-! ## The rules of the program's own library -/

theorem head?_of_newline {tail : List Char} (h : (newline tail).isSome) :
    tail.head? ≠ some '"' := by
  unfold newline at h
  split at h
  · simp
  · simp
  · simp
  · cases h

theorem skipBlanks_quoted {s : String} {w : List Char} (h : Quoted s w) (tail : List Char) :
    skipBlanks (w ++ tail) = w ++ tail := by
  obtain ⟨u, -, rfl⟩ := h
  rfl

theorem Denotes.readsAs {w : List Char} {v : Value} (h : Denotes w v) : ReadsAs w v := by
  intro tail htail
  cases h with
  | string h =>
    rw [skipBlanks_quoted h]
    exact value_of_quoted _ h (head?_of_newline htail)
  | boolean b =>
    cases b with
    | true => rfl
    | false => rfl
  | strings h => exact value_of_listed _ h tail

theorem LinesSay.linesRead {ls : List (String × List Char)} {entries : Entries}
    (h : LinesSay ls entries) : LinesRead ls entries :=
  h.imp fun _ _ hline => ⟨hline.1, hline.2.1, hline.2.2.readsAs⟩

theorem mapM_asString (ss : List String) :
    (ss.map Value.string).mapM asString = (.ok ss : Except Flaw (List String)) := by
  induction ss with
  | nil => rfl
  | cons s ss ih =>
    rw [List.map_cons, List.mapM_cons, ih]
    rfl

theorem Shape.read_toValue (s : Shape) (x : s.Holds) : s.read (s.toValue x) = .ok x := by
  cases s with
  | strings => exact mapM_asString x
  | boolean => rfl
  | string => rfl

section

variable {σ : Type} {d : Declaration σ}

theorem Declaration.enter_entry (hnames : d.names.Nodup) {x : Setting σ} (hx : x.field ∈ d.fields)
    (r : σ) : d.enter r x.entry = .ok (x.apply r) := by
  have hfind : d.fields.find? (fun f => f.name = x.field.name) = some x.field :=
    find?_eq_of_nodup_map hnames hx
  unfold enter Setting.entry
  rw [hfind]
  dsimp only
  rw [Shape.read_toValue]
  rfl

theorem foldlM_enter_map_entry (hnames : d.names.Nodup) {xs : List (Setting σ)}
    (hfields : ∀ x ∈ xs, x.field ∈ d.fields) (r : σ) :
    (xs.map Setting.entry).foldlM d.enter r = .ok (xs.foldl Setting.apply r) := by
  induction xs generalizing r with
  | nil => rfl
  | cons x xs ih =>
    rw [List.forall_mem_cons] at hfields
    rw [List.map_cons, List.foldlM_cons, d.enter_entry hnames hfields.1]
    exact ih hfields.2 _

theorem Declaration.enter_of_not_mem {key : String} (hkey : key ∉ d.names) (r : σ) (v : Value) :
    d.enter r (key, v) = .error (.unknownKey key d.names) := by
  have hfind : d.fields.find? (fun f => f.name = key) = none := by
    rw [List.find?_eq_none]
    intro f hf hname
    exact hkey (List.mem_map.mpr ⟨f, hf, by simpa using hname⟩)
  unfold enter
  rw [hfind]

theorem exists_foldlM_enter_eq_error {key : String} {v : Value} {entries : Entries}
    (hkey : key ∉ d.names) (hmem : (key, v) ∈ entries) (r : σ) :
    ∃ flaw, entries.foldlM d.enter r = .error flaw := by
  induction entries generalizing r with
  | nil => cases hmem
  | cons e entries ih =>
    rw [List.foldlM_cons]
    rcases List.mem_cons.mp hmem with rfl | hmem
    · exact ⟨_, by rw [d.enter_of_not_mem hkey]; rfl⟩
    · cases d.enter r e with
      | error flaw => exact ⟨flaw, rfl⟩
      | ok r' => exact ih hmem r'

end

theorem reading_parse_eq_ok_iff {source : String} {entries : Entries} :
    reading.parse source = .ok entries ↔ parse source = some entries := by
  dsimp only [reading]
  cases parse source with
  | none => simp
  | some read => simp

/-- Reading by `parse` follows the rules. -/
theorem rules_reading : Rules reading where
  lines hlines hdiffer h := by
    have hparse := parse_of_lays hlines.linesRead hdiffer h
    exact ⟨_, reading_parse_eq_ok_iff.mpr hparse, .refl _⟩
  keeps hlines hkey hdiffer h hread := by
    obtain ⟨v, hv⟩ := exists_lookup_of_parse hlines.linesRead hkey hdiffer h
      (reading_parse_eq_ok_iff.mp hread)
    obtain ⟨before, behind, rfl, -⟩ := List.lookup_eq_some_iff.mp hv
    exact ⟨v, by simp⟩
  fills hnames hfields _ := foldlM_enter_map_entry hnames hfields _
  refuses hkey hmem := exists_foldlM_enter_eq_error hkey hmem _

end StatementCheck.Toml
