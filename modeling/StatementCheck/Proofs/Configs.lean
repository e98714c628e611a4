import Mathlib.Data.List.Perm.Basic
import StatementCheck.Config
import StatementCheck.Proofs.Records

/-!
# Writing configs

A config can be written as a document with one line for each of its keys. The lines may come in any
order, and a key that has its default may be left out. However its texts are written, such a
document is read as that config; with one more line, for another key, it is refused. This holds with
every library that follows the rules for documents and records.

## Main definitions

* `Config.Says` : the written forms of the value that a config has for a key.
* `Config.Suffices` : the keys of which a document must consist to say a config.
* `Config.ofToml_written` : the config in such a document, and in one with a line too many.
-/
namespace StatementCheck

open Toml

namespace Config

variable {c : Config} {key : String} {w : List Char} {ls : List (String × List Char)}

/-- The keys of a config. -/
def keys : List String := ["inputs", "verbose", "log_flags"]

/-- The written forms of the value that a config has for a key. -/
inductive Says (c : Config) : String → List Char → Prop
  | inputs {w : List Char} (h : Listed c.inputs w) : Says c "inputs" ('[' :: w)
  | verbose : Says c "verbose" (toString c.verbose).toList
  | logFlags {s : String} {w : List Char} (hs : c.logFlags = some s) (h : Quoted s w) :
      Says c "log_flags" w

/-- The keys of which a document must consist to say a config: each at most once, and each whose
value is not the default. There is no way to write that there are no log flags. -/
structure Suffices (c : Config) (ks : List String) : Prop where
  differ : ks.Nodup
  known : ∀ key ∈ ks, key ∈ keys
  inputs : "inputs" ∈ ks ∨ c.inputs = default.inputs
  verbose : "verbose" ∈ ks ∨ c.verbose = default.verbose
  logFlags : "log_flags" ∈ ks ↔ c.logFlags.isSome = true

/-- The lines of a document that says a config: its keys, with the characters behind their equals
signs. -/
structure Written (c : Config) (ls : List (String × List Char)) : Prop where
  enough : c.Suffices (ls.map Prod.fst)
  forms : ∀ l ∈ ls, c.Says l.1 l.2

/-! ## Fields -/

/-- A field is to hold what a config has in it. -/
inductive Sets (c : Config) : Setting Config → Prop
  | inputs : Sets c ⟨inputsField, c.inputs⟩
  | verbose : Sets c ⟨verboseField, c.verbose⟩
  | logFlags {s : String} (hs : c.logFlags = some s) : Sets c ⟨logFlagsField, s⟩

theorem Sets.mem_fields {x : Setting Config} (h : c.Sets x) : x.field ∈ declaration.fields := by
  cases h with
  | inputs | verbose | logFlags => simp [declaration]

/-- What is written for a key says what the field of that name is to hold. -/
theorem Says.exists_sets (h : c.Says key w) :
    ∃ x : Setting Config, c.Sets x ∧ x.field.name = key ∧ IsBareKey key ∧ Denotes w x.entry.2 := by
  cases h with
  | inputs h => exact ⟨_, .inputs, rfl, by decide, .strings h⟩
  | verbose => exact ⟨_, .verbose, rfl, by decide, .boolean _⟩
  | logFlags hs h => exact ⟨_, .logFlags hs, rfl, by decide, .string h⟩

/-- Lines that say a config say what some of its fields are to hold. -/
theorem exists_settings (h : ∀ l ∈ ls, c.Says l.1 l.2) :
    ∃ xs : List (Setting Config), (∀ x ∈ xs, c.Sets x) ∧
      (xs.map fun x => x.field.name) = ls.map Prod.fst ∧ LinesSay ls (xs.map Setting.entry) := by
  induction ls with
  | nil => exact ⟨[], by simp, rfl, .nil⟩
  | cons l ls ih =>
    rw [List.forall_mem_cons] at h
    obtain ⟨xs, hsets, hnames, hlines⟩ := ih h.2
    obtain ⟨x, hx, hname, hbare, hdenotes⟩ := h.1.exists_sets
    exact ⟨x :: xs, List.forall_mem_cons.mpr ⟨hx, hsets⟩, by simp [hname, hnames],
      .cons ⟨hname.symm, hbare, hdenotes⟩ hlines⟩

/-! ## Keys in any order -/

/-- One config with some keys of another. -/
def overlay (c base : Config) (ks : List String) : Config where
  inputs := if "inputs" ∈ ks then c.inputs else base.inputs
  verbose := if "verbose" ∈ ks then c.verbose else base.verbose
  logFlags := if "log_flags" ∈ ks then c.logFlags else base.logFlags

@[simp] theorem overlay_nil (c base : Config) : overlay c base [] = base := by
  simp [overlay]

theorem overlay_cons (c base : Config) (key : String) (ks : List String) :
    overlay c base (key :: ks) = overlay c (overlay c base [key]) ks := by
  have hfield : ∀ {α : Type} (name : String) (a b : α),
      (if name = key ∨ name ∈ ks then a else b) =
        if name ∈ ks then a else if name = key then a else b := by
    intro α name a b
    by_cases hmem : name ∈ ks
    · simp [hmem]
    · simp [hmem]
  simp only [overlay, List.mem_cons, List.not_mem_nil, or_false, hfield]

/-- A config is the default with the keys that suffice. -/
theorem Suffices.overlay_default {ks : List String} (h : c.Suffices ks) :
    overlay c default ks = c := by
  have hinputs : (if "inputs" ∈ ks then c.inputs else default.inputs) = c.inputs := by
    rcases h.inputs with hks | heq
    · exact if_pos hks
    · simp [heq]
  have hverbose : (if "verbose" ∈ ks then c.verbose else default.verbose) = c.verbose := by
    rcases h.verbose with hks | heq
    · exact if_pos hks
    · simp [heq]
  have hlogFlags : (if "log_flags" ∈ ks then c.logFlags else default.logFlags) = c.logFlags := by
    by_cases hks : "log_flags" ∈ ks
    · exact if_pos hks
    · have hnone : c.logFlags = none := by simpa [hks] using h.logFlags
      simp [hnone, default]
  rw [overlay, hinputs, hverbose, hlogFlags]

theorem Suffices.perm {ks ks' : List String} (h : c.Suffices ks) (hperm : ks'.Perm ks) :
    c.Suffices ks' where
  differ := hperm.nodup_iff.mpr h.differ
  known key hkey := h.known key (hperm.subset hkey)
  inputs := h.inputs.imp hperm.mem_iff.mpr id
  verbose := h.verbose.imp hperm.mem_iff.mpr id
  logFlags := hperm.mem_iff.trans h.logFlags

theorem Sets.apply {x : Setting Config} (h : c.Sets x) (base : Config) :
    x.apply base = overlay c base [x.field.name] := by
  cases h with
  | inputs => simp [Setting.apply, overlay, inputsField]
  | verbose => simp [Setting.apply, overlay, verboseField]
  | logFlags hs => simp [Setting.apply, overlay, logFlagsField, hs]

theorem foldl_apply {xs : List (Setting Config)} (h : ∀ x ∈ xs, c.Sets x) (base : Config) :
    xs.foldl Setting.apply base = overlay c base (xs.map fun x => x.field.name) := by
  induction xs generalizing base with
  | nil => rw [List.map_nil, overlay_nil, List.foldl_nil]
  | cons x xs ih =>
    rw [List.forall_mem_cons] at h
    rw [List.foldl_cons, List.map_cons, overlay_cons, h.1.apply, ih h.2]

/-- Entries in another order are those of the settings in another order. -/
theorem exists_settings_of_perm {xs : List (Setting Config)} {entries : Entries}
    (h : entries.Perm (xs.map Setting.entry)) :
    ∃ ys : List (Setting Config), entries = ys.map Setting.entry ∧ ys.Perm xs := by
  have hentries : List.Forall₂ (fun e (x : Setting Config) => e = x.entry) (xs.map Setting.entry)
      xs :=
    List.forall₂_map_left_iff.mpr (List.forall₂_same.mpr fun _ _ => rfl)
  obtain ⟨ys, hys, hperm⟩ := List.perm_comp_forall₂ h hentries
  refine ⟨ys, ?_, hperm⟩
  rw [← List.forall₂_eq_eq_eq]
  exact List.forall₂_map_right_iff.mpr hys

/-! ## Documents -/

variable {pre post : List (String × List Char)} {source path : String}

theorem Suffices.exists_form {ks : List String} (h : c.Suffices ks) (hkey : key ∈ ks) :
    ∃ w, c.Says key w := by
  have hknown := h.known key hkey
  simp only [keys, List.mem_cons, List.not_mem_nil, or_false] at hknown
  rcases hknown with rfl | rfl | rfl
  · obtain ⟨w, hw⟩ := exists_listed c.inputs
    exact ⟨_, .inputs hw⟩
  · exact ⟨_, .verbose⟩
  · obtain ⟨s, hs⟩ := Option.isSome_iff_exists.mp (h.logFlags.mp hkey)
    obtain ⟨w, hw⟩ := exists_quoted s
    exact ⟨w, .logFlags hs hw⟩

/-- A config can be written with any keys that suffice, in any order. -/
theorem Suffices.exists_written {ks : List String} (h : c.Suffices ks) :
    ∃ ls, ls.map Prod.fst = ks ∧ c.Written ls := by
  have hlines : ∀ ks', (∀ key ∈ ks', key ∈ ks) →
      ∃ ls : List (String × List Char), ls.map Prod.fst = ks' ∧ ∀ l ∈ ls, c.Says l.1 l.2 := by
    intro ks' hsub
    induction ks' with
    | nil => exact ⟨[], rfl, by simp⟩
    | cons key ks' ih =>
      obtain ⟨ls, hls, hforms⟩ := ih fun key hkey => hsub key (by simp [hkey])
      obtain ⟨w, hw⟩ := h.exists_form (hsub key (by simp))
      exact ⟨(key, w) :: ls, by simp [hls], List.forall_mem_cons.mpr ⟨hw, hforms⟩⟩
  obtain ⟨ls, rfl, hforms⟩ := hlines ks fun _ hkey => hkey
  exact ⟨ls, rfl, h, hforms⟩

/-- The keys of the lines in front of one for another key are different from it and each other. -/
theorem Written.nodup_concat (h : c.Written (pre ++ post)) (hkey : key ∉ keys) :
    (pre.map Prod.fst ++ [key]).Nodup := by
  have hdiffer := h.enough.differ
  rw [List.map_append, List.nodup_append] at hdiffer
  refine List.nodup_append.mpr ⟨hdiffer.1, by simp, fun other hother new hnew => ?_⟩
  rintro rfl
  rw [List.mem_singleton.mp hnew] at hother
  exact hkey (h.enough.known key (by simp [hother]))

section

variable {toml : Reading} (htoml : Rules toml)
include htoml

theorem ofToml_of_written (h : c.Written ls) (hsource : Lays ls source.toList) :
    ofToml toml path source = .ok c := by
  obtain ⟨xs, hsets, hnames, hlines⟩ := exists_settings h.forms
  have hdiffer : ((xs.map Setting.entry).map Prod.fst).Nodup := by
    rw [Setting.map_fst_map_entry, hnames]
    exact h.enough.differ
  obtain ⟨read, hparse, hperm⟩ := htoml.lines hlines hdiffer hsource
  obtain ⟨ys, rfl, hys⟩ := exists_settings_of_perm hperm
  have hysets : ∀ y ∈ ys, c.Sets y := fun y hy => hsets y (hys.subset hy)
  have hysuffice : c.Suffices (ys.map fun y => y.field.name) := by
    have hnamesperm := hys.map fun x => x.field.name
    rw [hnames] at hnamesperm
    exact h.enough.perm hnamesperm
  have hrecord := htoml.fills (d := declaration) (by decide) (fun y hy => (hysets y hy).mem_fields)
    hysuffice.differ
  rw [ofToml, Reading.read, hparse]
  change Except.mapError _ (Except.mapError _ (toml.record declaration _)) = _
  rw [hrecord, foldl_apply hysets]
  exact congrArg Except.ok hysuffice.overlay_default

/-- A document with a line for another key is refused: it is not valid, or the key is in its table.
-/
theorem exists_ofToml_eq_error (h : c.Written (pre ++ post)) (hbare : IsBareKey key)
    (hkey : key ∉ keys) (hsource : Lays (pre ++ (key, w) :: post) source.toList) :
    ∃ e, ofToml toml path source = .error (.config path (toml.text source e)) := by
  have hrefused : ∃ e, (toml.parse source >>= toml.record declaration) = .error e := by
    cases hparse : toml.parse source with
    | error e => exact ⟨e, rfl⟩
    | ok read =>
      obtain ⟨xs, -, hnames, hlines⟩ :=
        exists_settings fun l hl => h.forms l (List.mem_append_left post hl)
      have hdiffer : ((xs.map Setting.entry).map Prod.fst ++ [key]).Nodup := by
        rw [Setting.map_fst_map_entry, hnames]
        exact h.nodup_concat hkey
      obtain ⟨v, hv⟩ := htoml.keeps hlines hbare hdiffer hsource hparse
      exact htoml.refuses hkey hv
  obtain ⟨e, he⟩ := hrefused
  refine ⟨e, ?_⟩
  rw [ofToml, Reading.read, he]
  rfl

/-- A config is read back from its lines, whichever they are and however they are written. With a
line for another key among them the document is refused in the words of the library, whatever the
characters behind the equals sign of this line may be. -/
theorem ofToml_written (path : String) (c : Config) :
    (∀ ks, c.Suffices ks → ∃ ls, ls.map Prod.fst = ks ∧ c.Written ls) ∧
      (∀ ls source, c.Written ls → Lays ls source.toList → ofToml toml path source = .ok c) ∧
      ∀ pre post key w source, c.Written (pre ++ post) → IsBareKey key → key ∉ keys →
        Lays (pre ++ (key, w) :: post) source.toList →
          ∃ e, ofToml toml path source = .error (.config path (toml.text source e)) :=
  ⟨fun _ h => h.exists_written, fun _ _ h hsource => ofToml_of_written htoml h hsource,
    fun _ _ _ _ _ h hbare hkey hsource => exists_ofToml_eq_error htoml h hbare hkey hsource⟩

end

/-- Texts with a quote, a backslash and a line feed, the log flags first and their line feed written
by its number, no line for the flag, and among these lines a date for a key that is almost known. -/
theorem ofToml_written_escaped :
    let c : Config := ⟨["a\"b", "\\"], false, some "k\n"⟩
    (∃ ls, ls.map Prod.fst = ["log_flags", "inputs"] ∧ c.Written ls) ∧
      ofToml Library.own.toml "x"
          "log_flags = \"k\\u000a\"\r\ninputs = [\"a\\\"b\", \"\\\\\"]\n" = .ok c ∧
      ∃ words, ofToml Library.own.toml "x"
          "log_flags = \"k\\u000a\"\r\ninput = 1979-05-27\ninputs = [\"a\\\"b\", \"\\\\\"]\n" =
        .error (.config "x" words) := by
  intro c
  let flags : List Char := "\"k\\u000a\"".toList
  let texts : List Char := "[\"a\\\"b\", \"\\\\\"]".toList
  have hletter : ∀ d ∈ ['k', 'a', 'b'], Spells d [d] := by
    intro d hd
    simp only [List.mem_cons, List.not_mem_nil, or_false] at hd
    rcases hd with rfl | rfl | rfl <;> exact .plain (by decide) (by decide) (by decide)
  have hflags : c.Says "log_flags" flags := by
    have hnumber : Numeral ['0', '0', '0', 'a'] 10 := numeral_of_lt (n := 10) (by decide)
    have hfeed : Spells '\n' ['\\', 'u', '0', '0', '0', 'a'] := .code rfl hnumber
    exact .logFlags rfl ⟨_, .cons (hletter 'k' (by simp)) (.cons hfeed .nil), rfl⟩
  have htexts : c.Says "inputs" texts := by
    have hgap : Gap [] ∧ Gap [' '] := by simp [Gap, isBlank]
    have hquote : Spells '"' ['\\', '"'] := .short (by decide)
    have hslash : Spells '\\' ['\\', '\\'] := .short (by decide)
    have hfirst : Quoted "a\"b" "\"a\\\"b\"".toList :=
      ⟨_, .cons (hletter 'a' (by simp)) (.cons hquote (.cons (hletter 'b' (by simp)) .nil)), rfl⟩
    have hsecond : Quoted "\\" "\"\\\\\"".toList := ⟨_, .cons hslash .nil, rfl⟩
    have hlast : Listed ["\\"] " \"\\\\\"]".toList := .last hgap.2 hsecond hgap.1
    exact .inputs (.item hgap.1 hfirst hgap.1 hlast)
  have henough : c.Suffices ["log_flags", "inputs"] :=
    ⟨by decide, by decide, .inl (by decide), .inr rfl, by decide⟩
  have hwritten : c.Written [("log_flags", flags), ("inputs", texts)] :=
    ⟨henough, List.forall_mem_cons.mpr ⟨hflags, List.forall_mem_cons.mpr ⟨htexts, by simp⟩⟩⟩
  let lineEnd : List Char := ['\r', '\n']
  have hend : lineEnd ∈ [['\n'], ['\r', '\n']] := by simp [lineEnd]
  have htail : Lays [("inputs", texts)] (entryText "inputs" texts ++ ['\n'] ++ []) :=
    .line (by simp) .nil
  have hlays : Lays [("log_flags", flags), ("inputs", texts)]
      (entryText "log_flags" flags ++ lineEnd ++ (entryText "inputs" texts ++ ['\n'] ++ [])) :=
    .line hend htail
  have hinserted : Lays [("log_flags", flags), ("input", "1979-05-27".toList), ("inputs", texts)]
      (entryText "log_flags" flags ++ lineEnd ++ (entryText "input" "1979-05-27".toList ++ ['\n'] ++
        (entryText "inputs" texts ++ ['\n'] ++ []))) :=
    .line hend (.line (by simp) htail)
  obtain ⟨hexists, hread, hrefuse⟩ := ofToml_written rules_reading "x" c
  obtain ⟨e, hrefused⟩ := hrefuse [("log_flags", flags)] [("inputs", texts)] "input"
    "1979-05-27".toList
    "log_flags = \"k\\u000a\"\r\ninput = 1979-05-27\ninputs = [\"a\\\"b\", \"\\\\\"]\n" hwritten
    (by decide) (by decide) hinserted
  exact ⟨hexists _ henough, hread _ _ hwritten hlays, _, hrefused⟩

end Config

end StatementCheck
