import Mathlib.Data.List.Infix
import StatementCheck.Host.Tree
import StatementCheck.Proofs.Openings
import StatementCheck.Proofs.Reports

/-!
# Runs that do not begin

A run either does not begin or checks all its inputs. If its config cannot be loaded, or some source
stands for nothing, it says so in one message that opens with `Fatal:`, and no input is opened. If
it begins, whatever goes wrong is a matter of one input, and no message opens in that way by itself:
only the name of an input in front of one can make it.

Why a config or a source fails is said here without the faults of the check, as the text that the
user is to see. What a library says is wrong with a document or a pattern is in its own words.

## Main definitions

* `Config.FailsWith`, `Host.FailsWith` : a config cannot be loaded, or a source stands for nothing,
  for the reason that a text gives.
* `RunFailsWith` : a run does not begin for the reason that a text gives.
* `SaysFatal` : a text opens as the message of a run that does not begin.
* `Settings.not_saysFatal_of_mem_judge` : nothing that is written about an input opens so.
* `run_all_or_nothing` : the two ways in which a run goes.
-/
namespace StatementCheck

/-! ## Why a config cannot be loaded -/

namespace Config

/-- The config that a run uses cannot be loaded, for the reason that the text gives: its path stands
for none, a config that is named is missing, it cannot be read, or the library finds it flawed. -/
inductive FailsWith (lib : Library) (host : Host Id) (named : Option String) : String → Prop
  | unresolved {name : String} (hnamed : named = some name) (hpath : path? host named = none) :
      FailsWith lib host named ("Failed to resolve path " ++ name ++ ": entity not found")
  | missing {path : String} (hnamed : named ≠ none) (hpath : path? host named = some path)
      (hread : host.readText path = Except.error .missing) :
      FailsWith lib host named ("Config file not found: " ++ path)
  | unreadable {path : String} {failure : ReadFailure} (hpath : path? host named = some path)
      (hread : host.readText path = Except.error failure) (hfailure : failure ≠ .missing) :
      FailsWith lib host named ("Failed to read " ++ path ++ ": " ++ failure.text)
  | flawed {path document : String} {e : lib.toml.Error} (hpath : path? host named = some path)
      (hread : host.readText path = Except.ok document)
      (hdocument : (lib.toml.parse document >>= lib.toml.record declaration) = .error e) :
      FailsWith lib host named ("Invalid config " ++ path ++ ": " ++ lib.toml.text document e)

section

variable {lib : Library} {host : Host Id} {named : Option String}

theorem run_load_of_path?_eq_none {name : String} (hnamed : named = some name)
    (hpath : path? host named = none) :
    (load lib host named).run = Except.error (.unresolved name) := by
  subst hnamed
  have hresolve : host.resolve name = .error (.unresolved name) := by
    change Path.resolve? host.home host.current name = none at hpath
    rw [Host.resolve, hpath]
  exact run_bind_of_error ((run_ofExcept _).trans hresolve)

theorem run_load_of_path? {path : String} (hpath : path? host named = some path) :
    (load lib host named).run = answer lib named.isSome path (host.readText path) := by
  rw [load_eq]
  cases named with
  | none =>
    cases hpath
    exact run_ofExcept _
  | some name =>
    have hresolve : host.resolve name = .ok path := by
      change Path.resolve? host.home host.current name = some path at hpath
      rw [Host.resolve, hpath]
    exact (run_bind_of_ok ((run_ofExcept _).trans hresolve)).trans (run_ofExcept _)

/-- A config that is there but cannot be read is a fault, whether it is named or not. -/
theorem answer_error_of_ne_missing {path : String} {failure : ReadFailure} {explicit : Bool}
    (h : failure ≠ .missing) :
    answer lib explicit path (.error failure) = .error (.unreadable path failure) := by
  cases failure <;> first | exact absurd rfl h | rfl

theorem ofToml_eq_error_iff {toml : Toml.Reading} {path document : String} {f : Fault} :
    ofToml toml path document = .error f ↔
      ∃ e, (toml.parse document >>= toml.record declaration) = .error e ∧
        f = .config path (toml.text document e) := by
  unfold ofToml Toml.Reading.read
  cases toml.parse document >>= toml.record declaration with
  | ok config => simp [Except.mapError]
  | error e => simp [Except.mapError, eq_comm]

/-- Loading a config that fails ends in a fault whose message gives the reason. -/
theorem FailsWith.exists_fault {text : String} (h : FailsWith lib host named text) :
    ∃ f, (load lib host named).run = Except.error f ∧ text = f.message := by
  cases h with
  | unresolved hnamed hpath => exact ⟨_, run_load_of_path?_eq_none hnamed hpath, rfl⟩
  | missing hnamed hpath hread =>
    refine ⟨.configNotFound _, ?_, rfl⟩
    rw [run_load_of_path? hpath, hread, Option.isSome_iff_ne_none.mpr hnamed]
    rfl
  | @unreadable path failure hpath hread hfailure =>
    refine ⟨.unreadable path failure, ?_, rfl⟩
    rw [run_load_of_path? hpath, hread, answer_error_of_ne_missing hfailure]
  | @flawed path document e hpath hread hdocument =>
    refine ⟨.config path (lib.toml.text document e), ?_, rfl⟩
    rw [run_load_of_path? hpath, hread]
    exact ofToml_eq_error_iff.mpr ⟨e, hdocument, rfl⟩

/-- A config whose loading ends in a fault fails for the reason that the message gives. -/
theorem failsWith_of_load {f : Fault} (hload : (load lib host named).run = Except.error f) :
    FailsWith lib host named f.message := by
  cases hpath : path? host named with
  | none =>
    cases named with
    | none => cases hpath
    | some name =>
      rw [run_load_of_path?_eq_none rfl hpath] at hload
      cases hload
      exact .unresolved rfl hpath
  | some path =>
    rw [run_load_of_path? hpath] at hload
    cases hread : host.readText path with
    | ok document =>
      rw [hread] at hload
      obtain ⟨e, hdocument, rfl⟩ := ofToml_eq_error_iff.mp hload
      exact .flawed hpath hread hdocument
    | error failure =>
      rw [hread] at hload
      by_cases hfailure : failure = .missing
      · subst hfailure
        cases named with
        | none => cases hload
        | some name =>
          cases hload
          exact .missing (by simp) hpath hread
      · rw [answer_error_of_ne_missing hfailure] at hload
        cases hload
        exact .unreadable hpath hread hfailure

/-- A config fails for the reason that the message of a fault gives, if loading it ends in that
fault. -/
theorem failsWith_iff {text : String} :
    FailsWith lib host named text ↔
      ∃ f, (load lib host named).run = Except.error f ∧ text = f.message := by
  constructor
  · exact FailsWith.exists_fault
  · rintro ⟨f, hload, rfl⟩
    exact failsWith_of_load hload

end

end Config

/-! ## Why a source stands for nothing -/

namespace Host

/-- A source stands for nothing, for the reason that the text gives: its path stands for none, or it
is searched for and the pattern is flawed, some directory cannot be read, or nothing is found. -/
inductive FailsWith (lib : Library) (host : Host Id) (source : String) : String → Prop
  | unresolved (hsource : source ≠ Input.stdinName)
      (hpath : Path.resolve? host.home host.current source = none) :
      FailsWith lib host source ("Failed to resolve path " ++ source ++ ": entity not found")
  | flawed {path words : String} (h : host.IsSearched source path)
      (hsearch : (lib.search host path).run = Except.error (.flawed words)) :
      FailsWith lib host source ("Invalid glob pattern " ++ path ++ ": " ++ words)
  | unreadable {path dir : String} {failure : ReadFailure} (h : host.IsSearched source path)
      (hsearch : (lib.search host path).run = Except.error (.unreadable dir failure)) :
      FailsWith lib host source ("Failed to read " ++ dir ++ ": " ++ failure.text)
  | noMatches {path : String} (h : host.IsSearched source path)
      (hsearch : (lib.search host path).run = Except.ok []) :
      FailsWith lib host source ("No files match " ++ source)

/-- A source fails for the reason that the message of a fault gives, if expanding it ends in that
fault. -/
theorem failsWith_iff {lib : Library} {host : Host Id} {source text : String} :
    host.FailsWith lib source text ↔
      ∃ f, (host.expand lib source).run = Except.error f ∧ text = f.message := by
  constructor
  · intro h
    cases h with
    | unresolved hsource hpath => exact ⟨_, run_expand_of_resolve?_eq_none hsource hpath, rfl⟩
    | flawed h hsearch => exact ⟨_, h.run_expand_of_error hsearch, rfl⟩
    | unreadable h hsearch => exact ⟨_, h.run_expand_of_error hsearch, rfl⟩
    | noMatches h hsearch => exact ⟨_, h.run_expand_of_nil hsearch, rfl⟩
  · rintro ⟨f, hexpand, rfl⟩
    obtain ⟨hsource, hpath, rfl⟩ | ⟨path, h, ⟨e, hsearch, rfl⟩ | ⟨hsearch, rfl⟩⟩ :=
      cases_of_expand_error hexpand
    · exact .unresolved hsource hpath
    · cases e with
      | flawed words => exact .flawed h hsearch
      | unreadable dir failure => exact .unreadable h hsearch
    · exact .noMatches h hsearch

end Host

/-! ## Why a run does not begin -/

/-- A run does not begin, for the reason that the text gives: its config cannot be loaded, or it
can, and this is why the first source that stands for nothing does so. -/
inductive RunFailsWith (lib : Library) (host : Host Id) (options : Options) : String → Prop
  | config {text : String} (h : Config.FailsWith lib host options.config text) :
      RunFailsWith lib host options text
  | source {config : Config} {before after : List String} {source text : String}
      (hload : (Config.load lib host options.config).run = Except.ok config)
      (hsources : Settings.sources options config = before ++ source :: after)
      (hbefore : ∀ earlier ∈ before, ∀ text, ¬ host.FailsWith lib earlier text)
      (h : host.FailsWith lib source text) : RunFailsWith lib host options text

/-- A run does not begin for the reason that the message of its first fault gives. -/
theorem runFailsWith_iff {lib : Library} {host : Host Id} {options : Options} {text : String} :
    RunFailsWith lib host options text ↔
      ∃ f, firstFault? lib host options = some f ∧ text = f.message := by
  constructor
  · intro h
    cases h with
    | config h =>
      obtain ⟨f, hload, rfl⟩ := Config.failsWith_iff.mp h
      refine ⟨f, ?_, rfl⟩
      rw [firstFault?, hload]
    | @source config before after source _ hload hsources hbefore h =>
      obtain ⟨f, hexpand, rfl⟩ := Host.failsWith_iff.mp h
      refine ⟨f, ?_, rfl⟩
      rw [firstFault?, hload, List.findSome?_eq_some_iff]
      refine ⟨before, source, after, hsources, error?_eq_some_iff.mpr hexpand, ?_⟩
      intro earlier hearlier
      rw [Option.eq_none_iff_forall_ne_some]
      intro f' hfault
      exact hbefore earlier hearlier _
        (Host.failsWith_iff.mpr ⟨f', error?_eq_some_iff.mp hfault, rfl⟩)
  · rintro ⟨f, hfault, rfl⟩
    unfold firstFault? at hfault
    cases hload : (Config.load lib host options.config).run with
    | error f' =>
      rw [hload] at hfault
      obtain rfl := Option.some.inj hfault
      exact .config (Config.failsWith_iff.mpr ⟨f', hload, rfl⟩)
    | ok config =>
      rw [hload] at hfault
      obtain ⟨before, source, after, hsources, hsource, hbefore⟩ :=
        List.findSome?_eq_some_iff.mp hfault
      refine .source hload hsources (fun earlier hearlier text htext => ?_)
        (Host.failsWith_iff.mpr ⟨f, error?_eq_some_iff.mp hsource, rfl⟩)
      obtain ⟨f', hexpand, -⟩ := Host.failsWith_iff.mp htext
      have hnone := hbefore earlier hearlier
      rw [error?_eq_some_iff.mpr hexpand] at hnone
      cases hnone

/-! ## Messages about inputs -/

/-- The text opens as the message of a run that does not begin. -/
def SaysFatal (text : String) : Prop := "Fatal:".toList <+: text.toList

instance (text : String) : Decidable (SaysFatal text) :=
  inferInstanceAs (Decidable ("Fatal:".toList <+: text.toList))

/-- A text that opens otherwise goes on as it likes. -/
theorem not_saysFatal_append {head : String} (h : ¬ SaysFatal head)
    (h' : ¬ head.toList <+: "Fatal:".toList) (tail : String) : ¬ SaysFatal (head ++ tail) := by
  intro hfatal
  unfold SaysFatal at hfatal
  rw [String.toList_append] at hfatal
  rcases List.prefix_or_prefix_of_prefix hfatal (List.prefix_append _ _) with hprefix | hprefix
  · exact h hprefix
  · exact h' hprefix

/-- A name in front of a text makes it open so by itself. -/
theorem name_of_saysFatal {name body : String} (h : SaysFatal (name ++ ": " ++ body)) :
    name = "Fatal" ∨ SaysFatal name := by
  unfold SaysFatal at h
  rw [String.toList_append] at h
  have hname : name.toList <+: (name ++ ": ").toList := by
    rw [String.toList_append]
    exact List.prefix_append _ _
  rcases List.prefix_or_prefix_of_prefix h (List.prefix_append _ _) with hopens | hshort
  · rcases List.prefix_or_prefix_of_prefix hopens hname with hfatal | hinit
    · exact .inr hfatal
    · -- The name is a part of the opening, and only one part can be completed behind it.
      have hinits : ∀ cs ∈ "Fatal:".toList.inits, "Fatal:".toList <+: cs ++ ": ".toList →
          cs = "Fatal".toList ∨ "Fatal:".toList <+: cs := by
        decide
      rw [String.toList_append] at hopens
      exact (hinits _ ((List.mem_inits _ _).mpr hinit) hopens).imp String.toList_injective id
  · -- There is a blank in the label, but none in the opening.
    have hblank : ' ' ∈ "Fatal:".toList := hshort.subset (by simp)
    exact absurd hblank (by decide)

theorem Event.not_saysFatal_line (e : Event) : ¬ SaysFatal (e.line ++ "\n") := by
  cases e with
  | consumed t position =>
    simp only [line, String.append_assoc]
    exact not_saysFatal_append (by decide) (by decide) _
  | demanded want found =>
    simp only [line, String.append_assoc]
    exact not_saysFatal_append (by decide) (by decide) _

theorem Violation.not_saysFatal_message (v : Violation) : ¬ SaysFatal (v.message ++ "\n") := by
  rw [message, String.append_assoc]
  exact not_saysFatal_append (by decide) (by decide) _

theorem Input.fault_eq (input : Input) (failure : ReadFailure) :
    input.fault failure = .fileNotFound input.name ∨
      input.fault failure = .unreadable input.name failure := by
  cases input with
  | stdin => exact .inr rfl
  | file name path =>
    cases failure with
    | missing => exact .inl rfl
    | _ => exact .inr rfl

/-- That an input cannot be read is no fatal fault. -/
theorem Input.not_saysFatal_fault (input : Input) (failure : ReadFailure) :
    ¬ SaysFatal ((input.fault failure).message ++ "\n") := by
  rcases input.fault_eq failure with hfault | hfault
  · rw [hfault]
    change ¬ SaysFatal ("File not found: " ++ input.name ++ "\n")
    rw [String.append_assoc]
    exact not_saysFatal_append (by decide) (by decide) _
  · rw [hfault]
    change ¬ SaysFatal ("Failed to read " ++ input.name ++ ": " ++ failure.text ++ "\n")
    simp only [String.append_assoc]
    exact not_saysFatal_append (by decide) (by decide) _

/-- A label stands before the message and is no part of it. -/
theorem Verdict.text_write (verdict : Verdict) (label : String) :
    (verdict.write label).text = label ++ (verdict.write "").text := by
  cases verdict with
  | accepted => simp only [write, Write.line, String.append_assoc, String.empty_append]
  | rejected v => simp only [write, Write.line, String.append_assoc, String.empty_append]
  | failed f => simp only [write, Write.line, String.append_assoc, String.empty_append]

theorem Input.not_saysFatal_write (input : Input) (content : Except ReadFailure String) :
    ¬ SaysFatal ((input.verdict content).write "").text := by
  cases content with
  | error failure =>
    simpa only [verdict, Verdict.write, Write.line, String.empty_append] using
      input.not_saysFatal_fault failure
  | ok text =>
    simp only [verdict]
    cases firstViolation? (Token.ofSource text) with
    | none => decide
    | some v =>
      simpa only [Verdict.write, Write.line, String.empty_append] using v.not_saysFatal_message

namespace Settings

variable (s : Settings)

theorem not_saysFatal_of_mem_tokenDump {tokens : List Token} {w : Write}
    (h : w ∈ s.tokenDump tokens) : ¬ SaysFatal w.text := by
  unfold tokenDump at h
  split_ifs at h
  · rw [List.mem_singleton] at h
    subst h
    simp only [Write.line, Text.quoteList, String.append_assoc]
    exact not_saysFatal_append (by decide) (by decide) _
  · simp at h

theorem not_saysFatal_of_mem_positionDump {r : Reader} {w : Write}
    (h : w ∈ s.positionDump r) : ¬ SaysFatal w.text := by
  unfold positionDump at h
  split_ifs at h
  · rw [List.mem_singleton] at h
    subst h
    simp only [Write.line, String.append_assoc]
    exact not_saysFatal_append (by decide) (by decide) _
  · simp at h

theorem not_saysFatal_of_mem_notes {content : Except ReadFailure String} {w : Write}
    (h : w ∈ s.notes content) : ¬ SaysFatal w.text := by
  cases content with
  | error failure => cases h
  | ok text =>
    simp only [notes, judgeText_eq, List.mem_append, List.mem_map] at h
    rcases h with (hdump | ⟨e, -, rfl⟩) | hdump
    · exact s.not_saysFatal_of_mem_tokenDump hdump
    · exact e.not_saysFatal_line
    · exact s.not_saysFatal_of_mem_positionDump hdump

/-- Nothing that is written about an input opens as a fatal message, its name apart. -/
theorem not_saysFatal_of_mem_judge {label : String} {input : Input}
    {content : Except ReadFailure String} {w : Write}
    (h : w ∈ (s.judge label input content).1) :
    ∃ body, ¬ SaysFatal body ∧ (w.text = body ∨ w.text = label ++ body) := by
  rw [judge_eq, List.mem_append, List.mem_singleton] at h
  rcases h with hnote | rfl
  · exact ⟨_, s.not_saysFatal_of_mem_notes hnote, .inl rfl⟩
  · exact ⟨_, input.not_saysFatal_write content, .inr (Verdict.text_write _ label)⟩

/-- Nothing that a run writes about its inputs opens as a fatal message, unless it stands behind the
name of an input. -/
theorem not_saysFatal_of_mem_checkAll {host : Host Id} {w : Write}
    (h : w ∈ (s.checkAll host).writes) :
    ∃ body, ¬ SaysFatal body ∧
      (w.text = body ∨
        1 < s.inputs.length ∧ ∃ input ∈ s.inputs, w.text = input.name ++ ": " ++ body) := by
  rw [checkAll_eq_foldr, Report.writes_foldr_append, List.mem_flatMap] at h
  obtain ⟨r, hr, hw⟩ := h
  obtain ⟨i, input, hinput, rfl⟩ := (mem_reports s host).mp hr
  obtain ⟨body, hbody, htext⟩ := s.not_saysFatal_of_mem_judge hw
  refine ⟨body, hbody, ?_⟩
  rcases htext with htext | htext
  · exact .inl htext
  · by_cases hmany : 1 < s.inputs.length
    · rw [label, if_pos hmany] at htext
      exact .inr ⟨hmany, input, List.mem_of_getElem? hinput, htext⟩
    · rw [label, if_neg hmany, String.empty_append] at htext
      exact .inl htext

end Settings

/-- If the config cannot be loaded or a source stands for nothing, a run writes one message that
gives the reason, its exit code is 2, and it opens the config and nothing else. Otherwise no message
of the run is fatal, whatever its inputs are, but one that stands behind an input's own name. -/
theorem run_all_or_nothing {lib : Library} {host : Host Id} (hsearch : lib.SearchOpensNothing host)
    (options : Options) :
    (∀ text, RunFailsWith lib host options text →
      (run lib host options).writes = [⟨.err, "Fatal: " ++ text ++ "\n"⟩] ∧
        (run lib host options).status.exitCode = 2 ∧
        Opens (Config.openings host options.config) (run lib host.recorded options)
          (run lib host options)) ∧
      ((∀ text, ¬ RunFailsWith lib host options text) →
        ∃ s : Settings, (Settings.prepare lib host options).run = Except.ok s ∧
          ∀ w ∈ (run lib host options).writes, SaysFatal w.text →
            1 < s.inputs.length ∧ ∃ input ∈ s.inputs,
              (input.name = "Fatal" ∨ SaysFatal input.name) ∧
                ∃ body, w.text = input.name ++ ": " ++ body ∧ ¬ SaysFatal body) := by
  constructor
  · intro text htext
    obtain ⟨f, hfault, rfl⟩ := runFailsWith_iff.mp htext
    have hrun := run_of_prepare_eq_error (prepare_of_firstFault? hfault)
    have hopens := opens_run_of_firstFault? hsearch hfault
    rw [hrun] at hopens ⊢
    exact ⟨rfl, rfl, hopens⟩
  · intro hnone
    have hnofault : firstFault? lib host options = none := by
      rw [Option.eq_none_iff_forall_ne_some]
      exact fun f hfault => hnone _ (runFailsWith_iff.mpr ⟨f, hfault, rfl⟩)
    obtain ⟨s, hs⟩ := exists_prepare_of_firstFault? hnofault
    refine ⟨s, hs, fun w hw hfatal => ?_⟩
    rw [run_of_prepare_eq_ok hs] at hw
    obtain ⟨body, hbody, htext | ⟨hmany, input, hinput, htext⟩⟩ :=
      s.not_saysFatal_of_mem_checkAll hw
    · exact absurd (htext ▸ hfatal) hbody
    · rw [htext] at hfatal
      exact ⟨hmany, input, hinput, name_of_saysFatal hfatal, body, htext, hbody⟩

/-- Two files that do not exist are no fatal matter, and yet the name of the first makes its message
open so. -/
theorem saysFatal_name :
    let host : Host Id := .ofTree (.directory []) none [] .empty
    let options : Options := ⟨["Fatal", "b"], none, false, none⟩
    (∀ text, ¬ RunFailsWith .own host options text) ∧
      (Config.load .own host options.config).run = Except.ok .default ∧
      (host.expand .own "Fatal").run = Except.ok [.file "Fatal" "Fatal"] ∧
      (host.expand .own "b").run = Except.ok [.file "b" "b"] ∧
      (run .own host options).writes =
        [⟨.err, "Fatal: File not found: Fatal\n"⟩, ⟨.err, "b: File not found: b\n"⟩] ∧
      SaysFatal "Fatal: File not found: Fatal\n" := by
  intro host options
  refine ⟨fun text htext => ?_, rfl, rfl, rfl, rfl, by decide⟩
  obtain ⟨f, hfault, -⟩ := runFailsWith_iff.mp htext
  cases hfault

/-- The program's own library with other words for what is wrong with a document. -/
def Library.worded (words : String) : Library :=
  { Library.own with toml := { Toml.reading with text := fun _ _ => words } }

/-- The words for a key that is none, with the place where it stands. -/
def unknownInput : String :=
  "TOML parse error at line 1, column 1\n  |\n1 | input = \"a.txt\"\n  | ^^^^^\n" ++
    "unknown field `input`, expected one of `inputs`, `verbose`, `log_flags`\n"

/-- A config with a key that is none cannot be loaded. -/
theorem Config.failsWith_unknownInput :
    Config.FailsWith (.worded unknownInput) (.ofTree (.directory
      [("descent.toml", .file "input = \"a.txt\"".toUTF8)]) none [] .empty) none
      ("Invalid config descent.toml: " ++ unknownInput) := by
  have hnone : (Toml.reading.parse "input = \"a.txt\"" >>=
      Toml.reading.record declaration).toOption = none := by
    decide +kernel
  obtain ⟨e, hdocument⟩ := exists_error_of_toOption hnone
  have hbytes : Host.read (.ofTree (.directory
      [("descent.toml", .file "input = \"a.txt\"".toUTF8)]) none [] .empty) "descent.toml" =
      (Except.ok "input = \"a.txt\"".toUTF8 : Id _) :=
    rfl
  have hfails : Config.FailsWith (.worded unknownInput) _ none
      ("Invalid config " ++ "descent.toml" ++ ": " ++ unknownInput) :=
    .flawed rfl (bind_decodeText_eq_ok_iff.mpr hbytes) hdocument
  exact hfails

/-- An open bracket is a flawed pattern. -/
theorem Host.failsWith_bracket (words : String) :
    (ofTree (.directory []) none [] .empty).FailsWith (.worded words) "["
      "Invalid glob pattern [: Pattern syntax error near position 0: invalid range pattern" := by
  have hsearched : (ofTree (.directory []) none [] .empty).IsSearched "[" "[" :=
    ⟨by decide, rfl, by decide, rfl⟩
  have hread : Glob.parse "[" *> Glob.piecesOf "[" = .error ⟨0, .badClass⟩ := by decide +kernel
  have hsearch : ((Library.worded words).search (ofTree (.directory []) none [] .empty) "[").run =
      Except.error (.flawed "Pattern syntax error near position 0: invalid range pattern") := by
    change (Glob.search _ _).run = _
    unfold Glob.search
    rw [hread]
    rfl
  exact .flawed hsearched hsearch

/-- The config has a key that is none. Without it, the second of four sources is a flawed pattern
and the last one has no home directory. With neither of them, a file that does not exist is a matter
of that input. -/
theorem run_all_or_nothing_flawed :
    let lib := Library.worded unknownInput
    let flawed : Host Id := .ofTree (.directory
      [("descent.toml", .file "input = \"a.txt\"".toUTF8)]) none [] .empty
    let bare : Host Id := .ofTree (.directory []) none [] .empty
    (run lib flawed ⟨["-"], none, false, none⟩).writes =
        [⟨.err, "Fatal: " ++ ("Invalid config descent.toml: " ++ unknownInput) ++ "\n"⟩] ∧
      Opens [.file "descent.toml"] (run lib flawed.recorded ⟨["-"], none, false, none⟩)
        (run lib flawed ⟨["-"], none, false, none⟩) ∧
      (run lib bare ⟨["-", "[", "b", "~"], none, false, none⟩).writes =
        [⟨.err, "Fatal: Invalid glob pattern [: Pattern syntax error near position 0: " ++
          "invalid range pattern\n"⟩] ∧
      ∀ w ∈ (run lib bare ⟨["-", "b"], none, false, none⟩).writes, ¬ SaysFatal w.text := by
  intro lib flawed bare
  have hopens : ∀ host, lib.SearchOpensNothing host := Library.searchOpensNothing_own
  have hconfig : RunFailsWith lib flawed ⟨["-"], none, false, none⟩
      ("Invalid config descent.toml: " ++ unknownInput) :=
    .config Config.failsWith_unknownInput
  have hsources : RunFailsWith lib bare ⟨["-", "[", "b", "~"], none, false, none⟩
      ("Invalid glob pattern [: " ++
        "Pattern syntax error near position 0: invalid range pattern") := by
    have hbefore : ∀ earlier ∈ ["-"], ∀ text, ¬ bare.FailsWith lib earlier text := by
      intro earlier hearlier text h
      obtain rfl := List.mem_singleton.mp hearlier
      obtain ⟨f, hexpand, -⟩ := Host.failsWith_iff.mp h
      cases hexpand
    have hload : (Config.load lib bare none).run = Except.ok .default := rfl
    exact .source hload rfl hbefore (Host.failsWith_bracket unknownInput)
  obtain ⟨hflawed, -⟩ := run_all_or_nothing (hopens flawed) ⟨["-"], none, false, none⟩
  obtain ⟨hwrites, -, honly⟩ := hflawed _ hconfig
  obtain ⟨hpattern, -⟩ := run_all_or_nothing (hopens bare) ⟨["-", "[", "b", "~"], none, false, none⟩
  obtain ⟨hfirst, -, -⟩ := hpattern _ hsources
  refine ⟨hwrites, honly, hfirst, fun w hw hfatal => ?_⟩
  obtain ⟨-, hbegun⟩ := run_all_or_nothing (hopens bare) ⟨["-", "b"], none, false, none⟩
  obtain ⟨s, hs, hmessages⟩ := hbegun fun text htext => by
    obtain ⟨f, hfault, -⟩ := runFailsWith_iff.mp htext
    cases hfault
  obtain ⟨-, input, hinput, hname, -⟩ := hmessages w hw hfatal
  have hinputs : s.inputs = [.stdin, .file "b" "b"] := by
    cases hs
    rfl
  have hnames : ∀ input ∈ [Input.stdin, .file "b" "b"],
      ¬ (input.name = "Fatal" ∨ SaysFatal input.name) := by
    decide
  exact hnames input (hinputs ▸ hinput) hname

end StatementCheck
