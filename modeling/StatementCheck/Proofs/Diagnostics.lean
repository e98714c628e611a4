import StatementCheck.Proofs.Preparation
import StatementCheck.Proofs.Reports

/-!
# What the diagnostic switches change

A trace and dumps can be asked for on the command line and in the config. They are notes on the
error stream, and nothing else depends on them: what a run says without them is part of what it says
with them, in the same order, and the output and the exit code are the same.

Two runs are compared by what each of them would say without notes. That is the same if their
sources stand for the same inputs with the same content. It does not matter where the config of
either run is, or what else it says.

## Main definitions

* `Report.Within` : a report says what another says, and nothing else but on the error stream.
* `Settings.within_checkAll` : without notes, a check says part of what it says with them.
* `Host.AlikeFor` : two hosts have the same inputs for some sources;
  `Host.alikeFor_withContent` : it is enough that they differ in the content of other files.
* `run_inert` : runs that differ in their notes alone.
-/
namespace StatementCheck

namespace Report

/-- The writes to a stream, in order. -/
def on (r : Report) (stream : Stream) : List Write := r.writes.filter fun w => w.stream = stream

theorem on_append (r s : Report) (stream : Stream) :
    (r.append s).on stream = r.on stream ++ s.on stream := List.filter_append _ _

/-- The report `r` says what `q` says, and nothing else but on the error stream. -/
structure Within (q r : Report) : Prop where
  out : q.on .out = r.on .out
  err : (q.on .err).Sublist (r.on .err)
  status : q.status = r.status

namespace Within

theorem refl (r : Report) : r.Within r := ⟨rfl, .refl _, rfl⟩

theorem append {q q' r r' : Report} (h : q.Within r) (h' : q'.Within r') :
    (q.append q').Within (r.append r') where
  out := by rw [on_append, on_append, h.out, h'.out]
  err := by
    rw [on_append, on_append]
    exact h.err.append h'.err
  status := by rw [Report.append, Report.append, h.status, h'.status]

/-- A message with notes on the error stream before it says what the message says. -/
theorem of_notes {notes : List Write} (h : ∀ w ∈ notes, w.stream = .err) (message : Write)
    (status : Status) : Within ⟨[message], status⟩ ⟨notes ++ [message], status⟩ where
  out := by
    have hnone : notes.filter (fun w => w.stream = .out) = [] := by
      rw [List.filter_eq_nil_iff]
      intro w hw
      simp [h w hw]
    simp only [on, List.filter_append, hnone, List.nil_append]
  err := by
    simp only [on, List.filter_append]
    exact List.sublist_append_right _ _
  status := rfl

end Within

end Report

namespace Settings

variable (s : Settings) (host other : Host Id)

/-- Notes go to the error stream. -/
theorem stream_of_mem_notes {content : Except ReadFailure String} {w : Write}
    (hw : w ∈ s.notes content) : w.stream = .err := by
  cases content with
  | error failure => cases hw
  | ok text =>
    simp only [notes, judgeText_eq, tokenDump, positionDump, List.mem_append, List.mem_map,
      List.mem_ite_nil_right, List.mem_singleton] at hw
    rcases hw with (⟨-, rfl⟩ | ⟨e, -, rfl⟩) | ⟨-, rfl⟩ <;> rfl

theorem within_reportOn (inputRead : Bool) (input : Input) :
    ((quiet s.inputs).reportOn host inputRead input).Within (s.reportOn host inputRead input) := by
  rw [reportOn_quiet, reportOn, judge_eq]
  exact .of_notes (fun w hw => s.stream_of_mem_notes hw) _ _

theorem within_checkFrom (inputRead : Bool) (inputs : List Input) :
    ((quiet s.inputs).checkFrom host inputRead inputs).Within
      (s.checkFrom host inputRead inputs) := by
  induction inputs generalizing inputRead with
  | nil => exact .refl _
  | cons input rest ih => exact (s.within_reportOn host inputRead input).append (ih _)

/-- Without notes, a check says part of what it says with them. -/
theorem within_checkAll : ((quiet s.inputs).checkAll host).Within (s.checkAll host) :=
  s.within_checkFrom host false s.inputs

/-- A check of inputs with the same content says the same. -/
theorem checkFrom_congr {inputs : List Input}
    (h : ∀ input ∈ inputs, ∀ inputRead,
      other.content inputRead input = host.content inputRead input) (inputRead : Bool) :
    s.checkFrom other inputRead inputs = s.checkFrom host inputRead inputs := by
  induction inputs generalizing inputRead with
  | nil => rfl
  | cons input rest ih =>
    rw [List.forall_mem_cons] at h
    rw [checkFrom_cons, checkFrom_cons, ih h.2, reportOn, reportOn, h.1]

end Settings

/-! ## Hosts that have the same inputs -/

/-- The inputs that the sources stand for are the same on both hosts, and so is their content. -/
structure Host.AlikeFor (lib : Library) (host other : Host Id) (sources : List String) : Prop where
  expand : ∀ source ∈ sources, other.expand lib source = host.expand lib source
  read : ∀ source ∈ sources, ∀ inputs, (host.expand lib source).run = Except.ok inputs →
    ∀ name path, Input.file name path ∈ inputs → other.read path = host.read path
  input : other.input = host.input

/-- The host with other content in its files. -/
def Host.withContent (host : Host Id) (read : String → Except ReadFailure ByteArray) : Host Id :=
  { host with read := read }

section

variable (host : Host Id) (read : String → Except ReadFailure ByteArray)

theorem Glob.below_withContent (needsDirectory : Bool) (depth : Nat) :
    Glob.below (host.withContent read) needsDirectory depth =
      Glob.below host needsDirectory depth := by
  induction depth with
  | zero => rfl
  | succ depth ih =>
    funext pieces path
    cases pieces with
    | nil => rfl
    | cons p rest =>
      unfold Glob.below
      rw [ih]
      rfl

/-- What a source stands for does not depend on what is in the files. -/
theorem Host.expand_withContent (source : String) :
    (host.withContent read).expand .own source = host.expand .own source := by
  have hsearch : ∀ pattern, Glob.search (host.withContent read) pattern =
      Glob.search host pattern := by
    intro pattern
    unfold Glob.search
    simp only [Glob.below_withContent]
  unfold Host.expand
  simp only [Library.own, hsearch]
  rfl

variable {host read}

/-- Hosts that differ in the content of files which none of the sources stands for are alike. -/
theorem Host.alikeFor_withContent {sources : List String}
    (h : ∀ source ∈ sources, ∀ inputs, (host.expand .own source).run = Except.ok inputs →
      ∀ name path, Input.file name path ∈ inputs → read path = host.read path) :
    host.AlikeFor .own (host.withContent read) sources :=
  ⟨fun source _ => host.expand_withContent read source, h, rfl⟩

end

/-! ## Runs -/

/-- What a run with these sources says without notes. -/
def Report.ofSources (lib : Library) (host : Host Id) (sources : List String) : Report :=
  match (sources.mapM (host.expand lib)).run with
  | .ok lists => (Settings.quiet lists.flatten).checkAll host
  | .error f => .fatal f

section

variable {lib : Library} {host other : Host Id} {options : Options} {config : Config}

theorem run_of_load (h : (Config.load lib host options.config).run = Except.ok config) :
    run lib host options =
      match ((Settings.sources options config).mapM (host.expand lib)).run with
      | .ok lists => (⟨lists.flatten, options.verbose || config.verbose,
          Settings.flags options config⟩ : Settings).checkAll host
      | .error f => .fatal f := by
  rw [run_eq, Settings.prepare, run_bind_of_ok h, Settings.resolve]
  cases hlists : ((Settings.sources options config).mapM (host.expand lib)).run with
  | ok lists =>
    rw [run_bind_of_ok hlists]
    rfl
  | error f => rw [run_bind_of_error hlists]

theorem within_run (h : (Config.load lib host options.config).run = Except.ok config) :
    (Report.ofSources lib host (Settings.sources options config)).Within
      (run lib host options) := by
  rw [run_of_load h, Report.ofSources]
  cases ((Settings.sources options config).mapM (host.expand lib)).run with
  | ok lists =>
    exact Settings.within_checkAll ⟨lists.flatten, options.verbose || config.verbose, _⟩ host
  | error f => exact .refl _

theorem run_eq_ofSources (h : (Config.load lib host options.config).run = Except.ok config)
    (hoptions : options.verbose = false) (hconfig : config.verbose = false)
    (hflags : Settings.flags options config = .off) :
    run lib host options = Report.ofSources lib host (Settings.sources options config) := by
  rw [run_of_load h, Report.ofSources, hoptions, hconfig, hflags]
  rfl

/-- An input has the same content on hosts that are alike for its source. -/
theorem Host.AlikeFor.content_eq {sources : List String} (h : host.AlikeFor lib other sources)
    {source : String} (hsource : source ∈ sources) {inputs : List Input}
    (hinputs : (host.expand lib source).run = Except.ok inputs) {input : Input}
    (hinput : input ∈ inputs) (inputRead : Bool) :
    other.content inputRead input = host.content inputRead input := by
  cases input with
  | stdin =>
    simp only [Host.content, Host.inputText, h.input]
  | file name path =>
    simp only [Host.content, Host.readText, h.read source hsource inputs hinputs name path hinput]

/-- Without notes, a run says the same on hosts that are alike for its sources. -/
theorem Host.AlikeFor.ofSources_eq {sources : List String} (h : host.AlikeFor lib other sources) :
    Report.ofSources lib other sources = Report.ofSources lib host sources := by
  rw [Report.ofSources, Report.ofSources, mapM_congr_of_mem h.expand]
  cases hfault : sources.findSome? fun source => error? (host.expand lib source) with
  | some f => rw [run_mapM_of_findSome? hfault]
  | none =>
    obtain ⟨lists, hlists⟩ := exists_forall₂_of_findSome? hfault
    rw [run_mapM_of_forall₂ hlists]
    refine Settings.checkFrom_congr _ host other (fun input hinput inputRead => ?_) false
    obtain ⟨source, hsource, inputs, hinputs, hmem⟩ := exists_of_mem_flatten hlists hinput
    exact h.content_eq hsource hinputs hmem inputRead

/-- A trace and dumps change nothing but the error stream, and there they only add. Take two runs
with the same sources, whose configs name the same inputs; each may have its own config, and its own
trace and dumps. If the sources stand for the same inputs with the same content, as they do on one
host, the runs write the same to the output and have the same exit code; and if the first has
neither trace nor dumps, all that it writes to the error stream the second writes too, in the same
order. -/
theorem run_inert {lib : Library} {host other : Host Id} {options options' : Options}
    {config config' : Config} (hload : (Config.load lib host options.config).run = Except.ok config)
    (hload' : (Config.load lib other options'.config).run = Except.ok config')
    (hsources : options'.sources = options.sources) (hinputs : config'.inputs = config.inputs)
    (halike : host.AlikeFor lib other (Settings.sources options config)) :
    (run lib other options').on .out = (run lib host options).on .out ∧
      (run lib other options').status.exitCode = (run lib host options).status.exitCode ∧
      (options.verbose = false → config.verbose = false → Settings.flags options config = .off →
        ((run lib host options).on .err).Sublist ((run lib other options').on .err)) := by
  have hsame : Settings.sources options' config' = Settings.sources options config := by
    simp only [Settings.sources, hsources, hinputs]
  -- Both runs are compared with what their sources come to without notes.
  have hfirst := within_run hload
  have hsecond := within_run hload'
  rw [hsame, halike.ofSources_eq] at hsecond
  refine ⟨hsecond.out.symm.trans hfirst.out, ?_, fun hoptions hconfig hflags => ?_⟩
  · rw [← hsecond.status, hfirst.status]
  · rw [run_eq_ofSources hload hoptions hconfig hflags]
    exact hsecond.err

/-- A config that asks for a trace, with dumps asked for on the command line, and one that asks for
nothing. -/
theorem run_inert_config :
    let host : Host Id := .ofTree (.directory
      [("a", .file "x = ;".toUTF8), ("descent.toml", .file "verbose = false".toUTF8)]) none []
      .empty
    let other : Host Id := host.withContent fun path =>
      if path = "descent.toml" then .ok "verbose = true".toUTF8 else host.read path
    let options : Options := ⟨["a", "-"], none, false, none⟩
    let options' : Options := ⟨["a", "-"], none, false, some ⟨true, true⟩⟩
    let report := run .own host options
    let report' := run .own other options'
    report'.on .out = report.on .out ∧ report'.status.exitCode = report.status.exitCode ∧
      (report.on .err).Sublist (report'.on .err) := by
  intro host other options options' report report'
  have hload : (Config.load .own host options.config).run = Except.ok .default :=
    eq_ok_of_toOption (by decide +kernel)
  have hload' : (Config.load .own other options'.config).run = Except.ok ⟨[], true, none⟩ :=
    eq_ok_of_toOption (by decide +kernel)
  have halike : host.AlikeFor .own other ["a", "-"] := by
    refine Host.alikeFor_withContent fun source hsource inputs hinputs name path hmem => ?_
    have hfile : (host.expand .own "a").run = Except.ok [.file "a" "a"] := rfl
    have hinput : (host.expand .own "-").run = Except.ok [.stdin] := rfl
    simp only [List.mem_cons, List.not_mem_nil, or_false] at hsource
    rcases hsource with rfl | rfl
    · rw [hfile] at hinputs
      cases hinputs
      cases List.mem_singleton.mp hmem
      rfl
    · rw [hinput] at hinputs
      cases hinputs
      cases List.mem_singleton.mp hmem
  obtain ⟨hout, hcode, herr⟩ := run_inert hload hload' rfl rfl halike
  exact ⟨hout, hcode, herr rfl rfl rfl⟩

end

end StatementCheck
