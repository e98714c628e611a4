import StatementCheck.Proofs.Acceptance
import StatementCheck.Proofs.Preparation
import StatementCheck.Proofs.Reports
import StatementCheck.Proofs.Search
import StatementCheck.Proofs.Splitting

/-!
# The exit code

A run checks at least one input, and its exit code is that of the worst of them. So the exit code is
0 if all inputs are programs, 1 if all can be read and some input is no program, and 2 if some input
cannot be read.

Here "can be read" and "is a program" are said without the check: an input can be read as a text if
its bytes encode the text, and a text is a program if the maximal runs in it form one.

## Main definitions

* `Host.ReadsAs` : an input can be read as a text.
* `IsProgram` : a text is a program.
* `run_exitCode` : the exit code of a run.
-/
namespace StatementCheck

open Parse

/-! ## Inputs as texts -/

/-- The input at a place can be read as a text: a file if its bytes encode the text, and standard
input the first time that it is an input. Later there is nothing left of it. -/
inductive Host.ReadsAs (host : Host Id) (inputs : List Input) (i : Nat) : String → Prop
  | file {name path text : String} (hinput : inputs[i]? = some (.file name path))
      (hread : host.read path = Except.ok text.toUTF8) : ReadsAs host inputs i text
  | stdin {text : String} (hinput : inputs[i]? = some .stdin) (hfirst : .stdin ∉ inputs.take i)
      (hread : host.input = Except.ok text.toUTF8) : ReadsAs host inputs i text
  | spent (hinput : inputs[i]? = some .stdin) (hlater : .stdin ∈ inputs.take i) :
      ReadsAs host inputs i ""

/-- The maximal runs in a text form a program. -/
def IsProgram (text : String) : Prop :=
  ∃ tokens, Token.Splits text.toList tokens ∧ Phrase.program.Derives tokens

theorem isProgram_iff {text : String} :
    IsProgram text ↔ Phrase.program.Derives (Token.ofSource text) := by
  simp [IsProgram, Token.splits_iff]

/-- The programs are the texts in which a check finds no violation. -/
theorem isProgram_iff_firstViolation? {text : String} :
    IsProgram text ↔ firstViolation? (Token.ofSource text) = none := by
  have hprogram : IsProgram text ↔
      ∃ r, program (Reader.ofTokens (Token.ofSource text) false) = .ok () r :=
    isProgram_iff.trans (derives_iff_program_ok false)
  rw [hprogram, firstViolation?]
  cases program (Reader.ofTokens (Token.ofSource text) false) with
  | ok _ r => simp
  | error v r => simp

/-- What a check reads of an input is the text as which the input can be read. -/
theorem Host.readsAs_iff {host : Host Id} {inputs : List Input} {i : Nat} {input : Input}
    (hinput : inputs[i]? = some input) {text : String} :
    host.ReadsAs inputs i text ↔
      host.content ((inputs.take i).contains .stdin) input = Except.ok text := by
  constructor
  · intro h
    cases h with
    | file hfile hread =>
      obtain rfl := Option.some.inj (hinput.symm.trans hfile)
      exact bind_decodeText_eq_ok_iff.mpr hread
    | stdin hstdin hfirst hread =>
      obtain rfl := Option.some.inj (hinput.symm.trans hstdin)
      have hcontains : (inputs.take i).contains .stdin = false := by simpa using hfirst
      rw [hcontains]
      exact bind_decodeText_eq_ok_iff.mpr hread
    | spent hstdin hlater =>
      obtain rfl := Option.some.inj (hinput.symm.trans hstdin)
      have hcontains : (inputs.take i).contains .stdin = true := by simpa using hlater
      rw [hcontains]
      rfl
  · intro h
    cases input with
    | file name path => exact .file hinput (bind_decodeText_eq_ok_iff.mp h)
    | stdin =>
      by_cases hlater : .stdin ∈ inputs.take i
      · have hcontains : (inputs.take i).contains .stdin = true := by simpa using hlater
        rw [hcontains] at h
        cases h
        exact .spent hinput hlater
      · have hcontains : (inputs.take i).contains .stdin = false := by simpa using hlater
        rw [hcontains] at h
        exact .stdin hinput hlater (bind_decodeText_eq_ok_iff.mp h)

/-! ## How bad a run is -/

theorem Report.exitCode_foldr_append_le_iff {rs : List Report} {k : Nat} :
    (rs.foldr append empty).status.exitCode ≤ k ↔ ∀ r ∈ rs, r.status.exitCode ≤ k := by
  rw [exitCode_foldr_append]
  induction rs with
  | nil => simp
  | cons r rs ih => rw [List.map_cons, List.foldr_cons, Nat.max_le, ih, List.forall_mem_cons]

theorem Status.exitCode_le_two (status : Status) : status.exitCode ≤ 2 := by
  cases status <;> decide

namespace Input

variable {input : Input} {content : Except ReadFailure String}

theorem exitCode_verdict_le_zero_iff : (input.verdict content).status.exitCode ≤ 0 ↔
    ∃ text, content = .ok text ∧ IsProgram text := by
  cases content with
  | error failure => simp [verdict, Verdict.status, Status.exitCode]
  | ok text =>
    simp only [Except.ok.injEq, exists_eq_left', isProgram_iff_firstViolation?, verdict]
    cases firstViolation? (Token.ofSource text) <;> simp [Verdict.status, Status.exitCode]

theorem exitCode_verdict_le_one_iff : (input.verdict content).status.exitCode ≤ 1 ↔
    ∃ text, content = .ok text := by
  cases content with
  | error failure => simp [verdict, Verdict.status, Status.exitCode]
  | ok text =>
    simp only [verdict]
    cases firstViolation? (Token.ofSource text) <;> simp [Verdict.status, Status.exitCode]

end Input

namespace Settings

variable {s : Settings}

variable {host : Host Id}

/-- A run is as bad as the worst of its verdicts. -/
theorem exitCode_checkAll_le_iff {k : Nat} :
    (s.checkAll host).status.exitCode ≤ k ↔
      ∀ i (input : Input), s.inputs[i]? = some input →
        (input.verdict (host.content ((s.inputs.take i).contains .stdin) input)).status.exitCode ≤
          k := by
  simp only [← status_reportOn s]
  rw [checkAll_eq_foldr, Report.exitCode_foldr_append_le_iff]
  constructor
  · intro h i input hinput
    have hmem := (mem_reports s host).mpr ⟨i, input, hinput, rfl⟩
    exact h _ hmem
  · intro h r hr
    obtain ⟨i, input, hinput, rfl⟩ := (mem_reports s host).mp hr
    exact h i input hinput

/-- If a verdict is at most this bad for texts of one kind only, a run is at most this bad when all
inputs can be read as texts of that kind. -/
theorem exitCode_checkAll_le_iff_readsAs {k : Nat} {P : String → Prop}
    (hverdict : ∀ (input : Input) content,
      (input.verdict content).status.exitCode ≤ k ↔ ∃ text, content = .ok text ∧ P text) :
    (s.checkAll host).status.exitCode ≤ k ↔
      ∀ i < s.inputs.length, ∃ text, host.ReadsAs s.inputs i text ∧ P text := by
  rw [exitCode_checkAll_le_iff]
  constructor
  · intro h i hi
    have hinput := List.getElem?_eq_getElem hi
    obtain ⟨text, hcontent, htext⟩ := (hverdict _ _).mp (h i _ hinput)
    exact ⟨text, (Host.readsAs_iff hinput).mpr hcontent, htext⟩
  · intro h i input hinput
    obtain ⟨text, hreads, htext⟩ := h i (List.getElem?_eq_some_iff.mp hinput).1
    exact (hverdict _ _).mpr ⟨text, (Host.readsAs_iff hinput).mp hreads, htext⟩

/-- A run is successful if all inputs can be read and are programs. -/
theorem exitCode_checkAll_le_zero_iff :
    (s.checkAll host).status.exitCode ≤ 0 ↔
      ∀ i < s.inputs.length, ∃ text, host.ReadsAs s.inputs i text ∧ IsProgram text :=
  exitCode_checkAll_le_iff_readsAs fun _ _ => Input.exitCode_verdict_le_zero_iff

/-- A run comes to a result if all inputs can be read. -/
theorem exitCode_checkAll_le_one_iff :
    (s.checkAll host).status.exitCode ≤ 1 ↔
      ∀ i < s.inputs.length, ∃ text, host.ReadsAs s.inputs i text := by
  have h : (s.checkAll host).status.exitCode ≤ 1 ↔
      ∀ i < s.inputs.length, ∃ text, host.ReadsAs s.inputs i text ∧ True :=
    exitCode_checkAll_le_iff_readsAs fun _ _ => by simpa using Input.exitCode_verdict_le_one_iff
  simpa using h

end Settings

/-- An input can be read as one text only. -/
theorem Host.ReadsAs.unique {host : Host Id} {inputs : List Input} {i : Nat} {text other : String}
    (hi : i < inputs.length) (h : host.ReadsAs inputs i text) (h' : host.ReadsAs inputs i other) :
    text = other := by
  have hinput := List.getElem?_eq_getElem hi
  have hsame := ((readsAs_iff hinput).mp h).symm.trans ((readsAs_iff hinput).mp h')
  exact Except.ok.inj hsame

/-- If the config can be loaded and every source stands for some inputs, there is an input, and the
exit code tells how the inputs are: 0 if all can be read and are programs, 1 if all can be read and
some is no program, and 2 if some cannot be read. -/
theorem run_exitCode {lib : Library} {host : Host Id} {options : Options} {config : Config}
    {lists : List (List Input)}
    (hload : (Config.load lib host options.config).run = Except.ok config)
    (hexpand : List.Forall₂ (fun source inputs => (host.expand lib source).run = Except.ok inputs)
      (Settings.sources options config) lists) :
    let inputs := lists.flatten
    let exitCode := (run lib host options).status.exitCode
    inputs ≠ [] ∧
      (exitCode = 0 ↔
        ∀ i < inputs.length, ∃ text, host.ReadsAs inputs i text ∧ IsProgram text) ∧
      (exitCode = 1 ↔
        (∀ i < inputs.length, ∃ text, host.ReadsAs inputs i text) ∧
          ∃ i < inputs.length, ∃ text, host.ReadsAs inputs i text ∧ ¬ IsProgram text) ∧
      (exitCode = 2 ↔ ∃ i < inputs.length, ∀ text, ¬ host.ReadsAs inputs i text) := by
  intro inputs exitCode
  have hne : inputs ≠ [] :=
    Host.flatten_ne_nil_of_expand (Settings.sources_ne_nil options config) hexpand
  obtain ⟨s, hinputs, hrun⟩ :
      ∃ s : Settings, s.inputs = inputs ∧ run lib host options = s.checkAll host :=
    ⟨⟨inputs, _, _⟩, rfl, run_of_prepare_eq_ok (prepare_of_expands hload hexpand)⟩
  have hzero : exitCode ≤ 0 ↔
      ∀ i < inputs.length, ∃ text, host.ReadsAs inputs i text ∧ IsProgram text := by
    rw [← hinputs, ← Settings.exitCode_checkAll_le_zero_iff, ← hrun]
  have hone : exitCode ≤ 1 ↔ ∀ i < inputs.length, ∃ text, host.ReadsAs inputs i text := by
    rw [← hinputs, ← Settings.exitCode_checkAll_le_one_iff, ← hrun]
  have htwo : exitCode ≤ 2 := Status.exitCode_le_two _
  have hviolated : (∀ i < inputs.length, ∃ text, host.ReadsAs inputs i text) →
      (exitCode ≠ 0 ↔
        ∃ i < inputs.length, ∃ text, host.ReadsAs inputs i text ∧ ¬ IsProgram text) := by
    intro hread
    rw [ne_eq, ← Nat.le_zero, hzero]
    simp only [not_forall, not_exists, not_and, exists_prop]
    constructor
    · rintro ⟨i, hi, hnone⟩
      obtain ⟨text, htext⟩ := hread i hi
      exact ⟨i, hi, text, htext, hnone text htext⟩
    · rintro ⟨i, hi, text, htext, hnot⟩
      refine ⟨i, hi, fun other hother => ?_⟩
      rwa [hother.unique hi htext]
  refine ⟨hne, ?_, ?_, ?_⟩
  · rw [← hzero, Nat.le_zero]
  · rw [← hone]
    constructor
    · intro h
      have hle : exitCode ≤ 1 := Nat.le_of_eq h
      exact ⟨hle, (hviolated (hone.mp hle)).mp (by omega)⟩
    · rintro ⟨hle, hnot⟩
      have hpos : exitCode ≠ 0 := (hviolated (hone.mp hle)).mpr hnot
      omega
  · have hmore : exitCode = 2 ↔ ¬ exitCode ≤ 1 := by omega
    rw [hmore, hone]
    simp only [not_forall, not_exists, exists_prop]

namespace Host

/-- A directory with a program, a text that is none, a file that is no text, and a config that names
the first two. There is another program on standard input. -/
def mixed : Host Id :=
  ofTree (.directory [("bad", .file "x = ;".toUTF8),
    ("descent.toml", .file "inputs = ['good', 'bad']".toUTF8), ("good", .file "x = 1 ;".toUTF8),
    ("raw", .file ⟨#[0xff]⟩)]) none [] "y = 2 ;".toUTF8

theorem run_load_mixed :
    (Config.load .own mixed none).run = Except.ok ⟨["good", "bad"], false, none⟩ :=
  eq_ok_of_toOption (by decide +kernel)

theorem run_expand_mixed :
    (mixed.expand .own "?a?").run = Except.ok [.file "bad" "bad", .file "raw" "raw"] := by
  have hread : Glob.parse "?a?" *> Glob.piecesOf "?a?" = .ok (".", [[.any, .char 'a', .any]]) := by
    decide +kernel
  have hnames : (Glob.sortedNames mixed ".").run =
      Except.ok ["bad", "descent.toml", "good", "raw"] :=
    Glob.run_sortedNames rfl (by decide)
  have hsearch : (Library.own.search mixed "?a?").run = Except.ok ["bad", "raw"] := by
    change (Glob.search _ _).run = _
    unfold Glob.search
    rw [hread]
    exact Glob.run_below_of_names [["bad"], [], [], ["raw"]] rfl (by decide) rfl hnames
      (.cons rfl (.cons rfl (.cons rfl (.cons rfl .nil))))
  have hsearched : mixed.IsSearched "?a?" "?a?" := ⟨by decide, rfl, by decide, rfl⟩
  exact hsearched.run_expand_of_ok hsearch (by simp)

end Host

/-- The config names a program and a text that is none. With sources of its own, a run can do better
or worse: a program in a file, another one on standard input and then nothing; or what a pattern
finds, with a file in it that is no text. -/
theorem run_exitCode_mixed :
    (run .own .mixed ⟨["good", "-", "-"], none, false, none⟩).status.exitCode = 0 ∧
      (run .own .mixed ⟨[], none, false, none⟩).status.exitCode = 1 ∧
      (run .own .mixed ⟨["good", "?a?"], none, false, none⟩).status.exitCode = 2 := by
  have hgood : (Host.mixed.expand .own "good").run = Except.ok [.file "good" "good"] := rfl
  refine ⟨?_, ?_, ?_⟩
  · have hexpand : List.Forall₂ (fun source inputs => (Host.mixed.expand .own source).run =
        Except.ok inputs) ["good", "-", "-"] [[.file "good" "good"], [.stdin], [.stdin]] :=
      .cons hgood (.cons rfl (.cons rfl .nil))
    obtain ⟨-, hzero, -, -⟩ := @run_exitCode .own .mixed ⟨["good", "-", "-"], none, false, none⟩
      _ _ Host.run_load_mixed hexpand
    rw [hzero]
    intro i hi
    have hplace : i = 0 ∨ i = 1 ∨ i = 2 := by
      have hlt : i < 3 := hi
      omega
    rcases hplace with rfl | rfl | rfl
    · exact ⟨"x = 1 ;", .file rfl rfl, isProgram_iff_firstViolation?.mpr (by cbv)⟩
    · exact ⟨"y = 2 ;", .stdin rfl (by decide) rfl, isProgram_iff_firstViolation?.mpr (by cbv)⟩
    · exact ⟨"", .spent rfl (by decide), isProgram_iff_firstViolation?.mpr (by cbv)⟩
  · have hexpand : List.Forall₂ (fun source inputs => (Host.mixed.expand .own source).run =
        Except.ok inputs) ["good", "bad"] [[.file "good" "good"], [.file "bad" "bad"]] :=
      .cons hgood (.cons rfl .nil)
    obtain ⟨-, -, hone, -⟩ := @run_exitCode .own .mixed ⟨[], none, false, none⟩ _ _
      Host.run_load_mixed hexpand
    have hviolated : firstViolation? (Token.ofSource "x = ;") =
        some (.noAlternative .factor ";") := by
      cbv
    have hbad : ¬ IsProgram "x = ;" := by simp [isProgram_iff_firstViolation?, hviolated]
    rw [hone]
    refine ⟨fun i hi => ?_, 1, by decide, "x = ;", .file rfl rfl, hbad⟩
    have hplace : i = 0 ∨ i = 1 := by
      have hlt : i < 2 := hi
      omega
    rcases hplace with rfl | rfl
    · exact ⟨"x = 1 ;", .file rfl rfl⟩
    · exact ⟨"x = ;", .file rfl rfl⟩
  · have hexpand : List.Forall₂ (fun source inputs => (Host.mixed.expand .own source).run =
        Except.ok inputs) ["good", "?a?"]
        [[.file "good" "good"], [.file "bad" "bad", .file "raw" "raw"]] :=
      .cons hgood (.cons Host.run_expand_mixed .nil)
    obtain ⟨-, -, -, htwo⟩ := @run_exitCode .own .mixed ⟨["good", "?a?"], none, false, none⟩ _ _
      Host.run_load_mixed hexpand
    rw [htwo]
    refine ⟨2, by decide, fun text hreads => ?_⟩
    have hinput : [[Input.file "good" "good"], [.file "bad" "bad", .file "raw" "raw"]].flatten[2]? =
        some (.file "raw" "raw") := rfl
    have hraw : Host.mixed.content false (.file "raw" "raw") = Except.error .notText := by
      change decodeText ⟨#[0xff]⟩ = _
      cbv
    cases hraw.symm.trans ((Host.readsAs_iff hinput).mp hreads)

end StatementCheck
