import Mathlib.Data.List.Perm.Basic
import StatementCheck.Host.Tree
import StatementCheck.Run
import StatementCheck.Proofs.Lockstep

/-!
# Reports on inputs

The report on a list of inputs is made of reports on each of them, in order, and none of them looks
at another. The one thing that inputs share is standard input: the first input that it is reads it
to its end, and a later one finds nothing.

Without a trace and without dumps a report on an input is one message. So the messages of a run are
those of its inputs, and in another order of the inputs they are the same messages in another order.

## Main definitions

* `Settings.reportOn`, `Settings.reports` : the report on one input, and those on several.
* `Settings.checkAll_eq_foldr` : a check puts these reports together.
* `Settings.perm_reports` : inputs in another order have the same reports in another order.
* `Input.verdict`, `Host.verdicts` : the verdict on an input, by its content, and those on several.
* `Host.Holds`, `Input.Draws` : the content of an input, and what is said about an input with
  some content.
* `Settings.checkAll_quiet` : what a run writes without a trace and without dumps.
-/
namespace StatementCheck

open Goal Parse

/-! ## Checks with and without a trace -/

/-- What a check says does not depend on a trace being kept. -/
theorem replyOf_program (tokens : List Token) (verbose : Bool) :
    replyOf (program (Reader.ofTokens tokens verbose)) =
      replyOf (program (Reader.ofTokens tokens false)) := by
  have hsilent := congrArg replyOf (meet_silenced [statements] (Reader.ofTokens tokens verbose))
  rw [replyOf_onReader, Reader.silenced_ofTokens] at hsilent
  exact hsilent.symm

/-- A check that keeps no trace has nothing to show. -/
theorem trace_of_program (tokens : List Token) :
    (readerOf (program (Reader.ofTokens tokens false))).trace = #[] := by
  have hsilent := congrArg readerOf (meet_silenced [statements] (Reader.ofTokens tokens false))
  rw [readerOf_onReader, Reader.silenced_ofTokens] at hsilent
  exact congrArg Reader.trace hsilent

/-! ## Reports put together -/

namespace Report

theorem writes_foldr_append (rs : List Report) :
    (rs.foldr append empty).writes = rs.flatMap writes := by
  induction rs with
  | nil => rfl
  | cons r rs ih =>
    rw [List.foldr_cons, List.flatMap_cons, ← ih]
    rfl

theorem exitCode_foldr_append (rs : List Report) :
    (rs.foldr append empty).status.exitCode =
      (rs.map fun r => r.status.exitCode).foldr max 0 := by
  induction rs with
  | nil => rfl
  | cons r rs ih =>
    rw [List.foldr_cons, List.map_cons, List.foldr_cons, ← ih]
    exact Status.exitCode_worse _ _

end Report

namespace Settings

variable (s : Settings) (host : Host Id)

/-- The report on one input. -/
def reportOn (inputRead : Bool) (input : Input) : Report :=
  let judged := s.judge (s.label input) input (host.content inputRead input)
  ⟨judged.1, judged.2.status⟩

/-- The reports on some of the inputs. -/
def reports (inputRead : Bool) : List Input → List Report
  | [] => []
  | input :: rest =>
    s.reportOn host inputRead input :: reports (inputRead || input = .stdin) rest

theorem checkFrom_cons (inputRead : Bool) (input : Input) (rest : List Input) :
    s.checkFrom host inputRead (input :: rest) =
      (s.reportOn host inputRead input).append
        (s.checkFrom host (inputRead || input = .stdin) rest) := rfl

/-- A check reports on its inputs one after the other. -/
theorem checkFrom_eq_foldr (inputRead : Bool) (inputs : List Input) :
    s.checkFrom host inputRead inputs =
      (s.reports host inputRead inputs).foldr Report.append .empty := by
  induction inputs generalizing inputRead with
  | nil => rfl
  | cons input rest ih => rw [checkFrom_cons, reports, List.foldr_cons, ih]

theorem checkAll_eq_foldr :
    s.checkAll host = (s.reports host false s.inputs).foldr Report.append .empty :=
  s.checkFrom_eq_foldr host false s.inputs

/-- What is read before an input matters to standard input alone. -/
theorem getElem?_reports (inputRead : Bool) (inputs : List Input) (i : Nat) :
    (s.reports host inputRead inputs)[i]? =
      inputs[i]?.map (s.reportOn host (inputRead || (inputs.take i).contains .stdin)) := by
  induction inputs generalizing inputRead i with
  | nil => rfl
  | cons input rest ih =>
    cases i with
    | zero => simp [reports]
    | succ i =>
      have hread : (inputRead || decide (input = .stdin) || (rest.take i).contains .stdin) =
          (inputRead || ((input :: rest).take (i + 1)).contains .stdin) := by
        simp [Bool.or_assoc, eq_comm, Bool.decide_or]
      rw [reports, List.getElem?_cons_succ, ih, List.getElem?_cons_succ, hread]

/-- The reports are those on the inputs, each with what is read before it. -/
theorem mem_reports {inputs : List Input} {r : Report} :
    r ∈ s.reports host false inputs ↔
      ∃ i input, inputs[i]? = some input ∧
        s.reportOn host ((inputs.take i).contains .stdin) input = r := by
  rw [List.mem_iff_getElem?]
  simp only [getElem?_reports, Bool.false_or, Option.map_eq_some_iff]

/-- A file can change places with the input next to it: it takes nothing away from that one. -/
theorem perm_reports_file (inputRead : Bool) (name path : String) (x : Input)
    (rest : List Input) :
    (s.reports host inputRead (.file name path :: x :: rest)).Perm
      (s.reports host inputRead (x :: .file name path :: rest)) := by
  have hfile : ∀ b, s.reportOn host b (.file name path) =
      s.reportOn host inputRead (.file name path) := fun _ => rfl
  have hread : ∀ b : Bool, (b || decide (Input.file name path = .stdin)) = b := by simp
  simp only [reports, hread, hfile]
  exact .swap _ _ _

/-- Inputs in another order have the same reports in another order. -/
theorem perm_reports {inputs others : List Input} (h : inputs.Perm others) (inputRead : Bool) :
    (s.reports host inputRead inputs).Perm (s.reports host inputRead others) := by
  induction h generalizing inputRead with
  | nil => exact .nil
  | cons input _ ih => exact (ih _).cons _
  | swap x y rest =>
    cases y with
    | file name path => exact perm_reports_file s host inputRead name path x rest
    | stdin =>
      cases x with
      | stdin => exact .refl _
      | file name path => exact (perm_reports_file s host inputRead name path .stdin rest).symm
  | trans _ _ ih ih' => exact (ih inputRead).trans (ih' inputRead)

end Settings

/-! ## Verdicts without a trace and without dumps -/

/-- The verdict on an input with this content. -/
def Input.verdict (input : Input) (content : Except ReadFailure String) : Verdict :=
  match content with
  | .ok text =>
    match firstViolation? (Token.ofSource text) with
    | none => .accepted
    | some v => .rejected v
  | .error failure => .failed (input.fault failure)

/-- The verdicts on some inputs, each by its own content: that of a file, or of standard input for
the first input that it is, and no characters for a later one. -/
def Host.verdicts (host : Host Id) (inputs : List Input) : List Verdict :=
  inputs.mapIdx fun i input =>
    input.verdict (host.content ((inputs.take i).contains .stdin) input)

namespace Settings

/-- What is written about an input with this content besides the message: the dumps and the trace
that are wanted. -/
def notes (s : Settings) : Except ReadFailure String → List Write
  | .ok text => (s.judgeText text).1
  | .error _ => []

theorem judgeText_eq (s : Settings) (text : String) :
    let tokens := Token.ofSource text
    let result := program (Reader.ofTokens tokens s.verbose)
    s.judgeText text =
      (s.tokenDump tokens ++ (readerOf result).trace.toList.map (fun e => .line .err e.line) ++
          s.positionDump (readerOf result),
        match replyOf result with
        | .ok _ => .accepted
        | .error v => .rejected v) := by
  dsimp only [judgeText]
  cases program (Reader.ofTokens (Token.ofSource text) s.verbose) <;> rfl

/-- The verdict on an input does not depend on the settings, and the message about it comes last. -/
theorem judge_eq (s : Settings) (label : String) (input : Input)
    (content : Except ReadFailure String) :
    s.judge label input content =
      (s.notes content ++ [(input.verdict content).write label], input.verdict content) := by
  cases content with
  | ok text =>
    have hverdict : (s.judgeText text).2 = input.verdict (.ok text) := by
      simp only [judgeText_eq, replyOf_program, Input.verdict, firstViolation?]
      cases program (Reader.ofTokens (Token.ofSource text) false) <;> rfl
    simp only [judge, notes, hverdict]
  | error failure => rfl

theorem status_reportOn (s : Settings) (host : Host Id) (inputRead : Bool) (input : Input) :
    (s.reportOn host inputRead input).status =
      (input.verdict (host.content inputRead input)).status := by
  simp only [reportOn, judge_eq]

/-- Settings without a trace and without dumps. -/
def quiet (inputs : List Input) : Settings := ⟨inputs, false, .off⟩

theorem label_quiet (inputs : List Input) (input : Input) :
    (quiet inputs).label input = if 1 < inputs.length then input.name ++ ": " else "" := rfl

theorem notes_quiet (inputs : List Input) (content : Except ReadFailure String) :
    (quiet inputs).notes content = [] := by
  cases content with
  | ok text =>
    have htrace := trace_of_program (Token.ofSource text)
    simp only [notes, judgeText_eq, tokenDump, positionDump, quiet, LogFlags.off, htrace]
    rfl
  | error failure => rfl

theorem judge_quiet (inputs : List Input) (label : String) (input : Input)
    (content : Except ReadFailure String) :
    (quiet inputs).judge label input content =
      ([(input.verdict content).write label], input.verdict content) := by
  rw [judge_eq, notes_quiet, List.nil_append]

theorem reportOn_quiet (inputs : List Input) (host : Host Id) (inputRead : Bool)
    (input : Input) :
    (quiet inputs).reportOn host inputRead input =
      ⟨[(input.verdict (host.content inputRead input)).write ((quiet inputs).label input)],
        (input.verdict (host.content inputRead input)).status⟩ := by
  simp only [reportOn, judge_quiet]

theorem reports_quiet (inputs : List Input) (host : Host Id) :
    (quiet inputs).reports host false inputs =
      (inputs.zip (host.verdicts inputs)).map fun p =>
        ⟨[p.2.write ((quiet inputs).label p.1)], p.2.status⟩ := by
  apply List.ext_getElem?
  intro i
  rw [getElem?_reports, List.getElem?_map, List.zip_eq_zipWith, List.getElem?_zipWith,
    Host.verdicts, List.getElem?_mapIdx]
  cases inputs[i]? with
  | none => rfl
  | some input =>
    simp only [Option.map_some, Bool.false_or]
    rw [reportOn_quiet]

/-- Inputs in another order are labelled as they were. -/
theorem reports_quiet_of_perm {inputs others : List Input} (h : others.Perm inputs)
    (host : Host Id) (inputRead : Bool) (rest : List Input) :
    (quiet others).reports host inputRead rest = (quiet inputs).reports host inputRead rest := by
  have hlabel : (quiet others).label = (quiet inputs).label := by
    funext input
    rw [label_quiet, label_quiet, h.length_eq]
  induction rest generalizing inputRead with
  | nil => rfl
  | cons input rest ih => rw [reports, reports, ih, reportOn_quiet, reportOn_quiet, hlabel]

end Settings

/-! ## What is said about an input -/

theorem decodeText_eq_ok_iff {bytes : ByteArray} {text : String} :
    decodeText bytes = .ok text ↔ bytes = text.toUTF8 := by
  unfold decodeText String.fromUTF8?
  by_cases hvalid : bytes.IsValidUTF8
  · simp only [hvalid, dite_true, Except.ok.injEq, String.toUTF8_eq_toByteArray]
    rw [← String.toByteArray_inj]
    exact Iff.rfl
  · simp only [hvalid, dite_false, reduceCtorEq, false_iff]
    rintro rfl
    exact hvalid text.isValidUTF8

theorem bind_decodeText_eq_ok_iff {read : Except ReadFailure ByteArray} {text : String} :
    read.bind decodeText = .ok text ↔ read = .ok text.toUTF8 := by
  cases read with
  | error failure => simp [Except.bind]
  | ok bytes => simp [Except.bind, decodeText_eq_ok_iff]

/-- The content of the input at a place: that of a file, or of standard input for the first input
that it is. A later one is empty. -/
inductive Host.Holds (host : Host Id) (inputs : List Input) (i : Nat) :
    Except ReadFailure String → Prop
  | file {name path : String} (hinput : inputs[i]? = some (.file name path)) :
      Holds host inputs i ((host.read path).bind decodeText)
  | stdin (hinput : inputs[i]? = some .stdin) (hfirst : .stdin ∉ inputs.take i) :
      Holds host inputs i (host.input.bind decodeText)
  | spent (hinput : inputs[i]? = some .stdin) (hlater : .stdin ∈ inputs.take i) :
      Holds host inputs i (.ok "")

/-- What is said about an input: the stream, the text, and the exit code for which it stands. -/
structure Remark where
  stream : Stream
  text : String
  code : Nat

/-- What is said about an input with some content. -/
inductive Input.Draws : Input → Except ReadFailure String → Remark → Prop
  | accepted {input : Input} {text : String} (h : firstViolation? (Token.ofSource text) = none) :
      Draws input (.ok text) ⟨.out, "Parsing successful.", 0⟩
  | rejected {input : Input} {text : String} {v : Violation}
      (h : firstViolation? (Token.ofSource text) = some v) :
      Draws input (.ok text) ⟨.out, v.message, 1⟩
  | absent {name path : String} :
      Draws (.file name path) (.error .missing) ⟨.err, "File not found: " ++ name, 2⟩
  | unreadable {name path : String} {failure : ReadFailure} (h : failure ≠ .missing) :
      Draws (.file name path) (.error failure)
        ⟨.err, "Failed to read " ++ name ++ ": " ++ failure.text, 2⟩
  | noInput {failure : ReadFailure} :
      Draws .stdin (.error failure) ⟨.err, "Failed to read -: " ++ failure.text, 2⟩

/-- What a verdict says. -/
def Verdict.remark : Verdict → Remark
  | accepted => ⟨.out, "Parsing successful.", 0⟩
  | rejected v => ⟨.out, v.message, 1⟩
  | failed f => ⟨.err, f.message, 2⟩

theorem Verdict.write_eq (verdict : Verdict) (label : String) :
    verdict.write label = ⟨verdict.remark.stream, label ++ verdict.remark.text ++ "\n"⟩ := by
  cases verdict <;> rfl

theorem Verdict.exitCode_status (verdict : Verdict) :
    verdict.status.exitCode = verdict.remark.code := by
  cases verdict <;> rfl

/-- The verdict on an input says what there is to say about it. -/
theorem Input.draws_verdict (input : Input) (content : Except ReadFailure String) :
    input.Draws content (input.verdict content).remark := by
  cases content with
  | ok text =>
    unfold verdict
    dsimp only
    cases hviolation : firstViolation? (Token.ofSource text) with
    | none => exact .accepted hviolation
    | some v => exact .rejected hviolation
  | error failure =>
    cases input with
    | stdin => exact .noInput
    | file name path =>
      by_cases hmissing : failure = .missing
      · subst hmissing
        exact .absent
      · have hfault : (Input.file name path).fault failure = .unreadable name failure := by
          cases failure <;> first | exact absurd rfl hmissing | rfl
        unfold verdict
        dsimp only
        rw [hfault]
        exact .unreadable hmissing

theorem Host.holds_content (host : Host Id) {inputs : List Input} {i : Nat} {input : Input}
    (hinput : inputs[i]? = some input) :
    host.Holds inputs i (host.content ((inputs.take i).contains .stdin) input) := by
  cases input with
  | file name path => exact .file hinput
  | stdin =>
    by_cases hread : Input.stdin ∈ inputs.take i
    · have hspent : (inputs.take i).contains .stdin = true := by simpa using hread
      rw [hspent]
      exact .spent hinput hread
    · have hfirst : (inputs.take i).contains .stdin = false := by simpa using hread
      rw [hfirst]
      exact .stdin hinput hread

namespace Settings

/-- Inputs in another order have the same exit code, and the same messages on each stream. -/
theorem checkAll_quiet_of_perm {inputs others : List Input} (h : others.Perm inputs)
    (host : Host Id) :
    ((quiet others).checkAll host).status.exitCode =
        ((quiet inputs).checkAll host).status.exitCode ∧
      ∀ stream : Stream,
        (((quiet others).checkAll host).writes.filter fun w => w.stream = stream).Perm
          (((quiet inputs).checkAll host).writes.filter fun w => w.stream = stream) := by
  have hreports : ((quiet others).reports host false others).Perm
      ((quiet inputs).reports host false inputs) := by
    rw [reports_quiet_of_perm h]
    exact perm_reports (quiet inputs) host h false
  rw [checkAll_eq_foldr, checkAll_eq_foldr]
  constructor
  · rw [Report.exitCode_foldr_append, Report.exitCode_foldr_append]
    exact (hreports.map _).foldr_eq 0
  · intro stream
    rw [Report.writes_foldr_append, Report.writes_foldr_append]
    exact (hreports.flatMap_right _).filter _

theorem writes_checkAll_quiet (host : Host Id) (inputs : List Input) :
    ((quiet inputs).checkAll host).writes =
      (inputs.zip (host.verdicts inputs)).map fun p =>
        p.2.write (if 1 < inputs.length then p.1.name ++ ": " else "") := by
  rw [checkAll_eq_foldr, Report.writes_foldr_append]
  change ((quiet inputs).reports host false inputs).flatMap _ = _
  rw [reports_quiet, List.flatMap_map, List.map_eq_flatMap]
  rfl

/-- Without a trace and without dumps, a run writes one message for each input, in order. It says
what there is to say about the input with its own content, behind the name of the input if there are
several; the exit code is the greatest of those for which the messages stand. In another order the
inputs have the same exit code and the same messages on each stream. -/
theorem checkAll_quiet (host : Host Id) (inputs : List Input) :
    (∃ remarks : List Remark,
      remarks.length = inputs.length ∧
      (∀ i input remark, inputs[i]? = some input → remarks[i]? = some remark →
        ∃ content, host.Holds inputs i content ∧ input.Draws content remark) ∧
      ((quiet inputs).checkAll host).writes =
        (inputs.zip remarks).map (fun p =>
          ⟨p.2.stream,
            (if 1 < inputs.length then p.1.name ++ ": " else "") ++ p.2.text ++ "\n"⟩) ∧
      ((quiet inputs).checkAll host).status.exitCode = (remarks.map Remark.code).foldr max 0) ∧
      ∀ others : List Input, others.Perm inputs →
        ((quiet others).checkAll host).status.exitCode =
            ((quiet inputs).checkAll host).status.exitCode ∧
          ∀ stream : Stream,
            (((quiet others).checkAll host).writes.filter fun w => w.stream = stream).Perm
              (((quiet inputs).checkAll host).writes.filter fun w => w.stream = stream) := by
  have hlength : (host.verdicts inputs).length = inputs.length := List.length_mapIdx
  refine ⟨⟨(host.verdicts inputs).map Verdict.remark, ?_, ?_, ?_, ?_⟩, ?_⟩
  · rw [List.length_map, hlength]
  · intro i input remark hinput hremark
    rw [List.getElem?_map, Host.verdicts, List.getElem?_mapIdx, hinput] at hremark
    cases hremark
    exact ⟨_, host.holds_content hinput, input.draws_verdict _⟩
  · rw [writes_checkAll_quiet, List.zip_map_right, List.map_map]
    simp only [Verdict.write_eq, Function.comp_def, Prod.map_fst, Prod.map_snd, id_eq]
  · rw [checkAll_eq_foldr, Report.exitCode_foldr_append]
    change (((quiet inputs).reports host false inputs).map _).foldr max 0 = _
    have hverdicts : (inputs.zip (host.verdicts inputs)).map Prod.snd = host.verdicts inputs :=
      List.map_snd_zip (Nat.le_of_eq hlength)
    rw [reports_quiet, List.map_map, List.map_map, ← hverdicts, List.map_map, hverdicts]
    simp only [Function.comp_def, Verdict.exitCode_status]
  · intro others hperm
    exact checkAll_quiet_of_perm hperm host

/-- A program, a text that is none, a file that is no text and one that does not exist, with
standard input before them and behind: it is no program at first, and then it is empty. Backwards
the messages are the same. Alone, an input has no label. -/
theorem checkAll_quiet_mixed :
    let host : Host Id := .ofTree (.directory [("good", .file "x = 1 ;".toUTF8),
      ("bad", .file "x = ;".toUTF8), ("raw", .file ⟨#[0xff]⟩)]) none [] "int".toUTF8
    let inputs : List Input := [.stdin, .file "good" "good", .file "bad" "bad", .file "raw" "raw",
      .file "gone" "gone", .stdin]
    ((quiet inputs).checkAll host).writes =
        [⟨.out, "-: Syntax error: Unexpected end of input\n"⟩,
          ⟨.out, "good: Parsing successful.\n"⟩,
          ⟨.out, "bad: Syntax error: Unexpected factor: ';'\n"⟩,
          ⟨.err, "raw: Failed to read raw: stream did not contain valid UTF-8\n"⟩,
          ⟨.err, "gone: File not found: gone\n"⟩,
          ⟨.out, "-: Parsing successful.\n"⟩] ∧
      (∀ stream : Stream,
        (((quiet inputs.reverse).checkAll host).writes.filter fun w => w.stream = stream).Perm
          (((quiet inputs).checkAll host).writes.filter fun w => w.stream = stream)) ∧
      ((quiet [.file "good" "good"]).checkAll host).writes = [⟨.out, "Parsing successful.\n"⟩] := by
  intro host inputs
  obtain ⟨-, hperm⟩ := checkAll_quiet host inputs
  obtain ⟨-, hmessages⟩ := hperm _ inputs.reverse_perm
  have htext : ∀ (input : Input) (text : String), firstViolation? (Token.ofSource text) = none →
      input.verdict ((.ok text.toUTF8 : Except ReadFailure ByteArray).bind decodeText) =
        .accepted := by
    intro input text htext
    rw [bind_decodeText_eq_ok_iff.mpr rfl, Input.verdict, htext]
  have hgood := htext (.file "good" "good") "x = 1 ;" (by cbv)
  have hspent := htext .stdin "" (by cbv)
  have hviolated : ∀ (input : Input) (text : String) (v : Violation),
      firstViolation? (Token.ofSource text) = some v →
      input.verdict ((.ok text.toUTF8 : Except ReadFailure ByteArray).bind decodeText) =
        .rejected v := by
    intro input text v htext
    rw [bind_decodeText_eq_ok_iff.mpr rfl, Input.verdict, htext]
  have hbad := hviolated (.file "bad" "bad") "x = ;" (.noAlternative .factor ";") (by cbv)
  have hfirst := hviolated .stdin "int" (.endOfInput []) (by cbv)
  have hraw : (Input.file "raw" "raw").verdict (decodeText ⟨#[0xff]⟩) =
      .failed (.unreadable "raw" .notText) := by cbv
  have hverdicts : host.verdicts inputs =
      [.rejected (.endOfInput []), .accepted, .rejected (.noAlternative .factor ";"),
        .failed (.unreadable "raw" .notText), .failed (.fileNotFound "gone"), .accepted] := by
    simp only [Host.verdicts, inputs, List.mapIdx_cons, List.mapIdx_nil, List.cons.injEq]
    exact ⟨hfirst, hgood, hbad, hraw, rfl, hspent, trivial⟩
  have hsingle : host.verdicts [.file "good" "good"] = [.accepted] := by
    simp only [Host.verdicts, List.mapIdx_cons, List.mapIdx_nil, List.cons.injEq]
    exact ⟨hgood, trivial⟩
  refine ⟨?_, hmessages, ?_⟩
  · rw [writes_checkAll_quiet, hverdicts]
    decide
  · rw [writes_checkAll_quiet, hsingle]
    decide

end Settings

end StatementCheck
