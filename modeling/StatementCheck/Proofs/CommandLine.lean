import Mathlib.Data.List.TakeWhile
import StatementCheck.Library
import StatementCheck.Options

/-!
# Command lines and what they ask for

A command line can be written for any options: each setting with its value attached, the switch in
either spelling, and sources among them in their order, up to a mark behind which anything is a
source. Whatever the values and the sources are, it is read back as what it was written for.

How command lines are read is a matter of the library. What is asked of it are rules for one more
argument behind others: a plain one is an operand, an option with its value attached has that value,
a switch is on, and behind the mark anything is an operand. So a value that is attached is never
looked at for dashes or for the mark, and the only sources that have to stand behind the mark are
those that could be taken for options. The program's own library follows these rules.

## Main definitions

* `Arguments.IsPlain` : an argument that is not taken for an option.
* `Arguments.Rules` : the rules by which a library reads command lines.
* `Arguments.rules_scan` : the program's own library follows them.
* `Options.Writes` : the command lines that are written for some options.
* `Options.ofArguments_of_writes` : they are read back.
-/
namespace StatementCheck

namespace Arguments

/-! ## Rules for reading command lines -/

/-- An argument that is not taken for an option: it has no dash in front, or is a single one. -/
def IsPlain (argument : String) : Prop := argument.toList.head? ≠ some '-' ∨ argument = "-"

/-- The options of a command can be told apart, from each other and from those that every command
has, and their names from what stands around them. -/
structure Command.IsValid (command : Command) : Prop where
  long_nodup : (command.map Opt.long).Nodup
  short_nodup : (command.map Opt.short).Nodup
  long : ∀ o ∈ command, o.long ∉ ["", "help", "version"] ∧ '=' ∉ o.long.toList
  short : ∀ o ∈ command, o.short ∉ ['-', '=', 'h', 'V']

/-- Rules for reading the command line of any command: what is read of the arguments so far, and one
more behind them. -/
structure Rules (read : Reading) : Prop where
  /-- Without arguments nothing is given. -/
  nothing {command : Command} (hcommand : command.IsValid) : read command [] = .ok .none
  /-- A plain argument is an operand. -/
  operand {command : Command} {before : List String} {m : Matches} {argument : String}
    (hcommand : command.IsValid) (hbefore : "--" ∉ before) (h : read command before = .ok m)
    (hplain : IsPlain argument) :
    read command (before ++ [argument]) = .ok { m with operands := m.operands ++ [argument] }
  /-- Behind its long name and an equals sign stands the value of an option, whatever it is. -/
  assigned {command : Command} {before : List String} {m : Matches} {o : Opt}
    (hcommand : command.IsValid) (hbefore : "--" ∉ before) (h : read command before = .ok m)
    (ho : o ∈ command) (hvalue : o.wantsValue = true) (hnew : m.value? o.long = none)
    (value : String) :
    read command (before ++ ["--" ++ o.long ++ "=" ++ value]) = .ok (m.assign o.long value)
  /-- The name of an option that wants no value, long or short, turns it on. -/
  switched {command : Command} {before : List String} {m : Matches} {o : Opt} {spelling : String}
    (hcommand : command.IsValid) (hbefore : "--" ∉ before) (h : read command before = .ok m)
    (ho : o ∈ command) (hvalue : o.wantsValue = false) (hnew : m.isOn o.long = false)
    (hspelling : spelling ∈ ["--" ++ o.long, "-" ++ o.short.toString]) :
    read command (before ++ [spelling]) = .ok (m.turnOn o.long)
  /-- Behind the mark `--` all arguments are operands, whatever they are. -/
  mark {command : Command} {before : List String} {m : Matches}
    (hcommand : command.IsValid) (hbefore : "--" ∉ before) (h : read command before = .ok m)
    (operands : List String) :
    read command (before ++ "--" :: operands) =
      .ok { m with operands := m.operands ++ operands }

/-! ## Arguments that are not the mark -/

theorem IsPlain.ne_mark {argument : String} (h : IsPlain argument) : argument ≠ "--" := by
  rintro rfl
  rcases h with hhead | heq
  · exact hhead (by decide)
  · exact absurd heq (by decide)

theorem assigned_ne_mark (name value : String) : "--" ++ name ++ "=" ++ value ≠ "--" := by
  intro h
  have hlength := congrArg (fun s : String => s.toList.length) h
  simp [String.toList_append] at hlength

theorem Command.IsValid.switched_ne_mark {command : Command} (hcommand : command.IsValid) {o : Opt}
    (ho : o ∈ command) {spelling : String}
    (hspelling : spelling ∈ ["--" ++ o.long, "-" ++ o.short.toString]) : spelling ≠ "--" := by
  rintro rfl
  simp only [List.mem_cons, List.not_mem_nil, or_false] at hspelling
  rcases hspelling with hlong | hshort
  · have hnil : o.long = "" := by
      have hlength := congrArg (fun s : String => s.toList.length) hlong
      simpa [String.toList_append] using hlength
    exact (hcommand.long o ho).1 (by simp [hnil])
  · have hdash : o.short = '-' := by
      have hlast := congrArg (fun s : String => s.toList.getLast?) hshort
      simpa [String.toList_append, Char.toString, eq_comm] using hlast
    exact hcommand.short o ho (by simp [hdash])

/-! ## The rules of the scan -/

section

variable {command : Command} {o : Opt}

theorem long?_of_mem (hcommand : command.IsValid) (ho : o ∈ command) :
    long? command o.long = some (.declared o) := by
  have hfind : command.find? (fun o' => o'.long = o.long) = some o :=
    find?_eq_of_nodup_map hcommand.long_nodup ho
  rw [long?, hfind]

theorem short?_of_mem (hcommand : command.IsValid) (ho : o ∈ command) :
    short? command o.short = some (.declared o) := by
  have hfind : command.find? (fun o' => o'.short = o.short) = some o :=
    find?_eq_of_nodup_map hcommand.short_nodup ho
  rw [short?, hfind]

namespace Scan

variable {s : Scan} {m m' : Matches} {argument value : String}

theorem attached_of_settle (hs : s.settle = .ok m) (hnew : m.value? o.long = none)
    (value : String) :
    s.attached o value = .ok ⟨m.assign o.long value, none⟩ := by
  simp [attached, hs, assign, hnew, bind, Except.bind, pure, Except.pure]

theorem switch_of_settle (hs : s.settle = .ok m) (hnew : m.isOn o.long = false) :
    s.switch (.declared o) = .ok ⟨m.turnOn o.long, none⟩ := by
  simp [switch, hs, turnOn, hnew, bind, Except.bind, pure, Except.pure]

/-- Where no option waits for a value, an argument that is no option is an operand. -/
theorem readPlain_of_settle (hs : s.settle = .ok m) (argument : String) :
    s.readPlain argument = .ok ⟨{ m with operands := m.operands ++ [argument] }, none⟩ := by
  obtain ⟨matched, held⟩ := s
  match held with
  | none =>
    cases hs
    rfl
  | some (o, none) => cases hs
  | some (o, some value) =>
    simp only [readPlain, hs]
    rfl

theorem read_of_isPlain (hs : s.settle = .ok m) (hplain : IsPlain argument) :
    s.read command argument =
      .ok ⟨{ m with operands := m.operands ++ [argument] }, none⟩ := by
  have hread : s.read command argument = s.readPlain argument := by
    rcases hplain with hhead | rfl
    · unfold read
      split <;> simp_all
    · rfl
  rw [hread, readPlain_of_settle hs]

/-- A long name ends at the first equals sign, and the value is all that is behind it. -/
theorem read_assigned (hcommand : command.IsValid) (ho : o ∈ command)
    (hvalue : o.wantsValue = true) (hs : s.settle = .ok m) (hnew : m.value? o.long = none)
    (value : String) :
    s.read command ("--" ++ o.long ++ "=" ++ value) = .ok ⟨m.assign o.long value, none⟩ := by
  have hargument : ("--" ++ o.long ++ "=" ++ value).toList =
      '-' :: '-' :: (o.long.toList ++ '=' :: value.toList) := by
    simp
  have hall : ∀ c ∈ o.long.toList, decide (c ≠ '=') = true := by
    intro c hc
    simpa using ne_of_mem_of_not_mem hc (hcommand.long o ho).2
  have htake : (o.long.toList ++ '=' :: value.toList).takeWhile (· ≠ '=') = o.long.toList := by
    rw [List.takeWhile_append_of_pos hall]
    simp
  have hdrop : (o.long.toList ++ '=' :: value.toList).dropWhile (· ≠ '=') =
      '=' :: value.toList := by
    rw [List.dropWhile_append_of_pos hall]
    simp
  simp only [read, hargument, readLong, htake, hdrop, List.tail?_cons, Option.map_some,
    String.ofList_toList, long?_of_mem hcommand ho, Known.setting?, hvalue, if_true]
  exact attached_of_settle hs hnew value

theorem read_switched (hcommand : command.IsValid) (ho : o ∈ command)
    (hvalue : o.wantsValue = false) (hs : s.settle = .ok m) (hnew : m.isOn o.long = false)
    {spelling : String} (hspelling : spelling ∈ ["--" ++ o.long, "-" ++ o.short.toString]) :
    s.read command spelling = .ok ⟨m.turnOn o.long, none⟩ := by
  have hswitch : s.switch (.declared o) = .ok ⟨m.turnOn o.long, none⟩ :=
    switch_of_settle hs hnew
  simp only [List.mem_cons, List.not_mem_nil, or_false] at hspelling
  rcases hspelling with rfl | rfl
  · have hargument : ("--" ++ o.long).toList = '-' :: '-' :: o.long.toList := by simp
    have hall : ∀ c ∈ o.long.toList, decide (c ≠ '=') = true := by
      intro c hc
      simpa using ne_of_mem_of_not_mem hc (hcommand.long o ho).2
    have htake : o.long.toList.takeWhile (· ≠ '=') = o.long.toList :=
      List.takeWhile_eq_self_iff.mpr hall
    have hdrop : o.long.toList.dropWhile (· ≠ '=') = [] := List.dropWhile_eq_nil_iff.mpr hall
    simp only [read, hargument, readLong, htake, hdrop, List.tail?_nil, Option.map_none,
      String.ofList_toList, long?_of_mem hcommand ho, Known.setting?, hvalue, Bool.false_eq_true,
      if_false]
    exact hswitch
  · have hargument : ("-" ++ o.short.toString).toList = ['-', o.short] := by
      simp [Char.toString]
    have hdash : o.short ≠ '-' := fun heq => hcommand.short o ho (by simp [heq])
    have hread : s.read command ("-" ++ o.short.toString) = s.readCluster command [o.short] := by
      unfold read
      rw [hargument]
      split <;> simp_all
    rw [hread]
    simp only [readCluster, short?_of_mem hcommand ho, Known.setting?, hvalue, Bool.false_eq_true,
      if_false, hswitch]
    rfl

/-- Arguments in front of any mark are read one after the other. -/
theorem readAll_append (command : Command) (s : Scan) {before : List String}
    (hbefore : "--" ∉ before) (rest : List String) :
    s.readAll command (before ++ rest) =
      before.foldlM (read command) s >>= fun t => t.readAll command rest := by
  induction before generalizing s with
  | nil => rfl
  | cons argument before ih =>
    rw [List.mem_cons, not_or] at hbefore
    rw [List.cons_append, List.foldlM_cons, readAll, if_neg (Ne.symm hbefore.1), bind_assoc]
    exact bind_congr fun t => ih t hbefore.2

/-- What is complete behind some arguments is what they give. -/
theorem exists_settle_of_scan {before : List String} (hbefore : "--" ∉ before)
    (h : scan command before = .ok m) :
    ∃ t : Scan, t.settle = .ok m ∧
      ∀ rest, scan command (before ++ rest) = t.readAll command rest := by
  have hread := readAll_append command ⟨.none, none⟩ hbefore
  have hbefore' := hread []
  rw [List.append_nil] at hbefore'
  unfold scan at h
  rw [hbefore'] at h
  cases ht : before.foldlM (read command) ⟨.none, none⟩ with
  | error e =>
    rw [ht] at h
    cases h
  | ok t =>
    rw [ht] at h
    refine ⟨t, h, fun rest => ?_⟩
    unfold scan
    rw [hread, ht]
    rfl

/-- An argument other than the mark is read, and then nothing is left. -/
theorem readAll_singleton (hmark : argument ≠ "--")
    (h : s.read command argument = .ok ⟨m, none⟩) : s.readAll command [argument] = .ok m := by
  rw [readAll, if_neg hmark, h]
  rfl

end Scan

end

/-- The scan follows the rules. -/
theorem rules_scan : Rules scan where
  nothing _ := rfl
  operand _ hbefore h hplain := by
    obtain ⟨t, ht, hrest⟩ := Scan.exists_settle_of_scan hbefore h
    rw [hrest]
    exact Scan.readAll_singleton hplain.ne_mark (Scan.read_of_isPlain ht hplain)
  assigned hcommand hbefore h ho hvalue hnew value := by
    obtain ⟨t, ht, hrest⟩ := Scan.exists_settle_of_scan hbefore h
    rw [hrest]
    exact Scan.readAll_singleton (assigned_ne_mark _ value)
      (Scan.read_assigned hcommand ho hvalue ht hnew value)
  switched hcommand hbefore h ho hvalue hnew hspelling := by
    obtain ⟨t, ht, hrest⟩ := Scan.exists_settle_of_scan hbefore h
    rw [hrest]
    exact Scan.readAll_singleton (hcommand.switched_ne_mark ho hspelling)
      (Scan.read_switched hcommand ho hvalue ht hnew hspelling)
  mark _ hbefore h operands := by
    obtain ⟨t, ht, hrest⟩ := Scan.exists_settle_of_scan hbefore h
    rw [hrest, Scan.readAll, if_pos rfl, ht]
    rfl

end Arguments

namespace Options

/-! ## Command lines for options -/

/-- Command lines that ask for some sources, a config file, a trace and log flags. Options may stand
in any order and anywhere among the sources in front of the mark; behind it are the sources that are
left. The mark may be left out if there are none. -/
inductive Writes : List String → Option String → Bool → Option String → List String → Prop
  | none : Writes [] none false none []
  | mark (sources : List String) : Writes sources none false none ("--" :: sources)
  | source {sources arguments : List String} {config logFlags : Option String} {verbose : Bool}
      {source : String} (hplain : Arguments.IsPlain source)
      (h : Writes sources config verbose logFlags arguments) :
      Writes (source :: sources) config verbose logFlags (source :: arguments)
  | config {sources arguments : List String} {logFlags : Option String} {verbose : Bool}
      (value : String) (h : Writes sources .none verbose logFlags arguments) :
      Writes sources (some value) verbose logFlags (("--config=" ++ value) :: arguments)
  | verbose {sources arguments : List String} {config logFlags : Option String} {spelling : String}
      (hspelling : spelling ∈ ["-v", "--verbose"])
      (h : Writes sources config false logFlags arguments) :
      Writes sources config true logFlags (spelling :: arguments)
  | logFlags {sources arguments : List String} {config : Option String} {verbose : Bool}
      (value : String) (h : Writes sources config verbose .none arguments) :
      Writes sources config verbose (some value) (("--log-flags=" ++ value) :: arguments)

/-- The options of the command can be told apart. -/
theorem isValid_command : Arguments.Command.IsValid command where
  long_nodup := by decide
  short_nodup := by decide
  long := by decide
  short := by decide

theorem configOpt_mem : configOpt ∈ command := by decide

theorem verboseOpt_mem : verboseOpt ∈ command := by decide

theorem logFlagsOpt_mem : logFlagsOpt ∈ command := by decide

theorem not_mem_append_singleton {α : Type} {x y : α} {xs : List α} (hxs : x ∉ xs) (hy : y ≠ x) :
    x ∉ xs ++ [y] := by
  simpa [hxs] using Ne.symm hy

section

variable {read : Arguments.Reading} (hread : Arguments.Rules read)
include hread

/-- Behind arguments that are read already, what a command line is written for is added to them, if
nothing is asked for twice. -/
theorem ofArguments_append_of_writes {sources arguments before : List String}
    {config logFlags : Option String} {verbose : Bool} {m : Arguments.Matches}
    (h : Writes sources config verbose logFlags arguments) (hmark : "--" ∉ before)
    (hbefore : read command before = .ok m)
    (hconfig : config.isSome = true → m.value? configOpt.long = none)
    (hverbose : verbose = true → m.isOn verboseOpt.long = false)
    (hlogFlags : logFlags.isSome = true → m.value? logFlagsOpt.long = none) :
    ofArguments read (before ++ arguments) =
      .ok ⟨m.operands ++ sources, config.or (m.value? configOpt.long),
        verbose || m.isOn verboseOpt.long,
        (logFlags.or (m.value? logFlagsOpt.long)).map LogFlags.ofText⟩ := by
  induction h generalizing before m with
  | none =>
    rw [List.append_nil, ofArguments, hbefore]
    simp [ofMatches, Except.map]
  | mark sources =>
    rw [ofArguments, hread.mark isValid_command hmark hbefore]
    simp [ofMatches, Except.map]
  | @source sources arguments config logFlags verbose source hplain _ ih =>
    have hmore := hread.operand isValid_command hmark hbefore hplain
    rw [List.append_cons]
    refine (ih (not_mem_append_singleton hmark hplain.ne_mark) hmore ?_ ?_ ?_).trans (by simp)
    · exact hconfig
    · exact hverbose
    · exact hlogFlags
  | config value _ ih =>
    have hspelt : "--config=" ++ value = "--" ++ configOpt.long ++ "=" ++ value := rfl
    have hne := Arguments.assigned_ne_mark configOpt.long value
    have hmore := hread.assigned isValid_command hmark hbefore configOpt_mem rfl (hconfig rfl) value
    rw [List.append_cons, hspelt]
    refine (ih (not_mem_append_singleton hmark hne) hmore ?_ ?_ ?_).trans
      (by simp [configOpt, logFlagsOpt])
    · simp
    · exact hverbose
    · exact hlogFlags
  | verbose hspelling _ ih =>
    have hspelt : _ ∈ ["--" ++ verboseOpt.long, "-" ++ verboseOpt.short.toString] :=
      (List.Perm.swap _ _ []).subset hspelling
    have hne := isValid_command.switched_ne_mark verboseOpt_mem hspelt
    have hmore := hread.switched isValid_command hmark hbefore verboseOpt_mem rfl (hverbose rfl)
      hspelt
    rw [List.append_cons]
    refine (ih (not_mem_append_singleton hmark hne) hmore ?_ ?_ ?_).trans (by simp)
    · exact hconfig
    · simp
    · exact hlogFlags
  | logFlags value _ ih =>
    have hspelt : "--log-flags=" ++ value = "--" ++ logFlagsOpt.long ++ "=" ++ value := rfl
    have hne := Arguments.assigned_ne_mark logFlagsOpt.long value
    have hmore := hread.assigned isValid_command hmark hbefore logFlagsOpt_mem rfl (hlogFlags rfl)
      value
    rw [List.append_cons, hspelt]
    refine (ih (not_mem_append_singleton hmark hne) hmore ?_ ?_ ?_).trans
      (by simp [configOpt, logFlagsOpt])
    · simpa [configOpt, logFlagsOpt] using hconfig
    · exact hverbose
    · simp

/-- A command line is read back as what it was written for, whatever the values and the sources. The
log flags are those whose letters are in their text. -/
theorem ofArguments_of_writes {sources arguments : List String} {config logFlags : Option String}
    {verbose : Bool} (h : Writes sources config verbose logFlags arguments) :
    ofArguments read arguments =
        .ok ⟨sources, config, verbose, logFlags.map LogFlags.ofText⟩ ∧
      ∀ text ∈ logFlags,
        ((LogFlags.ofText text).tokens = true ↔ 'k' ∈ text.toList) ∧
          ((LogFlags.ofText text).position = true ↔ 'p' ∈ text.toList) := by
  refine ⟨?_, fun text _ => ⟨LogFlags.tokens_ofText, LogFlags.position_ofText⟩⟩
  have hnothing := hread.nothing isValid_command
  have hoptions := ofArguments_append_of_writes hread h List.not_mem_nil hnothing
    (fun _ => rfl) (fun _ => rfl) (fun _ => rfl)
  rw [List.nil_append] at hoptions
  rw [hoptions]
  simp [Arguments.Matches.none]

end

/-- Values that look like the mark and like an option, standard input and an empty source in front
of the mark, and the mark itself behind it. -/
theorem ofArguments_of_writes_mark :
    Writes ["-", "", "--", "-v"] (some "--") true (some "=-k")
      ["-", "--log-flags==-k", "", "-v", "--config=--", "--", "--", "-v"] ∧
    ofArguments Library.own.arguments
        ["-", "--log-flags==-k", "", "-v", "--config=--", "--", "--", "-v"] =
      .ok ⟨["-", "", "--", "-v"], some "--", true, some ⟨true, false⟩⟩ := by
  have hwrites : Writes ["-", "", "--", "-v"] (some "--") true (some "=-k")
      ["-", "--log-flags==-k", "", "-v", "--config=--", "--", "--", "-v"] :=
    .source (.inr rfl) (.logFlags "=-k" (.source (.inl (by decide))
      (.verbose (by decide) (.config "--" (.mark ["--", "-v"])))))
  obtain ⟨hoptions, -⟩ := ofArguments_of_writes Arguments.rules_scan hwrites
  exact ⟨hwrites, hoptions⟩

end Options

end StatementCheck
