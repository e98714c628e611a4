/-!
# Arguments

A command declares options, and takes any number of other arguments as its operands. How a command
line is read does not depend on what the command is for.

Here arguments are read from left to right. An argument that begins with a dash is a long option, a
cluster of short ones, or the mark `--` after which everything is an operand; any other argument, a
single dash among them, is an operand or the value of the option before it. Every command has the
options `help` and `version` besides its own.

An option that wants a value takes the next argument unless that begins with a dash. It is *held*
until the next option or operand shows that it is complete, so what is wrong with it is reported
only then: an unknown option in between is reported first.

## Main definitions

* `Opt`, `Arguments.Command` : an option, and the options that a command declares.
* `Arguments.Matches` : what a command line gives.
* `Refusal` : why a command line is not followed.
* `Arguments.scan` : the reading of a command line.
-/
namespace StatementCheck

/-- An option that a command declares. -/
structure Opt where
  /-- Its letter, for use behind one dash. -/
  short : Char
  /-- Its name, for use behind two dashes. -/
  long : String
  /-- Does it want a value? -/
  wantsValue : Bool
  deriving DecidableEq

/-- Among things that a key tells apart, the one with its key is found. -/
theorem find?_eq_of_nodup_map {α β : Type} [DecidableEq β] {f : α → β} {xs : List α} {x : α}
    (hxs : (xs.map f).Nodup) (hx : x ∈ xs) : xs.find? (fun y => f y = f x) = some x := by
  induction xs with
  | nil => cases hx
  | cons y ys ih =>
    rw [List.map_cons, List.nodup_cons] at hxs
    rw [List.mem_cons] at hx
    rcases hx with rfl | hx
    · simp
    · have hne : f y ≠ f x := fun heq => hxs.1 (heq ▸ List.mem_map_of_mem hx)
      rw [List.find?_cons_of_neg (by simpa using hne)]
      exact ih hxs.2 hx

/-- Why a command line is not followed. The last two are requests for information. -/
inductive Refusal
  /-- There is no such option. -/
  | unknownArgument
  /-- An option that wants a value has none. -/
  | missingValue
  /-- An option is given twice. -/
  | conflict
  /-- An option that wants no value has one. -/
  | surplusValue
  | help
  | version
  deriving DecidableEq

/-- The exit code of a run that ends in a refusal. -/
def Refusal.exitCode : Refusal → Nat
  | help => 0
  | version => 0
  | _ => 2

namespace Arguments

/-- The options that a command declares. -/
abbrev Command := List Opt

/-- What a command line gives: the operands in their order, and what is said of the options, each
under its long name. -/
structure Matches where
  operands : List String
  /-- The value that an option is given. -/
  value? : String → Option String
  /-- Is an option without a value given? -/
  isOn : String → Bool

namespace Matches

/-- Nothing is given. -/
def none : Matches := ⟨[], fun _ => .none, fun _ => false⟩

/-- The matches with the value of an option. -/
def assign (m : Matches) (name value : String) : Matches :=
  { m with value? := fun n => if n = name then some value else m.value? n }

/-- The matches with an option turned on. -/
def turnOn (m : Matches) (name : String) : Matches :=
  { m with isOn := fun n => n = name || m.isOn n }

section

variable (m : Matches) (name other value : String)

@[simp] theorem operands_assign : (m.assign name value).operands = m.operands := rfl

@[simp] theorem value?_assign :
    (m.assign name value).value? other = if other = name then some value else m.value? other := rfl

@[simp] theorem isOn_assign : (m.assign name value).isOn other = m.isOn other := rfl

@[simp] theorem operands_turnOn : (m.turnOn name).operands = m.operands := rfl

@[simp] theorem value?_turnOn : (m.turnOn name).value? other = m.value? other := rfl

@[simp] theorem isOn_turnOn : (m.turnOn name).isOn other = (other = name || m.isOn other) := rfl

end

end Matches

/-- A way to read the command line of a command. -/
abbrev Reading := Command → List String → Except Refusal Matches

/-- An option of a command, or one that every command has. -/
inductive Known
  | declared (o : Opt)
  | help
  | version

/-- The option with a long name. -/
def long? (command : Command) (name : String) : Option Known :=
  match command.find? fun o => o.long = name with
  | some o => some (.declared o)
  | none => if name = "help" then some .help else if name = "version" then some .version else none

/-- The option with a short name. -/
def short? (command : Command) (c : Char) : Option Known :=
  match command.find? fun o => o.short = c with
  | some o => some (.declared o)
  | none => if c = 'h' then some .help else if c = 'V' then some .version else none

/-- The option, if it wants a value. -/
def Known.setting? : Known → Option Opt
  | declared o => if o.wantsValue then some o else none
  | _ => none

/-- What has been read of a command line: what is complete, and a held option with its value if that
has come. -/
structure Scan where
  matched : Matches
  held : Option (Opt × Option String)

namespace Scan

/-- Give an option its value. No option has two. -/
def assign (m : Matches) (o : Opt) (value : String) : Except Refusal Matches :=
  if (m.value? o.long).isSome then .error .conflict else .ok (m.assign o.long value)

/-- Turn an option on, at most once. The options that every command has end the reading. -/
def turnOn (m : Matches) : Known → Except Refusal Matches
  | .help => .error .help
  | .version => .error .version
  | .declared o => if m.isOn o.long then .error .conflict else .ok (m.turnOn o.long)

/-- Complete the held option. -/
def settle (s : Scan) : Except Refusal Matches :=
  match s.held with
  | none => .ok s.matched
  | some (_, none) => .error .missingValue
  | some (o, some value) => assign s.matched o value

/-- Read an option that wants no value. -/
def switch (s : Scan) (k : Known) : Except Refusal Scan := do
  let m ← s.settle
  return ⟨← turnOn m k, none⟩

/-- Read an option with its value attached. -/
def attached (s : Scan) (o : Opt) (value : String) : Except Refusal Scan := do
  let m ← s.settle
  return ⟨← assign m o value, none⟩

/-- Read an option whose value is still to come. -/
def awaiting (s : Scan) (o : Opt) : Except Refusal Scan := do
  return ⟨← s.settle, some (o, none)⟩

/-- Read a long option, given without its dashes. Its value follows the first equals sign. -/
def readLong (command : Command) (s : Scan) (body : List Char) : Except Refusal Scan :=
  let name := String.ofList (body.takeWhile (· ≠ '='))
  let value? := (body.dropWhile (· ≠ '=')).tail?.map String.ofList
  match long? command name with
  | none => .error .unknownArgument
  | some k =>
    match k.setting?, value? with
    | some o, some value => s.attached o value
    | some o, none => s.awaiting o
    | none, some _ => .error .surplusValue
    | none, none => s.switch k

/-- Read a cluster of short options, given without its dash. The first that wants a value takes the
rest of the cluster as its value, without an equals sign in front. -/
def readCluster (command : Command) (s : Scan) : List Char → Except Refusal Scan
  | [] => .ok s
  | c :: rest =>
    match short? command c with
    | none => .error .unknownArgument
    | some k =>
      match k.setting? with
      | none => do (← s.switch k).readCluster command rest
      | some o =>
        match rest with
        | [] => s.awaiting o
        | '=' :: value => s.attached o (String.ofList value)
        | value => s.attached o (String.ofList value)

/-- Read an argument that is no option: the value that a held option waits for, or else an operand.
-/
def readPlain (s : Scan) (argument : String) : Except Refusal Scan :=
  match s.held with
  | some (o, none) => .ok { s with held := some (o, some argument) }
  | _ => do
    let m ← s.settle
    return ⟨{ m with operands := m.operands ++ [argument] }, none⟩

/-- Read an argument, the mark `--` apart. -/
def read (command : Command) (s : Scan) (argument : String) : Except Refusal Scan :=
  match argument.toList with
  | '-' :: '-' :: body => s.readLong command body
  | '-' :: c :: rest => s.readCluster command (c :: rest)
  | _ => s.readPlain argument

/-- Read the arguments up to the end. After the mark `--` all of them are operands. -/
def readAll (command : Command) (s : Scan) : List String → Except Refusal Matches
  | [] => s.settle
  | argument :: rest =>
    if argument = "--" then do
      let m ← s.settle
      return { m with operands := m.operands ++ rest }
    else do (← s.read command argument).readAll command rest

end Scan

/-- What a command line, without the name of the program, gives to a command. -/
def scan : Reading := fun command arguments => Scan.readAll command ⟨.none, none⟩ arguments

end Arguments

end StatementCheck
