/-!
# Glob patterns

A pattern is read into atoms, each of which stands for one character of a name, or for any number of
them. The mark `**` may only be a whole piece of a path; it stands for any number of directories.

## Main definitions

* `Glob.Atom` : a part of a pattern.
* `Glob.parse` : the atoms of a pattern, or what is wrong with it and where.
* `Glob.accepts` : does a name match?
* `Glob.isPattern` : does a text hold a character with a meaning in patterns?
-/
namespace StatementCheck.Glob

/-- A part of a pattern. -/
inductive Atom
  | char (c : Char)
  /-- `?` : any character. -/
  | any
  /-- `*` : any number of any characters. -/
  | many
  /-- A character in one of the ranges, ends included; or in none of them, if negated. -/
  | among (negated : Bool) (ranges : List (Char × Char))
  /-- `**` : any number of directories. -/
  | deep
  deriving DecidableEq

/-- What can be wrong with a pattern. -/
inductive Flaw
  | tooManyStars
  | deepInsidePiece
  | badClass
  deriving DecidableEq

/-- What is wrong with a pattern, and at which character. -/
structure Error where
  position : Nat
  flaw : Flaw
  deriving DecidableEq

/-- The words for a flaw. -/
def Flaw.text : Flaw → String
  | tooManyStars => "wildcards are either regular `*` or recursive `**`"
  | deepInsidePiece => "recursive wildcards must form a single path component"
  | badClass => "invalid range pattern"

/-- The words for what is wrong with a pattern. -/
def Error.text (e : Error) : String :=
  "Pattern syntax error near position " ++ toString e.position ++ ": " ++ e.flaw.text

/-- Does a text hold a character with a meaning in patterns? -/
def isPattern (s : String) : Bool :=
  s.toList.any fun c => c = '*' || c = '?' || c = '['

/-! ## Reading -/

/-- The ranges that the members of a class stand for: `a-b` from one character to another, any other
character itself. -/
def rangesOf : List Char → List (Char × Char)
  | a :: '-' :: b :: rest => (a, b) :: rangesOf rest
  | a :: rest => (a, a) :: rangesOf rest
  | [] => []

/-- The members of a class, given with what follows its opening, and what follows its closing
bracket. The first member may be a bracket itself. -/
def members? : List Char → Option (List Char × List Char)
  | [] => none
  | first :: rest =>
    match rest.dropWhile (· ≠ ']') with
    | [] => none
    | _ :: after => some (first :: rest.takeWhile (· ≠ ']'), after)

/-- The atom of a class, given with what follows its opening bracket, and what follows it. -/
def class? : List Char → Option (Atom × List Char)
  | '!' :: rest => (members? rest).map fun (ms, after) => (.among true (rangesOf ms), after)
  | rest => (members? rest).map fun (ms, after) => (.among false (rangesOf ms), after)

theorem length_of_members? {cs ms after : List Char} (h : members? cs = some (ms, after)) :
    after.length < cs.length := by
  unfold members? at h
  split at h
  · cases h
  · next first rest =>
    split at h
    · cases h
    · next c tail hd =>
      cases h
      have : (rest.dropWhile (· ≠ ']')).length ≤ rest.length :=
        (List.dropWhile_sublist _).length_le
      rw [hd] at this
      simp only [List.length_cons] at *
      omega

theorem length_of_class? {cs after : List Char} {a : Atom} (h : class? cs = some (a, after)) :
    after.length < cs.length := by
  unfold class? at h
  split at h
  · next rest =>
    obtain ⟨⟨ms, after'⟩, hm, he⟩ := Option.map_eq_some_iff.1 h
    cases he
    have := length_of_members? hm
    simp only [List.length_cons]
    omega
  · next rest _ =>
    obtain ⟨⟨ms, after'⟩, hm, he⟩ := Option.map_eq_some_iff.1 h
    cases he
    exact length_of_members? hm

/-- May a mark `**` stand after this character, or at the start? -/
def startsPiece : Option Char → Bool
  | none => true
  | some c => c = '/'

/-- The atoms of the rest of a pattern, which begins at a position, after a character if there is
one. -/
def parseFrom (position : Nat) (before : Option Char) (cs : List Char) :
    Except Error (List Atom) :=
  match cs with
  | [] => .ok []
  | '?' :: rest => do return .any :: (← parseFrom (position + 1) (some '?') rest)
  | '*' :: '*' :: '*' :: _ => .error ⟨position + 2, .tooManyStars⟩
  | '*' :: '*' :: rest =>
    if startsPiece before then
      match rest with
      | [] => .ok [.deep]
      | '/' :: rest => do return .deep :: (← parseFrom (position + 3) (some '/') rest)
      | _ => .error ⟨position + 2, .deepInsidePiece⟩
    else .error ⟨position - 1, .deepInsidePiece⟩
  | '*' :: rest => do return .many :: (← parseFrom (position + 1) (some '*') rest)
  | '[' :: rest =>
    match _h : class? rest with
    | none => .error ⟨position, .badClass⟩
    | some (a, after) => do
      return a :: (← parseFrom (position + 1 + (rest.length - after.length)) (some ']') after)
  | c :: rest => do return .char c :: (← parseFrom (position + 1) (some c) rest)
termination_by cs.length
decreasing_by
  · simp
  · simp only [List.length_cons]
    omega
  · simp
  · have := length_of_class? _h
    simp only [List.length_cons]
    omega
  · simp

/-- The atoms of a pattern. -/
def parse (pattern : String) : Except Error (List Atom) := parseFrom 0 none pattern.toList

/-! ## Matching -/

/-- Does an atom stand for this one character? -/
def Atom.admits : Atom → Char → Bool
  | char c, x => c = x
  | any, _ => true
  | among negated ranges, x => (ranges.any fun r => r.1 ≤ x && x ≤ r.2) != negated
  | many, _ => false
  | deep, _ => false

/-- The ends of a list, from the whole list to the empty one. -/
def ends : List Char → List (List Char)
  | [] => [[]]
  | c :: cs => (c :: cs) :: ends cs

/-- Do the atoms stand for these characters? -/
def acceptsChars : List Atom → List Char → Bool
  | [], cs => cs.isEmpty
  | .many :: atoms, cs => (ends cs).any (acceptsChars atoms)
  | _ :: _, [] => false
  | a :: atoms, c :: cs => a.admits c && acceptsChars atoms cs

/-- Do the atoms stand for a name? -/
def accepts (atoms : List Atom) (name : String) : Bool := acceptsChars atoms name.toList

end StatementCheck.Glob
