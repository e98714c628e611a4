/-!
# Log flags

Which extra dumps a check writes. They are given as a text of letters, in any order and any number;
letters without a meaning are passed over.

## Main definitions

* `LogFlags` : the dumps that are wanted.
* `LogFlags.ofText` : the flags that a text asks for.
-/
namespace StatementCheck

/-- The extra dumps that are wanted: the list of tokens, and the position where the check ended. -/
structure LogFlags where
  tokens : Bool
  position : Bool
  deriving DecidableEq

namespace LogFlags

/-- No dumps. -/
def off : LogFlags := ⟨false, false⟩

/-- Read one letter: `k` asks for the tokens, `p` for the position. -/
def read (flags : LogFlags) (c : Char) : LogFlags :=
  if c = 'k' then { flags with tokens := true }
  else if c = 'p' then { flags with position := true }
  else flags

/-- The dumps that a text asks for. -/
def ofText (s : String) : LogFlags := s.toList.foldl read off

theorem tokens_foldl_read (flags : LogFlags) (cs : List Char) :
    (cs.foldl read flags).tokens = true ↔ flags.tokens = true ∨ 'k' ∈ cs := by
  induction cs generalizing flags with
  | nil => simp
  | cons c cs ih =>
    rw [List.foldl_cons, ih, List.mem_cons, ← or_assoc]
    refine or_congr_left ?_
    unfold read
    split
    · next h => simp [h]
    · next h =>
      split <;> simp [Ne.symm h]

theorem position_foldl_read (flags : LogFlags) (cs : List Char) :
    (cs.foldl read flags).position = true ↔ flags.position = true ∨ 'p' ∈ cs := by
  induction cs generalizing flags with
  | nil => simp
  | cons c cs ih =>
    rw [List.foldl_cons, ih, List.mem_cons, ← or_assoc]
    refine or_congr_left ?_
    unfold read
    split
    · next h => simp [h]
    · split
      · next h => simp [h]
      · next h => simp [Ne.symm h]

theorem tokens_ofText {s : String} : (ofText s).tokens = true ↔ 'k' ∈ s.toList := by
  simp [ofText, tokens_foldl_read, off]

theorem position_ofText {s : String} : (ofText s).position = true ↔ 'p' ∈ s.toList := by
  simp [ofText, position_foldl_read, off]

end LogFlags

end StatementCheck
