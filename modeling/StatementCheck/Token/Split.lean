import StatementCheck.Text.Blank
import StatementCheck.Token

/-!
# Splitting a source into tokens

The tokens of a source are its maximal runs of characters that are not blank.

## Main definitions

* `Token.Runs` : what has been read of a source, and `Token.Runs.read`, one character more.
* `Token.ofSource` : the tokens of a source text.
* `Token.ofSource_append_blank` : a blank separates what is before it from what is after it.
-/
namespace StatementCheck.Token

open Text

/-- What has been read of a source: the finished runs, latest first, and the characters of the run
that is being read, also latest first. -/
structure Runs where
  finished : List Token
  current : List Char

namespace Runs

/-- Nothing read yet. -/
def start : Runs := ⟨[], []⟩

/-- The finished runs once the current one, unless it is empty, is finished too. -/
def close (r : Runs) : List Token :=
  if r.current.isEmpty then r.finished else String.ofList r.current.reverse :: r.finished

/-- One character more: a blank finishes the current run, any other character extends it. -/
def read (r : Runs) (c : Char) : Runs :=
  if isBlank c then ⟨r.close, []⟩ else ⟨r.finished, c :: r.current⟩

@[simp] theorem close_nil (ts : List Token) : close ⟨ts, []⟩ = ts := rfl

@[simp] theorem close_cons (ts : List Token) (c : Char) (cs : List Char) :
    close ⟨ts, c :: cs⟩ = String.ofList (c :: cs).reverse :: ts := rfl

theorem read_blank {c : Char} (h : isBlank c = true) (r : Runs) : r.read c = ⟨r.close, []⟩ := by
  simp [read, h]

theorem read_nonblank {c : Char} (h : isBlank c = false) (r : Runs) :
    r.read c = ⟨r.finished, c :: r.current⟩ := by
  simp [read, h]

/-- Runs that were finished before reading began stay what they are. -/
theorem close_foldl_read (cs : List Char) (ts us : List Token) (current : List Char) :
    (cs.foldl read ⟨ts ++ us, current⟩).close = (cs.foldl read ⟨ts, current⟩).close ++ us := by
  induction cs generalizing ts current with
  | nil => cases current <;> simp
  | cons c cs ih =>
    cases hb : isBlank c with
    | false =>
      simp only [List.foldl_cons, read_nonblank hb]
      exact ih ts (c :: current)
    | true =>
      simp only [List.foldl_cons, read_blank hb]
      cases current with
      | nil => simpa using ih ts []
      | cons d ds => simpa using ih (String.ofList (d :: ds).reverse :: ts) []

end Runs

/-- The tokens of a source, in order. -/
def ofSource (source : String) : List Token :=
  (source.toList.foldl Runs.read Runs.start).close.reverse

/-- A blank separates: what is before it and what is after it are split on their own. -/
theorem ofSource_append_blank (a b : String) {c : Char} (h : isBlank c = true) :
    ofSource (a ++ String.singleton c ++ b) = ofSource a ++ ofSource b := by
  simp only [ofSource, String.toList_append, String.toList_singleton, List.foldl_append,
    List.foldl_cons, List.foldl_nil, Runs.read_blank h]
  generalize a.toList.foldl Runs.read Runs.start = before
  have hb := Runs.close_foldl_read b.toList [] before.close []
  rw [List.nil_append] at hb
  rw [hb, List.reverse_append]
  rfl

end StatementCheck.Token
