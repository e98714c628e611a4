import StatementCheck.Token.Split

/-!
# Maximal runs

The tokens of a source, described without reading it: blanks belong to no token, and a token is a
run of other characters that reaches up to the next blank or to the end. A source falls into tokens
in exactly one way, and reading it from left to right finds that way.

## Main definitions

* `Token.Splits` : some characters fall into some tokens.
* `Token.splits_iff` : they fall into the tokens that reading finds, and into no others.
-/
namespace StatementCheck.Token

open Text

/-- Characters fall into tokens. Every token is a run of characters that are not blank, and what
follows a run is a blank or the end. -/
inductive Splits : List Char → List Token → Prop
  | nil : Splits [] []
  | blank {c : Char} {cs : List Char} {ts : List Token} (hc : isBlank c = true)
      (h : Splits cs ts) : Splits (c :: cs) ts
  | run {w cs : List Char} {ts : List Token} (hw : w ≠ []) (hrun : ∀ c ∈ w, isBlank c = false)
      (hend : ∀ c ∈ cs.head?, isBlank c = true) (h : Splits cs ts) :
      Splits (w ++ cs) (String.ofList w :: ts)

theorem exists_splits (cs : List Char) : ∃ ts, Splits cs ts := by
  induction cs with
  | nil => exact ⟨[], .nil⟩
  | cons c cs ih =>
    obtain ⟨ts, h⟩ := ih
    cases hc : isBlank c with
    | true => exact ⟨ts, .blank hc h⟩
    | false =>
      -- The character is a run of its own, unless it stands right before one.
      cases h with
      | nil =>
        have hsplits := Splits.run (w := [c]) (by simp) (by simpa using hc) (by simp) .nil
        exact ⟨_, hsplits⟩
      | blank hb h =>
        have hsplits := Splits.run (w := [c]) (by simp) (by simpa using hc) (by simpa using hb)
          (.blank hb h)
        exact ⟨_, hsplits⟩
      | @run w cs ts hw hrun hend h =>
        have hcons : ∀ d ∈ c :: w, isBlank d = false := List.forall_mem_cons.mpr ⟨hc, hrun⟩
        exact ⟨_, .run (w := c :: w) (by simp) hcons hend h⟩

namespace Runs

/-- A run that is read is put in front of the characters read before it, latest first. -/
theorem foldl_read_run {w : List Char} (h : ∀ c ∈ w, isBlank c = false) (r : Runs) :
    w.foldl read r = ⟨r.finished, w.reverse ++ r.current⟩ := by
  induction w generalizing r with
  | nil => rfl
  | cons c w ih =>
    rw [List.forall_mem_cons] at h
    rw [List.foldl_cons, read_nonblank h.1, ih h.2]
    simp

theorem close_of_ne_nil {cs : List Char} (h : cs ≠ []) (ts : List Token) :
    close ⟨ts, cs⟩ = String.ofList cs.reverse :: ts := by
  cases cs with
  | nil => exact absurd rfl h
  | cons c cs => rfl

/-- Behind a run, it makes no difference whether the run has been finished yet. -/
theorem close_foldl_read_of_run {w cs : List Char} (hw : w ≠ [])
    (hend : ∀ c ∈ cs.head?, isBlank c = true) (ts : List Token) :
    (cs.foldl read ⟨ts, w.reverse⟩).close =
      (cs.foldl read ⟨String.ofList w :: ts, []⟩).close := by
  have hclose : close ⟨ts, w.reverse⟩ = String.ofList w :: ts := by
    rw [close_of_ne_nil (by simpa using hw), List.reverse_reverse]
  cases cs with
  | nil => simpa using hclose
  | cons c cs =>
    have hc : isBlank c = true := hend c rfl
    rw [List.foldl_cons, List.foldl_cons, read_blank hc, read_blank hc, hclose, close_nil]

end Runs

/-- Reading finds the tokens into which the characters fall, behind those found before. -/
theorem Splits.close_foldl_read {cs : List Char} {ts : List Token} (h : Splits cs ts)
    (before : List Token) :
    (cs.foldl Runs.read ⟨before, []⟩).close = ts.reverse ++ before := by
  induction h generalizing before with
  | nil => rfl
  | blank hc _ ih => rw [List.foldl_cons, Runs.read_blank hc, Runs.close_nil, ih]
  | @run w cs ts hw hrun hend _ ih =>
    rw [List.foldl_append, Runs.foldl_read_run hrun, List.append_nil,
      Runs.close_foldl_read_of_run hw hend, ih]
    simp

/-- A source falls into the tokens that reading finds, and into no others. -/
theorem splits_iff {source : String} {ts : List Token} :
    Splits source.toList ts ↔ ofSource source = ts := by
  have hread : ∀ us, Splits source.toList us → ofSource source = us := by
    intro us hus
    have hclose := hus.close_foldl_read []
    rw [List.append_nil] at hclose
    rw [ofSource, Runs.start, hclose, List.reverse_reverse]
  constructor
  · exact hread ts
  · rintro rfl
    obtain ⟨us, hus⟩ := exists_splits source.toList
    rwa [hread us hus]

end StatementCheck.Token
