import StatementCheck.Program
import StatementCheck.Proofs.Splitting

/-!
# The spacing of a source

Blanks keep tokens apart and mean nothing else. A source can be put together from its tokens with
any blanks around them, as long as there is one between two of them, and it falls into these tokens
again. So a check cannot tell one spacing from another.

## Main definitions

* `Text.IsBlank`, `Token.IsWord` : texts of blanks, and texts that a source can have as tokens.
* `Token.spaced` : tokens with blanks in front of each and behind the last.
* `Token.Splits.append` : what blanks keep apart falls into tokens on its own.
* `Token.ofSource_exact` : the laws of the tokens of a source.
-/
namespace StatementCheck

open Text Parse

/-- A text is blank if all its characters are; the empty text is. -/
def Text.IsBlank (text : String) : Prop := ∀ c ∈ text.toList, isBlank c = true

instance : DecidablePred Text.IsBlank := fun text =>
  decidable_of_iff (text.toList.all isBlank = true) List.all_eq_true

namespace Token

/-- A text is a word if it has characters and none of them is blank. -/
def IsWord (text : String) : Prop := text ≠ "" ∧ ∀ c ∈ text.toList, isBlank c = false

instance : DecidablePred IsWord := fun text =>
  decidable_of_iff (text ≠ "" ∧ text.toList.any isBlank = false)
    (and_congr_right fun _ => by simp)

/-- The source with these tokens, each behind the text that is put in front of it, and with a text
at its end. -/
def spaced (pieces : List (String × Token)) (ending : String) : String :=
  pieces.foldr (fun piece text => piece.1 ++ piece.2 ++ text) ending

namespace Splits

variable {cs ds w : List Char} {ts us : List Token}

/-! ## What tokens are made of -/

theorem isWord_of_mem (h : Splits cs ts) : ∀ t ∈ ts, IsWord t := by
  induction h with
  | nil => simp
  | blank _ _ ih => exact ih
  | @run w cs ts hw hrun _ _ ih =>
    have hword : IsWord (String.ofList w) := ⟨by simpa using hw, by simpa using hrun⟩
    exact List.forall_mem_cons.mpr ⟨hword, ih⟩

/-- The tokens have the characters that are not blank, all of them and in their order. -/
theorem flatMap_toList (h : Splits cs ts) :
    ts.flatMap String.toList = cs.filter fun c => !isBlank c := by
  induction h with
  | nil => rfl
  | blank hc _ ih => simp [hc, ih]
  | @run w cs ts _ hrun _ _ ih =>
    have hkeep : w.filter (fun c => !isBlank c) = w :=
      List.filter_eq_self.mpr fun c hc => by simp [hrun c hc]
    rw [List.flatMap_cons, String.toList_ofList, ih, List.filter_append, hkeep]

/-! ## Putting sources together -/

theorem blanks (hw : ∀ c ∈ w, isBlank c = true) (h : Splits cs ts) : Splits (w ++ cs) ts := by
  induction w with
  | nil => exact h
  | cons c w ih =>
    rw [List.forall_mem_cons] at hw
    exact .blank hw.1 (ih hw.2)

/-- What stands before some blanks and what stands behind them fall into tokens on their own. -/
theorem append (h : Splits cs ts) (hw : ∀ c ∈ w, isBlank c = true) (hne : w ≠ [])
    (k : Splits ds us) : Splits (cs ++ (w ++ ds)) (ts ++ us) := by
  induction h with
  | nil => exact (blanks hw k : Splits (w ++ ds) us)
  | blank hc _ ih => exact .blank hc ih
  | @run v cs ts hv hrun hend _ ih =>
    rw [List.append_assoc, List.cons_append]
    refine .run hv hrun (fun c hc => ?_) ih
    -- The run ends where it did, or at the first of the blanks if it was the last one.
    cases cs with
    | nil =>
      obtain ⟨d, w, rfl⟩ := List.exists_cons_of_ne_nil hne
      obtain rfl : d = c := by simpa using hc
      exact hw d List.mem_cons_self
    | cons d cs => exact hend c hc

end Splits

theorem head?_spaced {pieces : List (String × Token)} {ending : String}
    (hgaps : ∀ piece ∈ pieces, Text.IsBlank piece.1 ∧ piece.1 ≠ "")
    (hending : Text.IsBlank ending) :
    ∀ c ∈ (spaced pieces ending).toList.head?, isBlank c = true := by
  intro c hc
  cases pieces with
  | nil => exact hending c (List.mem_of_mem_head? hc)
  | cons piece pieces =>
    obtain ⟨hblank, hne⟩ := hgaps piece List.mem_cons_self
    have hhead : piece.1.toList.head? = some c := by simpa [spaced, hne] using hc
    exact hblank c (List.mem_of_mem_head? hhead)

/-- Tokens with blanks around them fall into these tokens. Only in front of the first one the blanks
may be missing, and behind the last. -/
theorem splits_spaced {pieces : List (String × Token)} {ending : String}
    (hpieces : ∀ piece ∈ pieces, Text.IsBlank piece.1 ∧ IsWord piece.2)
    (hgaps : ∀ piece ∈ pieces.tail, piece.1 ≠ "") (hending : Text.IsBlank ending) :
    Splits (spaced pieces ending).toList (pieces.map Prod.snd) := by
  induction pieces with
  | nil => simpa [spaced] using Splits.blanks hending .nil
  | cons piece pieces ih =>
    rw [List.forall_mem_cons] at hpieces
    obtain ⟨⟨hgap, hne, hrun⟩, hrest⟩ := hpieces
    rw [List.tail_cons] at hgaps
    have hsplits := ih hrest fun q hq => hgaps q (List.mem_of_mem_tail hq)
    have hend := head?_spaced (fun q hq => ⟨(hrest q hq).1, hgaps q hq⟩) hending
    have hword := Splits.run (by simpa using hne) hrun hend hsplits
    rw [String.ofList_toList] at hword
    have hall := Splits.blanks hgap hword
    rw [← List.append_assoc, ← String.toList_append, ← String.toList_append] at hall
    exact hall

/-! ## The laws -/

theorem ofSource_append_of_isBlank (a b : String) {w : String} (hw : Text.IsBlank w)
    (hne : w ≠ "") : ofSource (a ++ w ++ b) = ofSource a ++ ofSource b := by
  have ha : Splits a.toList (ofSource a) := splits_iff.mpr rfl
  have hb : Splits b.toList (ofSource b) := splits_iff.mpr rfl
  apply splits_iff.mp
  rw [String.toList_append, String.toList_append, List.append_assoc]
  exact ha.append hw (by simpa using hne) hb

/-- The tokens of a source are its maximal runs of characters that are not blank, and these have all
such characters of the source. Any words with blanks between them are the tokens of that source, and
blanks divide a source into parts that have tokens of their own. So a program is read to the same
end, at the same position and with the same trace, whichever blanks stand between its parts. -/
theorem ofSource_exact :
    (∀ source ts, ofSource source = ts ↔ Splits source.toList ts) ∧
    (∀ source, (∀ t ∈ ofSource source, IsWord t) ∧
      (ofSource source).flatMap String.toList = source.toList.filter fun c => !isBlank c) ∧
    (∀ (pieces : List (String × Token)) (ending : String),
      (∀ piece ∈ pieces, Text.IsBlank piece.1 ∧ IsWord piece.2) →
      (∀ piece ∈ pieces.tail, piece.1 ≠ "") → Text.IsBlank ending →
      ofSource (spaced pieces ending) = pieces.map Prod.snd) ∧
    (∀ a w b : String, Text.IsBlank w → w ≠ "" →
      ofSource (a ++ w ++ b) = ofSource a ++ ofSource b) ∧
    ∀ (a w w' b : String) (verbose : Bool), Text.IsBlank w → w ≠ "" → Text.IsBlank w' → w' ≠ "" →
      program (Reader.ofTokens (ofSource (a ++ w ++ b)) verbose) =
        program (Reader.ofTokens (ofSource (a ++ w' ++ b)) verbose) := by
  refine ⟨fun source ts => splits_iff.symm, fun source => ?_, fun pieces ending hp hg he => ?_,
    fun a w b hw hne => ofSource_append_of_isBlank a b hw hne,
    fun a w w' b verbose hw hne hw' hne' => ?_⟩
  · have hsplits : Splits source.toList (ofSource source) := splits_iff.mpr rfl
    exact ⟨hsplits.isWord_of_mem, hsplits.flatMap_toList⟩
  · exact splits_iff.mp (splits_spaced hp hg he)
  · rw [ofSource_append_of_isBlank a b hw hne, ofSource_append_of_isBlank a b hw' hne']

/-- An em space and a no-break space keep tokens apart as a line break does, and a zero-width space
is part of a token. -/
theorem ofSource_exact_spaces :
    ofSource "\u2003int x\n\u00a0;" = ["int", "x", ";"] ∧
      ofSource "a\u200bb" = ["a\u200bb"] ∧
      program (Reader.ofTokens (ofSource ("int x" ++ "\n\u00a0" ++ ";")) true) =
        program (Reader.ofTokens (ofSource ("int x" ++ " " ++ ";")) true) := by
  obtain ⟨-, -, hspaced, -, hprogram⟩ := ofSource_exact
  have hblank : ∀ text ∈ ["", " ", "\u2003", "\n\u00a0"], Text.IsBlank text := by
    decide
  have hword : ∀ t ∈ ["int", "x", ";", "a\u200bb"], IsWord t := by
    decide
  have hpieces := hspaced [("\u2003", "int"), (" ", "x"), ("\n\u00a0", ";")] ""
    (by simp [hblank, hword]) (by decide) (hblank _ (by simp))
  have hone := hspaced [("", "a\u200bb")] "" (by simp [hblank, hword]) (by simp)
    (hblank _ (by simp))
  exact ⟨hpieces, hone, hprogram _ _ _ _ _ (hblank _ (by simp)) (by decide)
    (hblank _ (by simp)) (by decide)⟩

end Token

end StatementCheck
