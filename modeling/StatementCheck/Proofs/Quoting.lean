import Mathlib.Data.List.Basic
import StatementCheck.Event
import StatementCheck.Proofs.Numerals

/-!
# What a quoted text tells

A quoted text can be read back, whatever stands behind it. For the written forms of characters can
be told apart by their beginnings, with a closing brace at the end of the one form that has no fixed
length; and no form begins with the quote that ends the text. So a token that looks like a
separator, an escape or a quoted text is not taken for one, and a list of tokens is known from the
text that shows it. The same holds for the lines of a trace.

No written form contains a character that cannot be printed, so what is shown stays on one line.

## Main definitions

* `Text.readChar?` : the character at the start of a text in written form.
* `Text.quote_append_inj` : a quoted text and what is behind it are known from both together.
* `Text.lineBreaks` : the characters that end a line.
* `shown_lossless` : token lists and trace lines are known from their texts, which have one line.
-/
namespace StatementCheck

namespace Text

/-- What a number is written with in a base are the digits of the base. -/
theorem exists_digitChar_of_mem {b n : Nat} {c : Char} (hb : 1 < b) (h : c ∈ Nat.toDigits b n) :
    ∃ k < b, c = Nat.digitChar k := by
  induction n using Nat.strongRecOn with
  | ind n ih =>
    by_cases hn : n < b
    · rw [Nat.toDigits_of_lt_base hn] at h
      exact ⟨n, hn, by simpa using h⟩
    · have hle : b ≤ n := by omega
      rw [Nat.toDigits_of_base_le hb hle] at h
      rcases List.mem_append.mp h with h | h
      · exact ih _ (Nat.div_lt_self (by omega) hb) h
      · exact ⟨n % b, Nat.mod_lt _ (by omega), by simpa using h⟩

/-! ## Reading a written form back -/

/-- The character whose written form a text starts with, and what is behind it. -/
def readChar? : List Char → Option (Char × List Char)
  | '\\' :: 't' :: cs => some ('\t', cs)
  | '\\' :: 'r' :: cs => some ('\r', cs)
  | '\\' :: 'n' :: cs => some ('\n', cs)
  | '\\' :: '0' :: cs => some ('\x00', cs)
  | '\\' :: '"' :: cs => some ('"', cs)
  | '\\' :: '\\' :: cs => some ('\\', cs)
  | '\\' :: 'u' :: '\x7b' :: cs =>
    (Toml.hexNumber? (cs.takeWhile (· ≠ '\x7d'))).map fun n =>
      (Char.ofNat n, (cs.dropWhile (· ≠ '\x7d')).tail)
  | '\\' :: _ => none
  | '"' :: _ => none
  | c :: cs => some (c, cs)
  | [] => none

theorem readChar?_escapeCodePoint (c : Char) (u : List Char) :
    readChar? (escapeCodePoint c.toNat ++ u) = some (c, u) := by
  have hdigit : ∀ d ∈ Nat.toDigits 16 c.toNat, decide (d ≠ '\x7d') = true := by
    intro d hd
    obtain ⟨k, hk, rfl⟩ := exists_digitChar_of_mem (by omega) hd
    have hall : ∀ k < 16, decide (Nat.digitChar k ≠ '\x7d') = true := by decide
    exact hall k hk
  have htake : (Nat.toDigits 16 c.toNat ++ '\x7d' :: u).takeWhile (· ≠ '\x7d') =
      Nat.toDigits 16 c.toNat := by
    rw [List.takeWhile_append_of_pos hdigit]
    simp
  have hdrop : (Nat.toDigits 16 c.toNat ++ '\x7d' :: u).dropWhile (· ≠ '\x7d') = '\x7d' :: u := by
    rw [List.dropWhile_append_of_pos hdigit]
    simp
  have hnumber := Toml.hexNumber?_of_numeral (Toml.numeral_toDigits c.toNat)
  simp only [escapeCodePoint, List.append_assoc, List.cons_append, List.nil_append, readChar?,
    htake, hdrop, hnumber, Option.map_some, Char.ofNat_toNat, List.tail_cons]

/-- The written form of a character is read back, whatever is behind it. -/
theorem readChar?_escapeChar (c : Char) (u : List Char) :
    readChar? (escapeChar c ++ u) = some (c, u) := by
  unfold escapeChar
  split_ifs with ht hr hn h0 hquote hslash hcode
  · simp [readChar?, ht]
  · simp [readChar?, hr]
  · simp [readChar?, hn]
  · simp [readChar?, h0]
  · simp [readChar?, hquote]
  · simp [readChar?, hslash]
  · exact readChar?_escapeCodePoint c u
  · simp [readChar?, hslash]

/-- A text in written form and what is behind its closing quote are known from both together. -/
theorem escaped_append_inj {s t u v : List Char}
    (h : s.flatMap escapeChar ++ '"' :: u = t.flatMap escapeChar ++ '"' :: v) : s = t ∧ u = v := by
  have hend : ∀ w, readChar? ('"' :: w) = none := fun w => rfl
  induction s generalizing t with
  | nil =>
    cases t with
    | nil => simpa using h
    | cons d t =>
      have hread := congrArg readChar? h
      simp [hend, readChar?_escapeChar] at hread
  | cons c s ih =>
    cases t with
    | nil =>
      have hread := congrArg readChar? h
      simp [hend, readChar?_escapeChar] at hread
    | cons d t =>
      have hread := congrArg readChar? h
      simp only [List.flatMap_cons, List.append_assoc, readChar?_escapeChar, Option.some.injEq,
        Prod.mk.injEq] at hread
      obtain ⟨rfl, hrest⟩ := hread
      obtain ⟨rfl, hu⟩ := ih hrest
      exact ⟨rfl, hu⟩

/-- A quoted text and what is behind it are known from both together. -/
theorem quote_append_inj {s t : String} {u v : List Char}
    (h : (quote s).toList ++ u = (quote t).toList ++ v) : s = t ∧ u = v := by
  simp only [toList_quote, List.cons_append, List.append_assoc, List.nil_append,
    List.cons.injEq, true_and] at h
  obtain ⟨hs, hu⟩ := escaped_append_inj h
  exact ⟨String.toList_inj.mp hs, hu⟩

/-! ## Lists of quoted texts -/

/-- A list of quoted texts after the first one: each of them has a separator before it. -/
theorem toList_quoteList_cons (s : String) (ss : List String) :
    (quoteList (s :: ss)).toList =
      '[' :: ((quote s).toList ++
        (ss.flatMap (fun t => ',' :: ' ' :: (quote t).toList) ++ [']'])) := by
  have hjoin : ∀ x : List Char, [',', ' '].intercalate (x :: ss.map fun t => (quote t).toList) =
      x ++ ss.flatMap fun t => ',' :: ' ' :: (quote t).toList := by
    induction ss with
    | nil => simp
    | cons t ss ih =>
      intro x
      rw [List.map_cons, List.intercalate_cons_cons, ih]
      simp
  have hsep : (", " : String).toList = [',', ' '] := by decide
  simp [quoteList, String.toList_intercalate, hsep, Function.comp_def, hjoin]

theorem toList_quoteList_nil : (quoteList []).toList = ['[', ']'] := by decide

/-- What stands behind the first of some quoted texts tells the others. -/
theorem quoted_tail_inj {ss ts : List String}
    (h : ss.flatMap (fun t => ',' :: ' ' :: (quote t).toList) ++ [']'] =
      ts.flatMap (fun t => ',' :: ' ' :: (quote t).toList) ++ [']']) : ss = ts := by
  induction ss generalizing ts with
  | nil =>
    cases ts with
    | nil => rfl
    | cons t ts => simp at h
  | cons s ss ih =>
    cases ts with
    | nil => simp at h
    | cons t ts =>
      simp only [List.flatMap_cons, List.cons_append, List.append_assoc, List.cons.injEq,
        true_and] at h
      obtain ⟨rfl, hrest⟩ := quote_append_inj h
      rw [ih hrest]

/-- A list of texts is known from the text that shows it. -/
theorem quoteList_inj {ss ts : List String} : quoteList ss = quoteList ts ↔ ss = ts := by
  constructor
  · intro h
    have hlist := congrArg String.toList h
    cases ss with
    | nil =>
      cases ts with
      | nil => rfl
      | cons t ts => simp [toList_quoteList_nil, toList_quoteList_cons, toList_quote] at hlist
    | cons s ss =>
      cases ts with
      | nil => simp [toList_quoteList_nil, toList_quoteList_cons, toList_quote] at hlist
      | cons t ts =>
        rw [toList_quoteList_cons, toList_quoteList_cons, List.cons.injEq] at hlist
        obtain ⟨rfl, hrest⟩ := quote_append_inj hlist.2
        rw [quoted_tail_inj hrest]
  · rintro rfl
    rfl

end Text

/-! ## Trace lines -/

namespace Event

open Text

theorem toString_inj {m n : Nat} : (toString m).toList = (toString n).toList ↔ m = n := by
  constructor
  · intro h
    have hread := congrArg (Nat.ofDigitChars 10 · 0) h
    simpa using hread
  · rintro rfl
    rfl

theorem showFound_inj {found found' : Option Token}
    (h : (showFound found).toList = (showFound found').toList) : found = found' := by
  cases found with
  | none =>
    cases found' with
    | none => rfl
    | some t => simp [showFound] at h
  | some t =>
    cases found' with
    | none => simp [showFound] at h
    | some t' =>
      simp only [showFound, String.toList_append, List.append_assoc,
        List.append_cancel_left_eq] at h
      rw [(quote_append_inj h).1]

/-- An event is known from the line that shows it. -/
theorem line_inj {e e' : Event} : e.line = e'.line ↔ e = e' := by
  constructor
  · intro h
    have hlist := congrArg String.toList h
    cases e with
    | consumed t p =>
      cases e' with
      | consumed t' p' =>
        simp only [line, String.toList_append, List.append_assoc, List.append_cancel_left_eq]
          at hlist
        obtain ⟨rfl, hrest⟩ := quote_append_inj hlist
        rw [toString_inj.mp (List.append_cancel_left hrest)]
      | demanded want found => simp [line] at hlist
    | demanded want found =>
      cases e' with
      | consumed t p => simp [line] at hlist
      | demanded want' found' =>
        simp only [line, String.toList_append, List.append_assoc, List.append_cancel_left_eq]
          at hlist
        obtain ⟨rfl, hrest⟩ := quote_append_inj hlist
        rw [showFound_inj (List.append_cancel_left hrest)]
  · rintro rfl
    rfl

end Event

/-! ## One line -/

namespace Text

/-- The characters that end a line. -/
def lineBreaks : List Char := ['\n', '\x0b', '\x0c', '\r', '\u0085', '\u2028', '\u2029']

/-- A text that is shown as it is: all of its characters can be printed. -/
def Shows (cs : List Char) : Prop := ∀ c ∈ cs, isUnprintable c = false

instance (cs : List Char) : Decidable (Shows cs) :=
  decidable_of_iff (cs.all fun c => !isUnprintable c) (by simp [Shows])

theorem Shows.not_mem_lineBreaks {cs : List Char} (h : Shows cs) {c : Char} (hc : c ∈ cs) :
    c ∉ lineBreaks := by
  have hall : lineBreaks.all isUnprintable = true := by decide +kernel
  intro hmem
  have hprintable := h c hc
  rw [List.all_eq_true.mp hall c hmem] at hprintable
  cases hprintable

theorem Shows.append {cs ds : List Char} (hcs : Shows cs) (hds : Shows ds) : Shows (cs ++ ds) := by
  intro c hc
  rcases List.mem_append.mp hc with hc | hc
  · exact hcs c hc
  · exact hds c hc

theorem Shows.cons {c : Char} {cs : List Char} (hc : isUnprintable c = false) (hcs : Shows cs) :
    Shows (c :: cs) :=
  List.forall_mem_cons.mpr ⟨hc, hcs⟩

theorem isUnprintable_digitChar {k : Nat} (hk : k < 16) :
    isUnprintable (Nat.digitChar k) = false := by
  have hall : ∀ k < 16, isUnprintable (Nat.digitChar k) = false := by decide
  exact hall k hk

/-- No written form of a character holds one that cannot be printed. -/
theorem shows_escapeChar (c : Char) : Shows (escapeChar c) := by
  have hframe : Shows ['\\', 'u', '\x7b'] ∧ Shows ['\x7d'] := by decide
  unfold escapeChar
  split_ifs with ht hr hn h0 hquote hslash hcode
  · decide
  · decide
  · decide
  · decide
  · decide
  · decide
  · refine (hframe.1.append fun d hd => ?_).append hframe.2
    obtain ⟨k, hk, rfl⟩ := exists_digitChar_of_mem (by omega) hd
    exact isUnprintable_digitChar hk
  · intro d hd
    obtain rfl : d = c := by simpa using hd
    simp only [Bool.or_eq_true, not_or, Bool.not_eq_true] at hcode
    exact hcode.2

theorem shows_quote (s : String) : Shows (quote s).toList := by
  have hmark : isUnprintable '"' = false := by decide
  have hend : Shows ['"'] := .cons hmark (by simp [Shows])
  have hform : Shows (s.toList.flatMap escapeChar) := by
    intro c hc
    obtain ⟨d, -, hd⟩ := List.mem_flatMap.mp hc
    exact shows_escapeChar d c hd
  rw [toList_quote]
  exact .cons hmark (hform.append hend)

theorem shows_quoteList (ss : List String) : Shows (quoteList ss).toList := by
  have hopen : isUnprintable '[' = false := by decide
  have hmarks : Shows [']'] ∧ Shows [',', ' '] := by decide
  cases ss with
  | nil =>
    rw [toList_quoteList_nil]
    exact .cons hopen hmarks.1
  | cons s ss =>
    have htail : Shows (ss.flatMap fun t => ',' :: ' ' :: (quote t).toList) := by
      intro c hc
      obtain ⟨t, -, ht⟩ := List.mem_flatMap.mp hc
      exact hmarks.2.append (shows_quote t) c ht
    rw [toList_quoteList_cons]
    exact .cons hopen ((shows_quote s).append (htail.append hmarks.1))

end Text

theorem Event.shows_showFound (found : Option Token) : Text.Shows (showFound found).toList := by
  cases found with
  | none => decide
  | some t =>
    have hframe : Text.Shows ("Some(" : String).toList ∧ Text.Shows (")" : String).toList := by
      decide
    simp only [showFound, String.toList_append]
    exact (hframe.1.append (Text.shows_quote t)).append hframe.2

theorem Event.shows_line (e : Event) : Text.Shows e.line.toList := by
  have hwords : Text.Shows ("Bumping: " : String).toList ∧ Text.Shows (" at " : String).toList ∧
      Text.Shows ("Expecting: " : String).toList ∧ Text.Shows (", found " : String).toList := by
    decide
  obtain ⟨hbumping, hat, hexpecting, hfound⟩ := hwords
  cases e with
  | consumed t p =>
    have hposition : Text.Shows (toString p).toList := by
      intro c hc
      rw [Nat.toString_eq_repr, Nat.toList_repr] at hc
      obtain ⟨k, hk, rfl⟩ := Text.exists_digitChar_of_mem (by omega) hc
      exact Text.isUnprintable_digitChar (by omega)
    simp only [line, String.toList_append]
    exact ((hbumping.append (Text.shows_quote t)).append hat).append hposition
  | demanded want found =>
    simp only [line, String.toList_append]
    exact ((hexpecting.append (Text.shows_quote want)).append hfound).append (shows_showFound found)

/-- A list of tokens is known from its dump, and an event from its line, whatever the tokens are;
and neither text holds a character that ends a line. -/
theorem shown_lossless :
    (∀ ss ts : List Token, Text.quoteList ss = Text.quoteList ts ↔ ss = ts) ∧
      (∀ ss : List Token, ∀ c ∈ (Text.quoteList ss).toList, c ∉ Text.lineBreaks) ∧
      (∀ e e' : Event, e.line = e'.line ↔ e = e') ∧
      ∀ e : Event, ∀ c ∈ e.line.toList, c ∉ Text.lineBreaks :=
  ⟨fun _ _ => Text.quoteList_inj, fun ss _ hc => (Text.shows_quoteList ss).not_mem_lineBreaks hc,
    fun _ _ => Event.line_inj, fun e _ hc => e.shows_line.not_mem_lineBreaks hc⟩

/-- One token that holds the text of a separator is not shown like two tokens, a position is not
taken for a part of its token, and a line separator is shown by its number. -/
theorem shown_lossless_separator :
    Text.quoteList ["a\", \"b"] ≠ Text.quoteList ["a", "b"] ∧
      (Event.consumed "x\" at 1" 2).line ≠ (Event.consumed "x" 12).line ∧
      '8' ∈ (Text.quoteList ["\u2028"]).toList ∧ '8' ∉ Text.lineBreaks := by
  have hmem : '8' ∈ (Text.quoteList ["\u2028"]).toList := by decide +kernel
  obtain ⟨hlist, hbreak, hline, -⟩ := shown_lossless
  refine ⟨fun h => ?_, fun h => ?_, hmem, hbreak ["\u2028"] _ hmem⟩
  · simpa using (hlist _ _).mp h
  · simpa using (hline _ _).mp h

end StatementCheck
