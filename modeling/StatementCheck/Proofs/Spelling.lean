import StatementCheck.Proofs.Numerals
import StatementCheck.Toml.Document

/-!
# Writing TOML texts

A text between double quotes can be written in many ways: a character stands for itself unless it
is a control character, a double quote or a backslash; some have a short escape; and every character
may be written by its number, in four or eight hexadecimal digits of either case. Whichever way a
text is written, it is read back, up to its closing quote and no further. The same holds for a list
of texts between brackets.

## Main definitions

* `Toml.Spells`, `Toml.Spelled` : the written forms of a character, and of some.
* `Toml.Quoted`, `Toml.Listed` : the written forms of a text, and of a list of texts.
* `Toml.exists_quoted` : every text has one.
* `Toml.value_of_quoted`, `Toml.value_of_listed` : they are read back.
-/
namespace StatementCheck.Toml

/-! ## Characters -/

/-- The characters with a short escape, and the letter that follows the backslash. -/
def shortEscapes : List (Char × Char) :=
  [('\x08', 'b'), ('\t', 't'), ('\n', 'n'), ('\x0c', 'f'), ('\r', 'r'), ('"', '"'), ('\\', '\\')]

/-- The control characters other than the tab, which may stand for itself. -/
def IsControl (c : Char) : Prop := c ≠ '\t' ∧ c.toNat < 0x20 ∨ c = '\x7f'

instance (c : Char) : Decidable (IsControl c) :=
  inferInstanceAs (Decidable (c ≠ '\t' ∧ c.toNat < 0x20 ∨ c = '\x7f'))

/-- The written forms of a character between double quotes. -/
inductive Spells : Char → List Char → Prop
  | plain {c : Char} (hcontrol : ¬ IsControl c) (hquote : c ≠ '"') (hslash : c ≠ '\\') :
      Spells c [c]
  | short {c d : Char} (h : (c, d) ∈ shortEscapes) : Spells c ['\\', d]
  | code {c : Char} {ds : List Char} (hlength : ds.length = 4) (h : Numeral ds c.toNat) :
      Spells c ('\\' :: 'u' :: ds)
  | longCode {c : Char} {ds : List Char} (hlength : ds.length = 8) (h : Numeral ds c.toNat) :
      Spells c ('\\' :: 'U' :: ds)

theorem codePoint?_of_numeral {ds : List Char} {c : Char} {count : Nat}
    (hlength : ds.length = count) (h : Numeral ds c.toNat) (rest : List Char) :
    codePoint? count (ds ++ rest) = some (c, rest) := by
  subst hlength
  have hchar : charOf? c.toNat = some c := by
    have hvalid : c.toNat.isValidChar := c.valid
    rw [charOf?, if_pos hvalid, Char.ofNat_toNat]
  simp [codePoint?, hexNumber?_of_numeral h, hchar]

/-- A control character is what has to be escaped, besides the quote and the backslash. -/
theorem isPlain_of_not_isControl {c : Char} (h : ¬ IsControl c) : isPlain c = true := by
  obtain ⟨hlow, hdelete⟩ := not_or.mp h
  by_cases htab : c = '\t'
  · simp [isPlain, htab]
  · have hnat : ¬ c.toNat < 0x20 := fun hlt => hlow ⟨htab, hlt⟩
    have hle : ' ' ≤ c := by
      rw [Char.le_def, UInt32.le_iff_toNat_le]
      change 0x20 ≤ c.toNat
      omega
    simp [isPlain, hle, hdelete]

/-! ## Texts -/

/-- The written forms of some characters, one after the other. -/
inductive Spelled : List Char → List Char → Prop
  | nil : Spelled [] []
  | cons {c : Char} {cs w ws : List Char} (hc : Spells c w) (h : Spelled cs ws) :
      Spelled (c :: cs) (w ++ ws)

theorem basicEnd_quote (acc cs : List Char) :
    basicEnd acc ('"' :: cs) = some (acc.reverse, cs) := by
  rw [basicEnd]

theorem basicEnd_escape {cs rest : List Char} {c : Char} (h : escape? cs = some (c, rest))
    (acc : List Char) : basicEnd acc ('\\' :: cs) = basicEnd (c :: acc) rest := by
  rw [basicEnd]
  split <;> simp_all

theorem basicEnd_plain {c : Char} (hplain : isPlain c = true) (hquote : c ≠ '"')
    (hslash : c ≠ '\\') (acc cs : List Char) : basicEnd acc (c :: cs) = basicEnd (c :: acc) cs := by
  rw [basicEnd, if_pos hplain]
  · exact hquote
  · exact hslash

theorem basicEnd_spells {c : Char} {w : List Char} (h : Spells c w) (acc rest : List Char) :
    basicEnd acc (w ++ rest) = basicEnd (c :: acc) rest := by
  cases h with
  | plain hcontrol hquote hslash =>
    exact basicEnd_plain (isPlain_of_not_isControl hcontrol) hquote hslash acc rest
  | short h =>
    refine basicEnd_escape ?_ acc
    simp only [shortEscapes, List.mem_cons, List.not_mem_nil, or_false, Prod.mk.injEq] at h
    rcases h with ⟨rfl, rfl⟩ | ⟨rfl, rfl⟩ | ⟨rfl, rfl⟩ | ⟨rfl, rfl⟩ | ⟨rfl, rfl⟩ | ⟨rfl, rfl⟩ |
      ⟨rfl, rfl⟩ <;> rfl
  | @code ds hlength h =>
    have hescape : escape? ('u' :: (ds ++ rest)) = some (c, rest) :=
      codePoint?_of_numeral hlength h rest
    exact basicEnd_escape hescape acc
  | @longCode ds hlength h =>
    have hescape : escape? ('U' :: (ds ++ rest)) = some (c, rest) :=
      codePoint?_of_numeral hlength h rest
    exact basicEnd_escape hescape acc

/-- A text is read up to the quote that ends it. -/
theorem basicEnd_spelled {s w : List Char} (h : Spelled s w) (acc rest : List Char) :
    basicEnd acc (w ++ '"' :: rest) = some (acc.reverse ++ s, rest) := by
  induction h generalizing acc with
  | nil => simp [basicEnd_quote]
  | cons hc _ ih =>
    rw [List.append_assoc, basicEnd_spells hc, ih]
    simp

/-- The written forms of a text: its characters between double quotes. -/
def Quoted (s : String) (w : List Char) : Prop := ∃ u, Spelled s.toList u ∧ w = '"' :: (u ++ ['"'])

/-- No written form of a character begins with the quote. -/
theorem Spells.head?_ne {c : Char} {w : List Char} (h : Spells c w) (u : List Char) :
    ∃ d v, w ++ u = d :: v ∧ d ≠ '"' := by
  cases h with
  | plain hcontrol hquote hslash => exact ⟨c, u, rfl, hquote⟩
  | short | code | longCode => exact ⟨'\\', _, rfl, by decide⟩

/-- One quote opens a text on one line, unless it is the first of three. -/
theorem text_eq_shortText {cs : List Char} (h : ∀ tail, cs ≠ '"' :: '"' :: tail) :
    text ('"' :: cs) = shortText ('"' :: cs) := by
  unfold text
  split
  · next tail heq =>
    cases heq
    exact absurd rfl (h tail)
  · next heq => cases heq
  · rfl

theorem not_tripled_of_spelled {s w rest : List Char} (h : Spelled s w)
    (hrest : rest.head? ≠ some '"') (tail : List Char) :
    w ++ '"' :: rest ≠ '"' :: '"' :: tail := by
  intro heq
  cases h with
  | nil =>
    rw [List.nil_append, List.cons.injEq] at heq
    simp [heq.2] at hrest
  | @cons c cs w ws hc _ =>
    obtain ⟨d, v, hhead, hd⟩ := hc.head?_ne (ws ++ '"' :: rest)
    rw [List.append_assoc, hhead, List.cons.injEq] at heq
    exact hd heq.1

/-- A text is read as it was written, if no further quote is behind it. -/
theorem text_of_quoted {s : String} {w rest : List Char} (h : Quoted s w)
    (hrest : rest.head? ≠ some '"') : text (w ++ rest) = some (s, rest) := by
  obtain ⟨u, hu, rfl⟩ := h
  have hjoin : '"' :: (u ++ ['"']) ++ rest = '"' :: (u ++ '"' :: rest) := by simp
  have hbasic : shortText ('"' :: (u ++ '"' :: rest)) = some (s, rest) := by
    simp [shortText, basic, basicEnd_spelled hu]
  rw [hjoin, text_eq_shortText (not_tripled_of_spelled hu hrest), hbasic]

/-- A text is a value of its own, whatever may be around it. -/
theorem value_of_quoted {s : String} {w rest : List Char} (depth : Nat) (h : Quoted s w)
    (hrest : rest.head? ≠ some '"') : value depth (w ++ rest) = some (.string s, rest) := by
  have htext := text_of_quoted h hrest
  obtain ⟨u, -, rfl⟩ := h
  have hscalar : scalar ('"' :: (u ++ ['"']) ++ rest) = some (.string s, rest) := by
    rw [List.cons_append] at htext ⊢
    rw [scalar]
    · rw [htext]
    · simp
    · simp
  cases depth with
  | zero => exact hscalar
  | succ depth => exact hscalar

/-! ## Lists of texts -/

/-- Blanks, which make no difference in a list. -/
def Gap (pad : List Char) : Prop := ∀ c ∈ pad, isBlank c = true

/-- The written forms of a list of texts, from behind its opening bracket. -/
inductive Listed : List String → List Char → Prop
  | nil {pad : List Char} (hpad : Gap pad) : Listed [] (pad ++ [']'])
  | last {s : String} {pad w pad' : List Char} (hpad : Gap pad) (hs : Quoted s w)
      (hpad' : Gap pad') : Listed [s] (pad ++ (w ++ (pad' ++ [']'])))
  | item {s : String} {ss : List String} {pad w pad' ws : List Char} (hpad : Gap pad)
      (hs : Quoted s w) (hpad' : Gap pad') (h : Listed ss ws) :
      Listed (s :: ss) (pad ++ (w ++ (pad' ++ ',' :: ws)))

theorem skipLines_gap {pad : List Char} (hpad : Gap pad) (cs : List Char) :
    skipLines false (pad ++ cs) = skipLines false cs := by
  induction pad with
  | nil => rfl
  | cons c pad ih =>
    have hc : isBlank c = true := hpad c (by simp)
    have htail : Gap pad := fun d hd => hpad d (by simp [hd])
    simp only [isBlank, Bool.or_eq_true, decide_eq_true_eq] at hc
    rcases hc with rfl | rfl
    · exact ih htail
    · exact ih htail

theorem skipLines_quoted {s : String} {w : List Char} (h : Quoted s w) (cs : List Char) :
    skipLines false (w ++ cs) = some (w ++ cs) := by
  obtain ⟨u, -, rfl⟩ := h
  rfl

theorem head?_gap {pad : List Char} {c : Char} (hpad : Gap pad) (hc : c ≠ '"') (cs : List Char) :
    (pad ++ c :: cs).head? ≠ some '"' := by
  cases pad with
  | nil => simpa using hc
  | cons d pad =>
    have hblank : isBlank d = true := hpad d (by simp)
    intro heq
    rw [List.cons_append, List.head?_cons, Option.some.injEq] at heq
    subst heq
    cases hblank

/-- An element is read, and the mark behind it decides whether the list goes on. -/
theorem elements_step {item : Scan Value} {cs start rest : List Char} {c : Char} {v : Value}
    (hskip : skipLines false cs = some (c :: start)) (hc : c ≠ ']')
    (hitem : item (c :: start) = some (v, rest)) :
    elements item cs =
      match skipLines false rest with
      | some (',' :: rest) =>
        if rest.length < cs.length then
          (elements item rest).map fun (vs, rest) => (v :: vs, rest)
        else none
      | some (']' :: rest) => some ([v], rest)
      | _ => none := by
  rw [elements, hskip]
  split
  · next heq => simp_all
  · next heq =>
    cases heq
    cases hread : item (c :: start) with
    | none => cases hread.symm.trans hitem
    | some found =>
      cases hread.symm.trans hitem
      rfl
  · next heq => cases heq

/-- A text is read as an element, and what is behind it decides whether the list goes on. -/
theorem elements_quoted {s : String} {pad w pad' cs : List Char} {c : Char} (depth : Nat)
    (hpad : Gap pad) (hs : Quoted s w) (hpad' : Gap pad') (hc : c ≠ '"') :
    elements (value depth) (pad ++ (w ++ (pad' ++ c :: cs))) =
      match skipLines false (c :: cs) with
      | some (',' :: rest) =>
        if rest.length < (pad ++ (w ++ (pad' ++ c :: cs))).length then
          (elements (value depth) rest).map fun (vs, rest) => (.string s :: vs, rest)
        else none
      | some (']' :: rest) => some ([.string s], rest)
      | _ => none := by
  have hskip : skipLines false (pad ++ (w ++ (pad' ++ c :: cs))) = some (w ++ (pad' ++ c :: cs)) :=
    (skipLines_gap hpad _).trans (skipLines_quoted hs _)
  have hvalue := value_of_quoted depth hs (head?_gap hpad' hc cs)
  obtain ⟨u, -, rfl⟩ := hs
  rw [List.cons_append] at hskip hvalue
  have hstep := elements_step hskip (by decide) hvalue
  rw [skipLines_gap hpad'] at hstep
  exact hstep

theorem elements_of_listed {ss : List String} {w : List Char} (depth : Nat) (h : Listed ss w)
    (rest : List Char) :
    elements (value depth) (w ++ rest) = some (ss.map .string, rest) := by
  induction h with
  | @nil pad hpad =>
    have hskip : skipLines false (pad ++ ']' :: rest) = some (']' :: rest) := skipLines_gap hpad _
    rw [List.append_assoc, List.singleton_append, elements, hskip]
    rfl
  | last hpad hs hpad' =>
    simp only [List.append_assoc, List.singleton_append]
    rw [elements_quoted depth hpad hs hpad' (by decide)]
    rfl
  | item hpad hs hpad' h ih =>
    simp only [List.append_assoc, List.cons_append]
    rw [elements_quoted depth hpad hs hpad' (by decide)]
    refine (if_pos ?_).trans ?_
    · simp only [List.length_append, List.length_cons]
      omega
    · rw [ih]
      rfl

/-- A list of texts is read up to its closing bracket. -/
theorem value_of_listed {ss : List String} {w : List Char} (depth : Nat) (h : Listed ss w)
    (rest : List Char) :
    value (depth + 1) ('[' :: w ++ rest) = some (.array (ss.map .string), rest) := by
  rw [List.cons_append, value, elements_of_listed depth h]
  rfl

/-! ## Every text has a written form -/

theorem exists_spells (c : Char) : ∃ w, Spells c w := by
  by_cases hcontrol : IsControl c
  · have hn : c.toNat < 256 := by
      rcases hcontrol with ⟨-, hlow⟩ | rfl
      · omega
      · decide
    exact ⟨_, .code rfl (numeral_of_lt hn)⟩
  · by_cases hquote : c = '"'
    · subst hquote
      exact ⟨_, .short (d := '"') (by decide)⟩
    · by_cases hslash : c = '\\'
      · subst hslash
        exact ⟨_, .short (d := '\\') (by decide)⟩
      · exact ⟨_, .plain hcontrol hquote hslash⟩

theorem exists_quoted (s : String) : ∃ w, Quoted s w := by
  have hspelled : ∀ cs : List Char, ∃ u, Spelled cs u := by
    intro cs
    induction cs with
    | nil => exact ⟨[], .nil⟩
    | cons c cs ih =>
      obtain ⟨w, hw⟩ := exists_spells c
      obtain ⟨u, hu⟩ := ih
      exact ⟨w ++ u, .cons hw hu⟩
  obtain ⟨u, hu⟩ := hspelled s.toList
  exact ⟨_, u, hu, rfl⟩

theorem exists_listed (ss : List String) : ∃ w, Listed ss w := by
  have hgap : Gap [] := by simp [Gap]
  induction ss with
  | nil => exact ⟨_, .nil hgap⟩
  | cons s ss ih =>
    obtain ⟨w, hw⟩ := exists_quoted s
    obtain ⟨ws, hws⟩ := ih
    exact ⟨_, .item hgap hw hgap hws⟩

end StatementCheck.Toml
