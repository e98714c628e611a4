import Mathlib.Data.List.Forall2
import StatementCheck.Toml.Document

/-!
# Documents of entries

A document may be written with one line for each entry: a bare key, an equals sign between two
blanks, and a value. If every value is read as it was written, such a document stands for these
entries, in their order. A line whose value cannot be known still says which key it is for, if the
lines in front of it are read.

## Main definitions

* `Toml.IsBareKey` : a key that needs no quotes.
* `Toml.ReadsAs` : characters that are read as a value, up to the end of their line.
* `Toml.Lays` : the documents with one line for each of some keys.
* `Toml.LinesRead` : lines that are read as some entries.
* `Toml.parse_of_lays` : the entries that such a document stands for.
* `Toml.lines?_of_lays` : its lines, as far as their values are known.
-/
namespace StatementCheck.Toml

variable {k : String} {v : Value} {w tail next : List Char}

/-! ## Keys -/

/-- A key that needs no quotes. -/
def IsBareKey (k : String) : Prop := k.toList ≠ [] ∧ ∀ c ∈ k.toList, isBare c = true

instance (k : String) : Decidable (IsBareKey k) :=
  decidable_of_iff (k.toList ≠ [] ∧ k.toList.all isBare) (by simp [IsBareKey])

theorem isBlank_of_isBare {c : Char} (h : isBare c = true) : isBlank c = false := by
  by_cases hspace : c = ' '
  · subst hspace
    cases h
  · by_cases htab : c = '\t'
    · subst htab
      cases h
    · simp [isBlank, hspace, htab]

/-- A bare key is read as one part, up to the equals sign. -/
theorem keyPart_of_isBareKey (hk : IsBareKey k) (cs : List Char) :
    keyPart (k.toList ++ ' ' :: '=' :: cs) = some (k, '=' :: cs) := by
  obtain ⟨hne, hbare⟩ := hk
  obtain ⟨c, tail, hlist⟩ := List.exists_cons_of_ne_nil hne
  have hblank : isBlank c = false := isBlank_of_isBare (hbare c (by simp [hlist]))
  have hskip : skipBlanks (k.toList ++ ' ' :: '=' :: cs) = k.toList ++ ' ' :: '=' :: cs := by
    rw [hlist, List.cons_append, skipBlanks, List.dropWhile_cons_of_neg (by simp [hblank])]
  have htake : (k.toList ++ ' ' :: '=' :: cs).takeWhile isBare = k.toList := by
    rw [List.takeWhile_append_of_pos hbare]
    simp [isBare]
  have hdrop : (k.toList ++ ' ' :: '=' :: cs).dropWhile isBare = ' ' :: '=' :: cs := by
    rw [List.dropWhile_append_of_pos hbare]
    rfl
  simp only [keyPart, hskip, htake, hdrop]
  rw [hlist]
  simp only [← hlist, String.ofList_toList]
  rfl

theorem key_of_isBareKey (hk : IsBareKey k) (cs : List Char) :
    key (k.toList ++ ' ' :: '=' :: cs) = some (([], k), '=' :: cs) := by
  have hparts : separated keyPart '.' (k.toList ++ ' ' :: '=' :: cs) = some ([k], '=' :: cs) := by
    rw [separated, keyPart_of_isBareKey hk]
    rfl
  rw [key, hparts]
  rfl

/-! ## Lines -/

/-- The line of a key, without its end. -/
def entryText (k : String) (w : List Char) : List Char := k.toList ++ [' ', '=', ' '] ++ w

/-- Characters that are read as a value, up to the end of their line and no further. -/
def ReadsAs (w : List Char) (v : Value) : Prop :=
  ∀ tail, (newline tail).isSome → value (nestingLimit - 1) (skipBlanks (w ++ tail)) = some (v, tail)

theorem exists_isBare_cons (hk : IsBareKey k) (w : List Char) :
    ∃ c cs, entryText k w = c :: cs ∧ isBare c = true := by
  obtain ⟨hne, hbare⟩ := hk
  obtain ⟨c, tail, hlist⟩ := List.exists_cons_of_ne_nil hne
  exact ⟨c, tail ++ [' ', '=', ' '] ++ w, by simp [entryText, hlist], hbare c (by simp [hlist])⟩

theorem entry_entryText (item : Scan Value) (hk : IsBareKey k) (w : List Char) :
    entry item (entryText k w) =
      (item (skipBlanks w)).map fun found => (([], k, found.1), skipBlanks found.2) := by
  have hkey : key (entryText k w) = some (([], k), '=' :: ' ' :: w) := by
    rw [← key_of_isBareKey hk, entryText]
    simp
  have hblank : skipBlanks (' ' :: w) = skipBlanks w := rfl
  rw [entry, hkey]
  simp only [Option.bind_eq_bind, Option.bind_some, mark, if_true, hblank, Option.pure_def]
  cases item (skipBlanks w) with
  | none => rfl
  | some found => rfl

/-- A line that begins with no bracket is an entry. -/
theorem line_of_ne {c : Char} (hc : c ≠ '[') (cs : List Char) :
    line (c :: cs) =
      (entry (value (nestingLimit - 1)) (c :: cs)).bind fun found =>
        (lineEnd found.2).map fun next => (.entry found.1.1 found.1.2.1 found.1.2.2, next) := by
  rw [line]
  · cases entry (value (nestingLimit - 1)) (c :: cs) with
    | none => rfl
    | some found =>
      simp only [Option.bind_eq_bind, Option.bind_some]
      cases lineEnd found.2 with
      | none => rfl
      | some next => rfl
  · simp [hc]
  · simp [hc]

/-- The line of a key is read as an entry with this key, if it is read at all. -/
theorem line_entryText (hk : IsBareKey k) (w : List Char) :
    line (entryText k w) =
      (value (nestingLimit - 1) (skipBlanks w)).bind fun found =>
        (lineEnd (skipBlanks found.2)).map fun next => (.entry [] k found.1, next) := by
  obtain ⟨c, cs, hlist, hc⟩ := exists_isBare_cons hk w
  have hbracket : c ≠ '[' := by
    rintro rfl
    cases hc
  rw [hlist, line_of_ne hbracket, ← hlist, entry_entryText _ hk, Option.bind_map]
  rfl

/-- A line that begins with a character of a bare key is a line that says something. -/
theorem lines?_of_isBare {c : Char} (hc : isBare c = true) (cs : List Char) :
    lines? (c :: cs) =
      match line (c :: cs) with
      | some (l, rest) =>
        if rest.length < (c :: cs).length then (lines? rest).map (l :: ·) else none
      | none => none := by
  have hskip : skipBlanks (c :: cs) = c :: cs := by
    rw [skipBlanks, List.dropWhile_cons_of_neg (by simp [isBlank_of_isBare hc])]
  have hmark : c ≠ '#' ∧ c ≠ '\n' ∧ c ≠ '\r' := by
    refine ⟨?_, ?_, ?_⟩
    · rintro rfl
      cases hc
    · rintro rfl
      cases hc
    · rintro rfl
      cases hc
  rw [lines?, hskip]
  split
  · next heq => cases heq
  · next heq =>
    cases heq
    exact absurd rfl hmark.1
  · next heq =>
    cases heq
    exact if_neg (by simp [hmark])

theorem lineEnd_of_newline (h : newline tail = some next) :
    lineEnd (skipBlanks tail) = some next ∧ next.length ≤ tail.length := by
  unfold newline at h
  split at h
  · cases h
    exact ⟨rfl, Nat.le_refl _⟩
  · cases h
    exact ⟨rfl, by simp⟩
  · cases h
    exact ⟨rfl, by simp only [List.length_cons]; omega⟩
  · cases h

/-- A line whose value is known is read as its entry. -/
theorem lines?_entryText (hk : IsBareKey k) (hv : ReadsAs w v) (hend : newline tail = some next) :
    lines? (entryText k (w ++ tail)) = (lines? next).map (.entry [] k v :: ·) := by
  obtain ⟨hrest, hlength⟩ := lineEnd_of_newline hend
  have hline : line (entryText k (w ++ tail)) = some (.entry [] k v, next) := by
    rw [line_entryText hk, hv tail (by simp [hend]), Option.bind_some, hrest, Option.map_some]
  obtain ⟨c, cs, hlist, hc⟩ := exists_isBare_cons hk (w ++ tail)
  have hlt : next.length < (entryText k (w ++ tail)).length := by
    simp only [entryText, List.length_append, List.length_cons]
    omega
  rw [hlist, lines?_of_isBare hc, ← hlist, hline]
  exact if_pos hlt

/-! ## Documents -/

/-- The line that an entry of the document's own table is read from. -/
def Line.ofEntry (e : String × Value) : Line := .entry [] e.1 e.2

/-- Lines, given as in `Lays`, are read as entries: each has the key of its entry, which needs no
quotes, and is read as its value. -/
abbrev LinesRead (ls : List (String × List Char)) (entries : Entries) : Prop :=
  List.Forall₂ (fun l e => l.1 = e.1 ∧ IsBareKey l.1 ∧ ReadsAs l.2 e.2) ls entries

/-- The documents with one line for each of some keys, given with the characters behind their equals
signs. The last line may lack its end. -/
inductive Lays : List (String × List Char) → List Char → Prop
  | nil : Lays [] []
  | last {k : String} {w : List Char} : Lays [(k, w)] (entryText k w)
  | line {k : String} {w ending text : List Char} {ls : List (String × List Char)}
      (hend : ending ∈ [['\n'], ['\r', '\n']]) (h : Lays ls text) :
      Lays ((k, w) :: ls) (entryText k w ++ ending ++ text)

variable {ls pre post : List (String × List Char)} {text : List Char} {entries : Entries}

theorem Lays.exists_end (h : Lays ((k, w) :: ls) text) :
    ∃ tail next, text = entryText k (w ++ tail) ∧ newline tail = some next ∧ Lays ls next := by
  cases h with
  | last => exact ⟨[], [], by simp, rfl, .nil⟩
  | @line _ _ ending next _ hend h =>
    refine ⟨ending ++ next, next, by simp [entryText], ?_, h⟩
    simp only [List.mem_cons, List.not_mem_nil, or_false] at hend
    rcases hend with rfl | rfl
    · rfl
    · rfl

/-- A document that begins with lines that are read begins with a bare key. -/
theorem LinesRead.isBareKey_of_head? (hlines : LinesRead pre entries)
    (hpost : ∀ l ∈ post.head?, IsBareKey l.1) : ∀ l ∈ (pre ++ post).head?, IsBareKey l.1 := by
  cases hlines with
  | nil => exact hpost
  | cons hfirst _ =>
    intro l hl
    cases hl
    exact hfirst.2.1

/-- There is no byte order mark in front of a key. -/
theorem skipByteOrderMark_of_lays (hk : ∀ l ∈ ls.head?, IsBareKey l.1) (h : Lays ls text) :
    skipByteOrderMark text = text := by
  cases ls with
  | nil =>
    cases h
    rfl
  | cons l ls =>
    obtain ⟨tail, -, rfl, -, -⟩ := h.exists_end
    obtain ⟨c, cs, hlist, hc⟩ := exists_isBare_cons (hk l rfl) (l.2 ++ tail)
    rw [hlist, skipByteOrderMark]
    rintro rest heq
    cases heq
    cases hc

/-- A document in which every value is read as it was written has its entries as lines. -/
theorem lines?_of_lays (hlines : LinesRead ls entries) (h : Lays ls text) :
    lines? text = some (entries.map .ofEntry) := by
  induction hlines generalizing text with
  | nil =>
    cases h
    simp [lines?, skipBlanks]
  | @cons l e ls entries hl _ ih =>
    obtain ⟨k, w⟩ := l
    obtain ⟨rfl, hk, hv⟩ := hl
    obtain ⟨tail, next, rfl, hend, hnext⟩ := h.exists_end
    rw [lines?_entryText hk hv hend, ih hnext]
    rfl

/-- Behind lines that are read as they were written, a line for a key is read as an entry with this
key, or the document is not valid. -/
theorem exists_of_lines?_lays (hlines : LinesRead pre entries) (hk : IsBareKey k)
    (h : Lays (pre ++ (k, w) :: post) text) {read : List Line} (hread : lines? text = some read) :
    ∃ cs v rest more, value (nestingLimit - 1) cs = some (v, rest) ∧
      read = entries.map .ofEntry ++ .ofEntry (k, v) :: more := by
  induction hlines generalizing text read with
  | nil =>
    obtain ⟨tail, next, rfl, -, -⟩ := h.exists_end
    obtain ⟨c, cs, hlist, hc⟩ := exists_isBare_cons hk (w ++ tail)
    rw [hlist, lines?_of_isBare hc, ← hlist] at hread
    split at hread
    · next l next hline =>
      rw [line_entryText hk] at hline
      obtain ⟨⟨v, rest⟩, hvalue, hline⟩ := Option.bind_eq_some_iff.mp hline
      obtain ⟨_, -, hl⟩ := Option.map_eq_some_iff.mp hline
      cases hl
      split at hread
      · obtain ⟨more, -, rfl⟩ := Option.map_eq_some_iff.mp hread
        exact ⟨_, v, rest, more, hvalue, rfl⟩
      · cases hread
    · cases hread
  | @cons l e pre entries hl _ ih =>
    obtain ⟨key, w'⟩ := l
    obtain ⟨rfl, hkey, hv⟩ := hl
    obtain ⟨tail, next, rfl, hend, hnext⟩ := h.exists_end
    rw [lines?_entryText hkey hv hend] at hread
    obtain ⟨more, hmore, rfl⟩ := Option.map_eq_some_iff.mp hread
    obtain ⟨cs, v, rest, more, hvalue, rfl⟩ := ih hnext hmore
    exact ⟨cs, v, rest, more, hvalue, rfl⟩

/-! ## Their tables -/

theorem lookup_eq_none_of_not_mem {entries : Entries} (h : k ∉ entries.map Prod.fst) :
    entries.lookup k = none := by
  rw [List.lookup_eq_none_iff]
  intro e he
  have hne : k ≠ e.1 := by
    rintro rfl
    exact h (List.mem_map_of_mem he)
  simpa using hne

theorem not_mem_of_nodup {entries more : Entries} {e : String × Value}
    (h : ((entries ++ e :: more).map Prod.fst).Nodup) : e.1 ∉ entries.map Prod.fst := by
  rw [List.map_append, List.nodup_append] at h
  intro hmem
  exact h.2.2 _ hmem _ (by simp) rfl

/-- An entry with a new key comes last. -/
theorem Builder.read_ofEntry {b : Builder} {e : String × Value}
    (h : e.1 ∉ b.current.entries.map Prod.fst) :
    b.read (.ofEntry e) =
      some { b with current := { b.current with entries := b.current.entries ++ [e] } } := by
  have hnone := lookup_eq_none_of_not_mem h
  simp [Builder.read, Line.ofEntry, Table.enter, Table.edit, Table.add?, Table.set, hnone]

theorem Builder.foldlM_read_ofEntry {b : Builder} {entries : Entries}
    (h : ((b.current.entries ++ entries).map Prod.fst).Nodup) :
    (entries.map .ofEntry).foldlM Builder.read b =
      some { b with current := { b.current with entries := b.current.entries ++ entries } } := by
  induction entries generalizing b with
  | nil => simp
  | cons e entries ih =>
    rw [List.map_cons, List.foldlM_cons, Builder.read_ofEntry (not_mem_of_nodup h)]
    refine (ih ?_).trans ?_
    · simpa using h
    · simp

/-- A document with one line for each of some different keys stands for the entries with these keys,
in their order. -/
theorem parse_of_lays {source : String} (hlines : LinesRead ls entries)
    (hdiffer : (entries.map Prod.fst).Nodup) (h : Lays ls source.toList) :
    parse source = some entries := by
  have hfirst : ∀ l ∈ (ls ++ []).head?, IsBareKey l.1 := hlines.isBareKey_of_head? (by simp)
  rw [List.append_nil] at hfirst
  have hmark := skipByteOrderMark_of_lays hfirst h
  have hnodup : ((Builder.start.current.entries ++ entries).map Prod.fst).Nodup := by
    simpa [Builder.start] using hdiffer
  have htable : tableOf? (entries.map .ofEntry) = some ⟨.headed, entries⟩ := by
    rw [tableOf?, Builder.foldlM_read_ofEntry hnodup]
    rfl
  simp [parse, hmark, lines?_of_lays hlines h, htable]

end StatementCheck.Toml
