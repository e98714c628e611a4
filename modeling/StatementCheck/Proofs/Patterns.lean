import StatementCheck.Glob.Walk
import StatementCheck.Proofs.Components

/-!
# What pieces of patterns stand for

A piece of a pattern that holds no wildcards stands for the name that it is, and for nothing else.
The mark `**` stands for any number of names, and any other piece for one name. Here this is said of
the texts of the pieces, and then of the atoms as which they are read.

## Main definitions

* `Glob.Fits` : names fit the texts of some pieces.
* `Glob.Fits.exists_of_isPattern` : where no text holds wildcards, the names are these texts.
* `Glob.Piece.ofName` : the piece that stands for one name.
* `Glob.parse_of_isPattern` : what a text without wildcards is read as.
* `Glob.Fits.of_accepts` : a name that a piece accepts fits its text.
* `Glob.exists_texts_of_piecesOf` : the texts of the pieces of a pattern.
-/
namespace StatementCheck

namespace Path

theorem isPattern_eq_false_of_mem_pieces {path : String} (h : Glob.isPattern path = false) :
    ∀ p ∈ pieces path, Glob.isPattern p = false := by
  intro p hp
  rw [Glob.isPattern, List.any_eq_false] at h ⊢
  exact fun c hc => h c (mem_of_mem_pieces hp hc).1

end Path

namespace Glob

/-! ## Names that fit -/

/-- Names fit the texts of pieces, piece by piece: a text without wildcards fits itself alone, `**`
any number of names, and any other text no more than one name at a time. -/
inductive Fits : List String → List String → Prop
  | nil : Fits [] []
  | plain {text : String} {texts names : List String} (htext : isPattern text = false)
      (h : Fits texts names) : Fits (text :: texts) (text :: names)
  | wild {text name : String} {texts names : List String} (htext : isPattern text = true)
      (h : Fits texts names) : Fits (text :: texts) (name :: names)
  | deep {texts names : List String} (inside : List String) (h : Fits texts names) :
      Fits ("**" :: texts) (inside ++ names)

namespace Fits

variable {texts names : List String}

/-- Texts without wildcards fit themselves alone. -/
theorem exists_of_isPattern {plain : List String}
    (hplain : ∀ text ∈ plain, isPattern text = false) (h : Fits (plain ++ texts) names) :
    ∃ more, names = plain ++ more := by
  induction plain generalizing names with
  | nil => exact ⟨names, rfl⟩
  | cons text plain ih =>
    rw [List.forall_mem_cons] at hplain
    cases h with
    | plain _ h =>
      obtain ⟨more, rfl⟩ := ih hplain.2 h
      exact ⟨more, rfl⟩
    | wild htext _ =>
      rw [hplain.1] at htext
      cases htext
    | deep inside _ =>
      have hwild : isPattern "**" = true := by decide
      rw [hplain.1] at hwild
      cases hwild

/-- What fits from a mark `**` on is some names and what fits behind it. -/
theorem exists_of_deep (h : Fits ("**" :: texts) names) :
    ∃ inside rest, names = inside ++ rest ∧ Fits texts rest := by
  cases h with
  | plain htext _ => cases htext
  | @wild _ name _ rest _ h => exact ⟨[name], rest, rfl, h⟩
  | deep inside h => exact ⟨inside, _, rfl, h⟩

/-- An empty text fits itself behind others. -/
theorem append_empty (h : Fits texts names) : Fits (texts ++ [""]) (names ++ [""]) := by
  induction h with
  | nil => exact .plain (by decide) .nil
  | plain htext _ ih => exact .plain htext ih
  | wild htext _ ih => exact .wild htext ih
  | deep inside _ ih =>
    rw [List.append_assoc]
    exact .deep inside ih

/-- Empty texts at both ends lead nowhere. -/
theorem exists_of_ends {written : List String}
    (hwritten : written = texts ∨ written = texts ++ [""]) (h : Fits texts names) :
    ∃ names', Fits ("" :: written) names' ∧ Path.steps names' = Path.steps names := by
  have hempty : isPattern "" = false := by decide
  rcases hwritten with rfl | rfl
  · exact ⟨"" :: names, .plain hempty h, Path.steps_cons_of_isIdle rfl _⟩
  · refine ⟨"" :: (names ++ [""]), .plain hempty h.append_empty, ?_⟩
    rw [Path.steps_cons_of_isIdle rfl, Path.steps_append, Path.steps_cons_of_isIdle rfl,
      Path.steps_nil, List.append_nil]

end Fits

/-! ## Pieces without wildcards -/

/-- The piece of a pattern that stands for one name. -/
def Piece.ofName (name : String) : Piece := name.toList.map .char

theorem Piece.eq_ofName_of_literal? {p : Piece} {name : String} (h : p.literal? = some name) :
    p = ofName name := by
  have hchars : ∀ (p : Piece) (cs : List Char), p.mapM Atom.char? = some cs → p = cs.map .char := by
    intro p
    induction p with
    | nil =>
      rintro cs h
      cases h
      rfl
    | cons a p ih =>
      rintro cs h
      cases a with
      | char c =>
        have hbind : ((p.mapM Atom.char?).bind fun cs' => some (c :: cs')) = some cs := by
          simpa [List.mapM_cons, Atom.char?] using h
        obtain ⟨cs', hcs', heq⟩ := Option.bind_eq_some_iff.mp hbind
        rw [← Option.some.inj heq, ih cs' hcs', List.map_cons]
      | _ => cases h
  obtain ⟨cs, hcs, rfl⟩ := Option.map_eq_some_iff.mp h
  rw [ofName, String.toList_ofList]
  exact hchars p cs hcs

/-- A text without wildcards is read as the name that it is. -/
theorem parse_of_isPattern {text : String} (h : isPattern text = false) :
    parse text = .ok (Piece.ofName text) := by
  have hchars : ∀ (cs : List Char) (position : Nat) (before : Option Char),
      (∀ c ∈ cs, c ≠ '*' ∧ c ≠ '?' ∧ c ≠ '[') →
        parseFrom position before cs = .ok (cs.map .char) := by
    intro cs
    induction cs with
    | nil =>
      intro position before _
      rw [parseFrom]
      rfl
    | cons c cs ih =>
      intro position before hcs
      rw [List.forall_mem_cons] at hcs
      obtain ⟨⟨hstar, hany, hclass⟩, hcs⟩ := hcs
      rw [parseFrom.eq_def]
      split
      all_goals simp_all
  refine hchars _ _ _ fun c hc => ?_
  simp only [isPattern, List.any_eq_false] at h
  simpa [and_assoc] using h c hc

/-! ## Pieces as they are read -/

theorem exists_of_cons_eq_ok {x : Except Error (List Atom)} {a : Atom} {atoms : List Atom}
    (h : (do return a :: (← x)) = Except.ok atoms) : ∃ rest, x = .ok rest ∧ atoms = a :: rest := by
  cases x with
  | error e => cases h
  | ok rest =>
    cases h
    exact ⟨rest, rfl, rfl⟩

theorem suffix_of_members? {cs ms after : List Char} (h : members? cs = some (ms, after)) :
    after <:+ cs := by
  unfold members? at h
  split at h
  · cases h
  · next first rest =>
    split at h
    · cases h
    · next c tail hd =>
      cases h
      exact ((List.suffix_cons c after).trans (hd ▸ List.dropWhile_suffix _)).trans
        (List.suffix_cons first rest)

/-- A class is no character and no mark `**`, and ends before what follows it. -/
theorem class?_eq_some {cs after : List Char} {a : Atom} (h : class? cs = some (a, after)) :
    (∃ negated ranges, a = .among negated ranges) ∧ after <:+ cs := by
  unfold class? at h
  split at h
  · next rest =>
    obtain ⟨⟨ms, after'⟩, hm, he⟩ := Option.map_eq_some_iff.mp h
    cases he
    exact ⟨⟨true, _, rfl⟩, (suffix_of_members? hm).trans (List.suffix_cons '!' rest)⟩
  · obtain ⟨⟨ms, after'⟩, hm, he⟩ := Option.map_eq_some_iff.mp h
    cases he
    exact ⟨⟨false, _, rfl⟩, suffix_of_members? hm⟩

/-- What is read as characters alone is these characters. -/
theorem eq_of_parseFrom_eq_map {position : Nat} {before : Option Char} {cs ds : List Char}
    (h : parseFrom position before cs = .ok (ds.map .char)) : cs = ds := by
  have hcons {x : Except Error (List Atom)} {a : Atom} {ds : List Char}
      (h : (do return a :: (← x)) = Except.ok (ds.map Atom.char)) :
      ∃ d ds', ds = d :: ds' ∧ a = .char d ∧ x = .ok (ds'.map .char) := by
    obtain ⟨rest, hrest, heq⟩ := exists_of_cons_eq_ok h
    obtain ⟨d, ds', rfl, rfl, rfl⟩ := List.map_eq_cons_iff.mp heq
    exact ⟨d, ds', rfl, rfl, hrest⟩
  fun_induction parseFrom position before cs generalizing ds with
  | case1 =>
    have hnil : ds.map Atom.char = [] := (Except.ok.inj h).symm
    exact (List.map_eq_nil_iff.mp hnil).symm
  | case2 | case5 | case8 =>
    obtain ⟨d, ds', -, hchar, -⟩ := hcons h
    cases hchar
  | case4 =>
    obtain ⟨d, ds', -, hchar, -⟩ := List.map_eq_cons_iff.mp (Except.ok.inj h).symm
    cases hchar
  | case10 position before rest a after hclass _ =>
    obtain ⟨d, ds', -, rfl, -⟩ := hcons h
    obtain ⟨⟨negated, ranges, hamong⟩, -⟩ := class?_eq_some hclass
    cases hamong
  | case11 position before c rest _ _ _ _ _ ih =>
    obtain ⟨d, ds', rfl, hchar, hrest⟩ := hcons h
    rw [ih hrest, Atom.char.inj hchar]
  | _ => cases h

/-- Without a slash, the mark `**` can only stand alone. -/
theorem eq_stars_of_parseFrom {position : Nat} {before : Option Char} {cs : List Char}
    {atoms : List Atom} (h : parseFrom position before cs = .ok atoms) (hslash : '/' ∉ cs)
    (hdeep : .deep ∈ atoms) : startsPiece before = true ∧ cs = ['*', '*'] := by
  fun_induction parseFrom position before cs generalizing atoms with
  | case1 =>
    cases h
    cases hdeep
  | case2 position before rest ih | case8 position before rest _ _ ih =>
    obtain ⟨more, hmore, rfl⟩ := exists_of_cons_eq_ok h
    have hafter := ih hmore (List.not_mem_of_not_mem_cons hslash)
      (List.mem_of_ne_of_mem (by simp) hdeep)
    simp [startsPiece] at hafter
  | case4 _ _ hstarts => exact ⟨hstarts, rfl⟩
  | case5 => simp at hslash
  | case10 position before rest a after hclass ih =>
    obtain ⟨more, hmore, rfl⟩ := exists_of_cons_eq_ok h
    obtain ⟨⟨negated, ranges, rfl⟩, hsuffix⟩ := class?_eq_some hclass
    have hafter := ih hmore
      (fun hmem => List.not_mem_of_not_mem_cons hslash (hsuffix.mem hmem))
      (List.mem_of_ne_of_mem (by simp) hdeep)
    simp [startsPiece] at hafter
  | case11 position before c rest _ _ _ _ _ ih =>
    obtain ⟨more, hmore, rfl⟩ := exists_of_cons_eq_ok h
    rw [List.mem_cons, not_or] at hslash
    have hafter := ih hmore hslash.2 (List.mem_of_ne_of_mem (by simp) hdeep)
    simp [startsPiece, Ne.symm hslash.1] at hafter
  | _ => cases h

/-! ## Names that pieces accept -/

/-- The texts are read as the pieces. No text holds a slash. -/
abbrev ReadAs (texts : List String) (pieces : List Piece) : Prop :=
  List.Forall₂ (fun text p => parse text = .ok p ∧ '/' ∉ text.toList) texts pieces

section

variable {text name : String} {p : Piece}

/-- A piece without wildcards stands for its own text. -/
theorem eq_of_literal? (hparse : parse text = .ok p) (h : p.literal? = some name) :
    name = text := by
  rw [Piece.eq_ofName_of_literal? h] at hparse
  exact (String.toList_injective (eq_of_parseFrom_eq_map hparse)).symm

theorem Piece.eq_of_accepts_ofName (h : accepts (ofName text) name = true) : name = text := by
  have hchars : ∀ cs ds : List Char, acceptsChars (cs.map .char) ds = true → ds = cs := by
    intro cs
    induction cs with
    | nil =>
      intro ds h
      simpa [acceptsChars] using h
    | cons c cs ih =>
      intro ds h
      cases ds with
      | nil => simp [acceptsChars] at h
      | cons d ds =>
        simp only [List.map_cons, acceptsChars, Atom.admits, Bool.and_eq_true,
          decide_eq_true_eq] at h
        rw [h.1, ih ds h.2]
  exact String.toList_injective (hchars _ _ h)

theorem Piece.eq_of_isDeep (hparse : parse text = .ok p) (hslash : '/' ∉ text.toList)
    (h : p.isDeep = true) : text = "**" := by
  have hdeep : .deep ∈ p := List.contains_iff_mem.mp h
  exact String.toList_injective (eq_stars_of_parseFrom hparse hslash hdeep).2

variable {texts names : List String}

/-- A piece without wildcards fits its own text. -/
theorem Fits.of_literal? (hparse : parse text = .ok p) (hliteral : p.literal? = some name)
    (h : Fits texts names) : Fits (text :: texts) (name :: names) := by
  cases hpattern : isPattern text with
  | true => exact .wild hpattern h
  | false =>
    rw [eq_of_literal? hparse hliteral]
    exact .plain hpattern h

/-- A name that a piece accepts fits its text. -/
theorem Fits.of_accepts (hparse : parse text = .ok p) (hname : accepts p name = true)
    (h : Fits texts names) : Fits (text :: texts) (name :: names) := by
  cases hpattern : isPattern text with
  | true => exact .wild hpattern h
  | false =>
    obtain rfl := Except.ok.inj (hparse.symm.trans (parse_of_isPattern hpattern))
    rw [Piece.eq_of_accepts_ofName hname]
    exact .plain hpattern h

/-- What fits behind marks `**` fits with them too: they may stand for no names. -/
theorem exists_of_dropWhile {pieces : List Piece} (h : ReadAs texts pieces) :
    ∃ texts', ReadAs texts' (pieces.dropWhile Piece.isDeep) ∧
      ∀ names, Fits texts' names → Fits texts names := by
  induction h with
  | nil => exact ⟨[], .nil, fun names hfits => hfits⟩
  | @cons text p texts pieces hp hrest ih =>
    by_cases hdeep : p.isDeep = true
    · obtain ⟨texts', hread, hfits⟩ := ih
      rw [List.dropWhile_cons_of_pos hdeep, Piece.eq_of_isDeep hp.1 hp.2 hdeep]
      exact ⟨texts', hread, fun names hnames => .deep [] (hfits names hnames)⟩
    · rw [List.dropWhile_cons_of_neg hdeep]
      exact ⟨text :: texts, .cons hp hrest, fun names hfits => hfits⟩

end

/-! ## The pieces of a pattern -/

theorem exists_cons_of_mapM_parse {text : String} {texts : List String} {pieces : List Piece}
    (h : (text :: texts).mapM parse = .ok pieces) :
    ∃ p rest, pieces = p :: rest ∧ parse text = .ok p ∧ texts.mapM parse = .ok rest := by
  rw [List.mapM_cons] at h
  cases hp : parse text with
  | error e =>
    rw [hp] at h
    cases h
  | ok p =>
    cases hmore : texts.mapM parse with
    | error e =>
      rw [hp, hmore] at h
      cases h
    | ok more =>
      rw [hp, hmore] at h
      cases h
      exact ⟨p, more, rfl, rfl, rfl⟩

theorem readAs_of_mapM_parse {texts : List String} {pieces : List Piece}
    (hslash : ∀ text ∈ texts, '/' ∉ text.toList) (h : texts.mapM parse = .ok pieces) :
    ReadAs texts pieces := by
  induction texts generalizing pieces with
  | nil =>
    cases h
    exact .nil
  | cons text texts ih =>
    rw [List.forall_mem_cons] at hslash
    obtain ⟨p, rest, rfl, hp, hrest⟩ := exists_cons_of_mapM_parse h
    exact .cons ⟨hp, hslash.1⟩ (ih hslash.2 hrest)

/-- Without the empty text behind a slash at the end, the pieces are read from the texts that are
left; if none is, there is still one empty piece. -/
theorem exists_readAs {written texts : List String} {pieces : List Piece}
    (hslash : ∀ text ∈ written, '/' ∉ text.toList) (hne : written ≠ [])
    (hwritten : written = texts ∨ written = texts ++ [""])
    (h : texts.mapM parse = .ok pieces) :
    ∃ texts', (written = texts' ∨ written = texts' ++ [""]) ∧
      ReadAs texts' (if pieces.isEmpty then [[]] else pieces) := by
  cases texts with
  | nil =>
    cases h
    obtain rfl : written = [""] := by simpa [hne] using hwritten
    exact ⟨[""], .inl rfl, .cons ⟨parse_of_isPattern (by decide), by decide⟩ .nil⟩
  | cons text texts =>
    have hslash' : ∀ t ∈ text :: texts, '/' ∉ t.toList := by
      intro t ht
      refine hslash t ?_
      rcases hwritten with rfl | rfl
      · exact ht
      · exact List.mem_append_left _ ht
    have hread := readAs_of_mapM_parse hslash' h
    obtain ⟨p, rest, rfl, -, -⟩ := exists_cons_of_mapM_parse h
    exact ⟨text :: texts, hwritten, hread⟩

/-- The pieces of a pattern from the root are read from texts between its slashes. What fits these
leads along the same steps as what fits all the texts. -/
theorem exists_texts_of_piecesOf {pattern start : String} {pieces : List Piece}
    (hpattern : Path.isAbsolute pattern = true) (h : piecesOf pattern = .ok (start, pieces)) :
    start = "/" ∧ ∃ texts, ReadAs texts pieces ∧ ∀ names, Fits texts names →
      ∃ names', Fits (Path.pieces pattern) names' ∧ Path.steps names' = Path.steps names := by
  obtain ⟨inner, rfl, hinner⟩ := Path.pieces_of_isAbsolute hpattern
  have htail : String.ofList ("/" ++ inner).toList.tail = inner := by simp
  obtain ⟨texts, hwritten, htexts⟩ : ∃ texts,
      (Path.pieces inner = texts ∨ Path.pieces inner = texts ++ [""]) ∧
        (if (Path.pieces inner).getLast? = some "" then (Path.pieces inner).dropLast
          else Path.pieces inner) = texts := by
    split_ifs with hlast
    · obtain ⟨before, hbefore⟩ := List.getLast?_eq_some_iff.mp hlast
      exact ⟨before, .inr hbefore, by rw [hbefore, List.dropLast_concat]⟩
    · exact ⟨_, .inl rfl, rfl⟩
  simp only [piecesOf, hpattern, if_true, htail, htexts] at h
  cases hread : texts.mapM parse with
  | error e =>
    rw [hread] at h
    cases h
  | ok read =>
    rw [hread] at h
    cases h
    obtain ⟨texts', hwritten', hread'⟩ := exists_readAs (fun _ => Path.not_mem_of_mem_pieces)
      (Path.pieces_ne_nil inner) hwritten hread
    refine ⟨rfl, texts', hread', fun names hfits => ?_⟩
    rw [hinner]
    exact hfits.exists_of_ends hwritten'

end Glob

end StatementCheck
