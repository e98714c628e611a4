import StatementCheck.Proofs.Entries

/-!
# What a document keeps

Later lines may add to a table or to an array of tables. Any other value stays as it is: once a key
of a document's own table has such a value, the document is valid only if its table still has it in
the end.

## Main definitions

* `Toml.Value.IsClosed` : a value that nothing is added to.
* `Toml.Table.Holds`, `Toml.Builder.Holds` : a key has a value.
* `Toml.isClosed_of_value` : whatever is written as a value is closed.
* `Toml.Builder.Holds.foldlM_read` : lines keep a closed value.
* `Toml.exists_lookup_of_parse` : a document keeps the key of a line whose value is not known.
-/
namespace StatementCheck.Toml

/-- A value that nothing is added to: no table that can be opened again, and no array of tables. -/
def Value.IsClosed : Value → Prop
  | table origin _ => origin = .inline
  | tables _ => False
  | _ => True

/-! ## Tables -/

namespace Table

variable {k : String} {v : Value} {t t' : Table}

/-- A key has a value. -/
def Holds (k : String) (v : Value) (t : Table) : Prop := t.entries.lookup k = some v

theorem lookup_map_of_ne {key : String} (hne : k ≠ key) (new : Value) (entries : Entries) :
    (entries.map fun e => if e.1 = key then (key, new) else e).lookup k = entries.lookup k := by
  have hmiss : (k == key) = false := beq_eq_false_iff_ne.mpr hne
  induction entries with
  | nil => rfl
  | cons e entries ih =>
    obtain ⟨key', v'⟩ := e
    by_cases hkey : key' = key
    · subst hkey
      simpa [List.lookup_cons, hmiss] using ih
    · simp [List.lookup_cons, hkey, ih]

theorem lookup_filter_of_ne {key : String} (hne : k ≠ key) (entries : Entries) :
    (entries.filter fun e => e.1 ≠ key).lookup k = entries.lookup k := by
  have hmiss : (k == key) = false := beq_eq_false_iff_ne.mpr hne
  induction entries with
  | nil => rfl
  | cons e entries ih =>
    obtain ⟨key', v'⟩ := e
    by_cases hkey : key' = key
    · subst hkey
      simpa [List.lookup_cons, hmiss] using ih
    · rw [List.filter_cons_of_pos (by simpa using hkey), List.lookup_cons, List.lookup_cons, ih]

theorem Holds.set {key : String} (h : t.Holds k v) (hne : k ≠ key) (new : Value) :
    (t.set key new).Holds k v := by
  unfold Table.set
  split
  · exact (lookup_map_of_ne hne new t.entries).trans h
  · have hkept : t.entries.lookup k = some v := h
    simp [Holds, List.lookup_append, hkept]

theorem Holds.erase {key : String} (h : t.Holds k v) (hne : k ≠ key) :
    (t.erase key).Holds k v :=
  (lookup_filter_of_ne hne t.entries).trans h

/-- Does a change of a table keep the value of a key? -/
def Keeps (k : String) (v : Value) (f : Table → Option Table) : Prop :=
  ∀ t t', f t = some t' → t.Holds k v → t'.Holds k v

theorem keeps_add? (key : String) (new : Value) : Keeps k v (·.add? key new) := by
  intro t t' hadd h
  simp only [add?] at hadd
  split at hadd
  · cases hadd
  · next hnone =>
    cases hadd
    refine h.set ?_ new
    rintro rfl
    have hkept : t.entries.lookup k = some v := h
    simp [hkept] at hnone

/-- A change further down gives the first key of the path a new value, and no other key. -/
theorem exists_set_of_edit {origin : Origin} {f : Table → Option Table} {key : String}
    {path : List String} (h : t.edit origin f (key :: path) = some t') :
    ∃ new, t' = t.set key new := by
  rw [edit] at h
  split at h
  · obtain ⟨new, -, heq⟩ := Option.bind_eq_some_iff.mp h
    exact ⟨_, (Option.some.inj heq).symm⟩
  · cases h
  · split at h
    · cases h
    · obtain ⟨new, -, heq⟩ := Option.bind_eq_some_iff.mp h
      exact ⟨_, (Option.some.inj heq).symm⟩
  · split at h
    · obtain ⟨new, -, heq⟩ := Option.bind_eq_some_iff.mp h
      exact ⟨_, (Option.some.inj heq).symm⟩
    · cases h
  · cases h

/-- No path leads through a closed value. -/
theorem edit_eq_none_of_isClosed {origin : Origin} {f : Table → Option Table} {path : List String}
    (hv : v.IsClosed) (h : t.Holds k v) : t.edit origin f (k :: path) = none := by
  have hkept : t.entries.lookup k = some v := h
  rw [edit, hkept]
  cases v with
  | table own entries =>
    obtain rfl : own = .inline := hv
    rfl
  | tables elements => exact hv.elim
  | string | integer | float | boolean | moment | array => rfl

/-- A change at the end of a path keeps a closed value of the table where the path begins, if it
does so where the path ends at once. -/
theorem keeps_edit {origin : Origin} {f : Table → Option Table} {path : List String}
    (hv : v.IsClosed) (hf : path = [] → Keeps k v f) : Keeps k v (edit origin f path) := by
  cases path with
  | nil => exact hf rfl
  | cons key path =>
    intro t t' hedit h
    by_cases hkey : k = key
    · subst hkey
      rw [edit_eq_none_of_isClosed hv h] at hedit
      cases hedit
    · obtain ⟨new, rfl⟩ := exists_set_of_edit hedit
      exact h.set hkey new

theorem keeps_enter (hv : v.IsClosed) (path : List String) (key : String) (new : Value) :
    Keeps k v (enter path key new) := by
  refine keeps_edit hv fun _ => ?_
  intro t t' hadd h
  dsimp only at hadd
  split at hadd
  · exact keeps_add? key new t t' hadd h
  · cases hadd

theorem keeps_pushTable (hv : v.IsClosed) (last : String) (new : List Value) :
    Keeps k v (Builder.pushTable last new) := by
  intro t t' hpush h
  have hkept : t.entries.lookup k = some v := h
  unfold Builder.pushTable at hpush
  split at hpush
  · next hnone =>
    cases hpush
    refine h.set ?_ _
    rintro rfl
    rw [hkept] at hnone
    cases hnone
  · next elements htables =>
    cases hpush
    refine h.set ?_ _
    rintro rfl
    rw [hkept] at htables
    cases htables
    exact hv
  · cases hpush

end Table

/-! ## Lines -/

namespace Builder

variable {k : String} {v : Value} {b b' : Builder}

/-- A key of the document's own table has a value. -/
def Holds (k : String) (v : Value) (b : Builder) : Prop :=
  match b.place with
  | .root => b.current.Holds k v
  | _ => b.root.Holds k v

/-- A current table that is put in its place takes no other key from the document's own table. -/
theorem Holds.finish {t : Table} (hv : v.IsClosed) (h : b.Holds k v) (hfinish : b.finish = some t) :
    t.Holds k v := by
  obtain ⟨root, place, current⟩ := b
  cases place with
  | root =>
    cases hfinish
    exact h
  | under path last => exact Table.keeps_edit hv (fun _ => Table.keeps_add? last _) _ _ hfinish h
  | next path last =>
    exact Table.keeps_edit hv (fun _ => Table.keeps_pushTable hv last _) _ _ hfinish h

theorem holds_of_beginTable {root : Table} {path : List String} {last : String} (hv : v.IsClosed)
    (h : root.Holds k v) (hbegin : beginTable root path last = some b) : b.Holds k v := by
  obtain ⟨opened, hopen, hbegin⟩ := Option.bind_eq_some_iff.mp hbegin
  have hkeep : opened.Holds k v := by
    refine Table.keeps_edit hv (fun _ t t' heq ht => ?_) _ _ hopen h
    cases heq
    exact ht
  obtain ⟨parent, hparent, hbegin⟩ := Option.bind_eq_some_iff.mp hbegin
  split at hbegin
  · cases hbegin
    exact hkeep
  · next entries hfound =>
    obtain ⟨taken, htake, heq⟩ := Option.bind_eq_some_iff.mp hbegin
    cases heq
    -- A table that is taken out of the document's own was implied, and so is not the closed value.
    refine Table.keeps_edit hv (fun hpath t t' heq ht => ?_) _ _ htake hkeep
    subst hpath
    cases hparent
    cases heq
    refine ht.erase ?_
    rintro rfl
    have hlookup : opened.entries.lookup k = some v := hkeep
    rw [hlookup] at hfound
    cases hfound
    cases hv
  · cases hbegin

theorem holds_of_beginNext {root : Table} {path : List String} {last : String} (hv : v.IsClosed)
    (h : root.Holds k v) (hbegin : beginNext root path last = some b) : b.Holds k v := by
  obtain ⟨t, ht, heq⟩ := Option.bind_eq_some_iff.mp hbegin
  cases heq
  exact Table.keeps_edit hv (fun _ => Table.keeps_pushTable hv last _) _ _ ht h

/-- A line keeps a closed value. -/
theorem Holds.read {l : Line} (hv : v.IsClosed) (h : b.Holds k v) (hread : b.read l = some b') :
    b'.Holds k v := by
  cases l with
  | entry path last new =>
    obtain ⟨t, ht, heq⟩ := Option.bind_eq_some_iff.mp hread
    cases heq
    obtain ⟨root, place, current⟩ := b
    cases place with
    | root => exact Table.keeps_enter hv path last new _ _ ht h
    | under | next => exact h
  | table path last =>
    obtain ⟨t, ht, hbegin⟩ := Option.bind_eq_some_iff.mp hread
    exact holds_of_beginTable hv (h.finish hv ht) hbegin
  | nextTable path last =>
    obtain ⟨t, ht, hbegin⟩ := Option.bind_eq_some_iff.mp hread
    exact holds_of_beginNext hv (h.finish hv ht) hbegin

theorem Holds.foldlM_read {ls : List Line} (hv : v.IsClosed) (h : b.Holds k v)
    (hread : ls.foldlM Builder.read b = some b') : b'.Holds k v := by
  induction ls generalizing b with
  | nil =>
    cases hread
    exact h
  | cons l ls ih =>
    rw [List.foldlM_cons] at hread
    obtain ⟨b'', hfirst, hrest⟩ := Option.bind_eq_some_iff.mp hread
    exact ih (h.read hv hfirst) hrest

end Builder

/-! ## Written values -/

theorem origin_enter {path : List String} {key : String} {new : Value} {t t' : Table}
    (h : t.enter path key new = some t') : t'.origin = t.origin := by
  have hset : ∀ (t : Table) (key : String) (new : Value), (t.set key new).origin = t.origin := by
    intro t key new
    unfold Table.set
    split
    · rfl
    · rfl
  cases path with
  | nil =>
    simp only [Table.enter, Table.edit, Table.add?, List.isEmpty_nil, Bool.true_or, if_true] at h
    split at h
    · cases h
    · cases h
      exact hset _ _ _
  | cons key' path =>
    obtain ⟨_, rfl⟩ := Table.exists_set_of_edit h
    exact hset _ _ _

theorem isClosed_of_inlineTable? {entries : List (List String × String × Value)} {v : Value}
    (h : inlineTable? entries = some v) : v.IsClosed := by
  have horigin : ∀ (entries : List (List String × String × Value)) {t t' : Table},
      entries.foldlM (fun t e => Table.enter e.1 e.2.1 e.2.2 t) t = some t' →
        t'.origin = t.origin := by
    intro entries
    induction entries with
    | nil =>
      intro t t' hfold
      cases hfold
      rfl
    | cons e entries ih =>
      intro t t' hfold
      rw [List.foldlM_cons] at hfold
      obtain ⟨t'', hfirst, hrest⟩ := Option.bind_eq_some_iff.mp hfold
      exact (ih hrest).trans (origin_enter hfirst)
  obtain ⟨t, ht, rfl⟩ := Option.map_eq_some_iff.mp h
  exact horigin entries ht

theorem isClosed_of_integer {cs rest : List Char} {v : Value} (h : integer cs = some (v, rest)) :
    v.IsClosed := by
  have hbounded : ∀ n cs, bounded n cs = some (v, rest) → v.IsClosed := by
    intro n cs hb
    unfold bounded at hb
    split at hb
    · cases hb
      trivial
    · cases hb
  have hmarked : ∀ base cs, markedInteger base cs = some (v, rest) → v.IsClosed := by
    intro base cs hm
    obtain ⟨_, -, hb⟩ := Option.bind_eq_some_iff.mp hm
    exact hbounded _ _ hb
  unfold integer at h
  split at h
  · exact hmarked _ _ h
  · exact hmarked _ _ h
  · exact hmarked _ _ h
  · obtain ⟨_, -, hb⟩ := Option.bind_eq_some_iff.mp h
    exact hbounded _ _ hb

theorem isClosed_of_decimalFloat {cs rest : List Char} {v : Value}
    (h : decimalFloat cs = some (v, rest)) : v.IsClosed := by
  obtain ⟨_, -, h⟩ := Option.bind_eq_some_iff.mp h
  obtain ⟨_, -, h⟩ := Option.bind_eq_some_iff.mp h
  dsimp only at h
  rw [Option.ite_none_left_eq_some] at h
  cases h.2
  trivial

theorem isClosed_of_namedFloat {cs rest : List Char} {v : Value}
    (h : namedFloat cs = some (v, rest)) : v.IsClosed := by
  simp only [namedFloat] at h
  split at h
  · cases h
    trivial
  · cases h
    trivial
  · cases h

theorem isClosed_of_number {cs rest : List Char} {v : Value} (h : number cs = some (v, rest)) :
    v.IsClosed := by
  simp only [number, Option.orElse_eq_orElse, Option.orElse_eq_or, Option.or_eq_some_iff] at h
  rcases h with h | ⟨-, h | ⟨-, h⟩⟩
  · exact isClosed_of_decimalFloat h
  · exact isClosed_of_namedFloat h
  · exact isClosed_of_integer h

theorem isClosed_of_scalar {cs rest : List Char} {v : Value} (h : scalar cs = some (v, rest)) :
    v.IsClosed := by
  unfold scalar at h
  split at h
  · cases h
    trivial
  · cases h
    trivial
  · split at h
    · cases h
      trivial
    · split at h
      · cases h
        trivial
      · exact isClosed_of_number h

/-- Whatever is written as a value is closed. -/
theorem isClosed_of_value {depth : Nat} {cs rest : List Char} {v : Value}
    (h : value depth cs = some (v, rest)) : v.IsClosed := by
  unfold value at h
  split at h
  · exact isClosed_of_scalar h
  · obtain ⟨found, -, heq⟩ := Option.map_eq_some_iff.mp h
    cases heq
    trivial
  · obtain ⟨found, -, h⟩ := Option.bind_eq_some_iff.mp h
    obtain ⟨v, hv, heq⟩ := Option.bind_eq_some_iff.mp h
    cases heq
    exact isClosed_of_inlineTable? hv
  · exact isClosed_of_scalar h

/-! ## Documents -/

variable {k : String} {v : Value} {w : List Char} {pre post : List (String × List Char)}

/-- An entry behind others of the document's own table stays, whatever the lines behind it are. -/
theorem lookup_of_tableOf? {entries : Entries} {more : List Line} {t : Table}
    (hdiffer : ((entries ++ [(k, v)]).map Prod.fst).Nodup) (hv : v.IsClosed)
    (h : tableOf? (entries.map .ofEntry ++ .ofEntry (k, v) :: more) = some t) :
    t.entries.lookup k = some v := by
  have hlines : entries.map Line.ofEntry ++ .ofEntry (k, v) :: more =
      (entries ++ [(k, v)]).map .ofEntry ++ more := by simp
  obtain ⟨b, hread, hfinish⟩ := Option.bind_eq_some_iff.mp h
  rw [hlines, List.foldlM_append, Builder.foldlM_read_ofEntry hdiffer] at hread
  have hlookup : (entries ++ [(k, v)]).lookup k = some v := by
    simp [List.lookup_append, lookup_eq_none_of_not_mem (not_mem_of_nodup hdiffer)]
  have hstart : Builder.Holds k v
      { Builder.start with current := ⟨.headed, entries ++ [(k, v)]⟩ } := hlookup
  exact (hstart.foldlM_read hv hread).finish hv hfinish

/-- Behind lines that are read as they were written, the key of a line stays, whatever is behind its
equals sign. -/
theorem exists_lookup_of_parse {source : String} {entries read : Entries}
    (hlines : LinesRead pre entries) (hk : IsBareKey k)
    (hdiffer : ((entries.map Prod.fst) ++ [k]).Nodup)
    (h : Lays (pre ++ (k, w) :: post) source.toList) (hparse : parse source = some read) :
    ∃ v, read.lookup k = some v := by
  obtain ⟨lines, hread, hbuild⟩ := Option.bind_eq_some_iff.mp hparse
  obtain ⟨t, ht, heq⟩ := Option.bind_eq_some_iff.mp hbuild
  cases heq
  have hfirst : ∀ l ∈ (pre ++ (k, w) :: post).head?, IsBareKey l.1 :=
    hlines.isBareKey_of_head? (by simpa using hk)
  rw [skipByteOrderMark_of_lays hfirst h] at hread
  obtain ⟨cs, v, rest, more, hvalue, rfl⟩ := exists_of_lines?_lays hlines hk h hread
  refine ⟨v, lookup_of_tableOf? ?_ (isClosed_of_value hvalue) ht⟩
  simpa using hdiffer

end StatementCheck.Toml
