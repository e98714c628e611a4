import StatementCheck.Proofs.Components

/-!
# Paths as the user writes them

The beginning of a path may stand for a directory: `~` for the home directory, `.` for the current
one, and each `..` at the beginning for one directory further up. That directory takes its place,
and the steps behind it stay what they are. So a path leads where it led before, read from the
current directory, unless it begins with `~`; and once this is done there is nothing left to do.

## Main definitions

* `Path.IsBase` : the directory for which the beginning of a path stands.
* `Path.IsBase.exists_resolve?` : it takes the place of the beginning.
* `Path.resolve?_exact` : what becomes of every path.
-/
namespace StatementCheck

namespace Path

/-- A directory takes the place of the beginning of a path, and some steps are left behind it: the
home directory for a `~`, the current one for a `.`, or the one to which all the leading `..` climb
from there. -/
inductive IsBase (home : Option String) (current : Directory) (path : String) :
    String → List Component → Prop
  | home {base : String} {rest : List Component} (h : components path = .name "~" :: rest)
      (hhome : home = some base) : IsBase home current path base rest
  | current {rest : List Component} (h : components path = .here :: rest) :
      IsBase home current path current.path rest
  | ancestor {k : Nat} {rest : List Component} (hk : 0 < k)
      (h : components path = List.replicate k .up ++ rest) (hrest : rest.head? ≠ some .up)
      (hle : k ≤ current.length) : IsBase home current path (current.ancestor k).path rest

variable {home : Option String} {current : Directory} {path : String}

/-! ## The first piece -/

section

variable {p : String}

theorem step?_ne_here : step? p ≠ some .here := by
  simp only [step?]
  split
  · simp
  · split <;> simp

theorem eq_of_step?_eq_up (h : step? p = some .up) : p = ".." := by
  simp only [step?] at h
  split at h
  · cases h
  · split at h
    · assumption
    · cases h

theorem eq_of_step?_eq_name {text : String} (h : step? p = some (.name text)) : p = text := by
  simp only [step?] at h
  split at h
  · cases h
  · split at h
    · cases h
    · simpa using h

theorem exists_step? (h : isIdle p = false) : ∃ c, step? p = some c := by
  simp only [step?, h, Bool.false_eq_true, if_false]
  split <;> exact ⟨_, rfl⟩

end

/-- The first step of a path that is not absolute is that of its first piece. -/
theorem exists_pieces_of_components {c : Component} {rest : List Component}
    (h : components path = c :: rest) (hroot : c ≠ .root) :
    ∃ p ps, pieces path = p :: ps ∧ rest = steps ps ∧
      (p = "." ∧ c = .here ∨ step? p = some c) := by
  obtain ⟨p, ps, hpieces⟩ := List.exists_cons_of_ne_nil (pieces_ne_nil path)
  refine ⟨p, ps, hpieces, ?_⟩
  by_cases hp : p = ""
  · subst hp
    by_cases hpath : path = ""
    · subst hpath
      cases h
    · rw [components_of_isAbsolute (isAbsolute_of_pieces hpieces hpath)] at h
      exact absurd (List.cons.inj h).1.symm hroot
  · rw [components_of_pieces hpieces hp, hpieces] at h
    by_cases hhere : p = "."
    · rw [if_pos hhere, steps_cons_of_isIdle (by simp [isIdle, hhere])] at h
      obtain ⟨rfl, rfl⟩ := List.cons.inj h
      exact ⟨rfl, .inl ⟨hhere, rfl⟩⟩
    · obtain ⟨c', hc'⟩ := exists_step? (p := p) (by simp [isIdle, hp, hhere])
      rw [if_neg hhere, steps_cons_of_step? hc', List.nil_append] at h
      obtain ⟨rfl, rfl⟩ := List.cons.inj h
      exact ⟨rfl, .inr hc'⟩

theorem pieces_of_components_home {rest : List Component}
    (h : components path = .name "~" :: rest) :
    ∃ ps, pieces path = "~" :: ps ∧ rest = steps ps := by
  obtain ⟨p, ps, hpieces, hrest, ⟨-, hc⟩ | hc⟩ := exists_pieces_of_components h (by simp)
  · cases hc
  · obtain rfl := eq_of_step?_eq_name hc
    exact ⟨ps, hpieces, hrest⟩

theorem pieces_of_components_here {rest : List Component} (h : components path = .here :: rest) :
    ∃ ps, pieces path = "." :: ps ∧ rest = steps ps := by
  obtain ⟨p, ps, hpieces, hrest, ⟨rfl, -⟩ | hc⟩ := exists_pieces_of_components h (by simp)
  · exact ⟨ps, hpieces, hrest⟩
  · exact absurd hc step?_ne_here

theorem pieces_of_components_up {rest : List Component} (h : components path = .up :: rest) :
    ∃ ps, pieces path = ".." :: ps ∧ rest = steps ps := by
  obtain ⟨p, ps, hpieces, hrest, ⟨-, hc⟩ | hc⟩ := exists_pieces_of_components h (by simp)
  · cases hc
  · obtain rfl := eq_of_step?_eq_up hc
    exact ⟨ps, hpieces, hrest⟩

theorem pieces_of_components_ups {k : Nat} {rest : List Component} (hk : 0 < k)
    (h : components path = List.replicate k .up ++ rest) :
    (∃ ps, pieces path = ".." :: ps) ∧ steps (pieces path) = List.replicate k .up ++ rest := by
  obtain ⟨k, rfl⟩ := Nat.exists_eq_succ_of_ne_zero hk.ne'
  rw [List.replicate_succ, List.cons_append] at h ⊢
  obtain ⟨ps, hpieces, hsteps⟩ := pieces_of_components_up h
  refine ⟨⟨ps, hpieces⟩, ?_⟩
  rw [hpieces, steps_cons_of_step? (c := .up) (by decide), hsteps]

/-! ## Climbing -/

/-- To climb is to go up once for each leading `..`, idle pieces between them or not; it fails if
there are more of them than directories. What is left are pieces from behind them. -/
theorem climb?_eq (d : Directory) {ps : List String} {k : Nat} {rest : List Component}
    (h : steps ps = List.replicate k .up ++ rest) (hrest : rest.head? ≠ some .up) :
    (d.length < k → climb? d ps = none) ∧
      (k ≤ d.length → ∃ qs, climb? d ps = some (d.ancestor k, qs) ∧ steps qs = rest ∧
        qs <:+ ps) := by
  induction ps generalizing d k with
  | nil =>
    obtain ⟨hk, rfl⟩ : k = 0 ∧ rest = [] := by simpa using h.symm
    subst hk
    exact ⟨fun hlt => absurd hlt (Nat.not_lt_zero _),
      fun _ => ⟨[], by simp [climb?], rfl, List.suffix_rfl⟩⟩
  | cons p ps ih =>
    by_cases hidle : isIdle p = true
    · have hclimb : climb? d (p :: ps) = climb? d ps := by simp [climb?, hidle]
      rw [steps_cons_of_isIdle hidle] at h
      obtain ⟨hnone, hsome⟩ := ih d h
      rw [hclimb]
      refine ⟨hnone, fun hle => ?_⟩
      obtain ⟨qs, hqs, hsteps, hsuffix⟩ := hsome hle
      exact ⟨qs, hqs, hsteps, hsuffix.trans (List.suffix_cons p ps)⟩
    by_cases hup : p = ".."
    · subst hup
      rw [steps_cons_of_step? (c := .up) rfl] at h
      cases k with
      | zero =>
        obtain rfl : Component.up :: steps ps = rest := h
        exact absurd rfl hrest
      | succ k =>
        have hsteps : steps ps = List.replicate k .up ++ rest := (List.cons.inj h).2
        by_cases hd : d = []
        · subst hd
          exact ⟨fun _ => rfl, fun hle => absurd hle (Nat.not_succ_le_zero k)⟩
        have hclimb : climb? d (".." :: ps) = climb? d.dropLast ps := by
          simp [climb?, isIdle, hd]
        have hlength : d.dropLast.length + 1 = d.length := by
          have := List.length_pos_iff.mpr hd
          rw [List.length_dropLast]
          omega
        obtain ⟨hnone, hsome⟩ := ih d.dropLast hsteps
        rw [hclimb, Directory.ancestor_succ]
        refine ⟨fun hlt => hnone (by omega), fun hle => ?_⟩
        obtain ⟨qs, hqs, hqsteps, hsuffix⟩ := hsome (by omega)
        exact ⟨qs, hqs, hqsteps, hsuffix.trans (List.suffix_cons ".." ps)⟩
    · have hstep : step? p = some (.name p) := by simp [step?, hidle, hup]
      rw [steps_cons_of_step? hstep] at h
      cases k with
      | zero =>
        refine ⟨fun hlt => absurd hlt (Nat.not_lt_zero _), fun _ => ⟨p :: ps, ?_, ?_, ?_⟩⟩
        · simp [climb?, hidle, hup]
        · rw [steps_cons_of_step? hstep, h]
          rfl
        · exact List.suffix_rfl
      | succ k => cases (List.cons.inj h).1

/-! ## What becomes of a path -/

theorem resolve?_of_isAbsolute (h : isAbsolute path = true) :
    resolve? home current path = some path := by
  obtain ⟨rest, -, hpieces⟩ := pieces_of_isAbsolute h
  simp [resolve?, hpieces]

theorem resolve?_of_pieces_up {ps : List String} (h : pieces path = ".." :: ps) :
    resolve? home current path =
      (climb? current (pieces path)).map fun (d, rest) => join d.path (trimmed rest) := by
  simp [resolve?, h]

/-- A path whose beginning stands for no directory is left as it is. -/
theorem resolve?_of_head? (h : ∀ c ∈ (components path).head?, c ≠ .name "~" ∧ c ≠ .here ∧ c ≠ .up) :
    resolve? home current path = some path := by
  obtain ⟨p, ps, hpieces⟩ := List.exists_cons_of_ne_nil (pieces_ne_nil path)
  have hcomponents (hp : p ≠ "") := components_of_pieces hpieces hp
  unfold resolve?
  split
  · next rest hrest =>
    obtain ⟨rfl, -⟩ := List.cons.inj (hpieces.symm.trans hrest)
    rw [hcomponents (by decide), hpieces, steps_cons_of_step? (c := .name "~") (by decide)] at h
    exact absurd rfl (h _ rfl).1
  · next rest hrest =>
    obtain ⟨rfl, -⟩ := List.cons.inj (hpieces.symm.trans hrest)
    rw [hcomponents (by decide)] at h
    exact absurd rfl (h _ rfl).2.1
  · next rest hrest =>
    obtain ⟨rfl, -⟩ := List.cons.inj (hpieces.symm.trans hrest)
    rw [hcomponents (by decide), hpieces, steps_cons_of_step? (c := .up) (by decide)] at h
    exact absurd rfl (h _ rfl).2.2
  · rfl

/-- The directory for which the beginning of a path stands takes its place, and what is joined to it
are pieces of the path that take the steps left behind. -/
theorem IsBase.exists_resolve? {base : String} {rest : List Component}
    (h : IsBase home current path base rest) :
    ∃ ps, ps <:+ pieces path ∧ steps ps = rest ∧
      resolve? home current path = some (join base (trimmed ps)) := by
  cases h with
  | home h hhome =>
    obtain ⟨ps, hpieces, rfl⟩ := pieces_of_components_home h
    exact ⟨ps, hpieces ▸ List.suffix_cons "~" ps, rfl, by simp [resolve?, hpieces, hhome]⟩
  | current h =>
    obtain ⟨ps, hpieces, rfl⟩ := pieces_of_components_here h
    exact ⟨ps, hpieces ▸ List.suffix_cons "." ps, rfl, by simp [resolve?, hpieces]⟩
  | @ancestor k rest hk h hrest hle =>
    obtain ⟨hup, hsteps⟩ := pieces_of_components_ups hk h
    obtain ⟨qs, hqs, hqsteps, hsuffix⟩ := (climb?_eq current hsteps hrest).2 hle
    refine ⟨qs, hsuffix, hqsteps, ?_⟩
    obtain ⟨ps, hpieces⟩ := hup
    rw [resolve?_of_pieces_up hpieces, hqs, Option.map_some]

/-- It cannot be done exactly if there are more leading `..` than directories to leave. -/
theorem resolve?_eq_none_iff {k : Nat} {rest : List Component} (hk : 0 < k)
    (h : components path = List.replicate k .up ++ rest) (hrest : rest.head? ≠ some .up) :
    resolve? home current path = none ↔ current.length < k := by
  obtain ⟨⟨ps, hpieces⟩, hsteps⟩ := pieces_of_components_ups hk h
  obtain ⟨hnone, hsome⟩ := climb?_eq current hsteps hrest
  rw [resolve?_of_pieces_up hpieces, Option.map_eq_none_iff]
  refine ⟨fun hclimb => ?_, hnone⟩
  by_contra hle
  obtain ⟨qs, hqs, -⟩ := hsome (Nat.le_of_not_lt hle)
  rw [hqs] at hclimb
  cases hclimb

theorem le_length_of_resolve? {k : Nat} {rest : List Component} (hk : 0 < k)
    (h : components path = List.replicate k .up ++ rest) (hrest : rest.head? ≠ some .up)
    {resolved : String} (hresolve : resolve? home current path = some resolved) :
    k ≤ current.length := by
  by_contra hlt
  rw [(resolve?_eq_none_iff hk h hrest).mpr (Nat.lt_of_not_le hlt)] at hresolve
  cases hresolve

/-- The leading `..` of a path, all of them. -/
theorem exists_replicate_up (steps : List Component) :
    ∃ k rest, steps = List.replicate k .up ++ rest ∧ rest.head? ≠ some .up := by
  induction steps with
  | nil => exact ⟨0, [], rfl, by simp⟩
  | cons c steps ih =>
    by_cases hc : c = .up
    · obtain ⟨k, rest, rfl, hrest⟩ := ih
      exact ⟨k + 1, rest, by rw [hc, List.replicate_succ, List.cons_append], hrest⟩
    · exact ⟨0, c :: steps, rfl, by simpa using hc⟩

/-- A path is left as it is, or a directory takes the place of its beginning. -/
theorem eq_or_isBase_of_resolve? {resolved : String}
    (h : resolve? home current path = some resolved) :
    resolved = path ∨ ∃ base rest, IsBase home current path base rest := by
  cases hcomponents : components path with
  | nil =>
    rw [resolve?_of_head? (by simp [hcomponents])] at h
    exact .inl (Option.some.inj h).symm
  | cons c rest =>
    by_cases hhere : c = .here
    · subst hhere
      exact .inr ⟨_, _, .current hcomponents⟩
    by_cases hhome : c = .name "~"
    · subst hhome
      obtain ⟨ps, hpieces, -⟩ := pieces_of_components_home hcomponents
      obtain ⟨base, hbase, -⟩ : ∃ base, home = some base ∧ join base (trimmed ps) = resolved := by
        simpa [resolve?, hpieces] using h
      exact .inr ⟨_, _, .home hcomponents hbase⟩
    by_cases hup : c = .up
    · subst hup
      obtain ⟨k, rest', hrest', hhead⟩ := exists_replicate_up rest
      have hups : components path = List.replicate (k + 1) .up ++ rest' := by
        rw [hcomponents, hrest', List.replicate_succ, List.cons_append]
      have hle : k + 1 ≤ current.length := le_length_of_resolve? (Nat.succ_pos k) hups hhead h
      exact .inr ⟨_, _, .ancestor (Nat.succ_pos k) hups hhead hle⟩
    · rw [resolve?_of_head? (by simp [hcomponents, hhere, hhome, hup])] at h
      exact .inl (Option.some.inj h).symm

theorem IsBase.isAbsolute {base : String} {rest : List Component}
    (hhome : ∀ h ∈ home, isAbsolute h = true) (h : IsBase home current path base rest) :
    Path.isAbsolute base = true := by
  cases h with
  | home _ hbase => exact hhome base hbase
  | current => exact current.isAbsolute_path
  | ancestor => exact Directory.isAbsolute_path _

/-- With an absolute home directory, a directory that takes the place of the beginning stays where
it is: what is joined to it is not absolute. -/
theorem IsBase.components_resolve? {base resolved : String} {rest : List Component}
    (hhome : ∀ h ∈ home, Path.isAbsolute h = true) (h : IsBase home current path base rest)
    (hresolve : resolve? home current path = some resolved) :
    Path.isAbsolute resolved = true ∧ components resolved = components base ++ rest := by
  obtain ⟨ps, hsuffix, rfl, hresolve'⟩ := h.exists_resolve?
  obtain rfl := Option.some.inj (hresolve'.symm.trans hresolve)
  have hbase := h.isAbsolute hhome
  have hslash : ∀ p ∈ ps, '/' ∉ p.toList :=
    fun p hp => not_mem_of_mem_pieces (hsuffix.mem hp)
  refine ⟨isAbsolute_join hbase, ?_⟩
  rw [components_join hbase (isAbsolute_trimmed hslash), steps_pieces_trimmed hslash]

/-- From the directory that takes the place of the beginning, the steps that are left lead where the
whole path leads from the current directory, unless that is the home directory. -/
theorem IsBase.destination_eq {base : String} {rest : List Component} (hcurrent : current.IsNamed)
    (hhead : (components path).head? ≠ some (.name "~"))
    (h : IsBase home current path base rest) :
    rest.foldl Directory.enter (destination base) =
      (components path).foldl Directory.enter current := by
  cases h with
  | home h =>
    rw [h] at hhead
    exact absurd rfl hhead
  | current h =>
    rw [h, destination_path hcurrent, List.foldl_cons, Directory.enter]
  | ancestor hk h =>
    rw [h, destination_path (hcurrent.ancestor _), List.foldl_append, Directory.foldl_enter_ups]

/-- What becomes of a path as the user writes it, on a host with an absolute home directory and a
current one. A leading `~` gives way to the home directory, a leading `.` to the current one, and
leading `..` to the directory so many steps up, if there are so many; the steps behind stay, later
`..` among them. Any other path is left as it is, letter by letter. So without a leading `~` a path
leads where it led before, seen from the current directory. Whatever is cut off the end of a path
and put below a directory stays below it, and a path that is made ready once is left as it is. -/
theorem resolve?_exact {home : String} (hhome : isAbsolute home = true) {current : Directory}
    (hcurrent : current.IsNamed) (path : String) :
    (∀ rest, components path = .name "~" :: rest →
      ∃ resolved, resolve? (some home) current path = some resolved ∧
        components resolved = components home ++ rest) ∧
    (∀ k rest, 0 < k → components path = List.replicate k .up ++ rest → rest.head? ≠ some .up →
      (resolve? (some home) current path = none ↔ current.length < k) ∧
      ∀ resolved, resolve? (some home) current path = some resolved →
        components resolved =
          .root :: (current.take (current.length - k)).map .name ++ rest) ∧
    (∀ rest, components path = .here :: rest →
      ∃ resolved, resolve? (some home) current path = some resolved ∧
        components resolved = .root :: current.map .name ++ rest) ∧
    ((∀ c ∈ (components path).head?, c ≠ .name "~" ∧ c ≠ .here ∧ c ≠ .up) →
      resolve? (some home) current path = some path) ∧
    ((components path).head? ≠ some (.name "~") →
      ∀ resolved, resolve? (some home) current path = some resolved →
        destination (join current.path resolved) = destination (join current.path path)) ∧
    (∀ base rest, IsBase (some home) current path base rest →
      ∃ ps, ps <:+ pieces path ∧ isAbsolute (trimmed ps) = false ∧
        resolve? (some home) current path = some (join base (trimmed ps)) ∧
        base.toList <+: (join base (trimmed ps)).toList) ∧
    ∀ resolved, resolve? (some home) current path = some resolved →
      resolve? (some home) current resolved = some resolved := by
  have hhomes : ∀ h ∈ some home, isAbsolute h = true := by
    simpa using hhome
  refine ⟨fun rest h => ?_, fun k rest hk h hrest => ⟨resolve?_eq_none_iff hk h hrest, ?_⟩,
    fun rest h => ?_, resolve?_of_head?, fun hhead resolved hresolve => ?_,
    fun base rest hbase => ?_, fun resolved hresolve => ?_⟩
  · have hbase : IsBase (some home) current path home rest := .home h rfl
    obtain ⟨ps, -, -, hresolve⟩ := hbase.exists_resolve?
    exact ⟨_, hresolve, (hbase.components_resolve? hhomes hresolve).2⟩
  · intro resolved hresolve
    have hbase : IsBase (some home) current path (current.ancestor k).path rest :=
      .ancestor hk h hrest (le_length_of_resolve? hk h hrest hresolve)
    rw [(hbase.components_resolve? hhomes hresolve).2, (hcurrent.ancestor k).components_path,
      Directory.ancestor]
  · have hbase : IsBase (some home) current path current.path rest := .current h
    obtain ⟨ps, -, -, hresolve⟩ := hbase.exists_resolve?
    refine ⟨_, hresolve, ?_⟩
    rw [(hbase.components_resolve? hhomes hresolve).2, hcurrent.components_path]
  · rcases eq_or_isBase_of_resolve? hresolve with rfl | ⟨base, rest, hbase⟩
    · rfl
    · obtain ⟨habsolute, hcomponents⟩ := hbase.components_resolve? hhomes hresolve
      calc destination (join current.path resolved)
          = rest.foldl Directory.enter (destination base) := by
            rw [join_of_isAbsolute habsolute, destination, hcomponents, List.foldl_append,
              destination]
        _ = (components path).foldl Directory.enter current :=
            hbase.destination_eq hcurrent hhead
        _ = destination (join current.path path) := by
            rw [destination_join current.isAbsolute_path, destination_path hcurrent]
  · obtain ⟨ps, hsuffix, -, hresolve⟩ := hbase.exists_resolve?
    have habsolute := isAbsolute_trimmed fun p hp => not_mem_of_mem_pieces (hsuffix.mem hp)
    exact ⟨ps, hsuffix, habsolute, hresolve, prefix_join habsolute⟩
  · rcases eq_or_isBase_of_resolve? hresolve with rfl | ⟨base, rest, hbase⟩
    · exact hresolve
    · exact resolve?_of_isAbsolute (hbase.components_resolve? hhomes hresolve).1

/-- Slashes and dots between the steps change nothing: one `~` before them, or two `..` among them,
which are one too many below a directory of the root. -/
theorem resolve?_exact_slashes :
    (∃ resolved, resolve? (some "/home/u") ["w"] "~//./etc" = some resolved ∧
      components resolved = [.root, .name "home", .name "u", .name "etc"]) ∧
    resolve? (some "/home/u") ["w"] "..//./../x" = none := by
  have hhome : isAbsolute "/home/u" = true := by decide
  have hcurrent : Directory.IsNamed ["w"] := by simp [Directory.IsNamed, IsName, step?, isIdle]
  obtain ⟨resolved, hresolve, hcomponents⟩ :=
    (resolve?_exact hhome hcurrent "~//./etc").1 [.name "etc"] (by decide)
  refine ⟨⟨resolved, hresolve, ?_⟩, ?_⟩
  · rw [hcomponents]
    decide
  · exact ((resolve?_exact hhome hcurrent "..//./../x").2.1 2 [.name "x"] (by decide) (by decide)
      (by decide)).1.mpr (by decide)

end Path

end StatementCheck
