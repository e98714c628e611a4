import Mathlib.Data.List.DropRight
import StatementCheck.Path

/-!
# Components of paths

A path is read as the steps that it takes: to the root, to the directory above, to a name. The
pieces that lead nowhere take no step, but for a `.` at the beginning. What is put below a path is
read as the steps of that path and then its own, however many slashes stand between them.

## Main definitions

* `Path.Component`, `Path.components` : a step, and the steps of a path.
* `Path.components_join` : the steps of a path below another.
* `Path.steps_pieces_trimmed` : trimming a path takes no step away.
* `Path.destination` : the directory or file that a path leads to, worked out on its text alone.
-/
namespace StatementCheck

namespace Path

/-- A step that a path takes. -/
inductive Component
  /-- To the root of all directories. -/
  | root
  /-- To the current directory, from where a path is read that is not absolute. -/
  | here
  /-- To the directory above. -/
  | up
  | name (text : String)
  deriving DecidableEq

/-- The step that a piece takes, unless it is idle. -/
def step? (piece : String) : Option Component :=
  if isIdle piece then none else if piece = ".." then some .up else some (.name piece)

/-- The steps that pieces take, one after the other. -/
def steps (pieces : List String) : List Component := pieces.filterMap step?

/-- The step with which a path begins if its pieces do not show it. -/
def start (path : String) : List Component :=
  if isAbsolute path then [.root]
  else if (pieces path).head? = some "." then [.here]
  else []

/-- The steps that a path takes. -/
def components (path : String) : List Component := start path ++ steps (pieces path)

/-- A text is the name of something in a directory: it has a step of its own, and no slash. -/
def IsName (text : String) : Prop := step? text = some (.name text) ∧ '/' ∉ text.toList

@[simp] theorem steps_nil : steps [] = [] := rfl

@[simp] theorem steps_append (ps qs : List String) : steps (ps ++ qs) = steps ps ++ steps qs :=
  List.filterMap_append

theorem steps_cons_of_isIdle {p : String} (h : isIdle p = true) (ps : List String) :
    steps (p :: ps) = steps ps := by
  simp [steps, step?, h]

theorem steps_cons_of_step? {p : String} {c : Component} (h : step? p = some c)
    (ps : List String) : steps (p :: ps) = c :: steps ps := by
  simp [steps, h]

theorem steps_eq_nil_of_isIdle {ps : List String} (h : ∀ p ∈ ps, isIdle p = true) :
    steps ps = [] := by
  induction ps with
  | nil => rfl
  | cons p ps ih =>
    rw [List.forall_mem_cons] at h
    rw [steps_cons_of_isIdle h.1, ih h.2]

theorem steps_map_name {names : List String} (h : ∀ name ∈ names, IsName name) :
    steps names = names.map .name := by
  induction names with
  | nil => rfl
  | cons name names ih =>
    rw [List.forall_mem_cons] at h
    rw [steps_cons_of_step? h.1.1, ih h.2, List.map_cons]

/-! ## Pieces -/

theorem pieces_eq (path : String) :
    pieces path = (path.toList.splitOn '/').map String.ofList := by
  have hchars : ∀ cs : List Char, cs.foldr addChar [[]] = cs.splitOn '/' := by
    intro cs
    induction cs with
    | nil => rfl
    | cons c cs ih =>
      rw [List.foldr_cons, ih, List.splitOn_cons_eq_if_modifyHead]
      obtain ⟨p, ps, hsplit⟩ := List.exists_cons_of_ne_nil (List.splitOn_ne_nil '/' cs)
      simp [addChar, hsplit]
  rw [pieces, hchars]

theorem pieces_ne_nil (path : String) : pieces path ≠ [] := by
  simp [pieces_eq]

/-- A slash divides a path into parts that have pieces of their own. -/
theorem pieces_append_slash (a b : String) : pieces (a ++ "/" ++ b) = pieces a ++ pieces b := by
  have hchars : (a ++ "/" ++ b).toList = a.toList ++ '/' :: b.toList := by simp
  rw [pieces_eq, hchars, List.splitOn_append_cons_self, List.map_append, ← pieces_eq, ← pieces_eq]

theorem pieces_of_not_mem {path : String} (h : '/' ∉ path.toList) : pieces path = [path] := by
  rw [pieces_eq, List.splitOn_eq_singleton h, List.map_singleton, String.ofList_toList]

theorem pieces_intercalate {ps : List String} (hne : ps ≠ [])
    (h : ∀ p ∈ ps, '/' ∉ p.toList) : pieces ("/".intercalate ps) = ps := by
  have hsplit : (['/'].intercalate (ps.map String.toList)).splitOn '/' = ps.map String.toList :=
    List.splitOn_intercalate '/' (by simpa using h) (by simpa using hne)
  have hid : String.ofList ∘ String.toList = id := funext fun _ => String.ofList_toList
  rw [pieces_eq, String.toList_intercalate]
  change List.map _ ((['/'].intercalate _).splitOn '/') = _
  rw [hsplit, List.map_map, hid, List.map_id]

/-- The characters of a piece are those of its path, the slashes apart. -/
theorem mem_of_mem_pieces {path p : String} (h : p ∈ pieces path) {c : Char} (hc : c ∈ p.toList) :
    c ∈ path.toList ∧ c ≠ '/' := by
  have hchars : ∀ (cs : List Char), ∀ p ∈ cs.splitOn '/', ∀ c ∈ p, c ∈ cs ∧ c ≠ '/' := by
    intro cs
    induction cs with
    | nil => simp
    | cons d cs ih =>
      have hcons : ∀ p ∈ cs.splitOn '/', ∀ c ∈ p, c ∈ d :: cs ∧ c ≠ '/' :=
        fun p hp c hc => ⟨List.mem_cons_of_mem d (ih p hp c hc).1, (ih p hp c hc).2⟩
      rw [List.splitOn_cons_eq_if_modifyHead]
      obtain ⟨p, ps, hsplit⟩ := List.exists_cons_of_ne_nil (List.splitOn_ne_nil '/' cs)
      rw [hsplit, List.forall_mem_cons] at hcons
      by_cases hd : d = '/'
      · simpa [hd, hsplit] using hcons
      · simpa [hd, hsplit] using hcons
  rw [pieces_eq, List.mem_map] at h
  obtain ⟨cs, hcs, rfl⟩ := h
  exact hchars _ cs hcs c (by simpa using hc)

theorem not_mem_of_mem_pieces {path p : String} (h : p ∈ pieces path) : '/' ∉ p.toList :=
  fun hslash => (mem_of_mem_pieces h hslash).2 rfl

/-! ## Absolute paths -/

theorem pieces_of_isAbsolute {path : String} (h : isAbsolute path = true) :
    ∃ rest, path = "/" ++ rest ∧ pieces path = "" :: pieces rest := by
  have hhead : path.toList.head? = some '/' := by simpa [isAbsolute] using h
  obtain ⟨cs, hcs⟩ := List.head?_eq_some_iff.mp hhead
  obtain rfl : path = "" ++ "/" ++ String.ofList cs := by
    apply String.toList_injective
    simp [hcs]
  exact ⟨String.ofList cs, by simp, pieces_append_slash "" _⟩

theorem isAbsolute_eq_false_of_pieces {path p : String} {ps : List String}
    (h : pieces path = p :: ps) (hp : p ≠ "") : isAbsolute path = false := by
  refine Bool.eq_false_iff.mpr fun habsolute => ?_
  obtain ⟨rest, -, hpieces⟩ := pieces_of_isAbsolute habsolute
  rw [h] at hpieces
  exact hp (List.cons.inj hpieces).1

theorem isAbsolute_of_pieces {path : String} {ps : List String} (h : pieces path = "" :: ps)
    (hpath : path ≠ "") : isAbsolute path = true := by
  have hne : path.toList ≠ [] := by simpa using hpath
  obtain ⟨c, cs, hcs⟩ := List.exists_cons_of_ne_nil hne
  by_cases hc : c = '/'
  · simp [isAbsolute, hcs, hc]
  · -- The first piece would have this character in it.
    rw [pieces_eq, hcs, List.splitOn_cons_eq_if_modifyHead] at h
    obtain ⟨p, ps', hsplit⟩ := List.exists_cons_of_ne_nil (List.splitOn_ne_nil '/' cs)
    simp [hc, hsplit] at h

theorem isAbsolute_eq_false_of_not_mem {path : String} (h : '/' ∉ path.toList) :
    isAbsolute path = false := by
  refine Bool.eq_false_iff.mpr fun habsolute => ?_
  have hhead : path.toList.head? = some '/' := by simpa [isAbsolute] using habsolute
  exact h (List.mem_of_mem_head? hhead)

theorem ne_empty_of_isAbsolute {path : String} (h : isAbsolute path = true) : path ≠ "" := by
  rintro rfl
  cases h

theorem components_of_isAbsolute {path : String} (h : isAbsolute path = true) :
    components path = .root :: steps (pieces path) := by
  simp [components, start, h]

/-- What a path says of its first step. -/
theorem components_of_pieces {path p : String} {ps : List String} (h : pieces path = p :: ps)
    (hp : p ≠ "") :
    components path = (if p = "." then [.here] else []) ++ steps (pieces path) := by
  have habsolute := isAbsolute_eq_false_of_pieces h hp
  simp only [components, start, habsolute, h, List.head?_cons, Option.some.injEq,
    Bool.false_eq_true, if_false]

/-! ## Trimming -/

theorem dropIdleEnd_eq (ps : List String) : dropIdleEnd ps = ps.rdropWhile isIdle := rfl

/-- What trimming takes away from some pieces is idle, and what it leaves begins with a piece that
is not. -/
theorem exists_trim (ps : List String) :
    ∃ before after, ps = before ++ (dropIdleEnd (ps.dropWhile isIdle) ++ after) ∧
      (∀ p ∈ before ++ after, isIdle p = true) ∧
      ∀ p ∈ (dropIdleEnd (ps.dropWhile isIdle)).head?, isIdle p = false := by
  refine ⟨ps.takeWhile isIdle, (ps.dropWhile isIdle).rtakeWhile isIdle, ?_, ?_, fun p hp => ?_⟩
  · rw [dropIdleEnd_eq, List.rdropWhile_append_rtakeWhile, List.takeWhile_append_dropWhile]
  · rw [List.forall_mem_append]
    exact ⟨fun p hp => List.mem_takeWhile_imp hp, fun p hp => List.mem_rtakeWhile_imp hp⟩
  · have hhead : (ps.dropWhile isIdle).head? = some p := by
      obtain ⟨after, hafter⟩ := List.rdropWhile_prefix isIdle (l := ps.dropWhile isIdle)
      rw [← hafter, List.head?_append, ← dropIdleEnd_eq, Option.mem_def.mp hp]
      rfl
    have hnot := List.head?_dropWhile_not isIdle ps
    rw [hhead] at hnot
    simpa using hnot

section

variable {ps : List String}

/-- Trimming takes no step away. -/
theorem steps_pieces_trimmed (h : ∀ p ∈ ps, '/' ∉ p.toList) :
    steps (pieces (trimmed ps)) = steps ps := by
  obtain ⟨before, after, hps, hidle, -⟩ := exists_trim ps
  rw [List.forall_mem_append] at hidle
  have hsteps : steps ps = steps (dropIdleEnd (ps.dropWhile isIdle)) := by
    conv => lhs; rw [hps]
    rw [steps_append, steps_append, steps_eq_nil_of_isIdle hidle.1,
      steps_eq_nil_of_isIdle hidle.2, List.nil_append, List.append_nil]
  rw [hsteps, trimmed]
  by_cases hnil : dropIdleEnd (ps.dropWhile isIdle) = []
  · rw [hnil]
    rfl
  · refine congrArg steps (pieces_intercalate hnil fun p hp => h p ?_)
    rw [hps]
    simp [hp]

/-- A trimmed path stays below what it is joined to. -/
theorem isAbsolute_trimmed (h : ∀ p ∈ ps, '/' ∉ p.toList) : isAbsolute (trimmed ps) = false := by
  obtain ⟨before, after, hps, -, hhead⟩ := exists_trim ps
  rw [trimmed]
  cases htrim : dropIdleEnd (ps.dropWhile isIdle) with
  | nil => rfl
  | cons q qs =>
    rw [htrim] at hps hhead
    have hq : q ≠ "" := by
      rintro rfl
      cases hhead "" rfl
    refine isAbsolute_eq_false_of_pieces (pieces_intercalate (by simp) fun p hp => h p ?_) hq
    rw [hps]
    simp only [List.mem_append]
    exact .inr (.inl hp)

end

/-! ## Joining -/

section

variable {base path : String}

theorem join_of_isAbsolute (h : isAbsolute path = true) : join base path = path := by
  simp [join, h]

/-- Joining divides the pieces of both paths by one slash, be it that of the first path. -/
theorem pieces_join (hbase : base ≠ "") (h : isAbsolute path = false) :
    ∃ ps, (pieces base = ps ∨ pieces base = ps ++ [""]) ∧
      pieces (join base path) = ps ++ pieces path := by
  by_cases hlast : base.toList.getLast? = some '/'
  · obtain ⟨cs, hcs⟩ := List.getLast?_eq_some_iff.mp hlast
    obtain rfl : base = String.ofList cs ++ "/" ++ "" := by
      apply String.toList_injective
      simp [hcs]
    have hjoin : join (String.ofList cs ++ "/" ++ "") path = String.ofList cs ++ "/" ++ path := by
      simp [join, h]
    exact ⟨pieces (String.ofList cs), .inr (pieces_append_slash _ ""),
      hjoin ▸ pieces_append_slash _ path⟩
  · have hjoin : join base path = base ++ "/" ++ path := by
      simp [join, h, hbase, hlast]
    exact ⟨pieces base, .inl rfl, hjoin ▸ pieces_append_slash base path⟩

theorem prefix_join (h : isAbsolute path = false) :
    base.toList <+: (join base path).toList := by
  simp only [join, h, Bool.false_eq_true, if_false]
  split
  · simp
  · simp [String.toList_append]

theorem isAbsolute_join (hbase : isAbsolute base = true) :
    isAbsolute (join base path) = true := by
  cases h : isAbsolute path with
  | true => rwa [join_of_isAbsolute h]
  | false =>
    obtain ⟨cs, hcs⟩ : base.toList <+: (join base path).toList := prefix_join h
    have hhead : base.toList.head? = some '/' := by simpa [isAbsolute] using hbase
    simp [isAbsolute, ← hcs, hhead]

/-- The pieces of a path below an absolute one: first names that take the steps of that one. -/
theorem exists_pieces_join (hbase : isAbsolute base = true) (h : isAbsolute path = false) :
    ∃ names, names ⊆ pieces base ∧ components base = .root :: steps names ∧
      pieces (join base path) = "" :: (names ++ pieces path) := by
  obtain ⟨ps, hps, hjoin⟩ := pieces_join (ne_empty_of_isAbsolute hbase) h
  obtain ⟨inner, -, hinner⟩ := pieces_of_isAbsolute hbase
  rw [components_of_isAbsolute hbase, hinner, steps_cons_of_isIdle rfl]
  rcases hps with hps | hps
  · obtain rfl : ps = "" :: pieces inner := hps.symm.trans hinner
    exact ⟨pieces inner, List.subset_cons_self _ _, rfl, hjoin⟩
  · -- The base ends in a slash, behind which there is one more piece.
    obtain ⟨q, names, rfl⟩ : ∃ q names, ps = q :: names := by
      refine List.exists_cons_of_ne_nil fun hnil => ?_
      rw [hnil, hinner] at hps
      exact pieces_ne_nil inner (List.cons.inj hps).2
    rw [hinner, List.cons_append] at hps
    obtain ⟨rfl, hnames⟩ := List.cons.inj hps
    refine ⟨names, ?_, ?_, hjoin⟩
    · rw [hnames]
      exact List.Subset.trans (List.subset_append_left names [""]) (List.subset_cons_self _ _)
    · rw [hnames, steps_append]
      exact congrArg _ (List.append_nil _)

/-- The steps of a path below another are those of the one and then those of the other. -/
theorem components_join (hbase : isAbsolute base = true) (h : isAbsolute path = false) :
    components (join base path) = components base ++ steps (pieces path) := by
  obtain ⟨names, -, hcomponents, hpieces⟩ := exists_pieces_join hbase h
  rw [components_of_isAbsolute (isAbsolute_join hbase), hpieces, steps_cons_of_isIdle rfl,
    steps_append, hcomponents, List.cons_append]

end

end Path

/-! ## Directories -/

namespace Directory

/-- A directory can be written as a path, and read from it again. -/
def IsNamed (d : Directory) : Prop := ∀ name ∈ d, Path.IsName name

theorem isAbsolute_path (d : Directory) : Path.isAbsolute d.path = true := by
  simp [Path.isAbsolute, path]

theorem IsNamed.components_path {d : Directory} (h : d.IsNamed) :
    Path.components d.path = .root :: d.map .name := by
  have hpieces : Path.pieces d.path = "" :: Path.pieces ("/".intercalate d) :=
    Path.pieces_append_slash "" _
  rw [Path.components_of_isAbsolute d.isAbsolute_path, hpieces, Path.steps_cons_of_isIdle rfl]
  by_cases hd : d = []
  · subst hd
    rfl
  · rw [Path.pieces_intercalate hd fun name hname => (h name hname).2, Path.steps_map_name h]

/-- The directory so many steps up: all but the last names. It is the root if there are no more. -/
def ancestor (d : Directory) (k : Nat) : Directory := d.take (d.length - k)

@[simp] theorem ancestor_zero (d : Directory) : d.ancestor 0 = d := by
  simp [ancestor]

theorem ancestor_succ (d : Directory) (k : Nat) : d.ancestor (k + 1) = ancestor d.dropLast k := by
  rw [ancestor, ancestor, List.dropLast_eq_take, List.take_take, List.length_take]
  congr 1
  omega

theorem IsNamed.ancestor {d : Directory} (h : d.IsNamed) (k : Nat) : (d.ancestor k).IsNamed :=
  fun name hname => h name (List.mem_of_mem_take hname)

/-- Where a step leads from a directory. There is no way up from the root. -/
def enter (d : Directory) : Path.Component → Directory
  | .root => []
  | .here => d
  | .up => d.dropLast
  | .name text => d ++ [text]

theorem foldl_enter_names (d names : Directory) :
    (names.map Path.Component.name).foldl enter d = d ++ names := by
  induction names generalizing d with
  | nil => simp
  | cons name names ih => simp [enter, ih]

theorem foldl_enter_ups (d : Directory) (k : Nat) :
    (List.replicate k Path.Component.up).foldl enter d = d.ancestor k := by
  induction k generalizing d with
  | zero => simp
  | succ k ih => rw [List.replicate_succ, List.foldl_cons, ih, enter, ancestor_succ]

end Directory

namespace Path

/-- What a path leads to if every `..` undoes the name before it: the path made normal by its text
alone. -/
def destination (path : String) : Directory := (components path).foldl Directory.enter []

theorem destination_path {d : Directory} (h : d.IsNamed) : destination d.path = d := by
  rw [destination, h.components_path, List.foldl_cons, Directory.foldl_enter_names]
  rfl

/-- A path leads from where it is put, step by step. -/
theorem destination_join {base path : String} (hbase : isAbsolute base = true) :
    destination (join base path) = (components path).foldl Directory.enter (destination base) := by
  cases h : isAbsolute path with
  | true =>
    rw [join_of_isAbsolute h, destination, components_of_isAbsolute h]
    rfl
  | false =>
    have hstart : (start path).foldl Directory.enter (destination base) = destination base := by
      simp only [start, h, Bool.false_eq_true, if_false]
      split <;> rfl
    calc destination (join base path)
        = (steps (pieces path)).foldl Directory.enter (destination base) := by
          rw [destination, components_join hbase h, List.foldl_append, destination]
      _ = (components path).foldl Directory.enter (destination base) := by
          rw [components, List.foldl_append, hstart]

end Path

end StatementCheck
