import StatementCheck.Host.Tree
import StatementCheck.Proofs.Patterns
import StatementCheck.Proofs.Preparation
import StatementCheck.Proofs.Resolution

/-!
# Where a search looks

What a library finds for a pattern fits the pieces of the pattern. That is all that is asked of it
here, and the program's own library does so: it goes from a directory to what is inside it, name by
name, and never leaves.

The pieces of a pattern that have no wildcards fit themselves alone, so what a pattern finds lies
below all that it names before its first wildcard. The directory in front of a user's pattern is
read as part of it. Inputs lie below that directory if its own path holds no wildcards, and only
then can one be sure.

## Main definitions

* `Path.Continues` : a path goes on from some steps along names that fit.
* `Glob.Finds` : all that a search finds has a property.
* `Library.FindsFits` : what a library finds fits the pattern;
  `Library.findsFits_own` : it is so for the program's own, if no name in a directory holds a slash.
* `Host.expand_below` : the inputs of a source lie below the directory for which it stands.
-/
namespace StatementCheck

/-- No name in a directory holds a slash. -/
def Host.IsSlashless (host : Host Id) : Prop :=
  ∀ path names, host.names path = Except.ok names → ∀ name ∈ names, '/' ∉ name.toList

namespace Path

/-- An absolute path goes on from some steps along names that fit the texts of some pieces. -/
def Continues (start : List Component) (texts : List String) (path : String) : Prop :=
  isAbsolute path = true ∧
    ∃ names, Glob.Fits texts names ∧ components path = start ++ steps names

variable {texts texts' : List String} {dir name path : String}

theorem continues_self (h : isAbsolute path = true) : Continues (components path) [] path :=
  ⟨h, [], .nil, (List.append_nil _).symm⟩

/-- From a directory to a name in it, and on from there. -/
theorem Continues.cons (hdir : isAbsolute dir = true) (hname : '/' ∉ name.toList)
    (hfits : ∀ names, Glob.Fits texts' names → Glob.Fits texts (name :: names))
    (h : Continues (components (join dir name)) texts' path) :
    Continues (components dir) texts path := by
  obtain ⟨habsolute, names, hnames, hcomponents⟩ := h
  refine ⟨habsolute, name :: names, hfits names hnames, ?_⟩
  rw [hcomponents, components_join hdir (isAbsolute_eq_false_of_not_mem hname),
    pieces_of_not_mem hname, List.append_assoc, ← steps_append, List.singleton_append]

end Path

namespace Glob

/-! ## What a search finds -/

/-- All that a search finds has a property. It may fail instead. -/
def Finds (P : String → Prop) (x : Walk Id (List String)) : Prop :=
  ∀ found, x.run = Except.ok found → ∀ path ∈ found, P path

section

variable {P : String → Prop}

namespace Finds

theorem pure {found : List String} (h : ∀ path ∈ found, P path) : Finds P (Pure.pure found) := by
  intro found' hrun
  cases hrun
  exact h

theorem throw (e : Trouble) : Finds P (MonadExcept.throw e) := by
  intro found hrun
  cases hrun

theorem bind {α : Type} {x : Walk Id α} {f : α → Walk Id (List String)}
    (h : ∀ a, x.run = Except.ok a → Finds P (f a)) : Finds P (x >>= f) := by
  intro found hrun
  cases hx : x.run with
  | error e =>
    rw [run_bind_of_error hx] at hrun
    cases hrun
  | ok a =>
    rw [run_bind_of_ok hx] at hrun
    exact h a hx found hrun

theorem imp {Q : String → Prop} {x : Walk Id (List String)} (hx : Finds P x)
    (h : ∀ path, P path → Q path) : Finds Q x :=
  fun found hrun path hpath => h path (hx found hrun path hpath)

theorem append {x y : Walk Id (List String)} (hx : Finds P x) (hy : Finds P y) :
    Finds P (do return (← x) ++ (← y)) := by
  refine .bind fun found hfound => .bind fun more hmore => .pure fun path hpath => ?_
  rw [List.mem_append] at hpath
  exact hpath.elim (hx found hfound path) (hy more hmore path)

/-- Searches one after the other find what each of them finds. -/
theorem flatten {α : Type} {f : α → Walk Id (List String)} {as : List α}
    (h : ∀ a ∈ as, Finds P (f a)) {lists : List (List String)}
    (hrun : (as.mapM f).run = Except.ok lists) : ∀ path ∈ lists.flatten, P path := by
  intro path hpath
  cases herror : as.findSome? (fun a => error? (f a)) with
  | some e =>
    rw [run_mapM_of_findSome? herror] at hrun
    cases hrun
  | none =>
    obtain ⟨lists', hlists⟩ := exists_forall₂_of_findSome? herror
    rw [run_mapM_of_forall₂ hlists] at hrun
    cases hrun
    obtain ⟨a, ha, found, hfound, hmem⟩ := exists_of_mem_flatten hlists hpath
    exact h a ha found hfound path hmem

end Finds

end

theorem child_of_isAbsolute {path : String} (h : Path.isAbsolute path = true) (name : String) :
    child path name = Path.join path name := by
  obtain ⟨rest, -, hpieces⟩ := Path.pieces_of_isAbsolute h
  simp [child, isHere, hpieces]

/-- Going on with pieces from an absolute path finds what continues it along their texts. -/
def GoesOn (goOn : List Piece → String → Walk Id (List String)) : Prop :=
  ∀ {texts pieces path}, Path.isAbsolute path = true → ReadAs texts pieces →
    Finds (Path.Continues (Path.components path) texts) (goOn pieces path)

section

variable {host : Host Id} {needsDirectory : Bool}
  {goOn : List Piece → String → Walk Id (List String)} (hgoOn : GoesOn goOn)
include hgoOn

variable {texts : List String} {pieces : List Piece} {dir name path : String}

theorem finds_reach (hpath : Path.isAbsolute path = true) (hread : ReadAs texts pieces) :
    Finds (Path.Continues (Path.components path) texts)
      (reach host needsDirectory goOn pieces path) := by
  unfold reach
  split_ifs with hempty
  · cases hread with
    | cons => cases hempty
    | nil =>
      refine .bind fun directory _ => ?_
      split_ifs
      · exact .pure (by simp)
      · exact .pure (by simpa using Path.continues_self hpath)
  · exact hgoOn hpath hread

theorem finds_reachNamed (hdir : Path.isAbsolute dir = true) (hname : '/' ∉ name.toList)
    (hread : ReadAs texts pieces) :
    Finds (Path.Continues (Path.components dir) texts)
      (reachNamed host needsDirectory goOn pieces (Path.join dir name) name) := by
  unfold reachNamed
  cases hread with
  | nil => exact .pure (by simp)
  | cons hp hrest =>
    dsimp only
    split_ifs with haccepts
    · exact (finds_reach hgoOn (Path.isAbsolute_join hdir) hrest).imp fun found hfound =>
        hfound.cons hdir hname fun names hnames => hnames.of_accepts hp.1 haccepts
    · exact .pure (by simp)

theorem finds_visit {text : String} {p : Piece} (hdir : Path.isAbsolute dir = true)
    (hname : '/' ∉ name.toList) (hp : parse text = .ok p ∧ '/' ∉ text.toList)
    (hread : ReadAs texts pieces) :
    Finds (Path.Continues (Path.components dir) (text :: texts))
      (visit host needsDirectory goOn p pieces (Path.join dir name) name) := by
  have hjoin : Path.isAbsolute (Path.join dir name) = true := Path.isAbsolute_join hdir
  unfold visit
  split_ifs with hdeep
  · obtain rfl := Piece.eq_of_isDeep hp.1 hp.2 hdeep
    obtain ⟨texts', hread', hfits⟩ := exists_of_dropWhile hread
    -- The name is one of those for which `**` stands, and nothing is left behind it.
    have hhere : pieces.dropWhile Piece.isDeep = [] →
        Path.Continues (Path.components dir) ("**" :: texts) (Path.join dir name) := by
      intro hnil
      rw [hnil] at hread'
      cases hread'
      exact (Path.continues_self hjoin).cons hdir hname fun names hnames =>
        .deep [name] (hfits names hnames)
    -- The mark stands for no more names, and what is behind it begins with this one.
    have hnamed : Finds (Path.Continues (Path.components dir) ("**" :: texts))
        (reachNamed host needsDirectory goOn (pieces.dropWhile Piece.isDeep)
          (Path.join dir name) name) := by
      refine (finds_reachNamed hgoOn hdir hname hread').imp fun found hfound => ?_
      obtain ⟨habsolute, names, hnames, hcomponents⟩ := hfound
      exact ⟨habsolute, names, .deep [] (hfits names hnames), hcomponents⟩
    -- The mark stands for more names.
    have hdeeper : Finds (Path.Continues (Path.components dir) ("**" :: texts))
        (goOn (p :: pieces.dropWhile Piece.isDeep) (Path.join dir name)) := by
      refine (hgoOn hjoin (.cons hp hread')).imp fun found hfound => ?_
      refine hfound.cons hdir hname fun names hnames => ?_
      obtain ⟨inside, rest, rfl, hrest⟩ := hnames.exists_of_deep
      exact .deep (name :: inside) (hfits rest hrest)
    refine .bind fun inside _ => ?_
    cases inside with
    | true =>
      simp only [if_true]
      split_ifs with hempty
      · exact .append (.pure (by simpa using hhere (List.isEmpty_iff.mp hempty))) hdeeper
      · exact .append hnamed hdeeper
    | false =>
      simp only [Bool.false_eq_true, if_false]
      split_ifs
      · exact .append (.pure (by simp)) (.pure (by simp))
      · exact .append hnamed (.pure (by simp))
  · exact finds_reachNamed hgoOn hdir hname (.cons hp hread)

end

/-- The names for a directory itself and the one above it are accepted like any other, and hold no
slash. -/
theorem accepts_of_mem_dots {p : Piece} {name : String}
    (h : name ∈ if p.head? = some (.char '.') then ["..", "."].filter (accepts p) else []) :
    accepts p name = true ∧ '/' ∉ name.toList := by
  split at h
  · obtain ⟨hname, haccepts⟩ := List.mem_filter.mp h
    refine ⟨haccepts, ?_⟩
    have hdots : name = ".." ∨ name = "." := by simpa using hname
    rcases hdots with rfl | rfl <;> decide
  · cases h

section

variable {host : Host Id} {needsDirectory : Bool}

theorem not_mem_of_sortedNames (hhost : host.IsSlashless) {path : String} {names : List String}
    (h : (sortedNames host path).run = Except.ok names) : ∀ name ∈ names, '/' ∉ name.toList := by
  unfold sortedNames at h
  rw [run_lift_bind] at h
  cases hnames : host.names path with
  | error failure =>
    rw [hnames] at h
    cases h
  | ok unsorted =>
    rw [hnames] at h
    cases h
    intro name hname
    rw [List.mem_mergeSort] at hname
    exact hhost path unsorted hnames name hname

/-- Names that are in order stay as they are. -/
theorem run_sortedNames {path : String} {names : List String}
    (h : host.names path = Except.ok names)
    (hsorted : names.Pairwise fun a b => !decide (b < a)) :
    (sortedNames host path).run = Except.ok names := by
  unfold sortedNames
  rw [run_lift_bind, h]
  change Except.ok (names.mergeSort _) = _
  rw [List.mergeSort_of_pairwise hsorted]

/-- What is found below a directory continues it along the texts of the pieces. -/
theorem goesOn_below (hhost : host.IsSlashless) (depth : Nat) :
    GoesOn (below host needsDirectory depth) := by
  induction depth with
  | zero =>
    intro texts pieces path _ _
    unfold below
    exact .pure (by simp)
  | succ depth ih =>
    intro texts pieces path hpath hread
    unfold below
    cases hread with
    | nil => exact .pure (by simp)
    | @cons text p texts rest hp hrest =>
      dsimp only
      cases hliteral : p.literal? with
      | some name =>
        have hname : '/' ∉ name.toList := eq_of_literal? hp.1 hliteral ▸ hp.2
        have hthere : ∀ there : Bool, Finds (Path.Continues (Path.components path) (text :: texts))
            (if there then reach host needsDirectory (below host needsDirectory depth) rest
              (child path name) else pure []) := by
          intro there
          rw [child_of_isAbsolute hpath]
          split_ifs
          · exact (finds_reach ih (Path.isAbsolute_join hpath) hrest).imp fun found hfound =>
              hfound.cons hpath hname fun names hnames => hnames.of_literal? hp.1 hliteral
          · exact .pure (by simp)
        dsimp only
        split_ifs
        · exact .bind fun there _ => hthere there
        · exact .bind fun there _ => hthere there
      | none =>
        refine .bind fun directory _ => ?_
        cases directory with
        | false => exact .pure (by simp)
        | true =>
          refine .bind fun names hnames => .bind fun first hfirst => .bind fun later hlater => ?_
          have hdots : ∀ found ∈ first.flatten,
              Path.Continues (Path.components path) (text :: texts) found := by
            refine Finds.flatten (fun name hname => ?_) hfirst
            obtain ⟨haccepts, hslash⟩ := accepts_of_mem_dots hname
            exact (finds_reach ih (Path.isAbsolute_join hpath) hrest).imp fun found hfound =>
              hfound.cons hpath hslash fun names hnames => hnames.of_accepts hp.1 haccepts
          have hnamed : ∀ found ∈ later.flatten,
              Path.Continues (Path.components path) (text :: texts) found := by
            refine Finds.flatten (fun name hname => ?_) hlater
            rw [child_of_isAbsolute hpath]
            exact finds_visit ih hpath (not_mem_of_sortedNames hhost hnames name hname) hp hrest
          refine .pure fun found hmem => ?_
          rw [List.flatten_append, List.mem_append] at hmem
          exact hmem.elim (hdots found) (hnamed found)

end

/-- What a pattern from the root finds fits its pieces. -/
theorem finds_search {host : Host Id} (hhost : host.IsSlashless) {pattern : String}
    (hpattern : Path.isAbsolute pattern = true) :
    Finds (Path.Continues [.root] (Path.pieces pattern)) (search host pattern) := by
  unfold search
  split
  · exact .throw _
  · next start pieces hread =>
    have hread' : piecesOf pattern = .ok (start, pieces) := by
      cases hparse : parse pattern with
      | error e =>
        rw [hparse] at hread
        cases hread
      | ok atoms =>
        rw [hparse] at hread
        exact hread
    obtain ⟨rfl, texts, htexts, hfits⟩ := exists_texts_of_piecesOf hpattern hread'
    refine (goesOn_below hhost _ rfl htexts).imp fun found hfound => ?_
    obtain ⟨habsolute, names, hnames, hcomponents⟩ := hfound
    obtain ⟨names', hnames', hsteps⟩ := hfits names hnames
    exact ⟨habsolute, names', hnames', by rw [hsteps]; exact hcomponents⟩

/-- A piece with wildcards finds what is found under each name in a directory, name by name. -/
theorem run_below_of_names {host : Host Id} {needsDirectory : Bool} {depth : Nat} {p : Piece}
    {rest : List Piece} {path : String} {names : List String} (lists : List (List String))
    (hliteral : p.literal? = none) (hdot : p.head? ≠ some (.char '.'))
    (hdirectory : host.isDirectory path = true)
    (hnames : (sortedNames host path).run = Except.ok names)
    (hlists : List.Forall₂ (fun name found => (visit host needsDirectory
      (below host needsDirectory depth) p rest (child path name) name).run = Except.ok found)
      names lists) :
    (below host needsDirectory (depth + 1) (p :: rest) path).run = Except.ok lists.flatten := by
  unfold below
  rw [hliteral]
  dsimp only
  rw [run_lift_bind, hdirectory]
  change ExceptT.run (sortedNames host path >>= _) = _
  rw [run_bind_of_ok hnames, if_neg hdot]
  change ExceptT.run (List.mapM _ names >>= _) = _
  rw [run_bind_of_ok (run_mapM_of_forall₂ hlists)]
  rfl

end Glob

/-! ## File trees -/

namespace Tree

/-- A tree is inside another one: it is that tree, or inside one of its entries. -/
inductive Inside (t : Tree) : Tree → Prop
  | refl : Inside t t
  | entry {name : String} {child : Tree} {es : List (String × Tree)} (hchild : Inside t child)
      (hmem : (name, child) ∈ es) : Inside t (directory es)

variable {root t : Tree}

theorem Inside.of_entry {es : List (String × Tree)} {name : String}
    (h : Inside (directory es) root) (hmem : (name, t) ∈ es) : Inside t root := by
  induction h with
  | refl => exact .entry .refl hmem
  | entry _ hentry ih => exact .entry ih hentry

/-- What a path leads to is inside the tree. -/
theorem inside_of_follow {above : List Tree} {found : Tree} {ps : List String}
    (habove : ∀ up ∈ above, Inside up root) (ht : Inside t root)
    (h : follow above t ps = .ok found) : Inside found root := by
  fun_induction follow above t ps with
  | case1 => exact Except.ok.inj h ▸ ht
  | case3 _ _ _ _ _ ih => exact ih habove ht h
  | case4 _ _ _ ih => exact ih (by simp) ht h
  | case5 _ _ up above _ ih =>
    rw [List.forall_mem_cons] at habove
    exact ih habove.2 habove.1 h
  | case8 above name _ es _ _ _ child hchild ih =>
    obtain ⟨before, after, rfl, -⟩ := List.lookup_eq_some_iff.mp hchild
    have hmem : (name, child) ∈ before ++ (name, child) :: after := by simp
    exact ih (List.forall_mem_cons.mpr ⟨ht, habove⟩) (ht.of_entry hmem) h
  | _ => cases h

theorem inside_of_find {current : Directory} {path : String} {found : Tree}
    (h : root.find current path = .ok found) : Inside found root := by
  unfold find at h
  split_ifs at h
  · exact inside_of_follow (by simp) .refl h
  · exact inside_of_follow (by simp) .refl h

end Tree

/-- The directories of a file tree hold no slashes if none of its entries has one. -/
theorem Host.isSlashless_ofTree {root : Tree} {home : Option String} {current : Directory}
    {input : ByteArray}
    (h : ∀ es, Tree.Inside (.directory es) root → ∀ e ∈ es, '/' ∉ e.1.toList) :
    (Host.ofTree root home current input).IsSlashless := by
  intro path names hnames
  simp only [ofTree] at hnames
  split at hnames
  · cases hnames
  · cases hnames
  · next es hfind =>
    cases hnames
    intro name hname
    obtain ⟨e, he, rfl⟩ := List.mem_map.mp hname
    exact h es (Tree.inside_of_find hfind) e he

/-! ## The inputs of a source -/

/-- What a library finds on a host for a pattern from the root fits the pieces of the pattern. -/
def Library.FindsFits (lib : Library) (host : Host Id) : Prop :=
  ∀ pattern, Path.isAbsolute pattern = true →
    Glob.Finds (Path.Continues [.root] (Path.pieces pattern)) (lib.search host pattern)

theorem Library.findsFits_own {host : Host Id} (hhost : host.IsSlashless) :
    Library.own.FindsFits host :=
  fun _ hpattern => Glob.finds_search hhost hpattern

namespace Host

variable {lib : Library} {host : Host Id} {source base : String} {rest : List Path.Component}
  {inputs : List Input}

/-- A root with two directories. The name of the one, read as a pattern, is a class that holds the
name of the other. -/
def overlapping (home : String) : Host Id :=
  ofTree (.directory [("[ab]", .directory [("y.txt", .file .empty)]),
    ("a", .directory [("x.txt", .file .empty)])]) (some home) [] .empty

theorem isSlashless_overlapping (home : String) : (overlapping home).IsSlashless := by
  refine isSlashless_ofTree fun es hes => ?_
  cases hes with
  | refl => simp
  | entry hes hmem =>
    simp only [List.mem_cons, List.not_mem_nil, or_false, Prod.mk.injEq] at hmem
    obtain ⟨rfl, rfl⟩ | ⟨rfl, rfl⟩ := hmem
    all_goals
      cases hes with
      | refl => simp
      | entry hes hmem =>
        simp only [List.mem_cons, List.not_mem_nil, or_false, Prod.mk.injEq] at hmem
        obtain ⟨rfl, rfl⟩ := hmem
        cases hes

theorem run_below_overlapping (home : String) :
    (Glob.below (overlapping home) false 4097
      [[.many, .char '.', .char 't', .char 'x', .char 't']] "/a").run = Except.ok ["/a/x.txt"] := by
  have hnames : (Glob.sortedNames (overlapping home) "/a").run = Except.ok ["x.txt"] :=
    Glob.run_sortedNames rfl (by decide)
  exact Glob.run_below_of_names [["/a/x.txt"]] rfl (by decide) rfl hnames (.cons rfl .nil)

/-- The inputs of a source whose beginning stands for a directory lie below that directory, if its
path holds no wildcards and what the library finds fits the pattern. -/
theorem expand_below (hhome : ∀ h ∈ host.home, Path.isAbsolute h = true)
    (hfits : lib.FindsFits host) (hbase : Path.IsBase host.home host.current source base rest)
    (hplain : Glob.isPattern base = false) (h : (host.expand lib source).run = Except.ok inputs) :
    ∀ name path, .file name path ∈ inputs → Path.components base <+: Path.components path := by
  have habsolute := hbase.isAbsolute hhome
  obtain ⟨ps, hsuffix, -, hresolve⟩ := hbase.exists_resolve?
  have htrimmed : Path.isAbsolute (Path.trimmed ps) = false :=
    Path.isAbsolute_trimmed fun p hp => Path.not_mem_of_mem_pieces (hsuffix.mem hp)
  obtain ⟨names, hnames, hcomponents, hpieces⟩ := Path.exists_pieces_join habsolute htrimmed
  intro name path hinput
  obtain rfl | ⟨path', hpath', hinputs⟩ := cases_of_expand h
  · simp at hinput
  · obtain rfl := Option.some.inj (hresolve.symm.trans hpath')
    rcases hinputs with rfl | ⟨found, hsearch, -, rfl⟩
    · obtain ⟨-, rfl⟩ : name = source ∧ path = Path.join base (Path.trimmed ps) := by
        simpa using hinput
      rw [Path.components_join habsolute htrimmed]
      exact List.prefix_append _ _
    · obtain ⟨path', hmem, hfile⟩ := List.mem_map.mp hinput
      obtain ⟨-, names', hnames', hsteps⟩ :=
        hfits _ (Path.isAbsolute_join habsolute) found hsearch path' hmem
      -- The directory is written without wildcards, so its pieces fit themselves alone.
      have hwritten : ∀ text ∈ "" :: names, Glob.isPattern text = false := by
        rw [List.forall_mem_cons]
        exact ⟨by decide, fun text htext =>
          Path.isPattern_eq_false_of_mem_pieces hplain text (hnames htext)⟩
      rw [hpieces, ← List.cons_append] at hnames'
      obtain ⟨more, rfl⟩ := hnames'.exists_of_isPattern hwritten
      rw [← (Input.file.inj hfile).2, hsteps, hcomponents, Path.steps_append,
        Path.steps_cons_of_isIdle rfl]
      exact List.prefix_append (.root :: Path.steps names) (Path.steps more)

/-- A home directory without wildcards: what is found lies inside it. -/
theorem expand_below_overlapping :
    Glob.isPattern "/a" = false ∧
      ((overlapping "/a").expand .own "~/*.txt").run = Except.ok [.file "/a/x.txt" "/a/x.txt"] ∧
      Path.components "/a" <+: Path.components "/a/x.txt" := by
  have hhome : ∀ h ∈ (overlapping "/a").home, Path.isAbsolute h = true := by
    intro h hh
    cases hh
    decide
  have hbase : Path.IsBase (overlapping "/a").home (overlapping "/a").current "~/*.txt" "/a"
      [.name "*.txt"] := .home (by decide) rfl
  have hread : Glob.parse "/a/*.txt" *> Glob.piecesOf "/a/*.txt" =
      .ok ("/", [[.char 'a'], [.many, .char '.', .char 't', .char 'x', .char 't']]) := by
    decide +kernel
  have hsearch : (Library.own.search (overlapping "/a") "/a/*.txt").run =
      Except.ok ["/a/x.txt"] := by
    change (Glob.search _ _).run = _
    unfold Glob.search
    rw [hread]
    exact run_below_overlapping "/a"
  have hsearched : (overlapping "/a").IsSearched "~/*.txt" "/a/*.txt" :=
    ⟨by decide, by decide, by decide, rfl⟩
  have hexpand : ((overlapping "/a").expand .own "~/*.txt").run =
      Except.ok [.file "/a/x.txt" "/a/x.txt"] :=
    hsearched.run_expand_of_ok hsearch (by simp)
  have hfits : Library.own.FindsFits (overlapping "/a") :=
    Library.findsFits_own (isSlashless_overlapping "/a")
  exact ⟨by decide, hexpand, expand_below hhome hfits hbase (by decide) hexpand "/a/x.txt"
    "/a/x.txt" (by simp)⟩

/-- A home directory whose name is read as a class: what is found fits the pattern, but its own file
is missed, and one outside is found. -/
theorem expand_not_below_overlapping :
    (∀ h ∈ (overlapping "/[ab]").home, Path.isAbsolute h = true) ∧
      (overlapping "/[ab]").IsSlashless ∧
      Library.own.FindsFits (overlapping "/[ab]") ∧
      Path.IsBase (overlapping "/[ab]").home (overlapping "/[ab]").current "~/*.txt" "/[ab]"
        [.name "*.txt"] ∧
      Glob.isPattern "~/*.txt" = true ∧
      (overlapping "/[ab]").resolve "~/*.txt" = .ok "/[ab]/*.txt" ∧
      (overlapping "/[ab]").isFile "/[ab]/*.txt" = false ∧
      ((overlapping "/[ab]").expand .own "~/*.txt").run = Except.ok [.file "/a/x.txt" "/a/x.txt"] ∧
      ¬ Path.components "/[ab]" <+: Path.components "/a/x.txt" := by
  have hresolve : Path.resolve? (overlapping "/[ab]").home (overlapping "/[ab]").current
      "~/*.txt" = some "/[ab]/*.txt" := by
    decide
  have hread : Glob.parse "/[ab]/*.txt" *> Glob.piecesOf "/[ab]/*.txt" =
      .ok ("/", [[.among false [('a', 'a'), ('b', 'b')]],
        [.many, .char '.', .char 't', .char 'x', .char 't']]) := by
    decide +kernel
  have hnames : (Glob.sortedNames (overlapping "/[ab]") "/").run = Except.ok ["[ab]", "a"] :=
    Glob.run_sortedNames rfl (by decide)
  have hbelow : (Glob.below (overlapping "/[ab]") false 4098
      [[.among false [('a', 'a'), ('b', 'b')]],
        [.many, .char '.', .char 't', .char 'x', .char 't']] "/").run = Except.ok ["/a/x.txt"] := by
    refine Glob.run_below_of_names [[], ["/a/x.txt"]] rfl (by decide) rfl hnames
      (.cons rfl (.cons ?_ .nil))
    exact run_below_overlapping "/[ab]"
  have hsearch : (Library.own.search (overlapping "/[ab]") "/[ab]/*.txt").run =
      Except.ok ["/a/x.txt"] := by
    change (Glob.search _ _).run = _
    unfold Glob.search
    rw [hread]
    exact hbelow
  have hslashless := isSlashless_overlapping "/[ab]"
  have hsearched : (overlapping "/[ab]").IsSearched "~/*.txt" "/[ab]/*.txt" :=
    ⟨by decide, hresolve, by decide, rfl⟩
  refine ⟨?_, hslashless, Library.findsFits_own hslashless, .home (by decide) rfl, by decide, ?_,
    rfl, hsearched.run_expand_of_ok hsearch (by simp), by decide⟩
  · intro h hh
    cases hh
    decide
  · rw [resolve, hresolve]

end Host

end StatementCheck
