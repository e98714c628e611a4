import StatementCheck.Proofs.Preparation

/-!
# What a run opens

A host can be asked what a path leads to and what is in a directory without anything being opened.
What is opened is the config, and then the inputs one after the other. To say so, a host is given a
record of what is opened; it answers as it did before. For each part of the preparation there is one
lemma: it comes to the same end with the record as without, and opens these things. If a search for
a pattern opens nothing, all that the preparation opens is the config. That a search opens nothing
is a matter of the library; it is so for the program's own.

## Main definitions

* `Opening`, `Host.recorded` : what is opened, and the host that records it.
* `Opens`, `Ends` : what a computation opens and comes to.
* `Library.SearchOpensNothing` : searches with a library open nothing;
  `Library.searchOpensNothing_own` : those with the program's own library.
* `Config.openings` : what loading the config opens.
* `Settings.ends_prepare` : the preparation of a run opens nothing else.
-/
namespace StatementCheck

/-! ## Computations with a record -/

/-- What is opened to read its content. -/
inductive Opening
  | file (path : String)
  | input
  deriving DecidableEq

/-- The host with a record of what is opened, in order. It answers as it did. -/
def Host.recorded (host : Host Id) : Host (StateM (List Opening)) where
  home := host.home
  current := host.current
  kind? path := pure (host.kind? path)
  names path := pure (host.names path)
  read path := do
    modify (· ++ [.file path])
    return host.read path
  input := do
    modify (· ++ [.input])
    return host.input

/-- A computation with a record has the value of one without, and opens these things. -/
def Opens {α : Type} (opened : List Opening) (x : StateM (List Opening) α) (y : Id α) : Prop :=
  ∀ before, x.run before = (y, before ++ opened)

/-- A computation with a record that may end in an error ends as one without does, and opens these
things. -/
def Ends {ε α : Type} (opened : List Opening) (x : ExceptT ε (StateM (List Opening)) α)
    (y : ExceptT ε Id α) : Prop :=
  Opens opened x.run y.run

section

variable {α β ε ε' : Type} {opened more : List Opening}

theorem Opens.pure (a : α) : Opens [] (Pure.pure a) (Pure.pure a) := by
  intro before
  rw [List.append_nil]
  rfl

theorem Opens.bind {x : StateM (List Opening) α} {y : Id α} {f : α → StateM (List Opening) β}
    {g : α → Id β} (hx : Opens opened x y) (hf : Opens more (f y) (g y)) :
    Opens (opened ++ more) (x >>= f) (y >>= g) := by
  intro before
  rw [StateT.run_bind, hx before, ← List.append_assoc]
  exact hf _

namespace Ends

theorem pure (a : α) : Ends [] (Pure.pure a : ExceptT ε _ α) (Pure.pure a) := Opens.pure _

theorem throw (e : ε) : Ends [] (throw e : ExceptT ε _ α) (throw e) := Opens.pure _

theorem ofExcept (x : Except ε α) :
    Ends [] (MonadExcept.ofExcept x : ExceptT ε _ α) (MonadExcept.ofExcept x) := by
  cases x with
  | ok a => exact pure a
  | error e => exact throw e

theorem lift {x : StateM (List Opening) α} {y : Id α} (h : Opens opened x y) :
    Ends (ε := ε) opened (ExceptT.lift x) (ExceptT.lift y) := by
  intro before
  rw [ExceptT.run_lift, StateT.run_map, h before]
  rfl

variable {x : ExceptT ε (StateM (List Opening)) α} {y : ExceptT ε Id α}
  {f : α → ExceptT ε (StateM (List Opening)) β} {g : α → ExceptT ε Id β}

/-- After a computation that opens things, one that opens nothing. -/
theorem bind (hx : Ends opened x y) (hf : ∀ a, Ends [] (f a) (g a)) :
    Ends opened (x >>= f) (y >>= g) := by
  unfold Ends
  rw [ExceptT.run_bind, ExceptT.run_bind, ← List.append_nil opened]
  apply Opens.bind hx
  cases y.run with
  | ok a => exact hf a
  | error e => exact Opens.pure _

/-- After a computation that opens nothing, one that opens things, unless the first one fails. -/
theorem bind_each {each : α → List Opening} (hx : Ends [] x y)
    (hf : ∀ a, Ends (each a) (f a) (g a)) :
    Ends (match y.run with | .ok a => each a | .error _ => []) (x >>= f) (y >>= g) := by
  unfold Ends at hx ⊢
  rw [ExceptT.run_bind, ExceptT.run_bind]
  cases hy : y.run with
  | ok a =>
    rw [hy] at hx
    exact hx.bind (hf a)
  | error e =>
    rw [hy] at hx
    exact hx.bind (Opens.pure (Except.error e))

theorem adapt (h : ε → ε') (hx : Ends opened x y) :
    Ends opened (ExceptT.adapt h x) (ExceptT.adapt h y) := by
  intro before
  change (Except.mapError h <$> x.run).run before = _
  rw [StateT.run_map, hx before]
  rfl

theorem mapM (hf : ∀ a, Ends [] (f a) (g a)) (as : List α) : Ends [] (as.mapM f) (as.mapM g) := by
  induction as with
  | nil => exact pure []
  | cons a as ih =>
    rw [List.mapM_cons, List.mapM_cons]
    exact (hf a).bind fun b => ih.bind fun bs => pure (b :: bs)

end Ends

end

/-! ## Searches -/

namespace Host

variable (host : Host Id) (path : String)

theorem opens_isFile : Opens [] (host.recorded.isFile path) (host.isFile path) := Opens.pure _

theorem opens_isDirectory : Opens [] (host.recorded.isDirectory path) (host.isDirectory path) :=
  Opens.pure _

theorem opens_exists? : Opens [] (host.recorded.exists? path) (host.exists? path) := Opens.pure _

theorem opens_readText :
    Opens [.file path] (host.recorded.readText path) (host.readText path) := fun _ => rfl

end Host

namespace Glob

variable (host : Host Id) (needsDirectory : Bool)

theorem ends_sortedNames (path : String) :
    Ends [] (sortedNames host.recorded path) (sortedNames host path) := by
  unfold sortedNames
  refine Ends.bind (Ends.lift (Opens.pure (host.names path))) fun answer => ?_
  cases answer with
  | error failure => exact .throw _
  | ok names => exact .pure _

section

variable {goOn : List Piece → String → Walk (StateM (List Opening)) (List String)}
  {goOn' : List Piece → String → Walk Id (List String)}
  (hgoOn : ∀ pieces path, Ends [] (goOn pieces path) (goOn' pieces path))
include hgoOn

theorem ends_reach (rest : List Piece) (path : String) :
    Ends [] (reach host.recorded needsDirectory goOn rest path)
      (reach host needsDirectory goOn' rest path) := by
  unfold reach
  split_ifs
  · refine Ends.bind (Ends.lift (host.opens_isDirectory path)) fun directory => ?_
    split_ifs
    · exact .pure _
    · exact .pure _
  · exact hgoOn rest path

theorem ends_reachNamed (pieces : List Piece) (path name : String) :
    Ends [] (reachNamed host.recorded needsDirectory goOn pieces path name)
      (reachNamed host needsDirectory goOn' pieces path name) := by
  unfold reachNamed
  cases pieces with
  | nil => exact .pure _
  | cons p rest =>
    dsimp only
    split_ifs
    · exact ends_reach host needsDirectory hgoOn rest path
    · exact .pure _

theorem ends_visit (p : Piece) (rest : List Piece) (path name : String) :
    Ends [] (visit host.recorded needsDirectory goOn p rest path name)
      (visit host needsDirectory goOn' p rest path name) := by
  unfold visit
  split_ifs
  · refine Ends.bind (Ends.lift (host.opens_isDirectory path)) fun inside => ?_
    cases inside with
    | true =>
      simp only [if_true]
      split_ifs
      · exact .bind (.pure _) fun here => .bind (hgoOn _ _) fun deeper => .pure _
      · exact .bind (ends_reachNamed host needsDirectory hgoOn _ path name) fun here =>
          .bind (hgoOn _ _) fun deeper => .pure _
    | false =>
      simp only [Bool.false_eq_true, if_false]
      split_ifs
      · exact .bind (.pure _) fun here => .bind (.pure _) fun deeper => .pure _
      · exact .bind (ends_reachNamed host needsDirectory hgoOn _ path name) fun here =>
          .bind (.pure _) fun deeper => .pure _
  · exact ends_reachNamed host needsDirectory hgoOn _ path name

end

theorem ends_below (depth : Nat) (pieces : List Piece) (path : String) :
    Ends [] (below host.recorded needsDirectory depth pieces path)
      (below host needsDirectory depth pieces path) := by
  induction depth generalizing pieces path with
  | zero =>
    unfold below
    exact .pure _
  | succ depth ih =>
    cases pieces with
    | nil =>
      unfold below
      exact .pure _
    | cons p rest =>
      unfold below
      dsimp only
      cases p.literal? with
      | some name =>
        dsimp only
        have hthere : ∀ there : Bool,
            Ends [] (if there then reach host.recorded needsDirectory
                (below host.recorded needsDirectory depth) rest (child path name) else pure [])
              (if there then reach host needsDirectory
                (below host needsDirectory depth) rest (child path name) else pure []) := by
          intro there
          split_ifs
          · exact ends_reach host needsDirectory ih rest _
          · exact .pure _
        split_ifs
        · exact .bind (.lift (host.opens_isDirectory path)) hthere
        · exact .bind (.lift (host.opens_exists? _)) hthere
      | none =>
        refine .bind (.lift (host.opens_isDirectory path)) fun directory => ?_
        cases directory with
        | false => exact .pure _
        | true =>
          refine .bind (ends_sortedNames host path) fun names => ?_
          refine .bind (.mapM (fun name => ?_) _) fun first => ?_
          · exact ends_reach host needsDirectory ih rest _
          · refine .bind (.mapM (fun name => ?_) _) fun later => .pure _
            exact ends_visit host needsDirectory ih p rest _ name

theorem ends_search (pattern : String) :
    Ends [] (search host.recorded pattern) (search host pattern) := by
  unfold search
  cases parse pattern *> piecesOf pattern with
  | error e => exact .throw _
  | ok found => exact ends_below host _ _ _ _

end Glob

/-- A search on a host opens nothing, and finds with a record what it finds without. -/
def Library.SearchOpensNothing (lib : Library) (host : Host Id) : Prop :=
  ∀ pattern, Ends [] (lib.search host.recorded pattern) (lib.search host pattern)

theorem Library.searchOpensNothing_own (host : Host Id) : Library.own.SearchOpensNothing host :=
  Glob.ends_search host

/-! ## Sources and the config -/

section

variable {lib : Library} {host : Host Id}

theorem Host.ends_expand (hsearch : lib.SearchOpensNothing host) (source : String) :
    Ends [] (host.recorded.expand lib source) (host.expand lib source) := by
  unfold expand
  split_ifs
  · exact .pure _
  · refine .bind (.ofExcept _) fun path => ?_
    refine .bind (.lift (host.opens_isFile path)) fun isFile => ?_
    split_ifs
    · exact .pure _
    · refine .bind (.adapt _ (hsearch path)) fun found => ?_
      dsimp only
      split_ifs
      · exact .throw _
      · exact .pure _

end

namespace Config

variable (lib : Library)

/-- The config that the content of a file makes. It may be missing unless it is required. -/
def answer (required : Bool) (path : String) (content : Except ReadFailure String) :
    Except Fault Config :=
  match content with
  | .ok document => ofToml lib.toml path document
  | .error .missing => if required then .error (.configNotFound path) else .ok default
  | .error failure => .error (.unreadable path failure)

/-- The config in a file. -/
def read {m : Type → Type} [Monad m] (host : Host m) (required : Bool) (path : String) :
    ExceptT Fault m Config := do
  let content ← host.readText path
  MonadExcept.ofExcept (answer lib required path content)

/-- Loading the config reads one file, and the rest is decided by its content. -/
theorem load_eq {m : Type → Type} [Monad m] (host : Host m) (named : Option String) :
    load lib host named = (do
      let path ← named.elim (pure defaultPath) fun path => MonadExcept.ofExcept (host.resolve path)
      read lib host named.isSome path) := by
  -- The two cases differ in the path, and in whether the file is required.
  cases named
  all_goals
    refine bind_congr fun path => bind_congr fun content => ?_
    cases content with
    | ok document => rfl
    | error failure => cases failure <;> rfl

/-- The path of the config that a run uses, if it can be worked out. -/
def path? (host : Host Id) (named : Option String) : Option String :=
  match named with
  | none => some defaultPath
  | some name => Path.resolve? host.home host.current name

/-- What loading the config opens: the file at its path. -/
def openings (host : Host Id) (named : Option String) : List Opening :=
  (path? host named).toList.map Opening.file

theorem ends_load (host : Host Id) (named : Option String) :
    Ends (openings host named) (load lib host.recorded named) (load lib host named) := by
  have hread : ∀ path : String, Ends [.file path] (read lib host.recorded named.isSome path)
      (read lib host named.isSome path) :=
    fun path => .bind (.lift (host.opens_readText path)) fun content => .ofExcept _
  rw [load_eq, load_eq]
  cases named with
  | none => exact .bind_each (.pure _) hread
  | some name =>
    have hresolve : host.recorded.resolve name = host.resolve name := rfl
    have hload := Ends.bind_each (.ofExcept (host.resolve name)) hread
    dsimp only [Option.elim]
    rw [hresolve]
    unfold openings path? Host.resolve at *
    dsimp only at hload ⊢
    cases hpath : Path.resolve? host.home host.current name with
    | some path =>
      rw [hpath] at hload
      exact hload
    | none =>
      rw [hpath] at hload
      exact hload

end Config

/-! ## Runs -/

section

variable {lib : Library} {host : Host Id} (hsearch : lib.SearchOpensNothing host)
  (options : Options)
include hsearch

theorem Settings.ends_resolve (config : Config) :
    Ends [] (resolve lib host.recorded options config) (resolve lib host options config) := by
  unfold resolve
  exact .bind (.mapM (Host.ends_expand hsearch) _) fun inputs => .pure _

/-- Working out the settings opens the config and nothing else. -/
theorem Settings.ends_prepare :
    Ends (Config.openings host options.config) (prepare lib host.recorded options)
      (prepare lib host options) := by
  unfold prepare
  exact .bind (Config.ends_load lib host options.config) (ends_resolve hsearch options)

variable {options}

/-- A run that does not begin has opened the config and nothing else. -/
theorem opens_run_of_firstFault? {f : Fault} (h : firstFault? lib host options = some f) :
    Opens (Config.openings host options.config) (run lib host.recorded options)
      (run lib host options) := by
  have hprepare := Settings.ends_prepare hsearch options
  unfold Ends at hprepare
  rw [prepare_of_firstFault? h] at hprepare
  unfold run
  rw [prepare_of_firstFault? h, ← List.append_nil (Config.openings host options.config)]
  exact Opens.bind hprepare (Opens.pure (Report.fatal f))

end

end StatementCheck
