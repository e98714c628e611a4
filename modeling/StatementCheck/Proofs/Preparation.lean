import Mathlib.Data.List.Forall2
import Mathlib.Tactic.SplitIfs
import StatementCheck.Run

/-!
# What a run prepares

Before anything is checked, a run loads its config and works out the inputs that its sources stand
for. It gives up at the first thing that goes wrong. Otherwise it has at least one input: there is
always a source, and a source that stands for nothing is a fault.

All of this is stated on hosts that answer at once, without effects.

## Main definitions

* `Host.IsSearched` : a source is searched for as a pattern.
* `Host.cases_of_expand` : what a source stands for;
  `Host.cases_of_expand_error` : why it stands for nothing.
* `error?` : the error that a computation ends in.
* `firstFault?` : the fault that keeps a run from beginning.
* `prepare_of_firstFault?` : a run that has such a fault comes to no settings.
* `prepare_of_expands` : the settings of a run that has none.
* `run_of_prepare_eq_ok`, `run_of_prepare_eq_error` : the report on a run, by what it prepares.
-/
namespace StatementCheck

/-! ## Computations that may end in an error -/

section

variable {α β ε ε' : Type}

/-- The error that a computation ends in, if it does. -/
def error? (x : ExceptT ε Id α) : Option ε :=
  match x.run with
  | .error e => some e
  | .ok _ => none

theorem error?_eq_some_iff {x : ExceptT ε Id α} {e : ε} :
    error? x = some e ↔ x.run = Except.error e := by
  unfold error?
  cases x.run with
  | error e' =>
    exact ⟨fun h => congrArg _ (Option.some.inj h), fun h => congrArg _ (Except.error.inj h)⟩
  | ok a => simp

theorem eq_ok_of_toOption {x : Except ε α} {a : α} (h : x.toOption = some a) : x = .ok a := by
  cases x with
  | error e => cases h
  | ok a' => rw [Option.some.inj h]

theorem exists_error_of_toOption {x : Except ε α} (h : x.toOption = none) : ∃ e, x = .error e := by
  cases x with
  | error e => exact ⟨e, rfl⟩
  | ok a => cases h

theorem run_bind_of_ok {x : ExceptT ε Id α} {f : α → ExceptT ε Id β} {a : α}
    (h : x.run = Except.ok a) : (x >>= f).run = (f a).run := by
  rw [ExceptT.run_bind, h]
  rfl

theorem run_bind_of_error {x : ExceptT ε Id α} {f : α → ExceptT ε Id β} {e : ε}
    (h : x.run = Except.error e) : (x >>= f).run = Except.error e := by
  rw [ExceptT.run_bind, h]
  rfl

theorem run_ofExcept (x : Except ε α) :
    (MonadExcept.ofExcept x : ExceptT ε Id α).run = x := by
  cases x <;> rfl

theorem run_lift_bind {m : Type → Type} [Monad m] [LawfulMonad m] (x : m α)
    (f : α → ExceptT ε m β) :
    ((liftM x : ExceptT ε m α) >>= f).run = x >>= fun a => (f a).run := by
  rw [ExceptT.run_bind]
  change (Except.ok <$> x >>= _) = _
  rw [bind_map_left]

theorem run_adapt_of_ok {x : ExceptT ε Id α} {a : α} (g : ε → ε') (h : x.run = Except.ok a) :
    (ExceptT.adapt g x).run = Except.ok a := by
  change Except.mapError g x.run = Except.ok a
  rw [h]
  rfl

theorem run_adapt_of_error {x : ExceptT ε Id α} {e : ε} (g : ε → ε')
    (h : x.run = Except.error e) : (ExceptT.adapt g x).run = Except.error (g e) := by
  change Except.mapError g x.run = Except.error (g e)
  rw [h]
  rfl

variable {f : α → ExceptT ε Id β} {xs : List α}

theorem run_mapM_of_forall₂ {ys : List β}
    (h : List.Forall₂ (fun x y => (f x).run = Except.ok y) xs ys) :
    (xs.mapM f).run = Except.ok ys := by
  induction h with
  | nil => rfl
  | cons hx _ ih =>
    rw [List.mapM_cons, run_bind_of_ok hx, run_bind_of_ok ih]
    rfl

/-- The first error ends the whole. -/
theorem run_mapM_of_findSome? {e : ε} (h : xs.findSome? (fun x => error? (f x)) = some e) :
    (xs.mapM f).run = Except.error e := by
  induction xs with
  | nil => cases h
  | cons x xs ih =>
    rw [List.mapM_cons]
    cases hx : (f x).run with
    | error e' =>
      simp only [List.findSome?_cons, error?, hx] at h
      cases h
      exact run_bind_of_error hx
    | ok y =>
      simp only [List.findSome?_cons, error?, hx] at h
      rw [run_bind_of_ok hx]
      exact run_bind_of_error (ih h)

theorem exists_forall₂_of_findSome? (h : xs.findSome? (fun x => error? (f x)) = none) :
    ∃ ys, List.Forall₂ (fun x y => (f x).run = Except.ok y) xs ys := by
  induction xs with
  | nil => exact ⟨[], .nil⟩
  | cons x xs ih =>
    cases hx : (f x).run with
    | error e => simp [error?, hx] at h
    | ok y =>
      simp only [List.findSome?_cons, error?, hx] at h
      obtain ⟨ys, hys⟩ := ih h
      exact ⟨y :: ys, .cons hx hys⟩

theorem mapM_congr_of_mem {g : α → ExceptT ε Id β} (h : ∀ x ∈ xs, f x = g x) :
    xs.mapM f = xs.mapM g := by
  induction xs with
  | nil => rfl
  | cons x xs ih =>
    rw [List.forall_mem_cons] at h
    rw [List.mapM_cons, List.mapM_cons, h.1, ih h.2]

theorem exists_of_mem_flatten {R : α → List β → Prop} {lists : List (List β)}
    (h : List.Forall₂ R xs lists) {y : β} (hy : y ∈ lists.flatten) :
    ∃ x ∈ xs, ∃ ys, R x ys ∧ y ∈ ys := by
  induction h with
  | nil => cases hy
  | @cons x ys xs lists hx _ ih =>
    rw [List.flatten_cons, List.mem_append] at hy
    rcases hy with hy | hy
    · exact ⟨x, List.mem_cons_self, ys, hx, hy⟩
    · obtain ⟨x', hx', ys', hR, hmem⟩ := ih hy
      exact ⟨x', List.mem_cons_of_mem x hx', ys', hR, hmem⟩

end

variable {lib : Library} {host : Host Id}

/-! ## Sources -/

namespace Host

/-- A source is searched for as the pattern at a path: it holds wildcards, and no file has that
path. -/
structure IsSearched (host : Host Id) (source path : String) : Prop where
  ne_stdin : source ≠ Input.stdinName
  resolve : Path.resolve? host.home host.current source = some path
  isPattern : Glob.isPattern source = true
  isFile : host.isFile path = false

section

variable {source path : String} {inputs : List Input} {f : Fault}

namespace IsSearched

variable (h : host.IsSearched source path)
include h

theorem run_expand : (host.expand lib source).run =
    (do
      let found ← ExceptT.adapt (faultOfTrouble path) (lib.search host path)
      if found.isEmpty then throw (.noMatches source)
      return found.map fun path => Input.file path path : ExceptT Fault Id (List Input)).run := by
  have hresolve : host.resolve source = .ok path := by rw [Host.resolve, h.resolve]
  unfold expand
  rw [if_neg h.ne_stdin, run_bind_of_ok ((run_ofExcept _).trans hresolve), run_lift_bind, h.isFile]
  change (ite _ _ _ : ExceptT Fault Id (List Input)).run = _
  rw [h.isPattern, if_neg (by simp)]

theorem run_expand_of_error {e : Glob.Trouble}
    (hsearch : (lib.search host path).run = Except.error e) :
    (host.expand lib source).run = Except.error (faultOfTrouble path e) := by
  rw [h.run_expand]
  exact run_bind_of_error (run_adapt_of_error _ hsearch)

theorem run_expand_of_nil (hsearch : (lib.search host path).run = Except.ok []) :
    (host.expand lib source).run = Except.error (.noMatches source) := by
  rw [h.run_expand, run_bind_of_ok (run_adapt_of_ok _ hsearch)]
  rfl

theorem run_expand_of_ok {found : List String}
    (hsearch : (lib.search host path).run = Except.ok found) (hfound : found ≠ []) :
    (host.expand lib source).run = Except.ok (found.map fun path => .file path path) := by
  rw [h.run_expand, run_bind_of_ok (run_adapt_of_ok _ hsearch), if_neg (by simpa using hfound)]
  rfl

end IsSearched

theorem run_expand_of_resolve?_eq_none (hsource : source ≠ Input.stdinName)
    (hpath : Path.resolve? host.home host.current source = none) :
    (host.expand lib source).run = Except.error (.unresolved source) := by
  have hresolve : host.resolve source = .error (.unresolved source) := by rw [resolve, hpath]
  unfold expand
  rw [if_neg hsource]
  exact run_bind_of_error ((run_ofExcept _).trans hresolve)

/-- A source with a path that is not searched for is taken as it is. -/
theorem run_expand_of_not_isSearched (hsource : source ≠ Input.stdinName)
    (hpath : Path.resolve? host.home host.current source = some path)
    (h : ¬ host.IsSearched source path) :
    (host.expand lib source).run = Except.ok [.file source path] := by
  have hresolve : host.resolve source = .ok path := by rw [resolve, hpath]
  have htaken : (!Glob.isPattern source || host.isFile path) = true := by
    cases hpattern : Glob.isPattern source with
    | false => rfl
    | true =>
      cases hfile : host.isFile path with
      | true => rfl
      | false => exact absurd ⟨hsource, hpath, hpattern, hfile⟩ h
  unfold expand
  rw [if_neg hsource, run_bind_of_ok ((run_ofExcept _).trans hresolve), run_lift_bind]
  change (ite _ _ _ : ExceptT Fault Id (List Input)).run = _
  rw [if_pos htaken]
  rfl

/-- A source is standard input, or has no path, or is taken as it is, or is searched for. -/
theorem cases_of_source (host : Host Id) (source : String) :
    source = Input.stdinName ∨
      (source ≠ Input.stdinName ∧ Path.resolve? host.home host.current source = none) ∨
      ∃ path, Path.resolve? host.home host.current source = some path ∧
        ((source ≠ Input.stdinName ∧ ¬ host.IsSearched source path) ∨
          host.IsSearched source path) := by
  by_cases hsource : source = Input.stdinName
  · exact .inl hsource
  · cases hpath : Path.resolve? host.home host.current source with
    | none => exact .inr (.inl ⟨hsource, rfl⟩)
    | some path =>
      refine .inr (.inr ⟨path, rfl, ?_⟩)
      by_cases h : host.IsSearched source path
      · exact .inr h
      · exact .inl ⟨hsource, h⟩

/-- What a source stands for: standard input, the one path that it is made ready to, or what that
path finds as a pattern. -/
theorem cases_of_expand (h : (host.expand lib source).run = Except.ok inputs) :
    inputs = [.stdin] ∨ ∃ path, Path.resolve? host.home host.current source = some path ∧
      (inputs = [.file source path] ∨
        ∃ found, (lib.search host path).run = Except.ok found ∧ found ≠ [] ∧
          inputs = found.map fun path => .file path path) := by
  obtain rfl | ⟨hsource, hpath⟩ | ⟨path, hpath, ⟨hsource, htaken⟩ | hsearched⟩ :=
    cases_of_source host source
  · cases h
    exact .inl rfl
  · rw [run_expand_of_resolve?_eq_none hsource hpath] at h
    cases h
  · rw [run_expand_of_not_isSearched hsource hpath htaken] at h
    cases h
    exact .inr ⟨path, hpath, .inl rfl⟩
  · refine .inr ⟨path, hpath, .inr ?_⟩
    cases hsearch : (lib.search host path).run with
    | error e =>
      rw [hsearched.run_expand_of_error hsearch] at h
      cases h
    | ok found =>
      cases found with
      | nil =>
        rw [hsearched.run_expand_of_nil hsearch] at h
        cases h
      | cons first others =>
        rw [hsearched.run_expand_of_ok hsearch (List.cons_ne_nil _ _)] at h
        cases h
        exact ⟨_, rfl, List.cons_ne_nil _ _, rfl⟩

/-- Why a source stands for nothing: it has no path, or the search for its path fails or finds
nothing. -/
theorem cases_of_expand_error (h : (host.expand lib source).run = Except.error f) :
    (source ≠ Input.stdinName ∧ Path.resolve? host.home host.current source = none ∧
        f = .unresolved source) ∨
      ∃ path, host.IsSearched source path ∧
        ((∃ e, (lib.search host path).run = Except.error e ∧ f = faultOfTrouble path e) ∨
          ((lib.search host path).run = Except.ok [] ∧ f = .noMatches source)) := by
  obtain rfl | ⟨hsource, hpath⟩ | ⟨path, hpath, ⟨hsource, htaken⟩ | hsearched⟩ :=
    cases_of_source host source
  · cases h
  · rw [run_expand_of_resolve?_eq_none hsource hpath] at h
    cases h
    exact .inl ⟨hsource, hpath, rfl⟩
  · rw [run_expand_of_not_isSearched hsource hpath htaken] at h
    cases h
  · refine .inr ⟨path, hsearched, ?_⟩
    cases hsearch : (lib.search host path).run with
    | error e =>
      rw [hsearched.run_expand_of_error hsearch] at h
      cases h
      exact .inl ⟨e, rfl, rfl⟩
    | ok found =>
      cases found with
      | nil =>
        rw [hsearched.run_expand_of_nil hsearch] at h
        cases h
        exact .inr ⟨rfl, rfl⟩
      | cons first others =>
        rw [hsearched.run_expand_of_ok hsearch (List.cons_ne_nil _ _)] at h
        cases h

end

/-- A source that stands for anything stands for at least one input. -/
theorem ne_nil_of_expand {source : String} {inputs : List Input}
    (h : (host.expand lib source).run = Except.ok inputs) : inputs ≠ [] := by
  obtain rfl | ⟨path, -, rfl | ⟨found, -, hfound, rfl⟩⟩ := cases_of_expand h
  · simp
  · simp
  · simpa using hfound

/-- Sources that stand for something, if there are any, stand for at least one input. -/
theorem flatten_ne_nil_of_expand {sources : List String} {lists : List (List Input)}
    (hsources : sources ≠ [])
    (h : List.Forall₂ (fun source inputs => (host.expand lib source).run = Except.ok inputs)
      sources lists) : lists.flatten ≠ [] := by
  cases h with
  | nil => exact absurd rfl hsources
  | @cons source inputs sources lists hfirst =>
    have hne : inputs ≠ [] := ne_nil_of_expand hfirst
    simp [hne]

end Host

theorem Settings.sources_ne_nil (options : Options) (config : Config) :
    Settings.sources options config ≠ [] := by
  unfold Settings.sources
  split_ifs with hoptions hconfig
  · simpa using hoptions
  · simpa using hconfig
  · simp

/-! ## The settings of a run -/

theorem run_eq (lib : Library) (host : Host Id) (options : Options) :
    run lib host options =
      match (Settings.prepare lib host options).run with
      | .ok s => s.checkAll host
      | .error f => Report.fatal f := rfl

/-- The fault that keeps a run from beginning: that of its config, or else that of the first of its
sources that has one. -/
def firstFault? (lib : Library) (host : Host Id) (options : Options) : Option Fault :=
  match (Config.load lib host options.config).run with
  | .error f => some f
  | .ok config =>
    (Settings.sources options config).findSome? fun source => error? (host.expand lib source)

section

variable {options : Options} {config : Config} {lists : List (List Input)} {f : Fault}

theorem prepare_of_firstFault? (h : firstFault? lib host options = some f) :
    (Settings.prepare lib host options).run = Except.error f := by
  unfold Settings.prepare
  unfold firstFault? at h
  cases hload : (Config.load lib host options.config).run with
  | error f' =>
    rw [hload] at h
    cases h
    exact run_bind_of_error hload
  | ok config =>
    rw [hload] at h
    rw [run_bind_of_ok hload]
    exact run_bind_of_error (run_mapM_of_findSome? h)

/-- The settings of a run whose config can be loaded and whose sources stand for some inputs. -/
theorem prepare_of_expands (hload : (Config.load lib host options.config).run = Except.ok config)
    (hexpand : List.Forall₂ (fun source inputs => (host.expand lib source).run = Except.ok inputs)
      (Settings.sources options config) lists) :
    (Settings.prepare lib host options).run = Except.ok
      ⟨lists.flatten, options.verbose || config.verbose, Settings.flags options config⟩ := by
  unfold Settings.prepare
  rw [run_bind_of_ok hload]
  unfold Settings.resolve
  rw [run_bind_of_ok (run_mapM_of_forall₂ hexpand)]
  rfl

theorem exists_prepare_of_firstFault? (h : firstFault? lib host options = none) :
    ∃ s, (Settings.prepare lib host options).run = Except.ok s := by
  unfold firstFault? at h
  cases hload : (Config.load lib host options.config).run with
  | error f => simp [hload] at h
  | ok config =>
    rw [hload] at h
    obtain ⟨lists, hlists⟩ := exists_forall₂_of_findSome? h
    exact ⟨_, prepare_of_expands hload hlists⟩

/-- A run that begins checks the inputs. -/
theorem run_of_prepare_eq_ok {s : Settings}
    (h : (Settings.prepare lib host options).run = Except.ok s) :
    run lib host options = s.checkAll host := by
  rw [run_eq, h]

/-- A run that does not begin reports why. -/
theorem run_of_prepare_eq_error (h : (Settings.prepare lib host options).run = Except.error f) :
    run lib host options = Report.fatal f := by
  rw [run_eq, h]

end

end StatementCheck
