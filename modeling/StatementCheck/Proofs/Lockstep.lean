import StatementCheck.Proofs.Course

/-!
# Changes that moves do not notice

A reader can be changed in ways that no move notices: its trace can be dropped, or its tokens can be
put behind others that were read before. It is enough that the token ahead stays the same, and that
the change goes along with the two things that a move does to a reader, recording a demand and
stepping over a token. A check by the changed reader then comes to what the check comes to, and the
reader that it leaves is changed in the same way.

## Main definitions

* `Parse.readerOf`, `Parse.replyOf` : the two sides of a result.
* `Parse.onReader` : a result with its reader changed.
* `Unnoticed` : a change that moves do not notice; `Unnoticed.meet_eq` : nor do checks.
* `Reader.silenced` : the reader without a trace; `meet_silenced`.
* `Reader.resumed` : the reader after another has read on from where it stands; `meet_eq_resumed`.
-/
namespace StatementCheck

open Goal Parse

/-- The reader that a result leaves. -/
def Parse.readerOf {α : Type} : EStateM.Result Violation Reader α → Reader
  | .ok _ r => r
  | .error _ r => r

/-- A result without the reader that it leaves. -/
def Parse.replyOf {α : Type} : EStateM.Result Violation Reader α → Except Violation α
  | .ok a _ => .ok a
  | .error v _ => .error v

/-- A result with the reader that it leaves changed. -/
def Parse.onReader {α : Type} (f : Reader → Reader) :
    EStateM.Result Violation Reader α → EStateM.Result Violation Reader α
  | .ok a r => .ok a (f r)
  | .error v r => .error v (f r)

theorem Parse.replyOf_eq_error_iff {α : Type} {result : EStateM.Result Violation Reader α}
    {v : Violation} : replyOf result = .error v ↔ ∃ r, result = .error v r := by
  cases result <;> simp [replyOf]

@[simp] theorem Parse.replyOf_onReader {α : Type} (f : Reader → Reader)
    (result : EStateM.Result Violation Reader α) :
    replyOf (onReader f result) = replyOf result := by
  cases result <;> rfl

@[simp] theorem Parse.readerOf_onReader {α : Type} (f : Reader → Reader)
    (result : EStateM.Result Violation Reader α) :
    readerOf (onReader f result) = f (readerOf result) := by
  cases result <;> rfl

/-- Moves do not notice the change `f` of readers of some kind: it keeps the token ahead, and goes
along with what a move does to a reader. What a move leaves is of that kind again. -/
structure Unnoticed (P : Reader → Prop) (f : Reader → Reader) : Prop where
  peek? : ∀ ⦃r⦄, P r → (f r).peek? = r.peek?
  demand : ∀ ⦃r⦄, P r → ∀ want found,
    f (r.note (.demanded want found)) = (f r).note (.demanded want found)
  skip : ∀ ⦃r⦄, P r → ∀ t, f (r.skip t) = (f r).skip t
  kind_demand : ∀ ⦃r⦄, P r → ∀ want found, P (r.note (.demanded want found))
  kind_skip : ∀ ⦃r⦄, P r → ∀ t, P (r.skip t)

namespace Unnoticed

variable {P : Reader → Prop} {f : Reader → Reader} {r s : Reader}

theorem consume (h : Unnoticed P f) (hr : P r) (named : Bool) (t : Token) :
    f (r.consume named t) = (f r).consume named t := by
  cases named with
  | false => exact h.skip hr t
  | true =>
    have hskip := h.skip (h.kind_demand hr t (some t)) t
    rwa [h.demand hr] at hskip

theorem kind_consume (h : Unnoticed P f) (hr : P r) (named : Bool) (t : Token) :
    P (r.consume named t) := by
  cases named with
  | false => exact h.kind_skip hr t
  | true => exact h.kind_skip (h.kind_demand hr t (some t)) t

theorem miss (h : Unnoticed P f) (hr : P r) (want : Option Token) :
    f (r.miss want) = (f r).miss want := by
  cases want with
  | none => rfl
  | some want =>
    simp only [Reader.miss, h.peek? hr]
    exact h.demand hr want _

theorem perform (h : Unnoticed P f) (hr : P r) (m : Move) :
    m.perform (f r) = onReader f (m.perform r) := by
  cases m with
  | stay more => rfl
  | take t named more => rw [Move.perform, ← h.consume hr]; rfl
  | refuse want v => rw [Move.perform, ← h.miss hr]; rfl
  | spoil t v => rw [Move.perform, ← h.skip hr]; rfl

theorem kind_perform (h : Unnoticed P f) (hr : P r) {m : Move} {more : List Goal}
    (hm : m.perform r = .ok more s) : P s := by
  cases m with
  | stay more => cases hm; exact hr
  | take t named more => cases hm; exact h.kind_consume hr named t
  | refuse want v => cases hm
  | spoil t v => cases hm

/-- A check by the changed reader comes to what the check comes to. -/
theorem meet_eq (h : Unnoticed P f) (hr : P r) (gs : List Goal) :
    meet gs (f r) = onReader f (meet gs r) := by
  have hstep : ∀ (g : Goal) {r : Reader}, P r → g.step (f r) = onReader f (g.step r) := by
    intro g r hr
    rw [step_eq_perform, step_eq_perform, h.peek? hr, h.perform hr]
  fun_induction meet gs r with
  | case1 r => rw [meet_nil]; rfl
  | case2 r g rest more r' hg ih =>
    have hr' : P r' := h.kind_perform hr (step_eq_perform g r ▸ hg)
    rw [meet_cons, hstep g hr, hg]
    exact ih hr'
  | case3 r g rest v r' hg =>
    rw [meet_cons, hstep g hr, hg]
    rfl

/-- The changed reader steps over the same token. -/
theorem advance_eq (h : Unnoticed P f) (hr : P r) : advance (f r) = onReader f (advance r) := by
  have hpeek := h.peek? hr
  cases hp : r.peek? with
  | none =>
    rw [advance_of_end hp, advance_of_end (hpeek.trans hp)]
    rfl
  | some t =>
    rw [advance_of_peek? hp, advance_of_peek? (hpeek.trans hp), ← h.skip hr]
    rfl

/-- The changed reader meets a demand, or misses it, as the reader does. -/
theorem expect_eq (h : Unnoticed P f) (hr : P r) (want : Token) :
    expect want (f r) = onReader f (expect want r) := by
  simp only [expect, h.peek? hr, ← h.demand hr]
  cases hp : r.peek? with
  | none => rfl
  | some t =>
    by_cases ht : t = want
    · simp only [ht, if_true, ← h.skip (h.kind_demand hr want (some want))]
      rfl
    · simp only [ht, if_false]
      rfl

end Unnoticed

/-! ## Without a trace -/

namespace Reader

/-- The reader without a trace. -/
def silenced (r : Reader) : Reader := { r with verbose := false, trace := #[] }

theorem silenced_ofTokens (tokens : List Token) (verbose : Bool) :
    (ofTokens tokens verbose).silenced = ofTokens tokens false := rfl

theorem silenced_note (r : Reader) (e : Event) : (r.note e).silenced = r.silenced := by
  unfold note
  split <;> rfl

theorem silenced_skip (r : Reader) (t : Token) : (r.skip t).silenced = r.silenced.skip t := by
  cases hv : r.verbose <;> simp [skip, note, silenced, hv]

end Reader

theorem unnoticed_silenced : Unnoticed (fun _ => True) Reader.silenced where
  peek? _ _ := rfl
  demand r _ want found := r.silenced_note (.demanded want found)
  skip r _ t := r.silenced_skip t
  kind_demand _ _ _ _ := trivial
  kind_skip _ _ _ := trivial

/-- A check comes to the same with a trace as without. -/
theorem meet_silenced (gs : List Goal) (r : Reader) :
    meet gs r.silenced = onReader Reader.silenced (meet gs r) :=
  unnoticed_silenced.meet_eq trivial gs

/-! ## From where another reader stands -/

namespace Reader

/-- The reader after another one, `s`, has read on from where it stands. That one began at the first
token ahead, so its positions are counted from there. -/
def resumed (r s : Reader) : Reader :=
  { r with
    position := r.position + s.position
    trace := r.trace ++ s.trace.map (Event.shift r.position) }

/-- The reader `s` reads what is ahead of the reader `r`, and both or neither are verbose. -/
def Continues (r s : Reader) : Prop := s.tokens = r.ahead.toArray ∧ s.verbose = r.verbose

theorem continues_ofTokens (r : Reader) : r.Continues (ofTokens r.ahead r.verbose) := ⟨rfl, rfl⟩

theorem resumed_ofTokens (r : Reader) : r.resumed (ofTokens r.ahead r.verbose) = r := by
  simp [resumed, ofTokens]

variable {r s : Reader}

theorem peek?_resumed (h : r.Continues s) : (r.resumed s).peek? = s.peek? := by
  simp [peek?, resumed, h.1, ahead]

theorem Continues.note (h : r.Continues s) (e : Event) : r.Continues (s.note e) := by
  simpa [Continues] using h

theorem Continues.skip (h : r.Continues s) (t : Token) : r.Continues (s.skip t) := by
  simpa [Continues] using h

theorem resumed_note (h : r.Continues s) (e : Event) :
    r.resumed (s.note e) = (r.resumed s).note (e.shift r.position) := by
  have hverbose := h.2
  cases hv : s.verbose <;> simp_all [note, resumed]

theorem resumed_skip (h : r.Continues s) (t : Token) :
    r.resumed (s.skip t) = (r.resumed s).skip t := by
  have hnote := resumed_note h (.consumed t s.position)
  rw [skip, skip]
  simp only [resumed, Event.shift] at hnote ⊢
  rw [← hnote]
  simp [Nat.add_assoc]

end Reader

theorem unnoticed_resumed (r : Reader) : Unnoticed r.Continues r.resumed where
  peek? _ h := Reader.peek?_resumed h
  demand _ h _ _ := Reader.resumed_note h _
  skip _ h t := Reader.resumed_skip h t
  kind_demand _ h _ _ := h.note _
  kind_skip _ h t := h.skip t

/-- A check from where a reader stands is the check of the tokens ahead by a reader of its own. -/
theorem meet_eq_resumed (gs : List Goal) (r : Reader) :
    meet gs r = onReader r.resumed (meet gs (.ofTokens r.ahead r.verbose)) := by
  have h := (unnoticed_resumed r).meet_eq r.continues_ofTokens gs
  rwa [r.resumed_ofTokens] at h

end StatementCheck
