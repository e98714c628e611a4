import StatementCheck.Program
import StatementCheck.Proofs.Move

/-!
# The course of a check

A check goes from one stack of goals to the next, and each move on the way either takes a token or
stays where it is. `Course` lists the stacks that a check passes through, with the tokens it has
taken by then; it grows at its end, so a fact about all of them is proved by looking at one further
move. A check ends where no goal is left, or where a goal fails.

## Main definitions

* `Course gs r used hs s` : a check of the goals `gs` comes to the goals `hs`, with the reader at
  `s`, after taking the tokens `used`.
* `Course.exists_of_meet_ok`, `Course.exists_of_meet_error` : how a check ends.
* `Course.meet_eq` : what a check comes to is settled from any stack that it passes through.
-/
namespace StatementCheck

namespace Reader

@[simp] theorem tokens_consume (r : Reader) (named : Bool) (t : Token) :
    (r.consume named t).tokens = r.tokens := by
  unfold consume; split <;> simp

@[simp] theorem position_consume (r : Reader) (named : Bool) (t : Token) :
    (r.consume named t).position = r.position + 1 := by
  unfold consume; split <;> simp

@[simp] theorem verbose_consume (r : Reader) (named : Bool) (t : Token) :
    (r.consume named t).verbose = r.verbose := by
  unfold consume; split <;> simp

@[simp] theorem position_miss (r : Reader) (want : Option Token) :
    (r.miss want).position = r.position := by
  cases want <;> simp [miss]

theorem ahead_of_peek? {r : Reader} {t : Token} (h : r.peek? = some t) :
    r.ahead = t :: r.ahead.tail := by
  rw [← head?_ahead, List.head?_eq_some_iff] at h
  obtain ⟨u, hu⟩ := h
  simp [hu]

theorem ahead_consume (r : Reader) (named : Bool) (t : Token) :
    (r.consume named t).ahead = r.ahead.tail := by
  simp [ahead]

end Reader

open Goal Parse

/-- A check of the goals `gs` by the reader `r` comes to the goals `hs`, with the reader at `s`,
after taking the tokens `used`. -/
inductive Course (gs : List Goal) (r : Reader) : List Token → List Goal → Reader → Prop
  | start : Course gs r [] gs r
  | stay {used : List Token} {g : Goal} {rest more : List Goal} {s : Reader}
      (h : Course gs r used (g :: rest) s) (hm : g.move s.peek? = .stay more) :
      Course gs r used (more ++ rest) s
  | take {used : List Token} {g : Goal} {rest more : List Goal} {s : Reader} {t : Token}
      {named : Bool} (h : Course gs r used (g :: rest) s)
      (hm : g.move s.peek? = .take t named more) :
      Course gs r (used ++ [t]) (more ++ rest) (s.consume named t)

namespace Course

variable {gs hs ks : List Goal} {r s q : Reader} {used later : List Token}

theorem trans (h : Course gs r used hs s) (h' : Course hs s later ks q) :
    Course gs r (used ++ later) ks q := by
  induction h' with
  | start => simpa using h
  | stay _ hm ih => exact .stay ih hm
  | take _ hm ih => simpa using Course.take ih hm

/-- Goals further down the stack make no difference to the check of those above. -/
theorem append (h : Course gs r used hs s) (ks : List Goal) :
    Course (gs ++ ks) r used (hs ++ ks) s := by
  induction h with
  | start => exact .start
  | stay _ hm ih => simpa using Course.stay ih hm
  | take _ hm ih => simpa using Course.take ih hm

theorem of_step {g : Goal} {more : List Goal} (h : g.step r = .ok more s) (rest : List Goal) :
    ∃ used, Course (g :: rest) r used (more ++ rest) s := by
  rw [step_eq_perform] at h
  cases hm : g.move r.peek? with
  | stay more' =>
    rw [hm] at h
    cases h
    exact ⟨_, .stay .start hm⟩
  | take t named more' =>
    rw [hm] at h
    cases h
    exact ⟨_, .take .start hm⟩
  | _ => rw [hm] at h; cases h

/-! ## What a course keeps -/

theorem tokens_eq (h : Course gs r used hs s) : s.tokens = r.tokens := by
  induction h with
  | start => rfl
  | stay _ _ ih => exact ih
  | take _ _ ih => simpa using ih

theorem position_eq (h : Course gs r used hs s) : s.position = r.position + used.length := by
  induction h with
  | start => rfl
  | stay _ _ ih => exact ih
  | take _ _ ih => simp [ih, Nat.add_assoc]

theorem verbose_eq (h : Course gs r used hs s) : s.verbose = r.verbose := by
  induction h with
  | start => rfl
  | stay _ _ ih => exact ih
  | take _ _ ih => simpa using ih

theorem ahead_eq (h : Course gs r used hs s) : r.ahead = used ++ s.ahead := by
  induction h with
  | start => rfl
  | stay _ _ ih => exact ih
  | take _ hm ih =>
    have hahead := Reader.ahead_of_peek? (takes_of_move hm).1
    rw [ih, hahead, Reader.ahead_consume]
    simp

/-- At the end of the tokens, a check has taken all of them. -/
theorem ahead_eq_of_atEnd (h : Course gs r used hs s) (hpeek : s.peek? = none) :
    r.ahead = used := by
  have hnil : s.ahead = [] := by
    rw [← List.head?_eq_none_iff, Reader.head?_ahead, hpeek]
  rw [h.ahead_eq, hnil, List.append_nil]

/-- From the start of the tokens, a check has taken all those before its position. -/
theorem take_position (h : Course gs r used hs s) (hr : r.position = 0) :
    r.tokens.toList.take s.position = used := by
  have hahead := h.ahead_eq
  simp only [Reader.ahead, hr, List.drop_zero] at hahead
  rw [h.position_eq, hr, hahead]
  exact List.take_left' (by simp)

/-- A check that succeeds comes to no goals. -/
theorem exists_of_meet_ok (h : meet gs r = .ok () s) : ∃ used, Course gs r used [] s := by
  fun_induction meet gs r with
  | case1 r => cases h; exact ⟨_, .start⟩
  | case2 r g rest more r' hstep ih =>
    obtain ⟨used, hc⟩ := of_step hstep rest
    obtain ⟨later, hc'⟩ := ih h
    exact ⟨_, hc.trans hc'⟩
  | case3 r g rest v r' hstep => cases h

/-- A check that fails comes to a goal that fails. -/
theorem exists_of_meet_error {v : Violation} (h : meet gs r = .error v q) :
    ∃ used g rest s, Course gs r used (g :: rest) s ∧ (g.move s.peek?).perform s = .error v q := by
  fun_induction meet gs r with
  | case1 r => cases h
  | case2 r g rest more r' hstep ih =>
    obtain ⟨used, hc⟩ := of_step hstep rest
    obtain ⟨later, g', rest', s, hc', hfail⟩ := ih h
    exact ⟨_, g', rest', s, hc.trans hc', hfail⟩
  | case3 r g rest v' r' hstep =>
    cases h
    exact ⟨[], g, rest, r, .start, step_eq_perform g r ▸ hstep⟩

/-- What a check comes to is what it comes to from any stack that it passes through. -/
theorem meet_eq (h : Course gs r used hs s) : meet gs r = meet hs s := by
  induction h with
  | start => rfl
  | stay _ hm ih => rw [ih, meet_cons, step_eq_perform, hm]; rfl
  | take _ hm ih => rw [ih, meet_cons, step_eq_perform, hm]; rfl

theorem meet_eq_error {g : Goal} {rest : List Goal} {v : Violation}
    (h : Course gs r used (g :: rest) s) (hfail : (g.move s.peek?).perform s = .error v q) :
    meet gs r = .error v q := by
  rw [h.meet_eq, meet_cons, step_eq_perform, hfail]

end Course

end StatementCheck
