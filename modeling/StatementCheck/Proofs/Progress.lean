import StatementCheck.Proofs.Expressions

/-!
# Progress

How far the rules of the grammar get. A statement takes three tokens at least and ends in `;` or a
closing brace; an expression and its parts take one at least and end in an operand. This is read off
the grammar, since a rule that succeeds has taken a phrase.

Three goals are loops: they go round as long as the token ahead tells them to, and a round is
another rule. So what a round takes bounds their number. And no rule comes to itself again at the
same place, since all that a rule can come to without a token are the parts of an expression.

## Main definitions

* `Reader.Consumed` : at least so many tokens were consumed, the last of a certain form.
* `Repetition`, `Repetition.round`, `Repetition.Rounds` : the loops, one round, and some of them.
* `Repetition.exists_rounds` : what meets the goal of a loop is a number of rounds.
* `rules_progress` : how far every rule and every loop gets.
-/
namespace StatementCheck

open Goal Parse

namespace Token

/-- The marks in which a statement ends. -/
def endsStatement (t : Token) : Bool := t == ";" || t == Token.closeBrace

/-- The tokens in which an expression ends, and each part of it. -/
def endsOperand (t : Token) : Bool := t.isIdentifier || t.isNumber || t == ")"

end Token

/-! ## Phrases -/

/-- The tokens end in one that passes the test. -/
def EndsIn (test : Token → Bool) (w : List Token) : Prop := ∃ u t, w = u ++ [t] ∧ test t = true

namespace EndsIn

variable {test : Token → Bool} {v w : List Token} {t : Token}

theorem singleton (h : test t = true) : EndsIn test [t] := ⟨[], t, rfl, h⟩

theorem append (h : EndsIn test w) (v : List Token) : EndsIn test (v ++ w) := by
  obtain ⟨u, t, rfl, ht⟩ := h
  exact ⟨v ++ u, t, by simp, ht⟩

theorem cons (h : EndsIn test w) (t : Token) : EndsIn test (t :: w) := h.append [t]

theorem length_pos (h : EndsIn test w) : 0 < w.length := by
  obtain ⟨u, t, rfl, -⟩ := h
  simp

theorem append_groups {gs : List (Token × List Token)} (h : EndsIn test v)
    (hgs : ∀ g ∈ gs, EndsIn test g.2) : EndsIn test (v ++ Phrase.groups gs) := by
  induction gs generalizing v with
  | nil => simpa using h
  | cons g gs ih =>
    obtain ⟨hg, hgs⟩ := List.forall_mem_cons.mp hgs
    have hfirst : EndsIn test (v ++ g.1 :: g.2) := (hg.cons g.1).append v
    simpa [Phrase.groups] using ih hfirst hgs

end EndsIn

namespace Phrase

/-- The tokens in which a phrase ends, if it has any. -/
def closes : Phrase → Token → Bool
  | expression | sum | term | factor => Token.endsOperand
  | _ => Token.endsStatement

/-- Every phrase but an empty program ends in a token of its kind. -/
theorem Derives.endsIn {p : Phrase} {w : List Token} (h : p.Derives w) (hp : p ≠ .program) :
    EndsIn p.closes w := by
  have hend : Token.endsStatement ";" = true := by decide
  have hclose : Token.endsStatement Token.closeBrace = true := by decide
  have hparen : Token.endsOperand ")" = true := by decide
  induction h with
  | program => exact absurd rfl hp
  | declarationStatement _ ih | assignmentStatement _ ih | conditionalStatement _ ih
  | whileStatement _ ih | forStatement _ ih | blockStatement _ ih => exact ih (by simp)
  | uninitialized => exact (EndsIn.singleton hend).append [_, _]
  | initialized | assignment => exact (EndsIn.singleton hend).append _
  | ifThen _ _ _ ih | whileLoop _ _ _ ih | ifThenElse _ _ _ _ _ ih | forLoop _ _ _ _ _ _ _ ih =>
    exact (ih (by simp)).append _
  | block => exact (EndsIn.singleton hclose).append _
  | plain _ ih => exact ih (by simp)
  | compared _ _ _ _ ih => exact (ih (by simp)).append _
  | sum _ _ _ ih ihs | term _ _ _ ih ihs =>
    exact (ih (by simp)).append_groups fun g hg => ihs g hg (by simp)
  | parenthesized => exact (EndsIn.singleton hparen).append _
  | name hx => exact .singleton (by simp [closes, Token.endsOperand, hx])
  | numeral hn => exact .singleton (by simp [closes, Token.endsOperand, hn])

/-- A statement has three tokens at least. -/
theorem Derives.three_le_length {w : List Token} (h : statement.Derives w) : 3 ≤ w.length := by
  cases h with
  | declarationStatement h => cases h <;> simp
  | assignmentStatement h => cases h; simp
  | conditionalStatement h => cases h <;> simp <;> omega
  | whileStatement h => cases h; simp; omega
  | forStatement h => cases h; simp; omega
  | blockStatement h =>
    cases h with
    | block hs =>
      have hpos := (hs.endsIn (by simp)).length_pos
      simp
      omega

end Phrase

/-! ## Rules -/

/-- From `r` to `s` at least `n` tokens were consumed, the last of which passes the test. -/
structure Reader.Consumed (r s : Reader) (n : Nat) (test : Token → Bool) : Prop where
  tokens_eq : s.tokens = r.tokens
  position_le : r.position + n ≤ s.position
  last : ∃ t, r.tokens[s.position - 1]? = some t ∧ test t = true

namespace Reader

variable {r s : Reader} {n : Nat} {test : Token → Bool}

/-- The position is one in the tokens, so what was consumed is missing from what is left. -/
theorem Consumed.remaining_add_le (h : r.Consumed s n test) :
    s.remaining + n ≤ r.remaining := by
  obtain ⟨t, ht, -⟩ := h.last
  have hlt := (Array.getElem?_eq_some_iff.mp ht).1
  have hle := h.position_le
  simp only [remaining, h.tokens_eq]
  omega

theorem consumed_of_endsIn {used : List Token} (htokens : s.tokens = r.tokens)
    (hposition : s.position = r.position + used.length) (hahead : r.ahead = used ++ s.ahead)
    (hn : n ≤ used.length) (hends : EndsIn test used) : r.Consumed s n test := by
  refine ⟨htokens, by omega, ?_⟩
  obtain ⟨u, t, rfl, ht⟩ := hends
  have hget : r.ahead[u.length]? = some t := by simp [hahead]
  refine ⟨t, ?_, ht⟩
  rw [ahead, List.getElem?_drop] at hget
  simpa [hposition] using hget

end Reader

/-- A rule that succeeds has consumed a phrase of its kind. -/
theorem Goal.exists_metBy_of_meet_ok {g : Goal} {r s : Reader} (h : meet [g] r = .ok () s) :
    ∃ used, g.MetBy used ∧ s.tokens = r.tokens ∧ s.position = r.position + used.length ∧
      r.ahead = used ++ s.ahead := by
  obtain ⟨used, hc⟩ := Course.exists_of_meet_ok h
  have hmet := hc.allMetBy_append (w := []) rfl
  rw [List.append_nil] at hmet
  exact ⟨used, allMetBy_singleton.mp hmet, hc.tokens_eq, hc.position_eq, hc.ahead_eq⟩

theorem consumed_of_statement {r s : Reader} (h : meet [statement] r = .ok () s) :
    r.Consumed s 3 Token.endsStatement := by
  obtain ⟨used, hmet, htokens, hposition, hahead⟩ := exists_metBy_of_meet_ok h
  have hderives : Phrase.statement.Derives used := hmet
  exact Reader.consumed_of_endsIn htokens hposition hahead hderives.three_le_length
    (hderives.endsIn (by simp))

theorem consumed_of_operand {g : Goal} {r s : Reader} (hg : g ∈ [expression, sum, term, factor])
    (h : meet [g] r = .ok () s) : r.Consumed s 1 Token.endsOperand := by
  obtain ⟨used, hmet, htokens, hposition, hahead⟩ := exists_metBy_of_meet_ok h
  have hends : EndsIn Token.endsOperand used := by
    simp only [List.mem_cons, List.not_mem_nil, or_false] at hg
    rcases hg with rfl | rfl | rfl | rfl
    · exact Phrase.Derives.endsIn (p := .expression) hmet (by simp)
    · exact Phrase.Derives.endsIn (p := .sum) hmet (by simp)
    · exact Phrase.Derives.endsIn (p := .term) hmet (by simp)
    · exact Phrase.Derives.endsIn (p := .factor) hmet (by simp)
  exact Reader.consumed_of_endsIn htokens hposition hahead hends.length_pos hends

/-! ## Loops -/

/-- The loops of a check: over statements, over the further terms of a sum, and over the further
factors of a term. -/
inductive Repetition
  | statements
  | terms
  | factors

namespace Repetition

/-- The goal that a loop works at. -/
def goal : Repetition → Goal
  | statements => .statements
  | terms => .moreTerms
  | factors => .moreFactors

/-- An operator and what a goal asks for behind it. -/
def operand (g : Goal) : Parse Unit := do
  _ ← advance
  meet [g]

/-- One round of a loop. -/
def round : Repetition → Parse Unit
  | statements => meet [statement]
  | terms => operand term
  | factors => operand factor

/-- The number of tokens that a round takes at least. -/
def least : Repetition → Nat
  | statements => 3
  | terms | factors => 2

/-- The loop goes round once more: its goal would not be met on sight of the token ahead. -/
def GoesOn (l : Repetition) (r : Reader) : Prop := ∃ t ∈ r.peek?, l.goal.goesOn t = true

/-- So many rounds of a loop, all of which succeed, lead from one reader to another. -/
inductive Rounds (l : Repetition) (r : Reader) : Nat → Reader → Prop
  | none : Rounds l r 0 r
  | more {n : Nat} {s s' : Reader} (h : Rounds l r n s) (hgo : l.GoesOn s)
      (hround : l.round s = .ok () s') : Rounds l r (n + 1) s'

variable {l : Repetition} {r s s' : Reader} {n : Nat}

/-! ### What a round takes -/

theorem remaining_add_le_of_operand {g : Goal} (hg : g ∈ [expression, sum, term, factor])
    (h : operand g r = .ok () s) : s.remaining + 2 ≤ r.remaining := by
  obtain ⟨t, r', hadvance, hmeet⟩ := bind_eq_ok h
  have hshort := shortens_advance hadvance
  have hoperand := (consumed_of_operand hg hmeet).remaining_add_le
  omega

/-- A round that succeeds leaves less to read. -/
theorem remaining_add_least_le (h : l.round s = .ok () s') :
    s'.remaining + l.least ≤ s.remaining := by
  cases l with
  | statements => exact (consumed_of_statement h).remaining_add_le
  | terms => exact remaining_add_le_of_operand (by simp) h
  | factors => exact remaining_add_le_of_operand (by simp) h

theorem shortens_round (l : Repetition) : Shortens l.round := by
  intro r _ s h
  have hle := remaining_add_least_le h
  cases l <;> simp only [least] at hle <;> omega

/-- So the number of rounds is bounded by what was there to read. -/
theorem Rounds.remaining_add_le (h : l.Rounds r n s) :
    s.remaining + n * l.least ≤ r.remaining := by
  induction h with
  | none => simp
  | more _ _ hround ih =>
    have hle := remaining_add_least_le hround
    rw [Nat.add_mul]
    omega

/-! ### The goal of a loop -/

/-- Looking for statements is looking for one and then for more. -/
theorem meet_statements {t : Token} (hpeek : r.peek? = some t) :
    meet [.statements] r = meet [statement, .statements] r := by
  have hmove : Goal.statements.move r.peek? = (statement.move r.peek?).before [.statements] := by
    rw [hpeek]
    rfl
  rw [meet_cons, meet_cons, step_eq_perform, step_eq_perform, hmove]
  cases statement.move r.peek? <;> simp [Move.before, Move.perform]

/-- A goal that takes an operator is met by that, its operand, and then what meets it once more. -/
theorem meet_of_take_operand {g h : Goal} {t : Token} (hpeek : r.peek? = some t)
    (hmove : g.move (some t) = .take t false [h, g]) :
    meet [g] r = match operand h r with
      | .ok _ s => meet [g] s
      | .error v q => .error v q := by
  have htake : g.move r.peek? = .take t false [h, g] := by
    rw [hpeek, hmove]
  have hoperand : operand h r = meet [h] (r.skip t) := bind_of_ok (advance_of_peek? hpeek)
  rw [hoperand, meet_of_take htake]
  exact meet_append [h] [g] (r.skip t)

/-- The goal of a loop is met by a round and what meets it after that, as long as the loop goes on.
-/
theorem meet_goal_of_goesOn (h : l.GoesOn r) :
    meet [l.goal] r = match l.round r with
      | .ok _ s => meet [l.goal] s
      | .error v q => .error v q := by
  obtain ⟨t, hpeek, hgo⟩ := h
  cases l with
  | statements =>
    rw [goal, meet_statements hpeek]
    exact meet_append [statement] [.statements] r
  | terms =>
    have hadditive : t.isAdditive = true := hgo
    exact meet_of_take_operand hpeek (by simp [goal, move, moveOptional, hadditive])
  | factors =>
    have hmultiplicative : t.isMultiplicative = true := hgo
    exact meet_of_take_operand hpeek (by simp [goal, move, moveOptional, hmultiplicative])

theorem meet_goal_of_not_goesOn (h : ¬ l.GoesOn r) : meet [l.goal] r = .ok () r := by
  have hoptional : Stays l.goal [] := by
    cases l <;> exact .finish rfl
  have hstay : l.goal.move r.peek? = .stay [] := by
    refine move_of_stays hoptional fun t ht => ?_
    simpa using fun hgo => h ⟨t, ht, hgo⟩
  rw [meet_of_stay hstay, List.append_nil, meet_nil]

theorem Rounds.after (h : l.Rounds s n s') (hgo : l.GoesOn r) (hround : l.round r = .ok () s) :
    l.Rounds r (n + 1) s' := by
  induction h with
  | none => exact .more .none hgo hround
  | more _ hgo' hround' ih => exact .more ih hgo' hround'

/-- What meets the goal of a loop is a number of rounds. The loop ends where it does not go on, or
where a round fails. -/
theorem exists_rounds (l : Repetition) (r : Reader) :
    ∃ n s, l.Rounds r n s ∧
      ((¬ l.GoesOn s ∧ meet [l.goal] r = .ok () s) ∨
        l.GoesOn s ∧ ∃ v q, l.round s = .error v q ∧ meet [l.goal] r = .error v q) := by
  induction hn : r.remaining using Nat.strong_induction_on generalizing r with
  | _ n ih =>
    subst hn
    by_cases hgo : l.GoesOn r
    · have hgoal := meet_goal_of_goesOn hgo
      cases hround : l.round r with
      | error v q =>
        rw [hround] at hgoal
        exact ⟨0, r, .none, .inr ⟨hgo, v, q, hround, hgoal⟩⟩
      | ok _ s =>
        rw [hround] at hgoal
        obtain ⟨n, s', hrounds, hend⟩ := ih _ (shortens_round l hround) s rfl
        have hnext : meet [l.goal] r = meet [l.goal] s := hgoal
        exact ⟨n + 1, s', hrounds.after hgo hround, by simpa only [hnext] using hend⟩
    · exact ⟨0, r, .none, .inl ⟨hgo, meet_goal_of_not_goesOn hgo⟩⟩

end Repetition

/-! ## Recursion -/

/-- Whatever a check comes to without a token are goals that it started with, or goals in the place
of others. -/
theorem Course.forall_of_nil {P : Goal → Prop} {gs hs : List Goal} {r s : Reader}
    {used : List Token} (hP : ∀ g more, Stays g more → ∀ k ∈ more, P k)
    (h : Course gs r used hs s) (hused : used = []) (hgs : ∀ k ∈ gs, P k) : ∀ k ∈ hs, P k := by
  induction h with
  | start => exact hgs
  | stay _ hm ih =>
    intro k hk
    rcases List.mem_append.mp hk with hk | hk
    · exact hP _ _ (stays_of_move hm).1 k hk
    · exact ih hused k (List.mem_cons_of_mem _ hk)
  | take => simp at hused

/-- Between a statement or an expression and the next one that is a part of it, a token is
consumed. -/
theorem Goal.position_lt_of_reentry {g g' : Goal} (hg' : g' ∈ [statement, expression])
    {more rest : List Goal} {used : List Token} {r r' s : Reader} (hstep : g.step r = .ok more r')
    (h : Course more r' used (g' :: rest) s) : r.position < s.position := by
  have hparts : ∀ k more, Stays k more → ∀ j ∈ more, j ∉ [statement, expression] := by
    intro k more hstays
    cases hstays <;> simp
  have hposition := h.position_eq
  rw [step_eq_perform] at hstep
  cases hm : g.move r.peek? with
  | take t named more' =>
    rw [hm] at hstep
    cases hstep
    simp at hposition
    omega
  | stay more' =>
    rw [hm] at hstep
    cases hstep
    have hused : used ≠ [] := by
      intro hused
      exact h.forall_of_nil hparts hused (hparts _ _ (stays_of_move hm).1) g' (by simp) hg'
    have hpos := List.length_pos_iff.mpr hused
    omega
  | refuse want v => rw [hm] at hstep; cases hstep
  | spoil t v => rw [hm] at hstep; cases hstep

/-! ## All rules -/

/-- How far the rules get, whatever the reader. A statement consumes three tokens at least and ends
in its mark; an expression and its parts consume one at least, end in an operand, and leave no
operator ahead that would go on with them. So each round of a loop leaves less to read, each
statement or expression inside another begins further on, and of the statements of a program there
are at most a third as many as tokens. -/
theorem rules_progress (r : Reader) :
    (∀ s, meet [statement] r = .ok () s → r.Consumed s 3 Token.endsStatement) ∧
      (∀ g ∈ [expression, sum, term, factor], ∀ s, meet [g] r = .ok () s →
        r.Consumed s 1 Token.endsOperand) ∧
      (∀ s, meet [term] r = .ok () s → ∀ t ∈ s.peek?, t ∉ ["*", "/"]) ∧
      (∀ s, meet [sum] r = .ok () s → ∀ t ∈ s.peek?, t ∉ ["+", "-", "*", "/"]) ∧
      (∀ s, meet [expression] r = .ok () s → ∀ t ∈ s.peek?, t.isOperator = false) ∧
      (∀ l : Repetition, Shortens l.round ∧
        ∃ n s, l.Rounds r n s ∧
          ((¬ l.GoesOn s ∧ meet [l.goal] r = .ok () s) ∨
            l.GoesOn s ∧ ∃ v q, l.round s = .error v q ∧ meet [l.goal] r = .error v q)) ∧
      (∀ g ∈ [statement, expression], ∀ g' ∈ [statement, expression],
        ∀ more r' used rest s, g.step r = .ok more r' → Course more r' used (g' :: rest) s →
          r.position < s.position) ∧
      ∀ n s, Repetition.statements.Rounds r n s → n ≤ r.tokens.size / 3 := by
  refine ⟨fun s hs => consumed_of_statement hs, fun g hg s hs => consumed_of_operand hg hs,
    fun s hs t ht => ?_, fun s hs t ht => ?_, fun s hs => ?_,
    fun l => ⟨l.shortens_round, l.exists_rounds r⟩, ?_, fun n s hrounds => ?_⟩
  · have hexcludes : t.isMultiplicative = false := excludes_of_meet_ok hs (fun _ _ => rfl) t ht
    simpa [Token.isMultiplicative, Token.multiplicatives] using hexcludes
  · exact isArithmetic_eq_false_iff.mp (excludes_of_meet_ok hs (fun _ _ => rfl) t ht)
  · exact excludes_of_meet_ok hs fun _ _ => rfl
  · intro g _ g' hg' more r' used rest s hstep h
    exact position_lt_of_reentry hg' hstep h
  · have hle := hrounds.remaining_add_le
    simp only [Repetition.least, Reader.remaining] at hle
    omega

/-- An assignment with parentheses in front of another statement: it takes ten tokens, its right
side seven, and the expression in the parentheses begins one token further on. -/
theorem rules_progress_assignment :
    let r : Reader := ⟨#["x", "=", "(", "b", "+", "1", ")", "*", "a", ";", "y"], 0, false, #[]⟩
    let right : Reader := { r with position := 2 }
    r.Consumed { r with position := 10 } 3 Token.endsStatement ∧
      right.Consumed { r with position := 9 } 1 Token.endsOperand ∧
      (∀ t ∈ Reader.peek? { r with position := 9 }, t ∉ ["+", "-", "*", "/"]) ∧
      right.position < Reader.position { r with position := 3 } ∧ 1 ≤ r.tokens.size / 3 := by
  intro r right
  have hstatement : meet [statement] { r with position := 0 } =
      .ok () { r with position := 10 } := by cbv
  have hexpression : meet [expression] right = .ok () { r with position := 9 } := by cbv
  have hsum : meet [sum] right = .ok () { r with position := 9 } := by cbv
  have hinner : Course [sum, comparison, boundary] right ["("]
      [expression, literal ")", moreFactors, moreTerms, comparison, boundary]
      { r with position := 3 } := by
    have hterm : Course [sum, comparison, boundary] right []
        ([term, moreTerms] ++ [comparison, boundary]) right := .stay .start rfl
    have hfactor : Course [sum, comparison, boundary] right []
        ([factor, moreFactors] ++ [moreTerms, comparison, boundary]) right := .stay hterm rfl
    have hmove : factor.move right.peek? = .take "(" false [expression, literal ")"] := rfl
    exact .take hfactor hmove
  have hgo : Repetition.statements.GoesOn r := ⟨"x", rfl, rfl⟩
  obtain ⟨hstart, -, -, -, -, -, -, hbound⟩ := rules_progress r
  obtain ⟨-, hright, -, hahead, -, -, hreentry, -⟩ := rules_progress right
  exact ⟨hstart _ hstatement, hright expression (by simp) _ hexpression, hahead _ hsum,
    hreentry expression (by simp) expression (by simp) _ _ _ _ _ rfl hinner,
    hbound 1 _ (.more .none hgo hstatement)⟩

end StatementCheck
