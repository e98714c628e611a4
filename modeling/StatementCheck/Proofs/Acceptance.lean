import Mathlib.Data.List.Chain
import StatementCheck.Proofs.Course
import StatementCheck.Proofs.Grammar

/-!
# What a check accepts

A check accepts exactly the programs of the grammar. One token ahead is enough to go on because of
what can follow what in a stack: behind a goal that may take an operator or leave it, nothing else
starts with such an operator. The one exception is `else`, which every open conditional could take.
The grammar lets any of them have it, the check gives it to the innermost, and the goals that are
left over are met by the same tokens either way.

## Main definitions

* `Goal.Placed` : each goal of a stack is followed by what may follow it.
* `Goal.move_of_allMetBy` : where a stack can be met, its first goal moves towards that.
* `Course.allMetBy_append`, `Course.allMetBy_of_append` : what can follow the tokens that a check
  has taken is what meets the goals it has come to.
* `firstViolation?_eq_none_iff` : a check finds no violation exactly in the programs.
-/
namespace StatementCheck

namespace Token

theorem isMultiplicative_eq_false_of_isAdditive {t : Token} (h : t.isAdditive = true) :
    t.isMultiplicative = false := by
  have hall : ∀ u ∈ additives, u.isMultiplicative = false := by decide
  exact hall t (List.contains_iff_mem.mp h)

theorem isAdditive_eq_false_of_isComparison {t : Token} (h : t.isComparison = true) :
    t.isAdditive = false := by
  have hall : ∀ u ∈ comparisons, u.isAdditive = false := by decide
  exact hall t (List.contains_iff_mem.mp h)

theorem isMultiplicative_eq_false_of_isComparison {t : Token} (h : t.isComparison = true) :
    t.isMultiplicative = false := by
  have hall : ∀ u ∈ comparisons, u.isMultiplicative = false := by decide
  exact hall t (List.contains_iff_mem.mp h)

end Token

namespace Goal

/-! ## What follows what -/

/-- A goal may stand right before another in a stack. Goals that always take a token may stand
anywhere. -/
def Precedes : Goal → Goal → Prop
  | statements, _ => False
  | statement, h | alternative, h =>
      h = alternative ∨ h = statements ∨ ∃ t, h = literal t ∧ t ≠ "else"
  | expression, h | boundary, h => ∃ t, h = literal t ∧ t.isOperator = false
  | comparison, h => h = boundary
  | sum, h | moreTerms, h => h = comparison ∨ h = boundary
  | term, h | moreFactors, h => h = moreTerms
  | literal _, _ | identifier, _ | declaration, _ | initializer, _ | factor, _ => True

/-- Each goal of a stack is followed by what may follow it. -/
def Placed (gs : List Goal) : Prop := gs.IsChain Precedes

theorem Placed.tail {g : Goal} {gs : List Goal} (h : Placed (g :: gs)) : Placed gs :=
  List.IsChain.tail h

theorem Placed.precedes {g k : Goal} {gs : List Goal} (h : Placed (g :: k :: gs)) :
    Precedes g k :=
  (List.isChain_cons_cons.mp h).1

/-- The goals `more` may stand wherever the goal `g` may, as far as neighbours go. -/
def Replaces (R : Goal → Goal → Prop) (more : List Goal) (g : Goal) : Prop :=
  more.IsChain R ∧ ∀ l ∈ more.getLast?, ∀ k, R g k → R l k

theorem Replaces.isChain {R : Goal → Goal → Prop} {g : Goal} {more rest : List Goal}
    (h : Replaces R more g) (hp : (g :: rest).IsChain R) : (more ++ rest).IsChain R := by
  refine List.IsChain.append h.1 hp.tail fun l hl k hk => h.2 l hl k ?_
  obtain ⟨rest', rfl⟩ := List.head?_eq_some_iff.mp hk
  exact (List.isChain_cons_cons.mp hp).1

theorem replaces_of_stays {g : Goal} {more : List Goal} (h : Stays g more) :
    Replaces Precedes more g := by
  cases h with
  | expression | sum | term =>
    refine ⟨by simp [Precedes], fun l hl k hk => ?_⟩
    cases hl
    exact hk
  | finish => exact ⟨.nil, by simp⟩

theorem replaces_of_takes {g : Goal} {t : Token} {more : List Goal} (h : Takes g t more) :
    Replaces Precedes more g := by
  have hclose : Token.isOperator ")" = false := by decide
  have hend : Token.isOperator ";" = false := by decide
  have hblock : Token.closeBrace ≠ "else" := by decide
  induction h with
  | @statements t more _ ih =>
    refine ⟨List.IsChain.append ih.1 (.singleton _) fun l hl k hk => ?_, fun l hl k hk => hk.elim⟩
    simp only [List.head?_cons, Option.mem_def, Option.some.injEq] at hk
    exact ih.2 l hl k (.inr (.inl hk.symm))
  | literal | identifier | uninitialized | name | numeral => exact ⟨.nil, by simp⟩
  | typed | assigned | block | declaration | initialized | parenthesized =>
    refine ⟨by simp [Precedes, hclose, hend, hblock], fun l hl k hk => ?_⟩
    cases hl
    trivial
  | comparison => exact ⟨.singleton _, fun l hl k hk => by cases hl; exact .inr hk⟩
  | conditional | whileLoop | forLoop | alternative | moreTerms | moreFactors =>
    refine ⟨by simp [condition, Precedes, hclose, hend], fun l hl k hk => ?_⟩
    cases hl
    exact hk

/-! ## Tokens that no later goal starts with -/

theorem isOperator_of_boundary {rest : List Goal} {t : Token} {u : List Token}
    (hp : Placed (boundary :: rest)) (h : AllMetBy rest (t :: u)) : t.isOperator = false := by
  cases rest with
  | nil => cases h
  | cons k rest =>
    obtain ⟨w, rfl, hw⟩ := hp.precedes
    obtain ⟨_, b, heq, rfl, hb⟩ := h
    cases heq
    exact hw

theorem isOperator_of_comparison {rest : List Goal} {t : Token} {u : List Token}
    (hp : Placed (comparison :: rest)) (h : AllMetBy rest (t :: u)) : t.isOperator = false := by
  cases rest with
  | nil => cases h
  | cons k rest =>
    obtain rfl : k = boundary := hp.precedes
    obtain ⟨_, b, heq, rfl, hb⟩ := h
    cases heq
    exact isOperator_of_boundary hp.tail hb

/-- Behind the terms of a sum comes a comparison operator, or no operator. -/
theorem isComparison_of_moreTerms {rest : List Goal} {t : Token} {u : List Token}
    (hp : Placed (moreTerms :: rest)) (h : AllMetBy rest (t :: u)) :
    t.isComparison = true ∨ t.isOperator = false := by
  cases rest with
  | nil => cases h
  | cons k rest =>
    obtain ⟨a, b, heq, ha, hb⟩ := h
    rcases (hp.precedes : k = comparison ∨ k = boundary) with rfl | rfl
    · rcases ha with rfl | ⟨c, s, hc, -, rfl⟩
      · cases heq
        exact .inr (isOperator_of_comparison hp.tail hb)
      · cases heq
        exact .inl hc
    · cases ha
      cases heq
      exact .inr (isOperator_of_boundary hp.tail hb)

theorem isAdditive_of_moreTerms {rest : List Goal} {t : Token} {u : List Token}
    (hp : Placed (moreTerms :: rest)) (h : AllMetBy rest (t :: u)) : t.isAdditive = false := by
  rcases isComparison_of_moreTerms hp h with hc | hop
  · exact Token.isAdditive_eq_false_of_isComparison hc
  · exact Bool.eq_false_iff.mpr fun ht => by simp [Token.isOperator_of_isAdditive ht] at hop

theorem isMultiplicative_of_moreFactors {rest : List Goal} {t : Token} {u : List Token}
    (hp : Placed (moreFactors :: rest)) (h : AllMetBy rest (t :: u)) :
    t.isMultiplicative = false := by
  cases rest with
  | nil => cases h
  | cons k rest =>
    obtain rfl : k = moreTerms := hp.precedes
    obtain ⟨a, b, heq, ⟨gs, hop, -, rfl⟩, hb⟩ := h
    cases gs with
    | cons g gs =>
      cases heq
      exact Token.isMultiplicative_eq_false_of_isAdditive (hop g List.mem_cons_self)
    | nil =>
      cases heq
      rcases isComparison_of_moreTerms hp.tail hb with hc | hop
      · exact Token.isMultiplicative_eq_false_of_isComparison hc
      · exact Bool.eq_false_iff.mpr fun ht => by
          simp [Token.isOperator_of_isMultiplicative ht] at hop

/-- No statement starts with `else`. -/
theorem not_takes_else {more : List Goal} : ¬ Takes statement "else" more := by
  intro h
  obtain ⟨named, hm⟩ := move_of_takes h
  have helse : statement.move (some "else") = .refuse none (.noAlternative .statement "else") := rfl
  rw [helse] at hm
  cases hm

theorem not_metBy_statements_else {u : List Token} : ¬ statements.MetBy ("else" :: u) := by
  intro h
  rcases h.unfolds with ⟨more, hs, hw⟩ | ⟨t, more, v, heq, ht, -⟩
  · cases hs
    cases hw
  · cases heq
    cases ht with
    | statements ht => exact not_takes_else ht

theorem Placed.eq_nil_of_statements {rest : List Goal} (h : Placed (statements :: rest)) :
    rest = [] := by
  cases rest with
  | nil => rfl
  | cons k rest => exact h.precedes.elim

/-- If a later conditional could take an `else`, this one can take it instead: what follows the
statement behind it then meets the later goals as before. -/
theorem allMetBy_statement_of_else {rest : List Goal} {u : List Token}
    (hp : Placed (alternative :: rest)) (h : AllMetBy rest ("else" :: u)) :
    AllMetBy (statement :: rest) u := by
  induction rest with
  | nil => cases h
  | cons k rest ih =>
    rcases (hp.precedes : k = alternative ∨ k = statements ∨ _) with rfl | rfl | ⟨t, rfl, ht⟩
    · obtain ⟨a, b, heq, ha, hb⟩ := h
      rcases ha with rfl | ⟨s, hs, rfl⟩
      -- The next conditional has no `else` either: the one that has it is further down.
      · cases heq
        obtain ⟨s, b', rfl, hs, hb'⟩ := ih hp.tail hb
        exact .cons hs (.cons (a := []) (.inl rfl) hb')
      -- The next conditional gives its `else` away and is met without one.
      · cases heq
        exact .cons (g := statement) hs (.cons (a := []) (.inl rfl) hb)
    · obtain rfl := hp.tail.eq_nil_of_statements
      exact absurd (allMetBy_singleton.mp h) not_metBy_statements_else
    · obtain ⟨_, b, heq, rfl, -⟩ := h
      cases heq
      exact absurd rfl ht

/-! ## One token ahead is enough -/

theorem goesOn_eq_false_of_stays {g : Goal} {more : List Goal} {t : Token} (h : Stays g more)
    (hmore : more ≠ []) : g.goesOn t = false := by
  cases h with
  | expression | sum | term => rfl
  | finish => exact absurd rfl hmore

/-- Where an optional goal goes on with the first token of what the later goals are met by, the
token is the `else` of a conditional. -/
theorem eq_alternative_of_goesOn {g : Goal} {rest : List Goal} {t : Token} {u : List Token}
    (hp : Placed (g :: rest)) (h : AllMetBy rest (t :: u)) (hgo : g.goesOn t = true) :
    g = alternative := by
  cases g with
  | alternative => rfl
  | statements => rw [hp.eq_nil_of_statements] at h; cases h
  | boundary => simp [goesOn, isOperator_of_boundary hp h] at hgo
  | comparison =>
    have := isOperator_of_comparison hp h
    simp [Token.isOperator_of_isComparison hgo] at this
  | moreTerms => simp [goesOn, isAdditive_of_moreTerms hp h] at hgo
  | moreFactors => simp [goesOn, isMultiplicative_of_moreFactors hp h] at hgo
  | _ => cases hgo

/-- Where a stack can be met, its first goal moves towards that: it takes the first token or stays,
and what is left of the stack can be met by what is left of the tokens. -/
theorem move_of_allMetBy {g : Goal} {rest : List Goal} {w : List Token}
    (hp : Placed (g :: rest)) (h : AllMetBy (g :: rest) w) :
    (∃ more, g.move w.head? = .stay more ∧ AllMetBy (more ++ rest) w) ∨
      ∃ t named more u, w = t :: u ∧ g.move (some t) = .take t named more ∧
        AllMetBy (more ++ rest) u := by
  obtain ⟨a, b, rfl, ha, hb⟩ := h
  rcases ha.unfolds with ⟨more, hs, ha⟩ | ⟨t, more, u, rfl, ht, hu⟩
  -- The grammar passes over the goal. The check does too, unless the goal is an `else` part and the
  -- later goals begin with the word.
  · by_cases hgo : ∀ t ∈ (a ++ b).head?, g.goesOn t = false
    · exact .inl ⟨more, move_of_stays hs hgo, ha.append hb⟩
    · simp only [not_forall, Bool.not_eq_false] at hgo
      obtain ⟨t, hhead, hgo⟩ := hgo
      obtain rfl : more = [] := by
        by_contra hmore
        simp [goesOn_eq_false_of_stays hs hmore] at hgo
      obtain rfl := ha
      obtain ⟨u, rfl⟩ := List.head?_eq_some_iff.mp hhead
      obtain rfl := eq_alternative_of_goesOn hp hb hgo
      obtain rfl : t = "else" := eq_of_beq hgo
      exact .inr ⟨_, false, [statement], u, rfl, rfl, allMetBy_statement_of_else hp hb⟩
  · obtain ⟨named, hm⟩ := move_of_takes ht
    exact .inr ⟨t, named, more, u ++ b, rfl, hm, hu.append hb⟩

end Goal

open Goal Parse

namespace Course

variable {gs hs : List Goal} {r s q : Reader} {used w : List Token}

/-- If what a goal is replaced by may always stand where the goal stood, then a check keeps its
stack in order. -/
theorem isChain {R : Goal → Goal → Prop}
    (hstays : ∀ {g : Goal} {more : List Goal}, Stays g more → Replaces R more g)
    (htakes : ∀ {g : Goal} {t : Token} {more : List Goal}, Takes g t more → Replaces R more g)
    (h : Course gs r used hs s) (hgs : gs.IsChain R) : hs.IsChain R := by
  induction h with
  | start => exact hgs
  | stay _ hm ih => exact (hstays (stays_of_move hm).1).isChain ih
  | take _ hm ih => exact (htakes (takes_of_move hm).2).isChain ih

theorem placed (h : Course gs r used hs s) (hp : Placed gs) : Placed hs :=
  h.isChain replaces_of_stays replaces_of_takes hp

/-- Tokens that meet the goals which a check comes to complete the tokens it has taken. -/
theorem allMetBy_append (h : Course gs r used hs s) (hw : AllMetBy hs w) :
    AllMetBy gs (used ++ w) := by
  induction h generalizing w with
  | start => exact hw
  | stay _ hm ih =>
    obtain ⟨a, b, rfl, ha, hb⟩ := Goal.allMetBy_append.mp hw
    exact ih (.cons (metBy_of_stays (stays_of_move hm).1 ha) hb)
  | take _ hm ih =>
    obtain ⟨a, b, rfl, ha, hb⟩ := Goal.allMetBy_append.mp hw
    simpa using ih (.cons (metBy_of_takes (takes_of_move hm).2 ha) hb)

/-- A stack whose first goal takes a token asks for the goals behind it from then on. -/
theorem allMetBy_of_take {g : Goal} {rest more : List Goal} {t : Token} {named : Bool}
    (hp : Placed (g :: rest)) (hm : g.move (some t) = .take t named more)
    (hw : AllMetBy (g :: rest) (t :: w)) : AllMetBy (more ++ rest) w := by
  rcases move_of_allMetBy hp hw with ⟨more', hm', -⟩ | ⟨t', named', more', u, heq, hm', hu⟩
  · rw [List.head?_cons, hm] at hm'
    cases hm'
  · cases heq
    rw [hm] at hm'
    cases hm'
    exact hu

/-- The converse of `allMetBy_append`, for tokens that the check cannot tell from those ahead. -/
theorem allMetBy_of_append (h : Course gs r used hs s) (hp : Placed gs)
    (hw : AllMetBy gs (used ++ w)) (hhead : w.head? = s.peek?) : AllMetBy hs w := by
  induction h generalizing w with
  | start => exact hw
  | stay h hm ih =>
    rcases move_of_allMetBy (h.placed hp) (ih hw hhead) with
      ⟨more, hm', hu⟩ | ⟨t, _, _, u, rfl, hm', -⟩
    · rw [hhead, hm] at hm'
      cases hm'
      exact hu
    · rw [← hhead, List.head?_cons, hm'] at hm
      cases hm
  | take h hm ih =>
    have hpeek := (takes_of_move hm).1
    rw [hpeek] at hm ih
    exact allMetBy_of_take (h.placed hp) hm (ih (by simpa using hw) rfl)

/-- Right after a token was taken, what follows is not restricted by the tokens ahead. -/
theorem allMetBy_of_append_take {g : Goal} {rest more : List Goal} {t : Token} {named : Bool}
    (h : Course gs r used (g :: rest) s) (hp : Placed gs)
    (hm : g.move s.peek? = .take t named more) (hw : AllMetBy gs (used ++ [t] ++ w)) :
    AllMetBy (more ++ rest) w := by
  have hpeek := (takes_of_move hm).1
  rw [hpeek] at hm
  have hmet : AllMetBy (g :: rest) (t :: w) :=
    h.allMetBy_of_append hp (by simpa using hw) hpeek.symm
  exact allMetBy_of_take (h.placed hp) hm hmet

/-- Where a check fails, nothing that starts with the token ahead completes what it has taken. -/
theorem not_allMetBy_of_error {g : Goal} {rest : List Goal} {v : Violation}
    (h : Course gs r used (g :: rest) s) (hp : Placed gs)
    (hfail : (g.move s.peek?).perform s = .error v q) (hhead : w.head? = s.peek?) :
    ¬ AllMetBy gs (used ++ w) := by
  intro hw
  rcases move_of_allMetBy (h.placed hp) (h.allMetBy_of_append hp hw hhead) with
    ⟨more, hm, -⟩ | ⟨t, _, _, u, rfl, hm, -⟩
  · rw [hhead] at hm
    rw [hm] at hfail
    cases hfail
  · rw [← hhead, List.head?_cons, hm] at hfail
    cases hfail

/-- The check of a program looks for statements until the input has ended. -/
theorem bottom (h : Course [statements] r used hs s) :
    (∃ front, hs = front ++ [statements]) ∨ hs = [] ∧ s.peek? = none := by
  induction h with
  | start => exact .inl ⟨[], rfl⟩
  | @stay used g rest more s h hm ih =>
    rcases ih with ⟨front, heq⟩ | ⟨heq, -⟩
    · cases front with
      | nil =>
        cases heq
        obtain ⟨hs, hgo⟩ := stays_of_move hm
        cases hs
        refine .inr ⟨rfl, ?_⟩
        cases hpeek : s.peek? with
        | none => rfl
        | some t => cases hgo t hpeek
      | cons k front => cases heq; exact .inl ⟨more ++ front, by simp⟩
    · cases heq
  | @take used g rest more s t named h hm ih =>
    rcases ih with ⟨front, heq⟩ | ⟨heq, -⟩
    · cases front with
      | nil =>
        cases heq
        cases (takes_of_move hm).2 with
        | @statements _ more' => exact .inl ⟨more', by simp⟩
      | cons k front => cases heq; exact .inl ⟨more ++ front, by simp⟩
    · cases heq

end Course

theorem placed_statements : Placed [statements] := .singleton _

theorem allMetBy_statements {w : List Token} :
    AllMetBy [statements] w ↔ Phrase.program.Derives w := allMetBy_singleton

/-- A check that succeeds has taken all tokens, and they form a program. -/
theorem derives_of_program_ok {tokens : List Token} {verbose : Bool} {s : Reader}
    (h : program (Reader.ofTokens tokens verbose) = .ok () s) :
    Phrase.program.Derives tokens ∧ s.position = tokens.length := by
  obtain ⟨used, hc⟩ := Course.exists_of_meet_ok h
  rcases hc.bottom with ⟨front, heq⟩ | ⟨-, hpeek⟩
  · simp at heq
  obtain rfl : tokens = used := hc.ahead_eq_of_atEnd hpeek
  have hmet := allMetBy_statements.mp (hc.allMetBy_append rfl)
  rw [List.append_nil] at hmet
  exact ⟨hmet, by simpa using hc.position_eq⟩

/-- A check that fails was not given a program. -/
theorem not_derives_of_program_error {tokens : List Token} {verbose : Bool} {v : Violation}
    {s : Reader} (h : program (Reader.ofTokens tokens verbose) = .error v s) :
    ¬ Phrase.program.Derives tokens := by
  obtain ⟨used, g, rest, s', hc, hfail⟩ := Course.exists_of_meet_error h
  have hnot := hc.not_allMetBy_of_error placed_statements hfail (Reader.head?_ahead s')
  rwa [← hc.ahead_eq, allMetBy_statements] at hnot

/-- A check succeeds exactly on the programs of the grammar, be the reader verbose or not. -/
theorem derives_iff_program_ok {tokens : List Token} (verbose : Bool) :
    Phrase.program.Derives tokens ↔
      ∃ r, program (Reader.ofTokens tokens verbose) = .ok () r := by
  constructor
  · intro h
    cases hp : program (Reader.ofTokens tokens verbose) with
    | ok _ r => exact ⟨r, rfl⟩
    | error v r => exact absurd h (not_derives_of_program_error hp)
  · rintro ⟨r, hp⟩
    exact (derives_of_program_ok hp).1

/-- A check finds no violation exactly in the programs of the grammar. -/
theorem firstViolation?_eq_none_iff (tokens : List Token) :
    firstViolation? tokens = none ↔ Phrase.program.Derives tokens := by
  rw [derives_iff_program_ok false, firstViolation?]
  cases program (Reader.ofTokens tokens false) with
  | ok _ r => simp
  | error v r => simp

end StatementCheck
