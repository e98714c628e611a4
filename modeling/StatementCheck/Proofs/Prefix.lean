import Mathlib.Order.Bounds.Basic
import StatementCheck.Proofs.Acceptance
import StatementCheck.Proofs.Header

/-!
# Correct prefixes

A check notices a mistake at the first token that no program has there. What it has taken by then
can always be completed to a program, since every goal left on its stack can be met by something.

## Main definitions

* `Viable` : some continuation makes the tokens a program.
* `Ending`, `Ending.Holds` : what the end of a check can say about its tokens.
* `program_ending` : each check says exactly one of these things.
-/
namespace StatementCheck

open Goal Parse

/-- Some continuation, possibly empty, makes the tokens a program. -/
def Viable (tokens : List Token) : Prop := ∃ rest, Phrase.program.Derives (tokens ++ rest)

/-- Tokens are viable if a check accepts them with something behind them, or with nothing. -/
theorem viable_iff_program_ok {tokens : List Token} (verbose : Bool) :
    Viable tokens ↔
      ∃ rest r, program (Reader.ofTokens (tokens ++ rest) verbose) = .ok () r := by
  constructor
  · rintro ⟨rest, h⟩
    exact ⟨rest, (derives_iff_program_ok verbose).mp h⟩
  · rintro ⟨rest, h⟩
    exact ⟨rest, (derives_iff_program_ok verbose).mpr h⟩

theorem Viable.of_append {a b : List Token} (h : Viable (a ++ b)) : Viable a := by
  obtain ⟨rest, h⟩ := h
  exact ⟨b ++ rest, by rwa [← List.append_assoc]⟩

theorem viable_take_of_le {tokens used : List Token} {n : Nat} (h : Viable used)
    (hn : n ≤ used.length) : Viable ((used ++ tokens).take n) := by
  rw [List.take_append_of_le_length hn]
  rw [← List.take_append_drop n used] at h
  exact h.of_append

/-! ## Every stack of goals can be met -/

namespace Goal

theorem derives_x : Phrase.term.Derives ["x"] :=
  Phrase.derives_term_of_factor (.name (by decide))

theorem derives_expression_x : Phrase.expression.Derives ["x"] :=
  .plain (Phrase.derives_sum_of_term derives_x)

/-- There are tokens that meet a goal. -/
theorem exists_metBy (g : Goal) : ∃ w, g.MetBy w := by
  have hx : Token.isIdentifier "x" = true := by decide
  cases g with
  | literal want => exact ⟨[want], rfl⟩
  | identifier => exact ⟨["x"], "x", hx, rfl⟩
  | statement =>
    exact ⟨_, Phrase.Derives.assignmentStatement (.assignment hx derives_expression_x)⟩
  | declaration => exact ⟨_, Phrase.Derives.uninitialized (t := "int") (by decide) hx⟩
  | initializer => exact ⟨[";"], .inl rfl⟩
  | expression => exact ⟨["x"], derives_expression_x⟩
  | sum => exact ⟨["x"], Phrase.derives_sum_of_term derives_x⟩
  | term => exact ⟨["x"], derives_x⟩
  | factor => exact ⟨["x"], .name hx⟩
  | statements | alternative | comparison | boundary | moreTerms | moreFactors =>
    exact ⟨[], metBy_of_stays (.finish rfl) rfl⟩

theorem exists_allMetBy (gs : List Goal) : ∃ w, AllMetBy gs w := by
  induction gs with
  | nil => exact ⟨[], rfl⟩
  | cons g gs ih =>
    obtain ⟨a, ha⟩ := exists_metBy g
    obtain ⟨b, hb⟩ := ih
    exact ⟨a ++ b, .cons ha hb⟩

end Goal

namespace Course

variable {hs : List Goal} {r s q : Reader} {used : List Token}

theorem viable_append {w : List Token} (h : Course [statements] r used hs s)
    (hw : ∃ rest, AllMetBy hs (w ++ rest)) : Viable (used ++ w) := by
  obtain ⟨rest, hrest⟩ := hw
  exact ⟨rest, by simpa using allMetBy_statements.mp (h.allMetBy_append hrest)⟩

/-- What a check has taken can be completed. -/
theorem viable (h : Course [statements] r used hs s) : Viable used := by
  simpa using h.viable_append (w := []) (exists_allMetBy hs)

/-- Where a check fails on sight of a token, nothing that has this token there can be completed. -/
theorem not_viable {g : Goal} {rest : List Goal} {v : Violation} {t : Token}
    (h : Course [statements] r used (g :: rest) s) (hpeek : s.peek? = some t)
    (hfail : (g.move s.peek?).perform s = .error v q) : ¬ Viable (used ++ [t]) := by
  rintro ⟨later, hd⟩
  refine h.not_allMetBy_of_error placed_statements hfail (w := t :: later) hpeek.symm ?_
  exact allMetBy_statements.mpr (by simpa using hd)

end Course

/-! ## How a check fails -/

theorem perform_eq_error {g : Goal} {v : Violation} {s q : Reader}
    (h : (g.move s.peek?).perform s = .error v q) :
    Refuses g s.peek? v ∧ q.position = s.position ∨
      ∃ t, s.peek? = some t ∧ Spoils g t v ∧ q.position = s.position + 1 := by
  rcases Move.refuse_or_spoil h with ⟨want, hm, rfl⟩ | ⟨t, hm, rfl⟩
  · exact .inl ⟨refuses_of_move hm, Reader.position_miss s want⟩
  · obtain ⟨hpeek, hs⟩ := spoils_of_move hm
    exact .inr ⟨t, hpeek, hs, Reader.position_skip s t⟩

theorem found?_of_error {g : Goal} {v : Violation} {s q : Reader}
    (h : (g.move s.peek?).perform s = .error v q) : v.found? = s.peek? := by
  rcases perform_eq_error h with ⟨hr, -⟩ | ⟨t, hpeek, hs, -⟩
  · exact hr.found_eq
  · rw [hs.found_eq, hpeek]

theorem Violation.found?_eq_none_iff {v : Violation} :
    v.found? = none ↔ ∃ expected, v = .endOfInput expected := by
  cases v <;> simp [found?]

/-- The reader has gone past the token that a violation names, since a token of a class had to be
consumed to look at it: always for the class itself, and for a refused type in the header of a loop.
-/
def Violation.IsPast (v : Violation) (tokens : List Token) (t : Token) : Prop :=
  (∃ c, v = .wrongCategory c t) ∨
    v = .unsupportedType t ∧ t.isRejectedType = true ∧ ["for", "(", t] <:+ tokens

theorem Course.position_of_error {g : Goal} {rest : List Goal} {v : Violation} {t : Token}
    {r s q : Reader} {used : List Token} (h : Course [statements] r used (g :: rest) s)
    (hpeek : s.peek? = some t) (hfail : (g.move s.peek?).perform s = .error v q) :
    (q.position = s.position ∨ q.position = s.position + 1) ∧
      (q.position = s.position + 1 ↔ v.IsPast (used ++ [t]) t) := by
  have hsuffix : ["for", "(", t] <:+ used ++ [t] ↔ ["for", "("] <:+ used := by
    simpa using Header.concat_suffix_concat ["for", "("] used t t
  rcases perform_eq_error hfail with ⟨hr, hq⟩ | ⟨t', hpeek', hs, hq⟩
  · refine ⟨.inl hq, ⟨fun h' => by omega, ?_⟩⟩
    rw [hpeek] at hr
    rintro (⟨c, rfl⟩ | ⟨rfl, -, hheader⟩)
    · exact absurd rfl (hr.ne_wrongCategory c t)
    · cases h.header with
      | outside _ _ hused => exact absurd (hsuffix.mp hheader) hused
      | opening => cases hr
      | inside => cases hr
  · obtain rfl : t = t' := Option.some.inj (hpeek.symm.trans hpeek')
    refine ⟨.inr hq, ⟨fun _ => ?_, fun _ => hq⟩⟩
    cases hs with
    | identifier => exact .inl ⟨_, rfl⟩
    | type => exact .inl ⟨_, rfl⟩
    | rejectedType _ hrej =>
      cases h.header with
      | outside hgs => exact absurd List.mem_cons_self hgs
      | inside hused => exact .inr ⟨rfl, hrej, hsuffix.mpr hused⟩

/-! ## What the end of a check says -/

/-- What the end of a check can say about its tokens. -/
inductive Ending
  /-- They are a program. -/
  | accepted
  /-- They are the beginning of a program that is longer. -/
  | cutShort
  /-- One of them cannot stand where it does. -/
  | misplaced

/-- The result of a check ends it in a certain way, and what that says of the tokens is true. The
token that cannot stand where it does is the first one up to which the tokens are not viable, and
the reader is left there or, when it had to consume the token, right behind it. -/
def Ending.Holds (tokens : List Token) (result : EStateM.Result Violation Reader Unit) :
    Ending → Prop
  | accepted => (∃ r, result = .ok () r) ∧ Phrase.program.Derives tokens
  | cutShort => ∃ expected r, result = .error (.endOfInput expected) r ∧
      r.position = tokens.length ∧ ¬ Phrase.program.Derives tokens ∧ Viable tokens
  | misplaced => ∃ v r e t, result = .error v r ∧ (∀ expected, v ≠ .endOfInput expected) ∧
      ¬ Viable tokens ∧ IsLeast {i | i < tokens.length ∧ ¬ Viable (tokens.take (i + 1))} e ∧
      tokens[e]? = some t ∧ v.found? = some t ∧ (r.position = e ∨ r.position = e + 1) ∧
      (r.position = e + 1 ↔ v.IsPast (tokens.take (e + 1)) t)

/-- A check that fails at the end of its tokens has taken all of them. -/
theorem holds_cutShort {tokens : List Token} {verbose : Bool} {v : Violation} {q : Reader}
    (h : program (Reader.ofTokens tokens verbose) = .error v q) (hv : v.found? = none) :
    Ending.cutShort.Holds tokens (.error v q) := by
  obtain ⟨used, g, rest, s, hc, hfail⟩ := Course.exists_of_meet_error h
  obtain ⟨expected, rfl⟩ := Violation.found?_eq_none_iff.mp hv
  have hpeek : s.peek? = none := by rw [← found?_of_error hfail, hv]
  have hused : tokens = used := hc.ahead_eq_of_atEnd hpeek
  have hposition : q.position = s.position := by
    rcases perform_eq_error hfail with ⟨-, hq⟩ | ⟨t, hsome, -⟩
    · exact hq
    · simp [hpeek] at hsome
  refine ⟨expected, q, rfl, ?_, not_derives_of_program_error h, hused ▸ hc.viable⟩
  simp [hposition, hc.position_eq, hused]

/-- A check that fails on sight of a token has taken all tokens before it. -/
theorem holds_misplaced {tokens : List Token} {verbose : Bool} {v : Violation} {q : Reader}
    {t : Token} (h : program (Reader.ofTokens tokens verbose) = .error v q)
    (hv : v.found? = some t) : Ending.misplaced.Holds tokens (.error v q) := by
  obtain ⟨used, g, rest, s, hc, hfail⟩ := Course.exists_of_meet_error h
  have hpeek : s.peek? = some t := by rw [← found?_of_error hfail, hv]
  obtain ⟨later, rfl⟩ : ∃ later, tokens = used ++ t :: later :=
    ⟨s.ahead.tail, by rw [← Reader.ahead_of_peek? hpeek]; exact hc.ahead_eq⟩
  have htake : (used ++ t :: later).take (used.length + 1) = used ++ [t] := by
    rw [List.append_cons]
    exact List.take_left' (by simp)
  have hnot : ¬ Viable (used ++ [t]) := hc.not_viable hpeek hfail
  have hposition := hc.position_of_error hpeek hfail
  simp only [hc.position_eq, Reader.position_ofTokens, Nat.zero_add] at hposition
  refine ⟨v, q, used.length, t, rfl, ?_, ?_, ⟨⟨by simp, by rwa [htake]⟩, ?_⟩, by simp, hv,
    hposition.1, by rw [htake]; exact hposition.2⟩
  · rintro expected rfl
    simp [Violation.found?] at hv
  · intro hviable
    exact hnot (Viable.of_append (b := later) (by simpa using hviable))
  · rintro i ⟨-, hi⟩
    by_contra hlt
    exact hi (viable_take_of_le hc.viable (by omega))

/-- Exactly one of three things is the end of a check: it accepts, and the tokens are a program; it
asks for more behind the last token, and they are a viable beginning of one; or it stops at the
first token that no program has there. -/
theorem program_ending (tokens : List Token) (verbose : Bool) :
    ∃! e : Ending, e.Holds tokens (program (Reader.ofTokens tokens verbose)) := by
  cases h : program (Reader.ofTokens tokens verbose) with
  | ok _ r =>
    refine ⟨.accepted, ⟨⟨r, rfl⟩, (derives_of_program_ok h).1⟩, ?_⟩
    rintro (_ | _ | _) he
    · rfl
    · obtain ⟨expected, q, heq, -⟩ := he
      cases heq
    · obtain ⟨v, q, i, t, heq, -⟩ := he
      cases heq
  | error v q =>
    cases hv : v.found? with
    | none =>
      refine ⟨.cutShort, holds_cutShort h hv, ?_⟩
      rintro (_ | _ | _) he
      · obtain ⟨⟨r, heq⟩, -⟩ := he
        cases heq
      · rfl
      · obtain ⟨v', q', i, t, heq, -, -, -, -, hv', -⟩ := he
        cases heq
        simp [hv] at hv'
    | some t =>
      refine ⟨.misplaced, holds_misplaced h hv, ?_⟩
      rintro (_ | _ | _) he
      · obtain ⟨⟨r, heq⟩, -⟩ := he
        cases heq
      · obtain ⟨expected, q', heq, -⟩ := he
        cases heq
        simp [Violation.found?] at hv
      · rfl

end StatementCheck
