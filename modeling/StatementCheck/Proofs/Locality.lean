import StatementCheck.Proofs.Prefix

/-!
# Locality of a failure

A check that fails on sight of a token has looked at that token and those before it and at nothing
else, not even at whether there is more. So the failure is the same on any tokens that begin alike,
down to where the reader stands and what it has recorded.

Two runs are compared by giving the reader of one the tokens of the other: every stack that the
first run passes through is then passed through by the second.

## Main definitions

* `Reader.withTokens` : a reader with other tokens under it.
* `Course.withTokens` : a run carries over to tokens that agree as far as it has looked.
* `Violation.offender` : the index of the token that a violation names.
* `program_local` : what follows that token makes no difference.
-/
namespace StatementCheck

open Goal Parse

namespace Reader

/-- The reader with other tokens under it, at the same position and with the same trace. -/
def withTokens (r : Reader) (tokens : List Token) : Reader := { r with tokens := tokens.toArray }

theorem withTokens_ofTokens (us tokens : List Token) (verbose : Bool) :
    (ofTokens us verbose).withTokens tokens = ofTokens tokens verbose := rfl

theorem peek?_withTokens (r : Reader) (tokens : List Token) :
    (r.withTokens tokens).peek? = tokens[r.position]? := by
  simp [peek?, withTokens]

theorem withTokens_note (r : Reader) (e : Event) (tokens : List Token) :
    (r.note e).withTokens tokens = (r.withTokens tokens).note e := by
  cases hv : r.verbose <;> simp [note, withTokens, hv]

theorem withTokens_skip (r : Reader) (t : Token) (tokens : List Token) :
    (r.skip t).withTokens tokens = (r.withTokens tokens).skip t := by
  cases hv : r.verbose <;> simp [skip, note, withTokens, hv]

theorem withTokens_consume (r : Reader) (named : Bool) (t : Token) (tokens : List Token) :
    (r.consume named t).withTokens tokens = (r.withTokens tokens).consume named t := by
  cases named with
  | false => exact r.withTokens_skip t tokens
  | true =>
    simp only [consume, if_true]
    rw [withTokens_skip, withTokens_note]

theorem withTokens_miss {r : Reader} {tokens : List Token}
    (h : (r.withTokens tokens).peek? = r.peek?) (want : Option Token) :
    (r.miss want).withTokens tokens = (r.withTokens tokens).miss want := by
  cases want with
  | none => rfl
  | some want =>
    simp only [miss, h]
    exact r.withTokens_note _ tokens

end Reader

/-- A failing move fails in the same way over tokens that have the same one ahead. -/
theorem Move.perform_withTokens {m : Move} {r q : Reader} {v : Violation} {tokens : List Token}
    (hpeek : (r.withTokens tokens).peek? = r.peek?) (h : m.perform r = .error v q) :
    m.perform (r.withTokens tokens) = .error v (q.withTokens tokens) := by
  cases m with
  | refuse want v' =>
    cases h
    rw [perform, Reader.withTokens_miss hpeek]
  | spoil t v' =>
    cases h
    rw [perform, Reader.withTokens_skip]
  | _ => cases h

namespace Course

variable {gs hs : List Goal} {r s : Reader} {used tokens : List Token}

/-- Over tokens that agree up to its position, the reader that a run has come to sees the same
token ahead. -/
theorem peek?_withTokens (h : Course gs r used hs s)
    (hsame : ∀ i ≤ s.position, tokens[i]? = r.tokens[i]?) :
    (s.withTokens tokens).peek? = s.peek? := by
  rw [Reader.peek?_withTokens, hsame s.position le_rfl, ← h.tokens_eq]
  rfl

/-- A run carries over to tokens that agree as far as it has looked: up to the position it has come
to, that position included. -/
theorem withTokens (h : Course gs r used hs s)
    (hsame : ∀ i ≤ s.position, tokens[i]? = r.tokens[i]?) :
    Course gs (r.withTokens tokens) used hs (s.withTokens tokens) := by
  induction h with
  | start => exact .start
  | stay h hm ih => exact .stay (ih hsame) (h.peek?_withTokens hsame ▸ hm)
  | @take used g rest more s t named h hm ih =>
    rw [Reader.position_consume] at hsame
    have hsame' : ∀ i ≤ s.position, tokens[i]? = r.tokens[i]? := fun i hi => hsame i (by omega)
    rw [Reader.withTokens_consume]
    exact .take (ih hsame') (h.peek?_withTokens hsame' ▸ hm)

end Course

/-- The index of the token that a violation names, by where the reader is left. A token of the wrong
class has been consumed, and so has a refused type if it is the last token before the reader. -/
def Violation.offender (v : Violation) (tokens : List Token) (position : Nat) : Nat :=
  match v with
  | wrongCategory _ _ => position - 1
  | unsupportedType t =>
      if (tokens.take position).getLast? = some t then position - 1 else position
  | _ => position

theorem Goal.Refuses.isRejectedType {g : Goal} {found : Option Token} {t : Token}
    (h : Refuses g found (.unsupportedType t)) : t.isRejectedType = true := by
  cases h with
  | rejectedType h => exact h
  | statements h => cases h with | rejectedType h => exact h

/-- The token that a violation names is the one that the last goal looked at. -/
theorem Course.offender_eq {g : Goal} {rest : List Goal} {r s q : Reader} {v : Violation}
    {used : List Token} (h : Course [statements] r used (g :: rest) s) (hr : r.position = 0)
    (hfail : (g.move s.peek?).perform s = .error v q) :
    v.offender r.tokens.toList q.position = s.position := by
  have hused := h.take_position hr
  rcases perform_eq_error hfail with ⟨hrefuses, hq⟩ | ⟨t, hpeek, hspoils, hq⟩
  -- A refused type that was only seen is not the last token taken, since no refused type is taken.
  · cases v with
    | wrongCategory c t => exact absurd rfl (hrefuses.ne_wrongCategory c t)
    | unsupportedType t =>
      have hlast : used.getLast? ≠ some t := by
        intro hlast
        have hrej := h.isRejectedType_of_mem (by simp [Marked]) t (List.mem_of_getLast? hlast)
        simp [hrefuses.isRejectedType] at hrej
      simp [Violation.offender, hq, hused, hlast]
    | _ => exact hq
  · have htake : r.tokens.toList.take q.position = used ++ [t] := by
      rw [hq, List.take_add_one, hused, Array.getElem?_toList, ← h.tokens_eq]
      exact congrArg (used ++ ·.toList) hpeek
    have hlast : (r.tokens.toList.take q.position).getLast? = some t := by simp [htake]
    have hbefore : q.position - 1 = s.position := by omega
    cases hspoils <;> simp [Violation.offender, hlast, hbefore]

/-- A check that fails on sight of a token fails in the same way on all tokens that begin alike, up
to that token: with the same violation, at the same position and with the same trace. -/
theorem program_local {tokens : List Token} {verbose : Bool} {v : Violation} {r : Reader}
    (h : program (Reader.ofTokens tokens verbose) = .error v r) :
    tokens[v.offender tokens r.position]? = v.found? ∧
      ∀ others : List Token,
        others.take (v.offender tokens r.position + 1) =
            tokens.take (v.offender tokens r.position + 1) →
          ∃ s, program (Reader.ofTokens others verbose) = .error v s ∧
            s.position = r.position ∧ s.trace = r.trace := by
  obtain ⟨used, g, rest, s, hc, hfail⟩ := Course.exists_of_meet_error h
  have hoffender : v.offender tokens r.position = s.position := hc.offender_eq rfl hfail
  rw [hoffender]
  refine ⟨?_, fun others hothers => ?_⟩
  · rw [found?_of_error hfail, Reader.peek?, hc.tokens_eq]
    simp
  · have hsame : ∀ i ≤ s.position, others[i]? = tokens[i]? := by
      intro i hi
      rw [← List.getElem?_take_of_lt (Nat.lt_succ_of_le hi), hothers,
        List.getElem?_take_of_lt (Nat.lt_succ_of_le hi)]
    have hsame' : ∀ i ≤ s.position, others[i]? = (Reader.ofTokens tokens verbose).tokens[i]? := by
      simpa using hsame
    have hcourse := hc.withTokens hsame'
    rw [Reader.withTokens_ofTokens] at hcourse
    refine ⟨r.withTokens others, hcourse.meet_eq_error ?_, rfl, rfl⟩
    have hpeek := hc.peek?_withTokens hsame'
    rw [hpeek]
    exact Move.perform_withTokens hpeek hfail

/-- A refused type in the header of a loop is the same failure with nothing behind it. -/
theorem program_local_header :
    ∃ r s, program (Reader.ofTokens ["for", "(", "float", "x", ";"] true) =
        .error (.unsupportedType "float") r ∧
      program (Reader.ofTokens ["for", "(", "float"] true) = .error (.unsupportedType "float") s ∧
      s.position = 3 ∧ s.trace = r.trace := by
  have h : program (Reader.ofTokens ["for", "(", "float", "x", ";"] true) =
      .error (.unsupportedType "float")
        ⟨#["for", "(", "float", "x", ";"], 3, true,
          #[.demanded "for" (some "for"), .consumed "for" 0, .demanded "(" (some "("),
            .consumed "(" 1, .consumed "float" 2]⟩ := by cbv
  obtain ⟨s, hs, hposition, htrace⟩ := (program_local h).2 ["for", "(", "float"] rfl
  exact ⟨_, s, h, hs, hposition, htrace⟩

end StatementCheck
