import StatementCheck.Proofs.Locality
import StatementCheck.Proofs.Lockstep

/-!
# Programs one after the other

A program can be followed by anything but an `else` without being seen in another light. At its end
the check is left with the `else` parts of the conditionals that are open there, each of which is
passed over on sight of the end as on sight of any other token; nothing inside an expression is
left, since an expression is always followed by a mark. So the check of what comes behind begins
where the check of the program ends, and it comes to what it comes to alone.

## Main definitions

* `Goal.isInner` : the goals inside an expression.
* `Course.behind` : the check of a program carries over to the program with more tokens behind it.
* `program_append` : the check of a program with more tokens behind it.
-/
namespace StatementCheck

open Goal Parse

namespace Goal

/-- The goals of an expression but for its tokens. -/
def isInner : Goal → Bool
  | expression | comparison | boundary | sum | moreTerms | term | moreFactors => true
  | _ => false

/-- Behind a goal inside an expression comes another one, or the mark that ends the expression. -/
theorem isInner_or_literal_of_precedes {g k : Goal} (hg : g.isInner = true) (h : Precedes g k) :
    k.isInner = true ∨ ∃ t, k = literal t := by
  cases g with
  | expression | boundary =>
    obtain ⟨t, rfl, -⟩ := h
    exact .inr ⟨t, rfl⟩
  | comparison | term | moreFactors =>
    cases h
    exact .inl rfl
  | sum | moreTerms =>
    rcases h with rfl | rfl
    · exact .inl rfl
    · exact .inl rfl
  | _ => cases hg

/-- At the end of a program no expression is open. -/
theorem not_mem_statements_of_isInner {g : Goal} {rest : List Goal} (hp : Placed (g :: rest))
    (hg : g.isInner = true) (h : AllMetBy rest []) : statements ∉ rest := by
  induction rest generalizing g with
  | nil => simp
  | cons k rest ih =>
    obtain ⟨a, b, heq, ha, hb⟩ := h
    obtain ⟨rfl, rfl⟩ : a = [] ∧ b = [] := by simpa [eq_comm] using heq
    rcases isInner_or_literal_of_precedes hg hp.precedes with hk | ⟨t, rfl⟩
    · have hne : k ≠ statements := by
        rintro rfl
        cases hk
      simp [hne.symm, ih hp.tail hk hb]
    · cases ha

/-- A goal that is passed over at the end of a program is the `else` part of a conditional, unless
it looks for statements. -/
theorem eq_of_stays_of_allMetBy_nil {g : Goal} {rest more : List Goal} (hs : Stays g more)
    (hp : Placed (g :: rest)) (hmem : statements ∈ g :: rest) (h : AllMetBy rest []) :
    g = alternative ∨ g = statements := by
  by_cases hg : g.isInner = true
  · have hrest := not_mem_statements_of_isInner hp hg h
    rw [List.mem_cons] at hmem
    exact .inr (hmem.resolve_right hrest).symm
  · cases hs with
    | finish hopt => cases g <;> simp_all [isInner, isOptional]
    | _ => exact absurd rfl hg

end Goal

namespace Course

variable {hs : List Goal} {r s : Reader} {used first later : List Token} {verbose : Bool}

theorem position_le (h : Course [statements] (.ofTokens first verbose) used hs s) :
    s.position ≤ first.length := by
  have hposition := h.position_eq
  have hlength := congrArg List.length h.ahead_eq
  simp only [Reader.position_ofTokens, Reader.ahead_ofTokens, List.length_append] at *
  omega

theorem peek?_behind (h : Course [statements] (.ofTokens first verbose) used hs s)
    (later : List Token) :
    (s.withTokens (first ++ later)).peek? = s.peek? ∨
      s.peek? = none ∧ (s.withTokens (first ++ later)).peek? = later.head? := by
  have htokens := h.tokens_eq
  rw [Reader.peek?_withTokens, Reader.peek?, htokens]
  rcases Nat.lt_or_eq_of_le h.position_le with hlt | heq
  · exact .inl (by simp [List.getElem?_append_left hlt])
  · refine .inr ⟨by simp [heq], ?_⟩
    rw [heq, List.getElem?_append_right le_rfl, Nat.sub_self, List.head?_eq_getElem?]

/-- The check of a program carries over to the program with more tokens behind it, unless these
begin with an `else`. -/
theorem behind (h : Course [statements] (.ofTokens first verbose) used hs s)
    (helse : later.head? ≠ some "else") (hne : hs ≠ []) (hend : s.peek? = none → AllMetBy hs []) :
    Course [statements] (.ofTokens (first ++ later) verbose) used hs
      (s.withTokens (first ++ later)) := by
  -- By induction on the run. What the two runs see differs at the end of the program alone, and
  -- there the goals that are left are met by nothing.
  induction h with
  | start => exact .start
  | @stay used g rest more s h hm ih =>
    have hstays := (stays_of_move hm).1
    have hcourse := ih (by simp) fun hpeek => by
      obtain ⟨a, b, heq, ha, hb⟩ := Goal.allMetBy_append.mp (hend hpeek)
      rw [heq]
      exact .cons (metBy_of_stays hstays ha) hb
    rcases h.peek?_behind later with hpeek | ⟨hnone, hpeek⟩
    · exact .stay hcourse (hpeek ▸ hm)
    · have hp := h.placed placed_statements
      have hmem : statements ∈ g :: rest := by
        rcases h.bottom with ⟨front, heq⟩ | ⟨heq, -⟩
        · simp [heq]
        · cases heq
      obtain ⟨a, b, heq, -, hb⟩ := Goal.allMetBy_append.mp (hend hnone)
      obtain ⟨rfl, rfl⟩ : a = [] ∧ b = [] := by simpa [eq_comm] using heq
      rcases eq_of_stays_of_allMetBy_nil hstays hp hmem hb with rfl | rfl
      · refine .stay hcourse (move_of_stays hstays fun t ht => ?_)
        rw [hpeek] at ht
        simp only [goesOn, beq_eq_false_iff_ne]
        rintro rfl
        exact helse ht
      · obtain rfl := hp.eq_nil_of_statements
        cases hstays
        exact absurd rfl hne
  | @take used g rest more s t named h hm ih =>
    have ht := (takes_of_move hm).1
    have hcourse := ih (by simp) fun hpeek => by simp [ht] at hpeek
    rw [Reader.withTokens_consume]
    rcases h.peek?_behind later with hpeek | ⟨hnone, -⟩
    · exact .take hcourse (hpeek ▸ hm)
    · simp [ht] at hnone

end Course

end StatementCheck
