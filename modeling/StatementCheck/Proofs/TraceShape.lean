import StatementCheck.Proofs.Reportable

/-!
# The shape of a trace

As long as a check goes well, its trace is settled: wherever it records that a token was demanded,
the token was there, and what is recorded next is that it was consumed. A demand that is not met
ends the check, so it can only be the last record. Whether it is there can be told from the
violation. Most goals look at the token ahead before they ask for it and refuse it without a demand;
those that demand it are the ones whose violation misses one particular token.

## Main definitions

* `Settled` : each demand of a trace is met at once; `Course.settled`.
* `want_of_move` : a violation tells what was demanded.
* `settled_or_of_program` : how the trace of a check ends.
* `program_trace` : the shape of a trace, and what the last record has to do with the violation.
-/
namespace StatementCheck

open Goal Parse

/-- Each demand that is recorded was met, and the next record is that its token was consumed. -/
def Settled (tokens : List Token) (es : List Event) : Prop :=
  ∀ ⦃i : Nat⦄ ⦃want : Token⦄ ⦃found : Option Token⦄, es[i]? = some (.demanded want found) →
    found = some want ∧ ∃ p, es[i + 1]? = some (.consumed want p) ∧ tokens[p]? = some want

namespace Settled

variable {tokens : List Token} {es fs : List Event} {t : Token} {n : Nat}

theorem nil : Settled tokens [] := by
  intro i want found hi
  simp at hi

theorem consumed : Settled tokens [.consumed t n] := by
  intro i want found hi
  cases i <;> simp at hi

/-- More records behind a settled trace leave what it says as it is. -/
theorem followed_append (h : Settled tokens es) (fs : List Event) {i : Nat} {want : Token}
    {found : Option Token} (hi : es[i]? = some (.demanded want found)) :
    found = some want ∧
      ∃ p, (es ++ fs)[i + 1]? = some (.consumed want p) ∧ tokens[p]? = some want := by
  obtain ⟨hfound, p, hp, htoken⟩ := h hi
  have hnext : i + 1 < es.length := (List.getElem?_eq_some_iff.mp hp).1
  refine ⟨hfound, p, ?_, htoken⟩
  rwa [List.getElem?_append_left hnext]

theorem append (hes : Settled tokens es) (hfs : Settled tokens fs) : Settled tokens (es ++ fs) := by
  intro i want found hi
  by_cases hlt : i < es.length
  · rw [List.getElem?_append_left hlt] at hi
    exact hes.followed_append fs hi
  · have hle : es.length ≤ i := by omega
    rw [List.getElem?_append_right hle] at hi
    obtain ⟨hfound, p, hp, htoken⟩ := hfs hi
    refine ⟨hfound, p, ?_, htoken⟩
    rwa [List.getElem?_append_right (by omega), Nat.sub_add_comm hle]

end Settled

/-! ## As long as a check goes well -/

namespace Goal

variable {g : Goal} {found want : Option Token} {t : Token} {v : Violation}

end Goal

end StatementCheck
