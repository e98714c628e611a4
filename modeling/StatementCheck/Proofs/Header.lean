import StatementCheck.Proofs.Course

/-!
# The header of a loop

A declaration may begin a statement, where its type name has been seen before the declaration is
asked for, or stand in the header of a `for` loop, where it is asked for without a look at the token
ahead. A refused type is met in both places, and what tells them apart is what the check took just
before: `for` and the parenthesis behind it.

## Main definitions

* `Marked` : the only words that a stack asks for by name are marks of punctuation.
* `Header` : where a check stands with respect to the header of a loop.
* `Course.header` : that is told by the last two tokens it took.
-/
namespace StatementCheck

/-- A class that holds neither of the refused types holds none. -/
theorem Token.isRejectedType_eq_false {t : Token} (test : Token → Bool) (h : test t = true)
    (hnone : ∀ u ∈ rejectedTypeNames, test u = false := by decide) :
    t.isRejectedType = false := by
  rw [Bool.eq_false_iff]
  intro hrej
  have hfalse : test t = false := hnone t (List.contains_iff_mem.mp hrej)
  rw [h] at hfalse
  cases hfalse

namespace Goal

/-- The tokens that a goal can be waiting for by name. -/
def marks : List Token := ["(", ")", ";", "=", Token.closeBrace]

/-- Every token that a stack asks for by name is a mark. -/
def Marked (gs : List Goal) : Prop := ∀ w, literal w ∈ gs → w ∈ marks

theorem marked_of_stays {g : Goal} {more : List Goal} (h : Stays g more) : Marked more := by
  cases h <;> simp [Marked]

theorem marked_of_takes {g : Goal} {t : Token} {more : List Goal} (h : Takes g t more) :
    Marked more := by
  induction h with
  | statements _ ih => simpa [Marked] using ih
  | _ => simp [Marked, condition, marks]

theorem Marked.append {gs hs : List Goal} (hg : Marked gs) (hh : Marked hs) : Marked (gs ++ hs) :=
  fun w hw => (List.mem_append.mp hw).elim (hg w) (hh w)

theorem Marked.head {g : Goal} {gs : List Goal} (h : Marked (g :: gs)) : Marked [g] :=
  fun w hw => h w (List.mem_cons.mpr (.inl (List.mem_singleton.mp hw)))

theorem Marked.tail {g : Goal} {gs : List Goal} (h : Marked (g :: gs)) : Marked gs :=
  fun w hw => h w (List.mem_cons_of_mem g hw)

/-- A refused type is never taken. -/
theorem isRejectedType_of_takes {g : Goal} {t : Token} {more : List Goal} (h : Takes g t more)
    (hg : Marked [g]) : t.isRejectedType = false := by
  induction h with
  | @literal want =>
    exact Token.isRejectedType_eq_false marks.contains (by simpa using hg want (by simp))
  | statements _ ih => exact ih (by simp [Marked])
  | identifier h | assigned h | name h => exact Token.isRejectedType_eq_false _ h
  | typed h | declaration h => exact Token.isRejectedType_eq_false _ h
  | comparison h => exact Token.isRejectedType_eq_false _ h
  | moreTerms h => exact Token.isRejectedType_eq_false _ h
  | moreFactors h => exact Token.isRejectedType_eq_false _ h
  | numeral h => exact Token.isRejectedType_eq_false _ h
  | _ => decide

/-- The word `for` is taken where it begins a loop, whose declaration is then to come. -/
theorem more_of_takes_for {g : Goal} {t : Token} {more : List Goal} (h : Takes g t more)
    (hg : Marked [g]) (ht : t = "for") :
    ∃ m, more = literal "(" :: declaration :: m ∧ declaration ∉ m := by
  induction h with
  | literal => subst ht; exact absurd (hg "for" (by simp)) (by decide)
  | statements _ ih =>
    obtain ⟨m, rfl, hm⟩ := ih (by simp [Marked]) ht
    exact ⟨m ++ [.statements], by simp, by simpa using hm⟩
  | forLoop => exact ⟨_, rfl, by simp⟩
  | identifier h | assigned h | name h => subst ht; exact absurd h (by decide)
  | typed h | declaration h => subst ht; exact absurd h (by decide)
  | comparison h => subst ht; exact absurd h (by decide)
  | moreTerms h => subst ht; exact absurd h (by decide)
  | moreFactors h => subst ht; exact absurd h (by decide)
  | numeral h => subst ht; exact absurd h (by decide)
  | _ => exact absurd ht (by decide)

theorem not_mem_of_takes {g : Goal} {t : Token} {more : List Goal} (h : Takes g t more)
    (ht : t ≠ "for") : declaration ∉ more := by
  induction h with
  | forLoop => exact absurd rfl ht
  | statements _ ih => simpa using ih ht
  | _ => simp [condition]

end Goal

open Goal

/-- Where a check stands with respect to the header of a loop, by the tokens it has taken and the
goals it has come to. -/
inductive Header : List Token → List Goal → Prop
  /-- No declaration is to come but one that begins a statement. -/
  | outside {used : List Token} {gs : List Goal} (hgs : declaration ∉ gs)
      (hused : ¬ ["for"] <:+ used) (hused' : ¬ ["for", "("] <:+ used) : Header used gs
  /-- The parenthesis of the header is to come, and the declaration behind it. -/
  | opening {used : List Token} {rest : List Goal} (hused : ["for"] <:+ used)
      (hrest : declaration ∉ rest) : Header used (literal "(" :: declaration :: rest)
  /-- The declaration of the header is to come. -/
  | inside {used : List Token} {rest : List Goal} (hused : ["for", "("] <:+ used)
      (hrest : declaration ∉ rest) : Header used (declaration :: rest)

namespace Header

theorem concat_suffix_concat (l used : List Token) (a t : Token) :
    l ++ [a] <:+ used ++ [t] ↔ l <:+ used ∧ t = a := by
  rw [← List.reverse_prefix, List.reverse_concat, List.reverse_concat, List.cons_prefix_cons,
    List.reverse_prefix, and_comm, eq_comm]

theorem for_suffix_concat {used : List Token} {t : Token} :
    ["for"] <:+ used ++ [t] ↔ t = "for" := by
  simpa using concat_suffix_concat [] used "for" t

theorem for_paren_suffix_concat {used : List Token} {t : Token} :
    ["for", "("] <:+ used ++ [t] ↔ ["for"] <:+ used ∧ t = "(" :=
  concat_suffix_concat ["for"] used "(" t

theorem stay {used : List Token} {g : Goal} {rest more : List Goal} (h : Header used (g :: rest))
    (hs : Stays g more) : Header used (more ++ rest) := by
  have hmore : declaration ∉ more := by cases hs <;> simp
  cases h with
  | outside hgs hused hused' =>
    rw [List.mem_cons, not_or] at hgs
    exact .outside (by simp [hmore, hgs.2]) hused hused'
  | opening => cases hs with | finish hopt => cases hopt
  | inside => cases hs with | finish hopt => cases hopt

theorem take {used : List Token} {g : Goal} {rest more : List Goal} {t : Token}
    (h : Header used (g :: rest)) (hg : Marked [g]) (ht : Takes g t more) :
    Header (used ++ [t]) (more ++ rest) := by
  cases h with
  | outside hgs hused hused' =>
    rw [List.mem_cons, not_or] at hgs
    by_cases hfor : t = "for"
    · obtain ⟨m, rfl, hm⟩ := more_of_takes_for ht hg hfor
      exact .opening (for_suffix_concat.mpr hfor) (by simp [hm, hgs.2])
    · refine .outside (by simp [not_mem_of_takes ht hfor, hgs.2]) ?_ ?_
      · rwa [for_suffix_concat]
      · rw [for_paren_suffix_concat]
        exact fun h => hused h.1
  | opening hused hrest =>
    cases ht
    exact .inside (for_paren_suffix_concat.mpr ⟨hused, rfl⟩) hrest
  | inside hused hrest =>
    cases ht with
    | declaration htype =>
      refine .outside (by simp [hrest]) ?_ ?_
      · rw [for_suffix_concat]
        rintro rfl
        exact absurd htype (by decide)
      · rw [for_paren_suffix_concat]
        rintro ⟨-, rfl⟩
        exact absurd htype (by decide)

end Header

namespace Course

variable {gs hs : List Goal} {r s : Reader} {used : List Token}

theorem marked (h : Course gs r used hs s) (hgs : Marked gs) : Marked hs := by
  induction h with
  | start => exact hgs
  | stay _ hm ih => exact (marked_of_stays (stays_of_move hm).1).append ih.tail
  | take _ hm ih => exact (marked_of_takes (takes_of_move hm).2).append ih.tail

theorem isRejectedType_of_mem (h : Course gs r used hs s) (hgs : Marked gs) :
    ∀ t ∈ used, t.isRejectedType = false := by
  induction h with
  | start => simp
  | stay _ _ ih => exact ih
  | take h hm ih =>
    have ht := isRejectedType_of_takes (takes_of_move hm).2 (h.marked hgs).head
    simpa [or_imp, forall_and] using ⟨ih, ht⟩

theorem header (h : Course [statements] r used hs s) : Header used hs := by
  induction h with
  | start => exact .outside (by simp) (by simp) (by simp)
  | stay _ hm ih => exact ih.stay (stays_of_move hm).1
  | take h hm ih =>
    have hg : Marked [statements] := by simp [Marked]
    exact ih.take (h.marked hg).head (takes_of_move hm).2

end Course

end StatementCheck
