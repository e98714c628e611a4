import StatementCheck.Proofs.Reportable

/-!
# Where an expression ends

An expression is read from wherever a reader stands, with any tokens behind it. It ends where the
grammar lets one end and no operator follows, and there is one such place at most: a longer
expression would have to go on with an operator, since nothing else goes on with an expression.
Shorter ones there may be, but each of them is followed by an operator.

Nothing is known here of the goals that come next, while what a check accepts has been settled for
whole stacks of goals. So the tokens behind are asked for one by one: a stack with them in the place
of the next goals is met by the expression and just these tokens.

## Main definitions

* `Goal.meet_of_allMetBy` : goals are met by the tokens that meet them, and no further.
* `Goal.excludes_of_meet_ok` : what is not ahead once a goal has been met.
* `Reader.SpansExpression`, `Reader.EndsExpression` : where an expression may end, and where one
  does.
* `expression_exact` : an expression is read exactly if it ends somewhere, and up to there.
-/
namespace StatementCheck

open Goal Parse

namespace Goal

/-! ## Tokens asked for one by one -/

theorem allMetBy_literals {w u : List Token} : AllMetBy (w.map literal) u ↔ u = w := by
  induction w generalizing u with
  | nil => rfl
  | cons t w ih =>
    constructor
    · rintro ⟨_, b, rfl, rfl, hb⟩
      rw [ih.mp hb]
      rfl
    · rintro rfl
      exact .literal (ih.mpr rfl)

theorem placed_literals (w : List Token) : Placed (w.map literal) := by
  induction w with
  | nil => exact .nil
  | cons t w ih => exact List.isChain_cons.mpr ⟨fun _ _ => trivial, ih⟩

/-- Before any tokens but an operator, an expression is placed as the grammar places it. -/
theorem placed_expression_literals {w : List Token} (h : ∀ t ∈ w.head?, t.isOperator = false) :
    Placed (expression :: w.map literal) := by
  refine List.isChain_cons.mpr ⟨fun k hk => ?_, placed_literals w⟩
  cases w with
  | nil => simp at hk
  | cons t w =>
    obtain rfl : literal t = k := by simpa using hk
    exact ⟨t, rfl, h t rfl⟩

/-- Goals are met by the tokens that meet them, and no others are taken: whatever is behind, if it
may follow the goals token by token. -/
theorem meet_of_allMetBy {gs : List Goal} {r : Reader} {a b : List Token}
    (hp : Placed (gs ++ b.map literal)) (ha : AllMetBy gs a) (hahead : r.ahead = a ++ b) :
    ∃ s, meet gs r = .ok () s ∧ s.position = r.position + a.length := by
  have hall : AllMetBy (gs ++ b.map literal) r.ahead :=
    hahead ▸ ha.append (allMetBy_literals.mpr rfl)
  cases h : meet gs r with
  | error v q =>
    obtain ⟨used, g, rest, s, hc, hfail⟩ := Course.exists_of_meet_error h
    have hnot := (hc.append (b.map literal)).not_allMetBy_of_error hp hfail (Reader.head?_ahead s)
    rw [← hc.ahead_eq] at hnot
    exact absurd hall hnot
  | ok _ s =>
    obtain ⟨used, hc⟩ := Course.exists_of_meet_ok h
    have hrest : AllMetBy (b.map literal) s.ahead :=
      (hc.append (b.map literal)).allMetBy_of_append hp (hc.ahead_eq ▸ hall) (Reader.head?_ahead s)
    have hused : used ++ b = a ++ b := by
      rw [← hahead, hc.ahead_eq, allMetBy_literals.mp hrest]
    refine ⟨s, rfl, ?_⟩
    rw [hc.position_eq, List.append_cancel_right hused]

/-! ## What is left ahead -/

/-- What is never ahead once a goal has been met is what some goal would shun. -/
theorem exists_shuns_eq_excludes (g : Goal) : ∃ k : Goal, ∀ t, k.shuns t = g.excludes t := by
  cases g with
  | expression | boundary => exact ⟨literal ";", fun _ => rfl⟩
  | sum | moreTerms | comparison => exact ⟨comparison, fun _ => rfl⟩
  | term | moreFactors => exact ⟨moreTerms, fun _ => rfl⟩
  | _ => exact ⟨factor, fun _ => rfl⟩

/-- Once a goal has been met, what it excludes is not ahead. -/
theorem excludes_of_meet_ok {g : Goal} {r s : Reader} (h : meet [g] r = .ok () s)
    (hstart : ∀ t ∈ r.peek?, g.shuns t = false) : ∀ t ∈ s.peek?, g.excludes t = false := by
  intro t ht
  obtain ⟨k, hk⟩ := exists_shuns_eq_excludes g
  obtain ⟨used, hc⟩ := Course.exists_of_meet_ok h
  have hchain : [g, k].IsChain Clears := by
    simpa [Clears] using fun u hu => (hk u).symm.trans hu
  have hclear := (hc.append [k]).clear hchain (by rintro _ ⟨⟩; exact hstart)
  rw [← hk t]
  exact hclear k rfl t ht

end Goal

/-! ## Expressions -/

/-- An expression is read to its end, unless an operator is behind it. -/
theorem meet_expression {r : Reader} {a b : List Token} (ha : Phrase.expression.Derives a)
    (hop : ∀ t ∈ b.head?, t.isOperator = false) (hahead : r.ahead = a ++ b) :
    ∃ s, meet [expression] r = .ok () s ∧ s.position = r.position + a.length := by
  have hmet : AllMetBy [expression] a := allMetBy_singleton.mpr ha
  exact meet_of_allMetBy (placed_expression_literals hop) hmet hahead

theorem not_derives_expression_nil : ¬ Phrase.expression.Derives [] := by
  intro h
  obtain ⟨s, hs, -⟩ := meet_expression (r := Reader.ofTokens [] false) (b := []) h (by simp) rfl
  have hend : meet [expression] (Reader.ofTokens [] false) =
      .error (.endOfInput []) (Reader.ofTokens [] false) := by cbv
  rw [hend] at hs
  cases hs

/-- Where an expression goes on behind another one, it goes on with an operator. -/
theorem eq_nil_of_derives_append {a c : List Token} (ha : Phrase.expression.Derives a)
    (hac : Phrase.expression.Derives (a ++ c)) (hop : ∀ t ∈ c.head?, t.isOperator = false) :
    c = [] := by
  -- The same check stops in front of these tokens and behind them.
  let r := Reader.ofTokens (a ++ c) false
  obtain ⟨s, hs, hshort⟩ := meet_expression (r := r) ha hop rfl
  obtain ⟨s', hs', hlong⟩ :=
    meet_expression (r := r) hac (b := []) (by simp) (List.append_nil _).symm
  obtain rfl : s = s' := by
    rw [hs] at hs'
    cases hs'
    rfl
  rw [hshort, List.length_append] at hlong
  exact List.length_eq_zero_iff.mp (by omega)

namespace Reader

/-- The tokens from where the reader stands up to the position `q` are an expression. -/
def SpansExpression (r : Reader) (q : Nat) : Prop :=
  r.position < q ∧ q ≤ r.tokens.size ∧
    Phrase.expression.Derives (r.tokens.extract r.position q).toList

/-- The tokens up to the position `q` are an expression, and what is there is no operator. -/
def EndsExpression (r : Reader) (q : Nat) : Prop :=
  r.SpansExpression q ∧ ∀ t ∈ r.tokens[q]?, t.isOperator = false

variable {r s : Reader} {q q' : Nat}

theorem ahead_eq_extract_append (h : r.position ≤ q) :
    r.ahead = (r.tokens.extract r.position q).toList ++ r.tokens.toList.drop q := by
  have hq : r.tokens.toList.drop q = (r.tokens.toList.drop r.position).drop (q - r.position) := by
    rw [List.drop_drop, Nat.add_sub_cancel' h]
  rw [Array.toList_extract, List.extract_eq_take_drop, hq, List.take_append_drop]
  rfl

theorem length_extract (h : q ≤ r.tokens.size) :
    (r.tokens.extract r.position q).toList.length = q - r.position := by
  rw [Array.length_toList, Array.size_extract, Nat.min_eq_left h]

/-- Where an expression ends, it is read up to there. -/
theorem EndsExpression.meet_eq (h : r.EndsExpression q) :
    ∃ s, meet [expression] r = .ok () s ∧ s.position = q := by
  obtain ⟨⟨hlt, hle, hd⟩, hop⟩ := h
  obtain ⟨s, hs, hposition⟩ := meet_expression hd (by simpa using hop)
    (ahead_eq_extract_append hlt.le)
  refine ⟨s, hs, ?_⟩
  rw [hposition, length_extract hle]
  omega

/-- Where reading an expression comes to, the expression ends. -/
theorem endsExpression_of_meet_ok (h : meet [expression] r = .ok () s) :
    r.EndsExpression s.position := by
  obtain ⟨used, hc⟩ := Course.exists_of_meet_ok h
  have hd : Phrase.expression.Derives used := by
    have hmet := hc.allMetBy_append (w := []) rfl
    rw [List.append_nil] at hmet
    exact allMetBy_singleton.mp hmet
  have hpositive : used ≠ [] := by
    rintro rfl
    exact not_derives_expression_nil hd
  have hlength := List.length_pos_iff.mpr hpositive
  have hposition := hc.position_eq
  have hahead := congrArg List.length hc.ahead_eq
  rw [length_ahead, List.length_append, remaining] at hahead
  have hle : s.position ≤ r.tokens.size := by omega
  have hextract : (r.tokens.extract r.position s.position).toList = used := by
    have hsplit := ahead_eq_extract_append (r := r) (q := s.position) (by omega)
    rw [hc.ahead_eq] at hsplit
    have hequal : used.length = (r.tokens.extract r.position s.position).toList.length := by
      rw [length_extract hle]
      omega
    exact (List.append_inj_left hsplit hequal).symm
  have hclear := excludes_of_meet_ok h (fun _ _ => rfl)
  rw [peek?, hc.tokens_eq] at hclear
  exact ⟨⟨by omega, hle, hextract ▸ hd⟩, hclear⟩

/-- No longer expression begins where one that ends does. -/
theorem EndsExpression.not_spans (h : r.EndsExpression q) (hlt : q < q') :
    ¬ r.SpansExpression q' := by
  rintro ⟨-, hle', hd'⟩
  obtain ⟨⟨hq, -, hd⟩, hop⟩ := h
  have hsplit : (r.tokens.extract r.position q').toList =
      (r.tokens.extract r.position q).toList ++ (r.tokens.extract q q').toList := by
    rw [← Array.toList_append, Array.extract_append_extract, Nat.min_eq_left hq.le,
      Nat.max_eq_right hlt.le]
  rw [hsplit] at hd'
  have hnil : (r.tokens.extract q q').toList = [] := by
    refine eq_nil_of_derives_append hd hd' fun t ht => hop t ?_
    have hpositive : q' - q ≠ 0 := by omega
    simpa [List.head?_take, hpositive] using ht
  have hlength := congrArg List.length hnil
  rw [Array.length_toList, Array.size_extract, Nat.min_eq_left hle', List.length_nil] at hlength
  omega

end Reader

/-- An expression is read exactly if there is a place where one ends that begins where the reader
stands, with no operator behind it. There is one such place then, the expression is read up to it,
and no longer expression begins where the reader stood. -/
theorem expression_exact (r : Reader) :
    ((∃ s, meet [expression] r = .ok () s) ↔ ∃ q, r.EndsExpression q) ∧
      ∀ q, r.EndsExpression q →
        (∀ q', r.EndsExpression q' → q' = q) ∧
        (∃ s, meet [expression] r = .ok () s ∧ s.position = q) ∧
        ∀ q', q < q' → ¬ r.SpansExpression q' := by
  refine ⟨⟨?_, ?_⟩, fun q hq => ⟨fun q' hq' => ?_, hq.meet_eq, fun q' hlt => hq.not_spans hlt⟩⟩
  · rintro ⟨s, hs⟩
    exact ⟨s.position, Reader.endsExpression_of_meet_ok hs⟩
  · rintro ⟨q, hq⟩
    obtain ⟨s, hs, -⟩ := hq.meet_eq
    exact ⟨s, hs⟩
  · obtain ⟨s, hs, rfl⟩ := hq.meet_eq
    obtain ⟨s', hs', rfl⟩ := hq'.meet_eq
    rw [hs] at hs'
    cases hs'
    rfl

/-- The right side of an assignment ends in front of its `;`, though a factor and a product that
begin where it does are expressions of their own. -/
theorem expression_exact_comparison :
    let r : Reader :=
      ⟨#["x", "=", "(", "a", "+", "1", ")", "*", "b", "<", "2", ";", "y"], 2, false, #[]⟩
    r.EndsExpression 11 ∧ (∀ q, r.EndsExpression q → q = 11) ∧
      (∃ s, meet [expression] r = .ok () s ∧ s.position = 11) ∧
      ∀ q, 11 < q → ¬ r.SpansExpression q := by
  intro r
  have hrun : meet [expression] r = .ok () { r with position := 11 } := by cbv
  have hend : r.EndsExpression 11 := Reader.endsExpression_of_meet_ok hrun
  exact ⟨hend, (expression_exact r).2 11 hend⟩

end StatementCheck
