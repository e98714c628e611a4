import StatementCheck.Proofs.Reportable

/-!
# What a message tells

A message puts the token that it names between two fixed texts, as it is and without any escape. So
messages of conceivable violations can be the same. Those of violations that are reported cannot: of
the texts with which they open, none is the beginning of another one. Whatever the token, the
opening shows what kind of violation it is, and what stands before the closing text is the token.

## Main definitions

* `Violation.opening`, `Violation.closing` : the fixed texts of a message.
* `Violation.form`, `Violation.forms` : a violation without its token, and those that are reported.
* `firstViolation?_of_message_eq` : a message identifies the violation.
-/
namespace StatementCheck

open Goal Parse

namespace Violation

/-! ## The parts of a message -/

/-- The text up to the token that a violation names; the whole text if it names none. -/
def opening : Violation → String
  | endOfInput expected => (endOfInput expected).complaint
  | mismatch expected _ => "Expected " ++ oneOf expected ++ ", found '"
  | wrongCategory category _ => "Expected " ++ category.name ++ ", found '"
  | noAlternative .statement _ => "Unexpected token for statement: '"
  | noAlternative .factor _ => "Unexpected factor: '"
  | numberAsIdentifier _ => "Expected identifier, found number '"
  | unsupportedType _ => "Invalid type '"
  | trailingOperator _ => "Unexpected operator in expression: '"

/-- The text behind the token that a violation names. -/
def closing : Violation → String
  | endOfInput _ => ""
  | unsupportedType _ => "', allowed: " ++ ", ".intercalate Token.typeNames
  | _ => "'"

/-- A violation without the token that it names. -/
def form : Violation → Violation
  | endOfInput expected => endOfInput expected
  | mismatch expected _ => mismatch expected ""
  | wrongCategory category _ => wrongCategory category ""
  | noAlternative rule _ => noAlternative rule ""
  | numberAsIdentifier _ => numberAsIdentifier ""
  | unsupportedType _ => unsupportedType ""
  | trailingOperator _ => trailingOperator ""

theorem complaint_eq (v : Violation) :
    v.complaint = v.opening ++ v.found?.getD "" ++ v.closing := by
  cases v with
  | endOfInput expected => simp [opening, closing, found?]
  | noAlternative rule found => cases rule <;> rfl
  | unsupportedType found =>
    exact String.append_assoc
  | _ => rfl

theorem opening_form (v : Violation) : v.form.opening = v.opening := by
  cases v with
  | noAlternative rule found => cases rule <;> rfl
  | _ => rfl

theorem closing_form (v : Violation) : v.form.closing = v.closing := by
  cases v <;> rfl

theorem eq_of_form_eq {v w : Violation} (hform : v.form = w.form)
    (hfound : v.found?.getD "" = w.found?.getD "") : v = w := by
  cases v <;> cases w <;> simp_all [form, found?]

/-! ## The violations that are reported -/

/-- The violations that are reported, without the tokens that they name. -/
def forms : List Violation :=
  ([] :: lists).map endOfInput ++ lists.map (mismatch · "") ++
    [wrongCategory .type "", wrongCategory .identifier "", noAlternative .statement "",
      noAlternative .factor "", numberAsIdentifier "", unsupportedType "", trailingOperator ""]

theorem Reportable.form_mem_forms {v : Violation} (h : v.Reportable) : v.form ∈ forms := by
  cases v with
  | endOfInput expected =>
    have hmem : expected ∈ [] :: lists := List.mem_cons.mpr h
    simp only [forms, form, List.mem_append]
    exact .inl (.inl (List.mem_map_of_mem hmem))
  | mismatch expected found =>
    simp only [forms, form, List.mem_append]
    exact .inl (.inr (List.mem_map_of_mem h.1))
  | wrongCategory category found =>
    cases category with
    | type | identifier => simp [forms, form]
    | number | comparison => exact h.elim
  | noAlternative rule found => cases rule <;> simp [forms, form]
  | _ => simp [forms, form]

/-- Of the texts with which a message opens, none is the beginning of another one. -/
theorem eq_of_nested_openings : ∀ v ∈ forms, ∀ w ∈ forms,
    v.opening.toList <+: w.opening.toList → v = w := by
  decide +kernel

/-- Violations that are reported have messages of their own. -/
theorem Reportable.eq_of_message_eq {v w : Violation} (hv : v.Reportable) (hw : w.Reportable)
    (h : v.message = w.message) : v = w := by
  have htexts : v.opening.toList ++ ((v.found?.getD "").toList ++ v.closing.toList) =
      w.opening.toList ++ ((w.found?.getD "").toList ++ w.closing.toList) := by
    have hlists := congrArg String.toList h
    simpa [message, complaint_eq, List.append_assoc] using hlists
  -- Both openings begin the same text, so one of them begins the other.
  have hform : v.form = w.form := by
    have hprefix := List.prefix_or_prefix_of_prefix (List.prefix_append v.opening.toList _)
      (htexts ▸ List.prefix_append w.opening.toList _)
    rw [← opening_form v, ← opening_form w] at hprefix
    rcases hprefix with hprefix | hprefix
    · exact eq_of_nested_openings _ hv.form_mem_forms _ hw.form_mem_forms hprefix
    · exact (eq_of_nested_openings _ hw.form_mem_forms _ hv.form_mem_forms hprefix).symm
  have hopening : v.opening = w.opening := by
    rw [← opening_form v, hform, opening_form]
  have hclosing : v.closing = w.closing := by
    rw [← closing_form v, hform, closing_form]
  rw [hopening, hclosing] at htexts
  have hfound := List.append_cancel_right (List.append_cancel_left htexts)
  exact eq_of_form_eq hform (String.toList_injective hfound)

end Violation

/-! ## What a check says -/

theorem reportable_of_firstViolation? {tokens : List Token} {v : Violation}
    (h : firstViolation? tokens = some v) : v.Reportable := by
  have herror : replyOf (program (Reader.ofTokens tokens false)) = .error v :=
    outcome_statements_eq_error_iff.mpr h
  obtain ⟨q, hq⟩ := replyOf_eq_error_iff.mp herror
  obtain ⟨g, found, hfails⟩ := exists_fails_of_program_error hq
  exact hfails.reportable

/-- If the checks of two sequences of tokens end in the same message, they have found the same
violation, with the same expectation and the same token, whatever characters that token has. -/
theorem firstViolation?_of_message_eq {tokens others : List Token} {v w : Violation}
    (hv : firstViolation? tokens = some v) (hw : firstViolation? others = some w)
    (h : v.message = w.message) : v = w :=
  (reportable_of_firstViolation? hv).eq_of_message_eq (reportable_of_firstViolation? hw) h

/-- A token may look like the end of a message and the beginning of another one. -/
theorem firstViolation?_of_message_eq_quoted :
    ∃ v w, firstViolation? ["x", "', found '="] = some v ∧
      firstViolation? ["y", "', found '=", ";"] = some w ∧
      v.message = "Syntax error: Expected '=', found '', found '='" ∧
      w.message = v.message ∧ w = v := by
  have hv : firstViolation? ["x", "', found '="] =
      some (.mismatch ["="] "', found '=") := by cbv
  have hw : firstViolation? ["y", "', found '=", ";"] =
      some (.mismatch ["="] "', found '=") := by cbv
  exact ⟨_, _, hv, hw, by decide, rfl, firstViolation?_of_message_eq hw hv rfl⟩

/-- Violations that no check reports may share a message. -/
example : (Violation.mismatch ["a", "b"] "x").message =
    (Violation.mismatch ["a' or 'b"] "x").message := by decide

end StatementCheck
