import StatementCheck.Proofs.Prefix

/-!
# What was expected

A violation lists what would have been right in place of the token found. By the time the check
notices the mistake it has passed over goals that need not have been met: another term, the other
side of a comparison, an `else`. So the list is everything that may stand there but for the tokens
that go on with a phrase which could also end, and those are the same for every list.

Where a class of tokens is asked for nothing has been passed over, and the class is exactly what may
stand there.

## Main definitions

* `Violation.expected` : the literal tokens that a violation lists.
* `Token.Continues` : the tokens that go on with a phrase which could also end.
* `program_expected` : what is listed may stand there, and nothing else but what continues.
-/
namespace StatementCheck

open Goal Parse

/-- The literal tokens that a violation lists. -/
def Violation.expected : Violation → List Token
  | endOfInput expected | mismatch expected _ => expected
  | _ => []

/-- A token that goes on with a phrase which could also end before it. -/
def Token.Continues (t : Token) : Prop :=
  t ∈ ["+", "-", "*", "/"] ∨ t.isComparison = true ∨ t = "else"

instance (t : Token) : Decidable t.Continues :=
  inferInstanceAs (Decidable (_ ∨ _ ∨ _))

namespace Goal

theorem Stays.unique {g : Goal} {more more' : List Goal} (h : Stays g more)
    (h' : Stays g more') : more = more' := by
  cases h with
  | expression | sum | term =>
    cases h' with
    | finish hopt => cases hopt
    | _ => rfl
  | finish hopt =>
    cases h' with
    | finish => rfl
    | _ => cases hopt

/-- An optional goal that takes a token all the same goes on with a phrase, unless it looks for
statements. -/
theorem continues_of_takes {g : Goal} {t : Token} {more more' : List Goal} (h : Stays g more)
    (ht : Takes g t more') : g = statements ∨ t.Continues := by
  cases ht with
  | statements => exact .inl rfl
  | alternative => exact .inr (.inr (.inr rfl))
  | comparison hc => exact .inr (.inr (.inl hc))
  | moreTerms hop =>
    simp only [Token.isAdditive, Token.additives, List.contains_eq_mem, decide_eq_true_eq] at hop
    exact .inr (.inl (List.mem_append_left ["*", "/"] hop))
  | moreFactors hop =>
    simp only [Token.isMultiplicative, Token.multiplicatives, List.contains_eq_mem,
      decide_eq_true_eq] at hop
    exact .inr (.inl (List.mem_append_right ["+", "-"] hop))
  | _ => cases h with | finish hopt => cases hopt

/-- A goal that is passed over, or replaced before a token is taken, leaves neither a name nor a
declaration on top. -/
theorem not_exposed {g k : Goal} {rest more tail : List Goal} (h : Stays g more)
    (hp : Placed (g :: rest)) (htop : more ++ rest = k :: tail) :
    k ≠ identifier ∧ k ≠ declaration := by
  cases h with
  | expression | sum | term => cases htop; simp
  | finish hopt =>
    obtain rfl : rest = k :: tail := htop
    have hpre := hp.precedes
    constructor <;> rintro rfl <;> cases g <;> simp [Precedes, isOptional] at hpre hopt

end Goal

namespace Course

variable {hs : List Goal} {r s : Reader} {used : List Token}

/-- A stack that waits for a name or a declaration was come to by taking a token. So the tokens
taken decide alone what may follow them. -/
theorem allMetBy_of_class {g : Goal} {rest : List Goal} {w : List Token}
    (h : Course [statements] r used (g :: rest) s) (hg : g = identifier ∨ g = declaration)
    (hw : AllMetBy [statements] (used ++ w)) : AllMetBy (g :: rest) w := by
  generalize hgs : g :: rest = hs at h
  cases h with
  | start => exact hw
  | stay h hm =>
    have hne := not_exposed (stays_of_move hm).1 (h.placed placed_statements) hgs.symm
    rcases hg with rfl | rfl
    · exact absurd rfl hne.1
    · exact absurd rfl hne.2
  | take h hm => exact h.allMetBy_of_append_take placed_statements hm hw

/-- Goals that were passed over on sight of one token are passed over on sight of any other that
continues nothing. -/
theorem allMetBy_of_not_continues {t : Token} {w : List Token}
    (h : Course [statements] r used hs s) (hne : hs ≠ []) (ht : ¬ t.Continues)
    (hw : AllMetBy [statements] (used ++ t :: w)) : AllMetBy hs (t :: w) := by
  -- By induction on the run. Nothing restricts what follows its last take; the goals met since then
  -- were passed over, and `t` would have been no reason to stop at any of them.
  induction h with
  | start => exact hw
  | @stay used g rest more s h hm ih =>
    have hstays := (stays_of_move hm).1
    have hp := h.placed placed_statements
    rcases move_of_allMetBy hp (ih (by simp) hw) with ⟨more', hm', hu⟩ | ⟨u, _, _, _, heq, hm', -⟩
    · rwa [hstays.unique (stays_of_move hm').1]
    · obtain rfl : t = u := (List.cons.inj heq).1
      rcases continues_of_takes hstays (takes_of_move hm').2 with rfl | hc
      · have hrest := hp.eq_nil_of_statements
        cases hstays
        exact absurd hrest hne
      · exact absurd hc ht
  | take h hm => exact h.allMetBy_of_append_take placed_statements hm hw

end Course

/-! ## What is listed -/

/-- What is listed can be what meets the goal begins with. -/
theorem exists_metBy_of_mem_expected {g : Goal} {found : Option Token} {v : Violation} {t : Token}
    (h : Refuses g found v) (ht : t ∈ v.expected) : ∃ w, g.MetBy (t :: w) := by
  cases h with
  | literalEnd | literal =>
    obtain rfl := List.mem_singleton.mp ht
    exact ⟨[], rfl⟩
  | initializerEnd | initializer =>
    simp only [Violation.expected, List.mem_cons, List.not_mem_nil, or_false] at ht
    rcases ht with rfl | rfl
    · exact ⟨[], .inl rfl⟩
    · exact ⟨["x", ";"], .inr ⟨["x"], derives_expression_x, rfl⟩⟩
  | statements h => cases h <;> cases ht
  | _ => cases ht

/-- What meets a goal begins with something that is listed when the goal is not met. -/
theorem mem_expected_of_allMetBy {g : Goal} {rest : List Goal} {found : Option Token}
    {v : Violation} {t : Token} {w : List Token} (h : Refuses g found v) (hv : v.expected ≠ [])
    (hw : AllMetBy (g :: rest) (t :: w)) : t ∈ v.expected := by
  obtain ⟨a, b, heq, ha, -⟩ := hw
  cases h with
  | literalEnd | literal =>
    obtain rfl := ha
    cases heq
    exact List.mem_singleton_self _
  | initializerEnd | initializer =>
    rcases ha with rfl | ⟨e, -, rfl⟩
    · cases heq
      exact List.mem_cons_self
    · cases heq
      exact List.mem_cons_of_mem _ List.mem_cons_self
  | statements h => cases h <;> exact absurd rfl hv
  | _ => exact absurd rfl hv

theorem exists_allMetBy_iff_admits {g : Goal} {c : Category} {u found t : Token}
    (h : Spoils g u (.wrongCategory c found)) (rest : List Goal) :
    (∃ w, AllMetBy (g :: rest) (t :: w)) ↔ c.admits t = true := by
  obtain ⟨b, hb⟩ := exists_allMetBy rest
  cases h with
  | identifier =>
    constructor
    · rintro ⟨w, a, b, heq, ⟨x, hx, rfl⟩, -⟩
      cases heq
      exact hx
    · intro ht
      exact ⟨b, .cons (a := [t]) ⟨t, ht, rfl⟩ hb⟩
  | type =>
    constructor
    · rintro ⟨w, a, b, heq, hd, -⟩
      obtain ⟨u, v, rfl, hu, -⟩ := allMetBy_of_declaration hd
      cases heq
      exact hu
    · intro ht
      exact ⟨"x" :: ";" :: b, .cons (g := declaration) (a := [t, "x", ";"])
        (.uninitialized ht (by decide)) hb⟩

/-- The literal tokens that a violation lists are all that may stand where the check stopped, but
for those that continue what could also have ended; and the class that it names is exactly what may
stand where the token of another class was consumed. -/
theorem program_expected {tokens : List Token} {verbose : Bool} {v : Violation} {r : Reader}
    (h : program (Reader.ofTokens tokens verbose) = .error v r) :
    (v.expected ≠ [] →
      (∀ t ∈ v.expected, Viable (tokens.take r.position ++ [t])) ∧
        ∀ t, Viable (tokens.take r.position ++ [t]) → t ∈ v.expected ∨ t.Continues) ∧
    ∀ c found, v = .wrongCategory c found →
      ∀ t, Viable (tokens.take (r.position - 1) ++ [t]) ↔ c.admits t = true := by
  obtain ⟨used, g, rest, s, hc, hfail⟩ := Course.exists_of_meet_error h
  have hused : tokens.take s.position = used := hc.take_position rfl
  rcases perform_eq_error hfail with ⟨hr, hq⟩ | ⟨t', hpeek, hs, hq⟩
  · refine ⟨fun hv => ?_, ?_⟩
    · rw [hq, hused]
      refine ⟨fun t ht => ?_, fun t ht => ?_⟩
      · obtain ⟨w, hw⟩ := exists_metBy_of_mem_expected hr ht
        obtain ⟨b, hb⟩ := exists_allMetBy rest
        exact hc.viable_append ⟨w ++ b, by simpa using AllMetBy.cons hw hb⟩
      · by_cases hcont : t.Continues
        · exact .inr hcont
        · obtain ⟨w, hw⟩ := ht
          have hmet : AllMetBy [statements] (used ++ t :: w) :=
            allMetBy_statements.mpr (by simpa using hw)
          exact .inl (mem_expected_of_allMetBy hr hv
            (hc.allMetBy_of_not_continues (by simp) hcont hmet))
    · rintro c found rfl
      exact absurd rfl (hr.ne_wrongCategory c found)
  · refine ⟨fun hv => ?_, ?_⟩
    · cases hs <;> exact absurd rfl hv
    · rintro c found rfl t
      have hposition : r.position - 1 = s.position := by omega
      have hg : g = identifier ∨ g = declaration := by cases hs <;> simp
      rw [hposition, hused, ← exists_allMetBy_iff_admits hs rest]
      refine ⟨?_, fun hw => hc.viable_append (w := [t]) hw⟩
      rintro ⟨w, hw⟩
      exact ⟨w, hc.allMetBy_of_class hg (allMetBy_statements.mpr (by simpa using hw))⟩

/-- A condition lacks its parenthesis, and the header of a loop begins with a number. -/
theorem program_expected_header :
    (∃ r, program (Reader.ofTokens ["if", "(", "x", Token.openBrace] false) =
        .error (.mismatch [")"] Token.openBrace) r) ∧
      Viable ["if", "(", "x", ")"] ∧ ¬ Viable ["if", "(", "x", ";"] ∧
      (∃ r, program (Reader.ofTokens ["for", "(", "1"] false) =
        .error (.wrongCategory .type "1") r) ∧
      Viable ["for", "(", "int"] ∧ ¬ Viable ["for", "(", "float"] := by
  have hcondition : program (Reader.ofTokens ["if", "(", "x", Token.openBrace] false) =
      .error (.mismatch [")"] Token.openBrace)
        ⟨#["if", "(", "x", Token.openBrace], 3, false, #[]⟩ := by cbv
  have hloop : program (Reader.ofTokens ["for", "(", "1"] false) =
      .error (.wrongCategory .type "1") ⟨#["for", "(", "1"], 3, false, #[]⟩ := by cbv
  obtain ⟨hlisted, hother⟩ := (program_expected hcondition).1 (by decide)
  have hadmits := (program_expected hloop).2 _ _ rfl
  refine ⟨⟨_, hcondition⟩, hlisted ")" (by decide), fun h => ?_, ⟨_, hloop⟩,
    (hadmits "int").mpr (by decide), fun h => ?_⟩
  · exact absurd (hother ";" h) (by decide)
  · exact absurd ((hadmits "float").mp h) (by decide)

end StatementCheck
