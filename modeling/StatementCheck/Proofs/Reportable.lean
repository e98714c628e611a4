import StatementCheck.Proofs.Lockstep
import StatementCheck.Proofs.Prefix
import StatementCheck.Proofs.Role

/-!
# Which violations there are

A violation has many conceivable forms and few that are ever reported. A goal may come to the top of
the stack with any token ahead but for those that it shuns: behind an expression no operator is left
over, and where a trailing operator is looked for it is not one of arithmetic, since the terms and
factors before it would have taken that. This is an invariant of every check; and a goal really is
come to with each of the other tokens ahead. So the violations that are reported are those of the
table of moves at such tokens, no fewer and no more.

## Main definitions

* `Goal.shuns` : the tokens that are never ahead when a goal is on top.
* `Course.clear` : a check keeps it so.
* `Goal.outcome`, `Goal.exists_approach` : a goal is come to with any other token ahead.
* `Violation.Reportable` : the violations that are reported; `program_reportable`.
-/
namespace StatementCheck

open Goal Parse

namespace Goal

/-! ## What is not left ahead -/

/-- The tokens that are never ahead once a goal has been met. -/
def excludes : Goal → Token → Bool
  | expression, t | boundary, t => t.isOperator
  | sum, t | moreTerms, t | comparison, t => t.isArithmetic
  | term, t | moreFactors, t => t.isMultiplicative
  | _, _ => false

/-- The tokens that are never ahead when a goal is on top of the stack. -/
def shuns : Goal → Token → Bool
  | literal want, t => (want == ";" || want == ")") && t.isOperator
  | comparison, t | boundary, t => t.isArithmetic
  | moreTerms, t => t.isMultiplicative
  | _, _ => false

/-- What a goal leaves ahead is nothing that the next one shuns. -/
def Clears (g k : Goal) : Prop := ∀ t, k.shuns t = true → g.excludes t = true

theorem Clears.shuns_eq_false {g k : Goal} {t : Token} (h : Clears g k)
    (hg : g.excludes t = false) : k.shuns t = false :=
  Bool.eq_false_iff.mpr fun hk => by simp [h t hk] at hg

theorem clears_of_stays {g : Goal} {more : List Goal} (h : Stays g more) :
    Replaces Clears more g := by
  cases h with
  | expression | sum | term =>
    refine ⟨by simp [Clears, shuns, excludes], fun l hl k hk => ?_⟩
    cases hl
    exact hk
  | finish => exact ⟨.nil, by simp⟩

theorem clears_of_takes {g : Goal} {t : Token} {more : List Goal} (h : Takes g t more) :
    Replaces Clears more g := by
  have hblock : Token.closeBrace ≠ ";" ∧ Token.closeBrace ≠ ")" := by decide
  induction h with
  | @statements t more _ ih =>
    refine ⟨List.IsChain.append ih.1 (.singleton _) fun l hl k hk => ?_, fun l hl k hk => ?_⟩
    · obtain rfl : statements = k := by simpa using hk
      exact fun t ht => by cases ht
    · obtain rfl : statements = l := by simpa using hl
      exact hk
  | literal | identifier | uninitialized | name | numeral => exact ⟨.nil, by simp⟩
  | _ =>
    refine ⟨by simp [condition, Clears, shuns, excludes, hblock], fun l hl k hk => ?_⟩
    cases hl
    exact hk

/-- A goal that is met without a token leaves ahead what it found there. -/
theorem excludes_eq_false_of_optional {g : Goal} {t : Token} (hopt : g.isOptional = true)
    (hgo : g.goesOn t = false) (hclear : g.shuns t = false) : g.excludes t = false := by
  cases g with
  | moreTerms =>
    have hadditive : t.isAdditive = false := hgo
    have hmultiplicative : t.isMultiplicative = false := hclear
    simp [excludes, Token.isArithmetic, hadditive, hmultiplicative]
  | comparison => exact hclear
  | boundary | moreFactors => exact hgo
  | statements | alternative => rfl
  | _ => cases hopt

theorem clears_of_head? {g k : Goal} {rest : List Goal} (hp : (g :: rest).IsChain Clears)
    (hk : k ∈ rest.head?) : Clears g k := by
  obtain ⟨rest', rfl⟩ := List.head?_eq_some_iff.mp hk
  exact (List.isChain_cons_cons.mp hp).1

theorem clear_of_stays {g : Goal} {more rest : List Goal} {t : Token} (h : Stays g more)
    (hp : (g :: rest).IsChain Clears) (hgo : g.goesOn t = false) (hclear : g.shuns t = false) :
    ∀ k ∈ (more ++ rest).head?, k.shuns t = false := by
  intro k hk
  cases h with
  | expression | sum | term => cases hk; rfl
  | finish hopt =>
    exact (clears_of_head? hp hk).shuns_eq_false (excludes_eq_false_of_optional hopt hgo hclear)

/-- A goal that has just taken a token leaves a goal on top that shuns nothing. -/
theorem clear_of_takes {g : Goal} {t : Token} {more rest : List Goal} (h : Takes g t more)
    (hp : (g :: rest).IsChain Clears) (u : Token) :
    ∀ k ∈ (more ++ rest).head?, k.shuns u = false := by
  intro k hk
  induction h with
  | literal | identifier | uninitialized | name | numeral =>
    exact (clears_of_head? hp hk).shuns_eq_false rfl
  | statements h _ => cases h <;> cases hk <;> rfl
  | _ => cases hk; rfl

end Goal

/-- On top of a stack that a check comes to is a goal that does not shun the token ahead, if it was
so at the start. -/
theorem Course.clear {gs hs : List Goal} {r s : Reader} {used : List Token}
    (h : Course gs r used hs s) (hgs : gs.IsChain Clears)
    (hstart : ∀ g ∈ gs.head?, ∀ t ∈ r.peek?, g.shuns t = false) :
    ∀ g ∈ hs.head?, ∀ t ∈ s.peek?, g.shuns t = false := by
  have hchain : ∀ {hs : List Goal} {s : Reader} {used : List Token},
      Course gs r used hs s → hs.IsChain Clears :=
    fun h => h.isChain clears_of_stays clears_of_takes hgs
  -- By induction on the run. A goal that stays hands on the token ahead, and what it excludes the
  -- next one shuns; behind a token that is taken there may be any other.
  induction h with
  | start => exact hstart
  | stay h hm ih =>
    intro k hk t ht
    obtain ⟨hs, hgo⟩ := stays_of_move hm
    exact clear_of_stays hs (hchain h) (hgo t ht) (ih _ rfl t ht) k hk
  | take h hm ih =>
    intro k hk t _
    exact clear_of_takes (takes_of_move hm).2 (hchain h) t k hk

/-! ## Every line of the table that fails is a move -/

namespace Goal

theorem moveStatement_of_isNumber {t : Token} (h : t.isNumber = true) :
    moveStatement (some t) = .refuse none (.numberAsIdentifier t) := by
  have hrole := Token.isNumber_iff_role.mp h
  have htype : ¬ t.isType = true := by simp [Token.isType_iff_role, hrole]
  have hid : ¬ t.isIdentifier = true := by simp [Token.isIdentifier_iff_role, hrole]
  have hword : ∀ w ∈ Token.words, t ≠ w := fun w hw => by
    simp [Token.eq_word_iff_role hw, hrole]
  simp [moveStatement, htype, hid, h, hword "if" (by decide), hword "while" (by decide),
    hword "for" (by decide), hword Token.openBrace (by decide)]

theorem moveStatement_of_isRejectedType {t : Token} (h : t.isRejectedType = true) :
    moveStatement (some t) = .refuse none (.unsupportedType t) := by
  have hall : ∀ u ∈ Token.rejectedTypeNames,
      moveStatement (some u) = .refuse none (.unsupportedType u) := by
    simp only [Token.rejectedTypeNames, List.forall_mem_cons]
    exact ⟨rfl, rfl, by simp⟩
  exact hall t (List.contains_iff_mem.mp h)

/-- A line of the table that fails is the move on sight of its token. -/
theorem move_of_refuses {g : Goal} {found : Option Token} {v : Violation}
    (h : Refuses g found v) : g.move found = .refuse v.want? v := by
  induction h with
  | literalEnd | identifierEnd | statementEnd | declarationEnd | initializerEnd | factorEnd => rfl
  | literal h => simp [move, h, Violation.want?]
  | number h => exact moveStatement_of_isNumber h
  | rejectedType h => exact moveStatement_of_isRejectedType h
  | stray htype hid hword hnum hrej =>
    simp only [List.mem_cons, List.not_mem_nil, or_false, not_or] at hword
    simp [move, moveStatement, htype, hid, hword, hnum, hrej, Violation.want?]
  | statements _ ih =>
    simp only [move] at ih ⊢
    rw [ih]
    rfl
  | initializer h =>
    simp only [List.mem_cons, List.not_mem_nil, or_false, not_or] at h
    simp [move, moveInitializer, h, Violation.want?]
  | operator h => simp [move, h, Violation.want?]
  | factor hopen hid hnum => simp [move, moveFactor, hopen, hid, hnum, Violation.want?]

theorem move_of_spoils {g : Goal} {t : Token} {v : Violation} (h : Spoils g t v) :
    g.move (some t) = .spoil t v := by
  cases h with
  | identifier h => simp [move, h]
  | rejectedType htype h | type htype h => simp [move, moveDeclaration, htype, h]

/-! ## How each goal is come to -/

/-- What the check of a stack of goals says of tokens. -/
def outcome (gs : List Goal) (tokens : List Token) : Except Violation Unit :=
  replyOf (meet gs (Reader.ofTokens tokens false))

/-- Wherever a reader stands, a check says of the tokens ahead what it says of them alone. -/
theorem outcome_ahead (gs : List Goal) (r : Reader) : outcome gs r.ahead = replyOf (meet gs r) := by
  have halone := congrArg replyOf (meet_eq_resumed gs r)
  have hsilent := congrArg replyOf (meet_silenced gs (Reader.ofTokens r.ahead r.verbose))
  rw [replyOf_onReader] at halone hsilent
  rw [halone, ← hsilent]
  rfl

theorem outcome_statements_eq_error_iff {tokens : List Token} {v : Violation} :
    outcome [statements] tokens = .error v ↔ firstViolation? tokens = some v := by
  change replyOf (program (Reader.ofTokens tokens false)) = .error v ↔ _
  rw [firstViolation?]
  cases program (Reader.ofTokens tokens false) <;> simp [replyOf]

theorem outcome_cons (g : Goal) (rest : List Goal) (tokens : List Token) :
    outcome (g :: rest) tokens =
      match g.move tokens.head? with
      | .stay more => outcome (more ++ rest) tokens
      | .take _ _ more => outcome (more ++ rest) tokens.tail
      | .refuse _ v | .spoil _ v => .error v := by
  have hpeek : (Reader.ofTokens tokens false).peek? = tokens.head? := by
    rw [← Reader.head?_ahead]
    rfl
  rw [outcome, meet_cons, step_eq_perform, hpeek]
  cases g.move tokens.head? with
  | take t named more =>
    have hahead := outcome_ahead (more ++ rest) ((Reader.ofTokens tokens false).consume named t)
    rw [Reader.ahead_consume] at hahead
    exact hahead.symm
  | _ => rfl

section

variable {g : Goal} {rest more : List Goal} {t : Token} {tokens : List Token} {v : Violation}

theorem outcome_of_takes (h : Takes g t more) :
    outcome (g :: rest) (t :: tokens) = outcome (more ++ rest) tokens := by
  obtain ⟨named, hm⟩ := move_of_takes h
  rw [outcome_cons, List.head?_cons, hm]
  rfl

theorem outcome_of_stays (h : Stays g more) (hgo : ∀ t ∈ tokens.head?, g.goesOn t = false) :
    outcome (g :: rest) tokens = outcome (more ++ rest) tokens := by
  rw [outcome_cons, move_of_stays h hgo]

/-! ### Past an operand -/

theorem outcome_sum : outcome (sum :: rest) ("x" :: tokens) =
    outcome (moreFactors :: moreTerms :: rest) tokens :=
  calc outcome (sum :: rest) ("x" :: tokens)
      = outcome (term :: moreTerms :: rest) ("x" :: tokens) :=
        outcome_of_stays .sum (by simp [goesOn])
    _ = outcome (factor :: moreFactors :: moreTerms :: rest) ("x" :: tokens) :=
        outcome_of_stays .term (by simp [goesOn])
    _ = outcome (moreFactors :: moreTerms :: rest) tokens := outcome_of_takes (.name (by decide))

theorem outcome_operand (h : ∀ t ∈ tokens.head?, t.isArithmetic = false) :
    outcome (sum :: rest) ("x" :: tokens) = outcome rest tokens := by
  have hclear : ∀ t ∈ tokens.head?, t.isAdditive = false ∧ t.isMultiplicative = false :=
    fun t ht => by simpa [Token.isArithmetic] using h t ht
  calc outcome (sum :: rest) ("x" :: tokens)
      = outcome (moreFactors :: moreTerms :: rest) tokens := outcome_sum
    _ = outcome (moreTerms :: rest) tokens :=
        outcome_of_stays (.finish rfl) fun t ht => (hclear t ht).2
    _ = outcome rest tokens := outcome_of_stays (.finish rfl) fun t ht => (hclear t ht).1

theorem outcome_expression (h : ∀ t ∈ tokens.head?, t.isOperator = false) :
    outcome (expression :: rest) ("x" :: tokens) = outcome rest tokens := by
  have hclear : ∀ t ∈ tokens.head?, t.isComparison = false ∧ t.isArithmetic = false :=
    fun t ht => by
      have hop := h t ht
      simp only [Token.isOperator, Bool.or_eq_false_iff] at hop
      simp [Token.isArithmetic, hop]
  calc outcome (expression :: rest) ("x" :: tokens)
      = outcome (sum :: comparison :: boundary :: rest) ("x" :: tokens) :=
        outcome_of_stays .expression (by simp [goesOn])
    _ = outcome (comparison :: boundary :: rest) tokens :=
        outcome_operand fun t ht => (hclear t ht).2
    _ = outcome (boundary :: rest) tokens :=
        outcome_of_stays (.finish rfl) fun t ht => (hclear t ht).1
    _ = outcome rest tokens := outcome_of_stays (.finish rfl) h

/-- The statement `x = x ;` meets any goal that asks for a statement. -/
theorem outcome_assignment :
    outcome (statement :: rest) ("x" :: "=" :: "x" :: ";" :: tokens) = outcome rest tokens :=
  calc outcome (statement :: rest) ("x" :: "=" :: "x" :: ";" :: tokens)
      = outcome (literal "=" :: expression :: literal ";" :: rest)
          ("=" :: "x" :: ";" :: tokens) := outcome_of_takes (.assigned (by decide))
    _ = outcome (expression :: literal ";" :: rest) ("x" :: ";" :: tokens) :=
        outcome_of_takes .literal
    _ = outcome (literal ";" :: rest) (";" :: tokens) :=
        outcome_expression fun t ht => by cases ht; decide
    _ = outcome rest tokens := outcome_of_takes .literal

/-! ### Up to each goal -/

/-- The right side of an assignment is what the check of a program comes to behind `x =`. -/
theorem outcome_right : outcome [statements] ("x" :: "=" :: tokens) =
    outcome [expression, literal ";", statements] tokens :=
  calc outcome [statements] ("x" :: "=" :: tokens)
      = outcome [literal "=", expression, literal ";", statements] ("=" :: tokens) :=
        outcome_of_takes (.statements (.assigned (by decide)))
    _ = outcome [expression, literal ";", statements] tokens := outcome_of_takes .literal

theorem outcome_right_sum : outcome [statements] ("x" :: "=" :: tokens) =
    outcome [sum, comparison, boundary, literal ";", statements] tokens :=
  outcome_right.trans (outcome_of_stays .expression (by simp [goesOn]))

theorem outcome_condition : outcome [statements] ("if" :: "(" :: tokens) =
    outcome [expression, literal ")", statement, alternative, statements] tokens :=
  calc outcome [statements] ("if" :: "(" :: tokens)
      = outcome [literal "(", expression, literal ")", statement, alternative, statements]
          ("(" :: tokens) := outcome_of_takes (.statements .conditional)
    _ = outcome [expression, literal ")", statement, alternative, statements] tokens :=
        outcome_of_takes .literal

theorem outcome_block : outcome [statements] (Token.openBrace :: tokens) =
    outcome [statement, literal Token.closeBrace, statements] tokens :=
  outcome_of_takes (.statements .block)

theorem outcome_name : outcome [statements] ("int" :: tokens) =
    outcome [identifier, initializer, statements] tokens :=
  outcome_of_takes (.statements (.typed (by decide)))

theorem outcome_loop : outcome [statements] ("for" :: "(" :: tokens) =
    outcome [declaration, expression, literal ";", expression, literal ")", statement, statements]
      tokens :=
  calc outcome [statements] ("for" :: "(" :: tokens)
      = outcome [literal "(", declaration, expression, literal ";", expression, literal ")",
          statement, statements] ("(" :: tokens) := outcome_of_takes (.statements .forLoop)
    _ = _ := outcome_of_takes .literal

end

/-- The check of a program comes to every goal, with any token ahead that the goal does not shun. -/
theorem exists_approach {g : Goal} (hg : Marked [g]) : ∃ used rest, ∀ tokens : List Token,
    (∀ t ∈ tokens.head?, g.shuns t = false) →
      outcome [statements] (used ++ tokens) = outcome (g :: rest) tokens := by
  cases g with
  | literal want =>
    have hwant : want ∈ marks := hg want (by simp)
    simp only [marks, List.mem_cons, List.not_mem_nil, or_false] at hwant
    rcases hwant with rfl | rfl | rfl | rfl | rfl
    · exact ⟨["if"], _, fun _ _ => outcome_of_takes (.statements .conditional)⟩
    · exact ⟨["if", "(", "x"], _, fun _ hclear =>
        outcome_condition.trans (outcome_expression hclear)⟩
    · exact ⟨["x", "=", "x"], _, fun _ hclear => outcome_right.trans (outcome_expression hclear)⟩
    · exact ⟨["x"], _, fun _ _ => outcome_of_takes (.statements (.assigned (by decide)))⟩
    · exact ⟨[Token.openBrace, "x", "=", "x", ";"], _,
        fun _ _ => outcome_block.trans outcome_assignment⟩
  | statements => exact ⟨[], [], fun _ _ => rfl⟩
  | statement => exact ⟨[Token.openBrace], _, fun _ _ => outcome_block⟩
  | alternative =>
    refine ⟨["if", "(", "x", ")", "x", "=", "x", ";"], [statements], fun tokens _ => ?_⟩
    calc outcome [statements] ("if" :: "(" :: "x" :: ")" :: "x" :: "=" :: "x" :: ";" :: tokens)
        = outcome [literal ")", statement, alternative, statements]
            (")" :: "x" :: "=" :: "x" :: ";" :: tokens) :=
          outcome_condition.trans (outcome_expression fun t ht => by cases ht; decide)
      _ = outcome [statement, alternative, statements] ("x" :: "=" :: "x" :: ";" :: tokens) :=
          outcome_of_takes .literal
      _ = outcome [alternative, statements] tokens := outcome_assignment
  | identifier => exact ⟨["int"], _, fun _ _ => outcome_name⟩
  | declaration => exact ⟨["for", "("], _, fun _ _ => outcome_loop⟩
  | initializer =>
    exact ⟨["int", "x"], _, fun _ _ =>
      outcome_name.trans (outcome_of_takes (.identifier (by decide)))⟩
  | expression => exact ⟨["x", "="], _, fun _ _ => outcome_right⟩
  | sum => exact ⟨["x", "="], _, fun _ _ => outcome_right_sum⟩
  | term =>
    exact ⟨["x", "="], _, fun _ _ =>
      outcome_right_sum.trans (outcome_of_stays .sum (by simp [goesOn]))⟩
  | factor =>
    exact ⟨["x", "="], _, fun _ _ => outcome_right_sum.trans
      ((outcome_of_stays .sum (by simp [goesOn])).trans
        (outcome_of_stays .term (by simp [goesOn])))⟩
  | moreFactors => exact ⟨["x", "=", "x"], _, fun _ _ => outcome_right_sum.trans outcome_sum⟩
  | moreTerms =>
    exact ⟨["x", "=", "x"], _, fun _ hclear => outcome_right_sum.trans
      (outcome_sum.trans (outcome_of_stays (.finish rfl) hclear))⟩
  | comparison =>
    exact ⟨["x", "=", "x"], _, fun _ hclear => outcome_right_sum.trans (outcome_operand hclear)⟩
  | boundary =>
    refine ⟨["x", "=", "x", "<", "x"], [literal ";", statements], fun tokens hclear => ?_⟩
    calc outcome [statements] ("x" :: "=" :: "x" :: "<" :: "x" :: tokens)
        = outcome [comparison, boundary, literal ";", statements] ("<" :: "x" :: tokens) :=
          outcome_right_sum.trans (outcome_operand fun t ht => by cases ht; decide)
      _ = outcome [sum, boundary, literal ";", statements] ("x" :: tokens) :=
          outcome_of_takes (.comparison (by decide))
      _ = outcome [boundary, literal ";", statements] tokens := outcome_operand hclear

/-- The table has the violation `v` for a goal on sight of `found`, and a check can come to that. -/
structure Fails (g : Goal) (found : Option Token) (v : Violation) : Prop where
  marked : Marked [g]
  clear : ∀ t ∈ found, g.shuns t = false
  listed : Refuses g found v ∨ ∃ t, found = some t ∧ Spoils g t v

/-- A violation that the table has where a check can come to is reported of some tokens. -/
theorem Fails.exists_firstViolation? {g : Goal} {found : Option Token} {v : Violation}
    (h : Fails g found v) : ∃ tokens, firstViolation? tokens = some v := by
  obtain ⟨used, rest, happroach⟩ := exists_approach h.marked
  have hhead : found.toList.head? = found := by cases found <;> rfl
  have hfail : outcome (g :: rest) found.toList = .error v := by
    rw [outcome_cons, hhead]
    rcases h.listed with hr | ⟨t, rfl, hs⟩
    · rw [move_of_refuses hr]
    · rw [move_of_spoils hs]
  refine ⟨used ++ found.toList, outcome_statements_eq_error_iff.mp ?_⟩
  exact (happroach found.toList (hhead.symm ▸ h.clear)).trans hfail

end Goal

/-- A violation that is reported is one that the table has for the goal the check has come to. -/
theorem exists_fails_of_program_error {r q : Reader} {v : Violation}
    (h : program r = .error v q) : ∃ g found, Fails g found v := by
  obtain ⟨used, g, rest, s, hc, hfail⟩ := Course.exists_of_meet_error h
  have hclear := hc.clear (.singleton _) (by rintro _ ⟨⟩ t -; rfl)
  refine ⟨g, s.peek?, (hc.marked (by simp [Marked])).head, hclear g rfl, ?_⟩
  rcases perform_eq_error hfail with ⟨hr, -⟩ | ⟨t, hpeek, hs, -⟩
  · exact .inl hr
  · exact .inr ⟨t, hpeek, hs⟩

/-! ## The list of violations -/

/-- Some statement begins with the token. -/
def Token.BeginsStatement (t : Token) : Prop := ∃ rest, Phrase.statement.Derives (t :: rest)

/-- The lists of literal tokens that a violation can name. -/
def Violation.lists : List (List Token) :=
  [["("], [")"], [";"], ["="], [Token.closeBrace], [";", "="]]

/-- The violations that are reported. -/
def Violation.Reportable : Violation → Prop
  | endOfInput expected => expected = [] ∨ expected ∈ lists
  | mismatch expected found => expected ∈ lists ∧ found ∉ expected ∧
      (expected ∈ [[";"], [")"]] → found.isOperator = false)
  | wrongCategory .identifier found => found.isIdentifier = false
  | wrongCategory .type found => found.isType = false ∧ found.isRejectedType = false
  | wrongCategory .number _ | wrongCategory .comparison _ => False
  | noAlternative .statement found => ¬ found.BeginsStatement ∧ found.isNumber = false ∧
      found.isRejectedType = false
  | noAlternative .factor found => found ≠ "(" ∧ found.isIdentifier = false ∧
      found.isNumber = false
  | numberAsIdentifier found => found.isNumber = true
  | unsupportedType found => found ∈ ["float", "double"]
  | trailingOperator found => found.isOperator = true ∧ found ∉ ["+", "-", "*", "/"]

namespace Goal

theorem beginsStatement_iff {t : Token} :
    t.BeginsStatement ↔ ∃ more, Takes statement t more := by
  constructor
  · rintro ⟨rest, h⟩
    obtain ⟨u, more, w, heq, htakes, -⟩ := takes_of_statement h
    cases heq
    exact ⟨more, htakes⟩
  · rintro ⟨more, htakes⟩
    obtain ⟨w, hw⟩ := exists_allMetBy more
    exact ⟨w, metBy_of_takes htakes hw⟩

theorem not_beginsStatement_iff {t : Token} : ¬ t.BeginsStatement ↔
    t.isType = false ∧ t.isIdentifier = false ∧ t ∉ ["if", "while", "for", Token.openBrace] := by
  rw [beginsStatement_iff]
  constructor
  · intro h
    refine ⟨Bool.eq_false_iff.mpr fun ht => h ⟨_, .typed ht⟩,
      Bool.eq_false_iff.mpr fun ht => h ⟨_, .assigned ht⟩, fun hword => ?_⟩
    simp only [List.mem_cons, List.not_mem_nil, or_false] at hword
    rcases hword with rfl | rfl | rfl | rfl
    · exact h ⟨_, .conditional⟩
    · exact h ⟨_, .whileLoop⟩
    · exact h ⟨_, .forLoop⟩
    · exact h ⟨_, .block⟩
  · rintro ⟨htype, hid, hword⟩ ⟨more, htakes⟩
    cases htakes with
    | typed h => simp [h] at htype
    | assigned h => simp [h] at hid
    | _ => simp at hword

theorem mem_lists_iff {want : Token} : [want] ∈ Violation.lists ↔ want ∈ marks := by
  simp [Violation.lists, marks]

theorem isArithmetic_eq_false_iff {t : Token} :
    t.isArithmetic = false ↔ t ∉ ["+", "-", "*", "/"] := by
  simp [Token.isArithmetic, Token.isAdditive, Token.isMultiplicative, Token.additives,
    Token.multiplicatives, and_assoc]

theorem Fails.reportable {g : Goal} {found : Option Token} {v : Violation}
    (h : Fails g found v) : v.Reportable := by
  obtain ⟨hmarked, hclear, hr | ⟨t, rfl, hs⟩⟩ := h
  · induction hr with
    | literalEnd => exact .inr (mem_lists_iff.mpr (hmarked _ (by simp)))
    | @literal want t hne =>
      refine ⟨mem_lists_iff.mpr (hmarked _ (by simp)), by simpa using hne, fun hmark => ?_⟩
      have hshuns := hclear t rfl
      simp only [List.mem_cons, List.cons.injEq, and_true, List.not_mem_nil, or_false] at hmark
      rcases hmark with rfl | rfl <;> simpa [shuns] using hshuns
    | identifierEnd | statementEnd | declarationEnd | factorEnd => exact .inl rfl
    | number h => exact h
    | rejectedType h => exact List.contains_iff_mem.mp h
    | stray htype hid hword hnum hrej =>
      exact ⟨not_beginsStatement_iff.mpr ⟨htype, hid, hword⟩, hnum, hrej⟩
    | statements _ ih => exact ih (by simp [Marked]) (fun _ _ => rfl)
    | initializerEnd => exact .inr (by simp [Violation.lists])
    | initializer h => exact ⟨by simp [Violation.lists], h, by simp⟩
    | operator h => exact ⟨h, isArithmetic_eq_false_iff.mp (hclear _ rfl)⟩
    | factor hopen hid hnum => exact ⟨hopen, hid, hnum⟩
  · cases hs with
    | identifier h => exact h
    | rejectedType _ h => exact List.contains_iff_mem.mp h
    | type htype h => exact ⟨htype, h⟩

/-- A literal or an initializer is what lists the tokens that a violation names. -/
theorem fails_of_mem_lists {expected : List Token} (h : expected ∈ Violation.lists) :
    (∃ g, Fails g none (.endOfInput expected)) ∧
      ∀ found, found ∉ expected →
        (expected ∈ [[";"], [")"]] → found.isOperator = false) →
        ∃ g, Fails g (some found) (.mismatch expected found) := by
  by_cases hpair : expected = [";", "="]
  · subst hpair
    exact ⟨⟨initializer, by simp [Marked], by simp, .inl .initializerEnd⟩, fun found hne _ =>
      ⟨initializer, by simp [Marked], fun _ _ => rfl, .inl (.initializer hne)⟩⟩
  · obtain ⟨want, rfl, hwant⟩ : ∃ want, expected = [want] ∧ want ∈ marks := by
      simp only [Violation.lists, List.mem_cons, List.not_mem_nil, or_false] at h
      rcases h with rfl | rfl | rfl | rfl | rfl | rfl
      all_goals first | exact ⟨_, rfl, by decide⟩ | exact absurd rfl hpair
    have hmarked : Marked [literal want] := by simpa [Marked] using hwant
    refine ⟨⟨literal want, hmarked, by simp, .inl .literalEnd⟩, fun found hne hop => ?_⟩
    refine ⟨literal want, hmarked, fun t ht => ?_, .inl (.literal (by simpa using hne))⟩
    cases ht
    by_cases hmark : [want] ∈ [[";"], [")"]]
    · simp [shuns, hop hmark]
    · simp only [List.mem_cons, List.cons.injEq, and_true, List.not_mem_nil, or_false,
        not_or] at hmark
      simp [shuns, hmark]

end Goal

theorem Violation.Reportable.exists_fails {v : Violation} (h : v.Reportable) :
    ∃ g found, Fails g found v := by
  cases v with
  | endOfInput expected =>
    rcases h with rfl | h
    · exact ⟨identifier, none, by simp [Marked], by simp, .inl .identifierEnd⟩
    · obtain ⟨g, hg⟩ := (fails_of_mem_lists h).1
      exact ⟨g, none, hg⟩
  | mismatch expected found =>
    obtain ⟨hlist, hne, hop⟩ := h
    obtain ⟨g, hg⟩ := (fails_of_mem_lists hlist).2 found hne hop
    exact ⟨g, some found, hg⟩
  | wrongCategory category found =>
    cases category with
    | identifier =>
      exact ⟨identifier, some found, by simp [Marked], fun _ _ => rfl,
        .inr ⟨found, rfl, .identifier h⟩⟩
    | type =>
      exact ⟨declaration, some found, by simp [Marked], fun _ _ => rfl,
        .inr ⟨found, rfl, .type h.1 h.2⟩⟩
    | number | comparison => exact h.elim
  | noAlternative rule found =>
    cases rule with
    | statement =>
      obtain ⟨hbegins, hnum, hrej⟩ := h
      obtain ⟨htype, hid, hword⟩ := not_beginsStatement_iff.mp hbegins
      exact ⟨statement, some found, by simp [Marked], fun _ _ => rfl,
        .inl (.stray htype hid hword hnum hrej)⟩
    | factor =>
      obtain ⟨hopen, hid, hnum⟩ := h
      exact ⟨factor, some found, by simp [Marked], fun _ _ => rfl, .inl (.factor hopen hid hnum)⟩
  | numberAsIdentifier found =>
    exact ⟨statement, some found, by simp [Marked], fun _ _ => rfl, .inl (.number h)⟩
  | unsupportedType found =>
    exact ⟨statement, some found, by simp [Marked], fun _ _ => rfl,
      .inl (.rejectedType (List.contains_iff_mem.mpr h))⟩
  | trailingOperator found =>
    refine ⟨boundary, some found, by simp [Marked], fun t ht => ?_, .inl (.operator h.1)⟩
    cases ht
    exact isArithmetic_eq_false_iff.mpr h.2

/-- On sight of a token that it can take, a goal does not fail. -/
theorem step_of_takes {g : Goal} {t : Token} {more : List Goal} {r : Reader} (h : Takes g t more)
    (hpeek : r.peek? = some t) : ∃ s, g.step r = .ok more s := by
  obtain ⟨named, hm⟩ := move_of_takes h
  exact ⟨r.consume named t, by rw [step_eq_perform, hpeek, hm]; rfl⟩

/-- A check reports the violations of the list and no others, wherever the reader stands; and each
of them is reported of some tokens. The operator of a comparison, a number, and the words that begin
a statement are looked for only where they are ahead: there is no failing to find them. -/
theorem program_reportable :
    (∀ r s v, program r = .error v s → v.Reportable) ∧
    (∀ v : Violation, v.Reportable → ∃ tokens, firstViolation? tokens = some v) ∧
    (∀ r, ∃ more s, comparison.step r = .ok more s) ∧
    (∀ r t, r.peek? = some t → t.isNumber = true → ∃ s, factor.step r = .ok [] s) ∧
    (∀ r t, r.peek? = some t → t ∈ ["if", "while", "for", Token.openBrace] →
      ∃ more s, statement.step r = .ok more s) := by
  refine ⟨fun r s v h => ?_, fun v h => ?_, fun r => ?_, fun r t hpeek hnum => ?_,
    fun r t hpeek hword => ?_⟩
  · obtain ⟨g, found, hfails⟩ := exists_fails_of_program_error h
    exact hfails.reportable
  · obtain ⟨g, found, hfails⟩ := h.exists_fails
    exact hfails.exists_firstViolation?
  · rw [step_eq_perform]
    cases hm : comparison.move r.peek? with
    | stay more => exact ⟨more, r, rfl⟩
    | take t named more => exact ⟨more, r.consume named t, rfl⟩
    | refuse want v => cases refuses_of_move hm
    | spoil t v => cases (spoils_of_move hm).2
  · exact step_of_takes (.numeral hnum) hpeek
  · simp only [List.mem_cons, List.not_mem_nil, or_false] at hword
    rcases hword with rfl | rfl | rfl | rfl
    · exact ⟨_, step_of_takes .conditional hpeek⟩
    · exact ⟨_, step_of_takes .whileLoop hpeek⟩
    · exact ⟨_, step_of_takes .forLoop hpeek⟩
    · exact ⟨_, step_of_takes .block hpeek⟩

/-- A second comparison is a trailing operator, a block can be left open before an `else`, and no
`+` is ever called a trailing operator. -/
theorem program_reportable_operator :
    (∃ r, program (Reader.ofTokens ["x", "=", "a", "<", "b", "<"] false) =
        .error (.trailingOperator "<") r) ∧
      (Violation.trailingOperator "<").Reportable ∧
      (∃ tokens, firstViolation? tokens = some (.mismatch [Token.closeBrace] "else")) ∧
      (∀ r s, program r ≠ .error (.trailingOperator "+") s) ∧
      (∃ s, factor.step (Reader.ofTokens ["1"] true) = .ok [] s) ∧
      ∃ more s, statement.step (Reader.ofTokens ["if"] true) = .ok more s := by
  obtain ⟨hsound, hcomplete, -, hnumber, hword⟩ := program_reportable
  have hrun : program (Reader.ofTokens ["x", "=", "a", "<", "b", "<"] false) =
      .error (.trailingOperator "<")
        ⟨#["x", "=", "a", "<", "b", "<"], 5, false, #[]⟩ := by cbv
  refine ⟨⟨_, hrun⟩, hsound _ _ _ hrun, hcomplete _ ⟨by decide, by decide, by decide⟩,
    fun r s h => ?_, hnumber _ "1" rfl (by decide), hword _ "if" rfl (by decide)⟩
  exact absurd (hsound _ _ _ h).2 (by decide)

end StatementCheck
