import StatementCheck.Reader

/-!
# Goals of a check

A check is driven by a stack of goals: what the rest of the input still has to supply, first goal
first. A goal is met by looking at one token. It consumes that token or leaves it, and is replaced
by the goals that remain of it. Nothing is tried and taken back, and nesting in the input costs room
on this stack and nowhere else.

The grammar:

    Declaration := Type Identifier ( ";" | "=" Expression ";" )
    Assignment  := Identifier "=" Expression ";"
    If          := "if" "(" Expression ")" Statement ( "else" Statement )?
    While       := "while" "(" Expression ")" Statement
    For         := "for" "(" Declaration Expression ";" Expression ")" Statement
    Block       := "{" Statement "}"
    Expression  := Sum ( Comparison Sum )?
    Sum         := Term ( ( "+" | "-" ) Term )*
    Term        := Factor ( ( "*" | "/" ) Factor )*
    Factor      := "(" Expression ")" | Identifier | Number

## Main definitions

* `Goal` : what the input may have to supply.
* `Goal.step` : meet a goal as far as one token goes.
* `Parse.meet` : meet a stack of goals.
* `Parse.meet_append` : a stack can be met in two parts.
-/
namespace StatementCheck

/-- What the rest of the input still has to supply. -/
inductive Goal
  /-- One particular token. -/
  | literal (want : Token)
  /-- An identifier. -/
  | identifier
  /-- Statements up to the end of the input. -/
  | statements
  | statement
  /-- The `else` part of a conditional, if it is there. -/
  | alternative
  | declaration
  /-- What follows the name in a declaration. -/
  | initializer
  | expression
  /-- The second half of a comparison, if it is there. -/
  | comparison
  /-- No operator, since an expression is complete. -/
  | boundary
  | sum
  /-- The further terms of a sum. -/
  | moreTerms
  | term
  /-- The further factors of a term. -/
  | moreFactors
  | factor
  deriving DecidableEq

namespace Goal

open Parse

/-- The parts of a condition, from its opening parenthesis on. -/
def condition : List Goal := [literal "(", expression, literal ")"]

/-- Meet a declaration as far as its type name. -/
def beginDeclaration : Parse (List Goal) := do
  requireType
  return [identifier, initializer]

/-- Meet a statement as far as its first token, which chooses the kind of statement. -/
def beginStatement : Parse (List Goal) := do
  match ← lookahead with
  | none => throw (.endOfInput [])
  | some t =>
    if t.isType then beginDeclaration
    else if t.isIdentifier then do
      require .identifier
      return [literal "=", expression, literal ";"]
    else if t = "if" then do
      _ ← expect "if"
      return condition ++ [statement, alternative]
    else if t = "while" then do
      _ ← expect "while"
      return condition ++ [statement]
    else if t = "for" then do
      _ ← expect "for"
      return [literal "(", declaration, expression, literal ";", expression, literal ")", statement]
    else if t = Token.openBrace then do
      _ ← expect Token.openBrace
      return [statement, literal Token.closeBrace]
    else if t.isNumber then throw (.numberAsIdentifier t)
    else if t.isRejectedType then throw (.unsupportedType t)
    else throw (.noAlternative .statement t)

/-- Meet what follows the name in a declaration. -/
def beginInitializer : Parse (List Goal) := do
  match ← lookahead with
  | none => throw (.endOfInput [";", "="])
  | some t =>
    if t = ";" then do
      _ ← advance
      return []
    else if t = "=" then do
      _ ← advance
      return [expression, literal ";"]
    else throw (.mismatch [";", "="] t)

/-- Meet a factor as far as its first token. -/
def beginFactor : Parse (List Goal) := do
  match ← lookahead with
  | none => throw (.endOfInput [])
  | some t =>
    if t = "(" then do
      _ ← advance
      return [expression, literal ")"]
    else if t.isIdentifier then do
      require .identifier
      return []
    else if t.isNumber then do
      require .number
      return []
    else throw (.noAlternative .factor t)

/-- If the token ahead passes the test, consume it by `read` and go on with `goals`; else the goal
is met already. -/
def optional (test : Token → Bool) (read : Parse Unit) (goals : List Goal) : Parse (List Goal) := do
  match ← lookahead with
  | none => return []
  | some t =>
    if test t then do
      read
      return goals
    else return []

/-- Meet a goal as far as one token goes; the goals that remain of it are returned. -/
def step : Goal → Parse (List Goal)
  | literal want => do
    _ ← expect want
    return []
  | identifier => do
    require .identifier
    return []
  | statements => do
    match ← lookahead with
    | none => return []
    | some _ => return (← beginStatement) ++ [statements]
  | statement => beginStatement
  | alternative => optional (· == "else") (do _ ← advance) [statement]
  | declaration => beginDeclaration
  | initializer => beginInitializer
  | expression => return [sum, comparison, boundary]
  | comparison => optional Token.isComparison (require .comparison) [sum]
  | boundary => do
    match ← lookahead with
    | none => return []
    | some t => if t.isOperator then throw (.trailingOperator t) else return []
  | sum => return [term, moreTerms]
  | moreTerms => optional Token.isAdditive (do _ ← advance) [term, moreTerms]
  | term => return [factor, moreFactors]
  | moreFactors => optional Token.isMultiplicative (do _ ← advance) [factor, moreFactors]
  | factor => beginFactor

/-- How far a goal is from looking at a token: a goal that is replaced without one being consumed
outweighs what replaces it. -/
def weight : Goal → Nat
  | expression => 8
  | sum => 5
  | term => 3
  | _ => 1

/-- The weight of a stack of goals. -/
def totalWeight : List Goal → Nat
  | [] => 0
  | g :: gs => g.weight + totalWeight gs

@[simp] theorem totalWeight_nil : totalWeight [] = 0 := rfl

@[simp] theorem totalWeight_cons (g : Goal) (gs : List Goal) :
    totalWeight (g :: gs) = g.weight + totalWeight gs := rfl

@[simp] theorem totalWeight_append (gs hs : List Goal) :
    totalWeight (gs ++ hs) = totalWeight gs + totalWeight hs := by
  induction gs with
  | nil => simp
  | cons g gs ih => simp [ih, Nat.add_assoc]

/-! ## Progress -/

theorem shortens_beginDeclaration : Shortens beginDeclaration :=
  shortens_requireType.bind fun _ => keeps_pure _

theorem shortens_beginStatement : Shortens beginStatement := by
  refine .ofLookahead fun found => ?_
  cases found with
  | none => exact shortens_throw _
  | some t =>
    dsimp only
    repeat' split
    · exact shortens_beginDeclaration
    · exact (shortens_require _).bind fun _ => keeps_pure _
    · exact (shortens_expect _).bind fun _ => keeps_pure _
    · exact (shortens_expect _).bind fun _ => keeps_pure _
    · exact (shortens_expect _).bind fun _ => keeps_pure _
    · exact (shortens_expect _).bind fun _ => keeps_pure _
    · exact shortens_throw _
    · exact shortens_throw _
    · exact shortens_throw _

theorem shortens_beginInitializer : Shortens beginInitializer := by
  refine .ofLookahead fun found => ?_
  cases found with
  | none => exact shortens_throw _
  | some t =>
    dsimp only
    repeat' split
    · exact shortens_advance.bind fun _ => keeps_pure _
    · exact shortens_advance.bind fun _ => keeps_pure _
    · exact shortens_throw _

theorem shortens_beginFactor : Shortens beginFactor := by
  refine .ofLookahead fun found => ?_
  cases found with
  | none => exact shortens_throw _
  | some t =>
    dsimp only
    repeat' split
    · exact shortens_advance.bind fun _ => keeps_pure _
    · exact (shortens_require _).bind fun _ => keeps_pure _
    · exact (shortens_require _).bind fun _ => keeps_pure _
    · exact shortens_throw _

/-- What meeting a goal of weight `n` achieves: less is left to read, or lighter goals remain. -/
def Advances (n : Nat) (p : Parse (List Goal)) : Prop :=
  ∀ ⦃r more r'⦄, p r = .ok more r' →
    r'.remaining < r.remaining ∨ r'.remaining = r.remaining ∧ totalWeight more < n

theorem Advances.ofShortens {n : Nat} {p : Parse (List Goal)} (h : Shortens p) : Advances n p :=
  fun _ _ _ hp => .inl (h hp)

theorem advances_pure {n : Nat} {goals : List Goal} (h : totalWeight goals < n) :
    Advances n (pure goals) := by
  intro r more r' hp
  cases hp
  exact .inr ⟨rfl, h⟩

theorem advances_throw (n : Nat) (v : Violation) : Advances n (throw v) := by
  intro r more r' hp
  cases hp

theorem Advances.ofLookahead {n : Nat} {f : Option Token → Parse (List Goal)}
    (hf : ∀ found, Advances n (f found)) : Advances n (lookahead >>= f) :=
  fun r _ _ hp => hf r.peek? hp

theorem advances_optional {test : Token → Bool} {read : Parse Unit} {goals : List Goal}
    (h : Shortens read) : Advances 1 (optional test read goals) := by
  refine .ofLookahead fun found => ?_
  cases found with
  | none => exact advances_pure (by simp)
  | some t =>
    dsimp only
    split
    · exact .ofShortens (h.bind fun _ => keeps_pure _)
    · exact advances_pure (by simp)

theorem advances_step (g : Goal) : Advances g.weight g.step := by
  cases g with
  | literal want => exact .ofShortens ((shortens_expect want).bind fun _ => keeps_pure _)
  | identifier => exact .ofShortens ((shortens_require _).bind fun _ => keeps_pure _)
  | statements =>
    refine .ofLookahead fun found => ?_
    cases found with
    | none => exact advances_pure (by simp [weight])
    | some t => exact .ofShortens (shortens_beginStatement.bind fun _ => keeps_pure _)
  | statement => exact .ofShortens shortens_beginStatement
  | alternative => exact advances_optional (shortens_advance.bind fun _ => keeps_pure _)
  | declaration => exact .ofShortens shortens_beginDeclaration
  | initializer => exact .ofShortens shortens_beginInitializer
  | expression => exact advances_pure (by decide)
  | comparison => exact advances_optional (shortens_require _)
  | boundary =>
    refine .ofLookahead fun found => ?_
    cases found with
    | none => exact advances_pure (by simp [weight])
    | some t =>
      dsimp only
      split
      · exact advances_throw _ _
      · exact advances_pure (by simp [weight])
  | sum => exact advances_pure (by decide)
  | moreTerms => exact advances_optional (shortens_advance.bind fun _ => keeps_pure _)
  | term => exact advances_pure (by decide)
  | moreFactors => exact advances_optional (shortens_advance.bind fun _ => keeps_pure _)
  | factor => exact .ofShortens shortens_beginFactor

end Goal

namespace Parse

open Goal

/-- Meet a stack of goals, first goal first, from where the reader stands. Each round consumes a
token or makes the stack lighter. -/
def meet (goals : List Goal) (r : Reader) : EStateM.Result Violation Reader Unit :=
  match goals with
  | [] => .ok () r
  | g :: rest =>
    match _h : g.step r with
    | .ok more r' => meet (more ++ rest) r'
    | .error v r' => .error v r'
termination_by (r.remaining, totalWeight goals)
decreasing_by
  rcases advances_step g _h with hlt | ⟨heq, hlt⟩
  · exact Prod.Lex.left _ _ hlt
  · rw [heq]
    exact Prod.Lex.right _ (by simpa using hlt)

@[simp] theorem meet_nil (r : Reader) : meet [] r = .ok () r := by
  rw [meet]

theorem meet_cons (g : Goal) (rest : List Goal) (r : Reader) :
    meet (g :: rest) r =
      match g.step r with
      | .ok more r' => meet (more ++ rest) r'
      | .error v r' => .error v r' := by
  rw [meet]
  split <;> simp_all

/-- A stack of goals is met in two parts: first its upper part, then, where that left the reader,
its lower part. -/
theorem meet_append (goals rest : List Goal) (r : Reader) :
    meet (goals ++ rest) r =
      match meet goals r with
      | .ok _ r' => meet rest r'
      | .error v r' => .error v r' := by
  fun_induction meet goals r with
  | case1 r => simp
  | case2 r g gs more r' h ih =>
    rw [List.cons_append, meet_cons, h]
    simpa [List.append_assoc] using ih
  | case3 r g gs v r' h =>
    rw [List.cons_append, meet_cons, h]

end Parse

end StatementCheck
