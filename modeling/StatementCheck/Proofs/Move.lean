import Mathlib.Tactic.SplitIfs
import StatementCheck.Goal

/-!
# Moves

What a goal does is decided by the token ahead alone: not by the tokens behind or beyond it, not by
the position, and not by the trace. Here that decision is a function, `Goal.move`, and a step is the
move carried out.

The moves are also given as a table: `Goal.Takes` and `Goal.Stays` list those that succeed,
`Goal.Refuses` and `Goal.Spoils` those that fail. An argument about every run then has one case for
each line of the table.

## Main definitions

* `Move`, `Goal.move` : what a goal does on sight of the token ahead.
* `Move.perform` : the move carried out by a reader; `Goal.step_eq_perform`.
* `Goal.Takes`, `Goal.Stays`, `Goal.Refuses`, `Goal.Spoils` : the table of moves.
* `Goal.allows_move` : whatever a goal does, the table has a line for it.
* `Violation.found?`, `Violation.want?` : the token that a violation names, and the one that it
  misses.
-/
namespace StatementCheck

namespace Token

theorem isIdentifier_eq_false_of_isType {t : Token} (h : t.isType = true) :
    t.isIdentifier = false := by
  have hall : ∀ u ∈ typeNames, u.isIdentifier = false := by decide
  exact hall t (List.contains_iff_mem.mp h)

theorem isType_eq_false_of_isIdentifier {t : Token} (h : t.isIdentifier = true) :
    t.isType = false := by
  cases ht : t.isType with
  | false => rfl
  | true => simp [isIdentifier_eq_false_of_isType ht] at h

end Token

/-- The token that a violation names, if there was one. -/
def Violation.found? : Violation → Option Token
  | endOfInput _ => none
  | mismatch _ found | wrongCategory _ found | noAlternative _ found | numberAsIdentifier found
  | unsupportedType found | trailingOperator found => some found

/-- The token that was demanded by name, if the violation is that this one is missing. -/
def Violation.want? : Violation → Option Token
  | endOfInput [want] | mismatch [want] _ => some want
  | _ => none

namespace Reader

/-- Step over a token. If it was demanded by name, the demand is recorded before. -/
def consume (r : Reader) (named : Bool) (token : Token) : Reader :=
  (if named then r.note (.demanded token (some token)) else r).skip token

/-- Record a demand that is not met, if one particular token was demanded. -/
def miss (r : Reader) (want : Option Token) : Reader :=
  match want with
  | some want => r.note (.demanded want r.peek?)
  | none => r

end Reader

/-- What a goal can do on sight of the token ahead. -/
inductive Move
  /-- Consume nothing and go on with other goals. -/
  | stay (more : List Goal)
  /-- Consume the token and go on with other goals. Is it `named`, then it was demanded by name. -/
  | take (token : Token) (named : Bool) (more : List Goal)
  /-- Fail and consume nothing. The token `want`, if any, was demanded by name. -/
  | refuse (want : Option Token) (violation : Violation)
  /-- Consume the token and fail. -/
  | spoil (token : Token) (violation : Violation)

namespace Move

/-- Put further goals behind those that a move goes on with. -/
def before (rest : List Goal) : Move → Move
  | stay more => stay (more ++ rest)
  | take token named more => take token named (more ++ rest)
  | refuse want v => refuse want v
  | spoil token v => spoil token v

/-- What a reader comes to by a move. -/
def perform (m : Move) (r : Reader) : EStateM.Result Violation Reader (List Goal) :=
  match m with
  | stay more => .ok more r
  | take token named more => .ok more (r.consume named token)
  | refuse want v => .error v (r.miss want)
  | spoil token v => .error v (r.skip token)

/-- A move that fails has refused the token ahead, or consumed it. -/
theorem refuse_or_spoil {m : Move} {r q : Reader} {v : Violation} (h : m.perform r = .error v q) :
    (∃ want, m = refuse want v ∧ q = r.miss want) ∨ ∃ t, m = spoil t v ∧ q = r.skip t := by
  cases m with
  | stay more => cases h
  | take t named more => cases h
  | refuse want v' =>
    cases h
    exact .inl ⟨want, rfl, rfl⟩
  | spoil t v' =>
    cases h
    exact .inr ⟨t, rfl, rfl⟩

end Move

namespace Goal

open Move Parse

/-- The move of a declaration: its type name. -/
def moveDeclaration : Option Token → Move
  | none => refuse none (.endOfInput [])
  | some t =>
    if t.isType then take t false [identifier, initializer]
    else spoil t (if t.isRejectedType then .unsupportedType t else .wrongCategory .type t)

/-- The move of a statement: its first token chooses the kind of statement. -/
def moveStatement : Option Token → Move
  | none => refuse none (.endOfInput [])
  | some t =>
    if t.isType then take t false [identifier, initializer]
    else if t.isIdentifier then take t false [literal "=", expression, literal ";"]
    else if t = "if" then take t true (condition ++ [statement, alternative])
    else if t = "while" then take t true (condition ++ [statement])
    else if t = "for" then
      take t true
        [literal "(", declaration, expression, literal ";", expression, literal ")", statement]
    else if t = Token.openBrace then take t true [statement, literal Token.closeBrace]
    else if t.isNumber then refuse none (.numberAsIdentifier t)
    else if t.isRejectedType then refuse none (.unsupportedType t)
    else refuse none (.noAlternative .statement t)

/-- The move of what follows the name in a declaration. -/
def moveInitializer : Option Token → Move
  | none => refuse none (.endOfInput [";", "="])
  | some t =>
    if t = ";" then take t false []
    else if t = "=" then take t false [expression, literal ";"]
    else refuse none (.mismatch [";", "="] t)

/-- The move of a factor. -/
def moveFactor : Option Token → Move
  | none => refuse none (.endOfInput [])
  | some t =>
    if t = "(" then take t false [expression, literal ")"]
    else if t.isIdentifier then take t false []
    else if t.isNumber then take t false []
    else refuse none (.noAlternative .factor t)

/-- The move of a goal that is met already unless the token ahead passes the test. -/
def moveOptional (test : Token → Bool) (goals : List Goal) : Option Token → Move
  | none => stay []
  | some t => if test t then take t false goals else stay []

/-- What a goal does on sight of the token ahead, or of the end of the input. -/
def move : Goal → Option Token → Move
  | literal want, none => refuse (some want) (.endOfInput [want])
  | literal want, some t =>
    if t = want then take t true [] else refuse (some want) (.mismatch [want] t)
  | identifier, none => refuse none (.endOfInput [])
  | identifier, some t =>
    if t.isIdentifier then take t false [] else spoil t (.wrongCategory .identifier t)
  | statements, none => stay []
  | statements, some t => (moveStatement (some t)).before [statements]
  | statement, found => moveStatement found
  | alternative, found => moveOptional (· == "else") [statement] found
  | declaration, found => moveDeclaration found
  | initializer, found => moveInitializer found
  | expression, _ => stay [sum, comparison, boundary]
  | comparison, found => moveOptional Token.isComparison [sum] found
  | boundary, none => stay []
  | boundary, some t => if t.isOperator then refuse none (.trailingOperator t) else stay []
  | sum, _ => stay [term, moreTerms]
  | moreTerms, found => moveOptional Token.isAdditive [term, moreTerms] found
  | term, _ => stay [factor, moreFactors]
  | moreFactors, found => moveOptional Token.isMultiplicative [factor, moreFactors] found
  | factor, found => moveFactor found

/-! ## A step is a move carried out -/

theorem lookahead_bind {α : Type} (f : Option Token → Parse α) (r : Reader) :
    (lookahead >>= f) r = f r.peek? r := rfl

theorem bind_of_ok {α β : Type} {p : Parse α} {f : α → Parse β} {r r' : Reader} {a : α}
    (h : p r = .ok a r') : (p >>= f) r = f a r' := by
  change EStateM.bind p f r = f a r'
  rw [EStateM.bind, h]

theorem bind_of_error {α β : Type} {p : Parse α} {f : α → Parse β} {r r' : Reader} {v : Violation}
    (h : p r = .error v r') : (p >>= f) r = .error v r' := by
  change EStateM.bind p f r = .error v r'
  rw [EStateM.bind, h]

section

variable {r : Reader} {t : Token}

theorem advance_of_peek? (hp : r.peek? = some t) : advance r = .ok t (r.skip t) := by
  simp only [advance, hp]

theorem advance_of_end (hp : r.peek? = none) : advance r = .error (.endOfInput []) r := by
  simp only [advance, hp]

theorem require_of_admits {c : Category} (hp : r.peek? = some t) (hc : c.admits t = true) :
    require c r = .ok () (r.skip t) := by
  rw [require, bind_of_ok (advance_of_peek? hp), if_pos hc]
  rfl

theorem require_of_not_admits {c : Category} (hp : r.peek? = some t) (hc : ¬ c.admits t = true) :
    require c r = .error (.wrongCategory c t) (r.skip t) := by
  rw [require, bind_of_ok (advance_of_peek? hp), if_neg hc]
  rfl

theorem advance_then (more : List Goal) (hp : r.peek? = some t) :
    (advance >>= fun _ => pure more) r = (take t false more).perform r := by
  rw [bind_of_ok (advance_of_peek? hp)]
  rfl

theorem skip_then (more : List Goal) (hp : r.peek? = some t) :
    ((do _ ← advance) >>= fun _ => pure more) r = (take t false more).perform r := by
  have hskip : (do _ ← advance) r = .ok () (r.skip t) := by
    rw [bind_of_ok (advance_of_peek? hp)]
    rfl
  rw [bind_of_ok hskip]
  rfl

theorem require_then {c : Category} (more : List Goal) (hp : r.peek? = some t)
    (hc : c.admits t = true) :
    (require c >>= fun _ => pure more) r = (take t false more).perform r := by
  rw [bind_of_ok (require_of_admits hp hc)]
  rfl

theorem expect_then (more : List Goal) (hp : r.peek? = some t) :
    (expect t >>= fun _ => pure more) r = (take t true more).perform r := by
  have hexpect : expect t r = .ok t (r.consume true t) := by
    simp only [expect, hp, if_true]
    rfl
  rw [bind_of_ok hexpect]
  rfl

end

theorem beginDeclaration_eq (r : Reader) :
    beginDeclaration r = (moveDeclaration r.peek?).perform r := by
  cases hp : r.peek? with
  | none =>
    have hread : requireType r = .error (.endOfInput []) r := by
      rw [requireType, bind_of_error (advance_of_end hp)]
    rw [beginDeclaration, bind_of_error hread]
    rfl
  | some t =>
    have hadvance := advance_of_peek? hp
    by_cases htype : t.isType = true
    · have hread : requireType r = .ok () (r.skip t) := by
        rw [requireType, bind_of_ok hadvance, if_pos htype]
        rfl
      rw [beginDeclaration, bind_of_ok hread, moveDeclaration, if_pos htype]
      rfl
    · have hread : requireType r = .error
          (if t.isRejectedType then .unsupportedType t else .wrongCategory .type t)
          (r.skip t) := by
        rw [requireType, bind_of_ok hadvance, if_neg htype]
        rfl
      rw [beginDeclaration, bind_of_error hread, moveDeclaration, if_neg htype]
      rfl

theorem beginStatement_eq (r : Reader) :
    beginStatement r = (moveStatement r.peek?).perform r := by
  rw [beginStatement, lookahead_bind]
  cases hp : r.peek? with
  | none => rfl
  | some t =>
    simp only [moveStatement]
    split_ifs with htype hid hif hwhile hfor hopen
    · rw [beginDeclaration_eq, hp, moveDeclaration, if_pos htype]
    · exact require_then _ hp hid
    · subst hif; exact expect_then _ hp
    · subst hwhile; exact expect_then _ hp
    · subst hfor; exact expect_then _ hp
    · subst hopen; exact expect_then _ hp
    all_goals rfl

theorem beginInitializer_eq (r : Reader) :
    beginInitializer r = (moveInitializer r.peek?).perform r := by
  rw [beginInitializer, lookahead_bind]
  cases hp : r.peek? with
  | none => rfl
  | some t =>
    simp only [moveInitializer]
    split_ifs
    · exact advance_then _ hp
    · exact advance_then _ hp
    · rfl

theorem beginFactor_eq (r : Reader) : beginFactor r = (moveFactor r.peek?).perform r := by
  rw [beginFactor, lookahead_bind]
  cases hp : r.peek? with
  | none => rfl
  | some t =>
    simp only [moveFactor]
    split_ifs with hopen hid hnum
    · exact advance_then _ hp
    · exact require_then _ hp hid
    · exact require_then _ hp hnum
    · rfl

theorem optional_eq {test : Token → Bool} {read : Parse Unit} {goals : List Goal} {r : Reader}
    (hread : ∀ t, r.peek? = some t → test t = true →
      (read >>= fun _ => pure goals) r = (take t false goals).perform r) :
    optional test read goals r = (moveOptional test goals r.peek?).perform r := by
  rw [optional, lookahead_bind]
  cases hp : r.peek? with
  | none => rfl
  | some t =>
    simp only [moveOptional]
    split_ifs with ht
    · exact hread t hp ht
    · rfl

/-- A step asks nothing of the reader but the token ahead. -/
theorem step_eq_perform (g : Goal) (r : Reader) : g.step r = (g.move r.peek?).perform r := by
  cases g with
  | literal want =>
    cases hp : r.peek? with
    | none =>
      have hmiss : expect want r = .error (.endOfInput [want]) (r.miss (some want)) := by
        simp only [expect, hp, Reader.miss]
      rw [step, bind_of_error hmiss]
      rfl
    | some t =>
      by_cases ht : t = want
      · subst ht
        rw [step, expect_then [] hp, move, if_pos rfl]
      · have hmiss : expect want r = .error (.mismatch [want] t) (r.miss (some want)) := by
          simp only [expect, hp, Reader.miss, if_neg ht]
        rw [step, bind_of_error hmiss, move, if_neg ht]
        rfl
  | identifier =>
    cases hp : r.peek? with
    | none =>
      have hend : require .identifier r = .error (.endOfInput []) r := by
        rw [require, bind_of_error (advance_of_end hp)]
      rw [step, bind_of_error hend]
      rfl
    | some t =>
      by_cases ht : t.isIdentifier = true
      · have hadmits : Category.identifier.admits t = true := ht
        rw [step, require_then [] hp hadmits, move, if_pos ht]
      · have hadmits : ¬ Category.identifier.admits t = true := ht
        rw [step, bind_of_error (require_of_not_admits hp hadmits), move, if_neg ht]
        rfl
  | statements =>
    rw [step, lookahead_bind]
    cases hp : r.peek? with
    | none => rfl
    | some t =>
      have hbegin := beginStatement_eq r
      rw [hp] at hbegin
      simp only [move, bind, EStateM.bind, hbegin]
      cases moveStatement (some t) <;> rfl
  | statement => exact beginStatement_eq r
  | alternative => exact optional_eq fun t hp _ => skip_then [statement] hp
  | declaration => exact beginDeclaration_eq r
  | initializer => exact beginInitializer_eq r
  | expression => rfl
  | comparison => exact optional_eq fun t hp ht => require_then [sum] hp ht
  | boundary =>
    rw [step, lookahead_bind]
    cases hp : r.peek? with
    | none => rfl
    | some t =>
      simp only [move]
      split_ifs <;> rfl
  | sum => rfl
  | moreTerms => exact optional_eq fun t hp _ => skip_then [term, moreTerms] hp
  | term => rfl
  | moreFactors => exact optional_eq fun t hp _ => skip_then [factor, moreFactors] hp
  | factor => exact beginFactor_eq r

/-! ## The table of moves -/

/-- A goal can take a token and go on with other goals. -/
inductive Takes : Goal → Token → List Goal → Prop
  | literal {want : Token} : Takes (literal want) want []
  | identifier {t : Token} (h : t.isIdentifier = true) : Takes identifier t []
  | statements {t : Token} {more : List Goal} (h : Takes statement t more) :
      Takes statements t (more ++ [statements])
  | typed {t : Token} (h : t.isType = true) : Takes statement t [identifier, initializer]
  | assigned {t : Token} (h : t.isIdentifier = true) :
      Takes statement t [literal "=", expression, literal ";"]
  | conditional : Takes statement "if" (condition ++ [statement, alternative])
  | whileLoop : Takes statement "while" (condition ++ [statement])
  | forLoop : Takes statement "for"
      [literal "(", declaration, expression, literal ";", expression, literal ")", statement]
  | block : Takes statement Token.openBrace [statement, literal Token.closeBrace]
  | alternative : Takes alternative "else" [statement]
  | declaration {t : Token} (h : t.isType = true) : Takes declaration t [identifier, initializer]
  | uninitialized : Takes initializer ";" []
  | initialized : Takes initializer "=" [expression, literal ";"]
  | comparison {t : Token} (h : t.isComparison = true) : Takes comparison t [sum]
  | moreTerms {t : Token} (h : t.isAdditive = true) : Takes moreTerms t [term, moreTerms]
  | moreFactors {t : Token} (h : t.isMultiplicative = true) :
      Takes moreFactors t [factor, moreFactors]
  | parenthesized : Takes factor "(" [expression, literal ")"]
  | name {t : Token} (h : t.isIdentifier = true) : Takes factor t []
  | numeral {t : Token} (h : t.isNumber = true) : Takes factor t []

/-- A goal that may be met without a token. -/
def isOptional : Goal → Bool
  | statements | alternative | comparison | boundary | moreTerms | moreFactors => true
  | _ => false

/-- A goal can go on with other goals and take no token. -/
inductive Stays : Goal → List Goal → Prop
  | expression : Stays expression [sum, comparison, boundary]
  | sum : Stays sum [term, moreTerms]
  | term : Stays term [factor, moreFactors]
  | finish {g : Goal} (h : g.isOptional = true) : Stays g []

/-- The tokens on sight of which an optional goal is not met already. -/
def goesOn : Goal → Token → Bool
  | statements, _ => true
  | alternative, t => t == "else"
  | comparison, t => t.isComparison
  | boundary, t => t.isOperator
  | moreTerms, t => t.isAdditive
  | moreFactors, t => t.isMultiplicative
  | _, _ => false

/-- A goal fails on sight of the token ahead, or of the end of the input, and consumes nothing. -/
inductive Refuses : Goal → Option Token → Violation → Prop
  | literalEnd {want : Token} : Refuses (literal want) none (.endOfInput [want])
  | literal {want t : Token} (h : t ≠ want) : Refuses (literal want) (some t) (.mismatch [want] t)
  | identifierEnd : Refuses identifier none (.endOfInput [])
  | statementEnd : Refuses statement none (.endOfInput [])
  | number {t : Token} (h : t.isNumber = true) :
      Refuses statement (some t) (.numberAsIdentifier t)
  | rejectedType {t : Token} (h : t.isRejectedType = true) :
      Refuses statement (some t) (.unsupportedType t)
  | stray {t : Token} (htype : t.isType = false) (hid : t.isIdentifier = false)
      (hword : t ∉ ["if", "while", "for", Token.openBrace]) (hnum : t.isNumber = false)
      (hrej : t.isRejectedType = false) : Refuses statement (some t) (.noAlternative .statement t)
  | statements {t : Token} {v : Violation} (h : Refuses statement (some t) v) :
      Refuses statements (some t) v
  | declarationEnd : Refuses declaration none (.endOfInput [])
  | initializerEnd : Refuses initializer none (.endOfInput [";", "="])
  | initializer {t : Token} (h : t ∉ [";", "="]) :
      Refuses initializer (some t) (.mismatch [";", "="] t)
  | operator {t : Token} (h : t.isOperator = true) :
      Refuses boundary (some t) (.trailingOperator t)
  | factorEnd : Refuses factor none (.endOfInput [])
  | factor {t : Token} (hopen : t ≠ "(") (hid : t.isIdentifier = false)
      (hnum : t.isNumber = false) : Refuses factor (some t) (.noAlternative .factor t)

/-- A goal consumes a token and fails. -/
inductive Spoils : Goal → Token → Violation → Prop
  | identifier {t : Token} (h : t.isIdentifier = false) :
      Spoils identifier t (.wrongCategory .identifier t)
  | rejectedType {t : Token} (htype : t.isType = false) (h : t.isRejectedType = true) :
      Spoils declaration t (.unsupportedType t)
  | type {t : Token} (htype : t.isType = false) (h : t.isRejectedType = false) :
      Spoils declaration t (.wrongCategory .type t)

/-! ## Every move is a line of the table -/

/-- The table has a line for what the goal does on sight of `found`. -/
def Allows (g : Goal) (found : Option Token) : Move → Prop
  | stay more => Stays g more ∧ ∀ t ∈ found, g.goesOn t = false
  | take t _ more => found = some t ∧ Takes g t more
  | refuse _ v => Refuses g found v
  | spoil t v => found = some t ∧ Spoils g t v

theorem allows_moveDeclaration (found : Option Token) :
    declaration.Allows found (moveDeclaration found) := by
  cases found with
  | none => exact .declarationEnd
  | some t =>
    simp only [moveDeclaration]
    split_ifs with htype hrej
    · exact ⟨rfl, .declaration htype⟩
    · rw [Bool.not_eq_true] at htype
      exact ⟨rfl, .rejectedType htype hrej⟩
    · rw [Bool.not_eq_true] at htype hrej
      exact ⟨rfl, .type htype hrej⟩

theorem allows_moveStatement (found : Option Token) :
    statement.Allows found (moveStatement found) := by
  cases found with
  | none => exact .statementEnd
  | some t =>
    simp only [moveStatement]
    split_ifs with htype hid hif hwhile hfor hopen hnum hrej
    · exact ⟨rfl, .typed htype⟩
    · exact ⟨rfl, .assigned hid⟩
    · exact ⟨rfl, hif ▸ .conditional⟩
    · exact ⟨rfl, hwhile ▸ .whileLoop⟩
    · exact ⟨rfl, hfor ▸ .forLoop⟩
    · exact ⟨rfl, hopen ▸ .block⟩
    · exact .number hnum
    · exact .rejectedType hrej
    · rw [Bool.not_eq_true] at htype hid hnum hrej
      exact .stray htype hid (by simp [hif, hwhile, hfor, hopen]) hnum hrej

theorem allows_moveInitializer (found : Option Token) :
    initializer.Allows found (moveInitializer found) := by
  cases found with
  | none => exact .initializerEnd
  | some t =>
    simp only [moveInitializer]
    split_ifs with hend hinit
    · exact ⟨rfl, hend ▸ .uninitialized⟩
    · exact ⟨rfl, hinit ▸ .initialized⟩
    · exact .initializer (by simp [hend, hinit])

theorem allows_moveFactor (found : Option Token) :
    factor.Allows found (moveFactor found) := by
  cases found with
  | none => exact .factorEnd
  | some t =>
    simp only [moveFactor]
    split_ifs with hopen hid hnum
    · exact ⟨rfl, hopen ▸ .parenthesized⟩
    · exact ⟨rfl, .name hid⟩
    · exact ⟨rfl, .numeral hnum⟩
    · rw [Bool.not_eq_true] at hid hnum
      exact .factor hopen hid hnum

theorem allows_moveOptional {g : Goal} {goals : List Goal} (found : Option Token)
    (hopt : g.isOptional = true) (htakes : ∀ t, g.goesOn t = true → Takes g t goals) :
    g.Allows found (moveOptional g.goesOn goals found) := by
  cases found with
  | none => exact ⟨.finish hopt, by simp⟩
  | some t =>
    simp only [moveOptional]
    split_ifs with ht
    · exact ⟨rfl, htakes t ht⟩
    · exact ⟨.finish hopt, by simpa using ht⟩

/-- Looking for statements is looking for one, with more of them behind it. -/
theorem allows_before_statements {m : Move} {t : Token} (h : statement.Allows (some t) m) :
    statements.Allows (some t) (m.before [statements]) := by
  cases m with
  | stay more =>
    obtain ⟨hs, -⟩ := h
    cases hs with | finish hopt => cases hopt
  | take t' named more => exact ⟨h.1, .statements h.2⟩
  | refuse want v => exact .statements h
  | spoil t' v =>
    obtain ⟨-, hs⟩ := h
    cases hs

/-- Whatever a goal does on sight of the token ahead, the table has a line for it. -/
theorem allows_move (g : Goal) (found : Option Token) : g.Allows found (g.move found) := by
  cases g with
  | literal want =>
    cases found with
    | none => exact .literalEnd
    | some t =>
      simp only [move]
      split_ifs with ht
      · exact ⟨rfl, ht ▸ .literal⟩
      · exact .literal ht
  | identifier =>
    cases found with
    | none => exact .identifierEnd
    | some t =>
      simp only [move]
      split_ifs with hid
      · exact ⟨rfl, .identifier hid⟩
      · exact ⟨rfl, .identifier (Bool.not_eq_true _ ▸ hid)⟩
  | statements =>
    cases found with
    | none => exact ⟨.finish rfl, by simp⟩
    | some t => exact allows_before_statements (allows_moveStatement (some t))
  | statement => exact allows_moveStatement found
  | alternative => exact allows_moveOptional found rfl fun t ht => eq_of_beq ht ▸ .alternative
  | declaration => exact allows_moveDeclaration found
  | initializer => exact allows_moveInitializer found
  | expression => exact ⟨.expression, by simp [goesOn]⟩
  | comparison => exact allows_moveOptional found rfl fun t ht => .comparison ht
  | boundary =>
    cases found with
    | none => exact ⟨.finish rfl, by simp⟩
    | some t =>
      simp only [move]
      split_ifs with hop
      · exact .operator hop
      · exact ⟨.finish rfl, by simpa [goesOn] using hop⟩
  | sum => exact ⟨.sum, by simp [goesOn]⟩
  | moreTerms => exact allows_moveOptional found rfl fun t ht => .moreTerms ht
  | term => exact ⟨.term, by simp [goesOn]⟩
  | moreFactors => exact allows_moveOptional found rfl fun t ht => .moreFactors ht
  | factor => exact allows_moveFactor found

section

variable {g : Goal} {found : Option Token} {more : List Goal} {t : Token} {v : Violation}

/-- The token that a move takes is the one ahead. -/
theorem takes_of_move {named : Bool} (h : g.move found = .take t named more) :
    found = some t ∧ Takes g t more := by
  have htable := allows_move g found
  rwa [h] at htable

theorem stays_of_move (h : g.move found = .stay more) :
    Stays g more ∧ ∀ t ∈ found, g.goesOn t = false := by
  have htable := allows_move g found
  rwa [h] at htable

theorem refuses_of_move {want : Option Token} (h : g.move found = .refuse want v) :
    Refuses g found v := by
  have htable := allows_move g found
  rwa [h] at htable

theorem spoils_of_move (h : g.move found = .spoil t v) : found = some t ∧ Spoils g t v := by
  have htable := allows_move g found
  rwa [h] at htable

end

/-! ## Every line of the table is a move -/

theorem moveOptional_eq_stay {test : Token → Bool} {goals : List Goal} {found : Option Token}
    (h : ∀ t ∈ found, test t = false) : moveOptional test goals found = .stay [] := by
  cases found with
  | none => rfl
  | some t => simp [moveOptional, h t rfl]

theorem move_of_stays {g : Goal} {found : Option Token} {more : List Goal} (h : Stays g more)
    (hfound : ∀ t ∈ found, g.goesOn t = false) : g.move found = .stay more := by
  cases h with
  | expression => rfl
  | sum => rfl
  | term => rfl
  | finish hopt =>
    cases g with
    | statements =>
      cases found with
      | none => rfl
      | some t => simp [goesOn] at hfound
    | boundary =>
      cases found with
      | none => rfl
      | some t =>
        have hop : t.isOperator = false := hfound t rfl
        simp [move, hop]
    | alternative | comparison | moreTerms | moreFactors =>
      exact moveOptional_eq_stay hfound
    | _ => cases hopt

/-- A line of the table is the move on sight of its token. -/
theorem move_of_takes {g : Goal} {t : Token} {more : List Goal} (h : Takes g t more) :
    ∃ named, g.move (some t) = .take t named more := by
  induction h with
  | literal => exact ⟨true, by simp [move]⟩
  | identifier h => exact ⟨false, by simp [move, h]⟩
  | statements _ ih =>
    obtain ⟨named, hm⟩ := ih
    exact ⟨named, by simp only [move] at hm ⊢; rw [hm]; rfl⟩
  | typed h => exact ⟨false, by simp [move, moveStatement, h]⟩
  | assigned h =>
    exact ⟨false, by simp [move, moveStatement, h, Token.isType_eq_false_of_isIdentifier h]⟩
  | conditional => exact ⟨true, rfl⟩
  | whileLoop => exact ⟨true, rfl⟩
  | forLoop => exact ⟨true, rfl⟩
  | block => exact ⟨true, rfl⟩
  | alternative => exact ⟨false, rfl⟩
  | declaration h => exact ⟨false, by simp [move, moveDeclaration, h]⟩
  | uninitialized => exact ⟨false, rfl⟩
  | initialized => exact ⟨false, rfl⟩
  | comparison h => exact ⟨false, by simp [move, moveOptional, h]⟩
  | moreTerms h => exact ⟨false, by simp [move, moveOptional, h]⟩
  | moreFactors h => exact ⟨false, by simp [move, moveOptional, h]⟩
  | parenthesized => exact ⟨false, rfl⟩
  | @name t h =>
    have : t ≠ "(" := by rintro rfl; exact absurd h (by decide)
    exact ⟨false, by simp [move, moveFactor, h, this]⟩
  | @numeral t h =>
    have : t ≠ "(" := by rintro rfl; exact absurd h (by decide)
    refine ⟨false, ?_⟩
    by_cases hid : t.isIdentifier = true <;> simp [move, moveFactor, h, hid, this]

/-- A refusal names the token ahead, or the end of the input. -/
theorem Refuses.found_eq {g : Goal} {found : Option Token} {v : Violation}
    (h : Refuses g found v) : v.found? = found := by
  cases h with
  | statements h => cases h <;> rfl
  | _ => rfl

theorem Refuses.ne_wrongCategory {g : Goal} {found : Option Token} {v : Violation}
    (h : Refuses g found v) (c : Category) (t : Token) : v ≠ .wrongCategory c t := by
  cases h with
  | statements h => cases h <;> simp
  | _ => simp

theorem Spoils.found_eq {g : Goal} {t : Token} {v : Violation} (h : Spoils g t v) :
    v.found? = some t := by
  cases h <;> rfl

end Goal

end StatementCheck
