import StatementCheck.Proofs.Prefix

/-!
# The roles of tokens

A check does not see more of a token than the role it plays: two tokens that play the same role can
stand for one another in any sequence, and all that changes is which text a violation names.

The four operators of arithmetic share one role, although two goals look for them, each for two of
the four. That is because of how these goals stand on a stack: behind an operand come its further
factors and then the further terms, and whichever of the two takes the operator, the check comes to
the same goals behind it. So two runs are compared at every goal but the further terms, which are
passed through in one go with the further factors before them.

## Main definitions

* `Token.Role`, `Token.role` : what the grammar sees of a token.
* `Violation.naming` : the violation with another token in place of the one that it names.
* `Goal.Paired` : terms and further factors have the further terms right behind them.
* `Abreast` : two readers stand at the same position and have recorded as much.
* `program_abreast` : checks of tokens that play the same roles end alike.
-/
namespace StatementCheck

namespace Token

/-- Is the token one of `+`, `-`, `*` and `/`? -/
def isArithmetic (t : Token) : Bool := t.isAdditive || t.isMultiplicative

/-- The words and marks that the grammar has one by one. -/
def words : List Token :=
  ["=", ";", "(", ")", Token.openBrace, Token.closeBrace, "if", "else", "while", "for"]

/-- What the grammar sees of a token. -/
inductive Role
  | identifier
  | number
  | type
  | rejectedType
  | comparison
  /-- Any of the four operators of arithmetic. -/
  | arithmetic
  /-- One particular word or mark. -/
  | word (w : Token)
  /-- An operator that the grammar has no use for. -/
  | stray
  /-- Anything else. -/
  | other
  deriving DecidableEq

/-- The role that a token plays. -/
def role (t : Token) : Role :=
  if t.isIdentifier then .identifier
  else if t.isNumber then .number
  else if t.isType then .type
  else if t.isRejectedType then .rejectedType
  else if t.isComparison then .comparison
  else if t.isArithmetic then .arithmetic
  else if words.contains t then .word t
  else if t.isOperator then .stray
  else .other

/-! ## The roles divide the tokens among them -/

section

variable {t u : Token}

theorem isNumber_eq_false_of_isIdentifier (h : t.isIdentifier = true) : t.isNumber = false := by
  unfold isIdentifier at h
  split at h
  · next c hc =>
    have hlower : (decide ('a'.val ≤ c.val) && decide (c.val ≤ 'z'.val)) = true := h
    have hdigit : c.isDigit = false := by
      simp only [Char.isDigit, ge_iff_le, Bool.and_eq_true, decide_eq_true_eq,
        Bool.and_eq_false_iff, decide_eq_false_iff_not, UInt32.le_iff_toNat_le] at hlower ⊢
      have ha : 'a'.val.toNat = 97 := rfl
      have hnine : '9'.val.toNat = 57 := rfl
      omega
    simp [isNumber, hc, hdigit]
  · cases h

theorem isIdentifier_iff_role : t.isIdentifier = true ↔ t.role = .identifier := by
  unfold role
  split_ifs <;> simp_all

theorem isNumber_iff_role : t.isNumber = true ↔ t.role = .number := by
  by_cases hid : t.isIdentifier = true
  · simp [role, hid, isNumber_eq_false_of_isIdentifier hid]
  · unfold role
    split_ifs <;> simp_all

theorem isType_iff_role : t.isType = true ↔ t.role = .type := by
  constructor
  · intro h
    have hall : ∀ u ∈ typeNames, u.role = .type := by decide
    exact hall t (List.contains_iff_mem.mp h)
  · unfold role
    split_ifs <;> simp_all

theorem isRejectedType_iff_role : t.isRejectedType = true ↔ t.role = .rejectedType := by
  constructor
  · intro h
    have hall : ∀ u ∈ rejectedTypeNames, u.role = .rejectedType := by decide
    exact hall t (List.contains_iff_mem.mp h)
  · unfold role
    split_ifs <;> simp_all

theorem isComparison_iff_role : t.isComparison = true ↔ t.role = .comparison := by
  constructor
  · intro h
    have hall : ∀ u ∈ comparisons, u.role = .comparison := by decide
    exact hall t (List.contains_iff_mem.mp h)
  · unfold role
    split_ifs <;> simp_all

theorem isArithmetic_iff_role : t.isArithmetic = true ↔ t.role = .arithmetic := by
  constructor
  · intro h
    have hall : ∀ u ∈ additives ++ multiplicatives, u.role = .arithmetic := by decide
    refine hall t (List.mem_append.mpr ?_)
    simpa [isArithmetic, isAdditive, isMultiplicative] using h
  · unfold role
    split_ifs <;> simp_all

theorem eq_word_iff_role {w : Token} (hw : w ∈ words) : t = w ↔ t.role = .word w := by
  constructor
  · rintro rfl
    have hall : ∀ u ∈ words, u.role = .word u := by decide
    exact hall t hw
  · unfold role
    split_ifs <;> simp_all

theorem stray_iff_role : t ∈ ["!", "%", "&&", "||", "&", "|", "^"] ↔ t.role = .stray := by
  constructor
  · have hall : ∀ u ∈ ["!", "%", "&&", "||", "&", "|", "^"], role u = .stray := by decide
    exact hall t
  · intro h
    unfold role at h
    split_ifs at h with _ _ _ _ hcomparison harithmetic hword hop
    simp only [isArithmetic, Bool.or_eq_true, not_or, Bool.not_eq_true] at harithmetic
    simp only [isOperator, Bool.eq_false_iff.mpr hcomparison, harithmetic, Bool.false_or] at hop
    rcases List.mem_cons.mp (List.contains_iff_mem.mp hop) with rfl | hmem
    · exact absurd (by decide) hword
    · exact hmem

theorem isOperator_iff_role : t.isOperator = true ↔
    t.role = .comparison ∨ t.role = .arithmetic ∨ t.role = .word "=" ∨ t.role = .stray := by
  rw [← isComparison_iff_role, ← isArithmetic_iff_role, ← eq_word_iff_role (by decide),
    ← stray_iff_role]
  simp only [isOperator, isArithmetic, strayOperators, Bool.or_eq_true, List.contains_iff_mem,
    List.mem_cons, or_assoc]

/-! ## Tokens that play the same role belong to the same classes -/

variable (h : t.role = u.role)
include h

theorem isIdentifier_eq_of_role : t.isIdentifier = u.isIdentifier := by
  rw [Bool.eq_iff_iff, isIdentifier_iff_role, isIdentifier_iff_role, h]

theorem isNumber_eq_of_role : t.isNumber = u.isNumber := by
  rw [Bool.eq_iff_iff, isNumber_iff_role, isNumber_iff_role, h]

theorem isType_eq_of_role : t.isType = u.isType := by
  rw [Bool.eq_iff_iff, isType_iff_role, isType_iff_role, h]

theorem isRejectedType_eq_of_role : t.isRejectedType = u.isRejectedType := by
  rw [Bool.eq_iff_iff, isRejectedType_iff_role, isRejectedType_iff_role, h]

theorem isComparison_eq_of_role : t.isComparison = u.isComparison := by
  rw [Bool.eq_iff_iff, isComparison_iff_role, isComparison_iff_role, h]

theorem isOperator_eq_of_role : t.isOperator = u.isOperator := by
  rw [Bool.eq_iff_iff, isOperator_iff_role, isOperator_iff_role, h]

theorem eq_word_iff_of_role (w : Token) (hw : w ∈ words := by decide) : t = w ↔ u = w := by
  rw [eq_word_iff_role hw, eq_word_iff_role hw, h]

end

end Token

/-- The violation with another token in place of the one that it names. -/
def Violation.naming (v : Violation) (t : Token) : Violation :=
  match v with
  | endOfInput expected => endOfInput expected
  | mismatch expected _ => mismatch expected t
  | wrongCategory c _ => wrongCategory c t
  | noAlternative rule _ => noAlternative rule t
  | numberAsIdentifier _ => numberAsIdentifier t
  | unsupportedType _ => unsupportedType t
  | trailingOperator _ => trailingOperator t

/-- Two moves that differ in no more than the tokens that they take or name. -/
inductive Move.Alike : Move → Move → Prop
  | stay (more : List Goal) : Alike (.stay more) (.stay more)
  | take (t u : Token) (named : Bool) (more : List Goal) :
      Alike (.take t named more) (.take u named more)
  | refuse (want : Option Token) {v w : Violation} (h : ∀ t, v.naming t = w.naming t) :
      Alike (.refuse want v) (.refuse want w)
  | spoil (t u : Token) {v w : Violation} (h : ∀ t, v.naming t = w.naming t) :
      Alike (.spoil t v) (.spoil u w)

namespace Move.Alike

theorem refl (m : Move) : Alike m m := by
  cases m with
  | stay more => exact .stay more
  | take t named more => exact .take t t named more
  | refuse want v => exact .refuse want fun _ => rfl
  | spoil t v => exact .spoil t t fun _ => rfl

theorem before {m n : Move} (h : Alike m n) (rest : List Goal) :
    Alike (m.before rest) (n.before rest) := by
  cases h with
  | stay more => exact .stay (more ++ rest)
  | take t u named more => exact .take t u named (more ++ rest)
  | refuse want h => exact .refuse want h
  | spoil t u h => exact .spoil t u h

end Move.Alike

namespace Goal

open Move Token

/-! ## A goal makes the same move on sight of tokens that play the same role -/

section

variable {t u : Token} (h : t.role = u.role)
include h

theorem moveDeclaration_alike : Alike (moveDeclaration (some t)) (moveDeclaration (some u)) := by
  simp only [moveDeclaration, isType_eq_of_role h, isRejectedType_eq_of_role h]
  split_ifs
  · exact .take t u false _
  · exact .spoil t u fun _ => rfl
  · exact .spoil t u fun _ => rfl

theorem moveStatement_alike : Alike (moveStatement (some t)) (moveStatement (some u)) := by
  simp only [moveStatement, isType_eq_of_role h, isIdentifier_eq_of_role h,
    eq_word_iff_of_role h "if", eq_word_iff_of_role h "while", eq_word_iff_of_role h "for",
    eq_word_iff_of_role h Token.openBrace, isNumber_eq_of_role h, isRejectedType_eq_of_role h]
  split_ifs
  · exact .take t u false _
  · exact .take t u false _
  · exact .take t u true _
  · exact .take t u true _
  · exact .take t u true _
  · exact .take t u true _
  · exact .refuse none fun _ => rfl
  · exact .refuse none fun _ => rfl
  · exact .refuse none fun _ => rfl

theorem moveInitializer_alike : Alike (moveInitializer (some t)) (moveInitializer (some u)) := by
  simp only [moveInitializer, eq_word_iff_of_role h ";", eq_word_iff_of_role h "="]
  split_ifs
  · exact .take t u false _
  · exact .take t u false _
  · exact .refuse none fun _ => rfl

theorem moveFactor_alike : Alike (moveFactor (some t)) (moveFactor (some u)) := by
  simp only [moveFactor, eq_word_iff_of_role h "(", isIdentifier_eq_of_role h,
    isNumber_eq_of_role h]
  split_ifs
  · exact .take t u false _
  · exact .take t u false _
  · exact .take t u false _
  · exact .refuse none fun _ => rfl

end

theorem moveOptional_alike {test : Token → Bool} {t u : Token} (goals : List Goal)
    (htest : test t = test u) :
    Alike (moveOptional test goals (some t)) (moveOptional test goals (some u)) := by
  simp only [moveOptional, htest]
  split_ifs
  · exact .take t u false _
  · exact .stay []

theorem mem_words_of_mem_marks {w : Token} (h : w ∈ marks) : w ∈ words := by
  have hall : ∀ w ∈ marks, w ∈ words := by decide
  exact hall w h

/-- Only the goals that look for an operator of arithmetic tell two such operators apart. -/
theorem move_alike {g : Goal} {found found' : Option Token}
    (h : found.map role = found'.map role) (hmarked : Marked [g])
    (hg : g ∉ [moreTerms, moreFactors]) : Alike (g.move found) (g.move found') := by
  cases found with
  | none =>
    obtain rfl : found' = none := by simpa using h.symm
    exact .refl _
  | some t =>
    obtain ⟨u, rfl, hu⟩ := Option.map_eq_some_iff.mp h.symm
    have hrole : t.role = u.role := hu.symm
    cases g with
    | literal want =>
      have hwant : want ∈ words := mem_words_of_mem_marks (hmarked want (by simp))
      simp only [move, eq_word_iff_of_role hrole want hwant]
      split_ifs
      · exact .take t u true []
      · exact .refuse (some want) fun _ => rfl
    | identifier =>
      simp only [move, isIdentifier_eq_of_role hrole]
      split_ifs
      · exact .take t u false []
      · exact .spoil t u fun _ => rfl
    | statements => exact (moveStatement_alike hrole).before [statements]
    | statement => exact moveStatement_alike hrole
    | alternative =>
      have helse : (t == "else") = (u == "else") := by
        rw [Bool.eq_iff_iff, beq_iff_eq, beq_iff_eq]
        exact eq_word_iff_of_role hrole "else"
      exact @moveOptional_alike (· == "else") t u [statement] helse
    | declaration => exact moveDeclaration_alike hrole
    | initializer => exact moveInitializer_alike hrole
    | comparison => exact moveOptional_alike [sum] (isComparison_eq_of_role hrole)
    | boundary =>
      simp only [move, isOperator_eq_of_role hrole]
      split_ifs
      · exact .refuse none fun _ => rfl
      · exact .stay []
    | factor => exact moveFactor_alike hrole
    | expression | sum | term => exact .refl _
    | moreTerms | moreFactors => exact absurd hg (by simp)

/-! ## Stacks on which the further terms stand behind the further factors -/

/-- A term, and the further factors of one, have the further terms of a sum right behind them, and
those stand nowhere else. -/
inductive Paired : List Goal → Prop
  | nil : Paired []
  | term {rest : List Goal} (h : Paired rest) : Paired (term :: moreTerms :: rest)
  | moreFactors {rest : List Goal} (h : Paired rest) : Paired (moreFactors :: moreTerms :: rest)
  | cons {g : Goal} {rest : List Goal} (hg : g ∉ [.term, .moreFactors, .moreTerms])
      (h : Paired rest) : Paired (g :: rest)

theorem Paired.append {gs hs : List Goal} (hg : Paired gs) (hh : Paired hs) :
    Paired (gs ++ hs) := by
  induction hg with
  | nil => exact hh
  | term _ ih => exact .term ih
  | moreFactors _ ih => exact .moreFactors ih
  | cons hg _ ih => exact .cons hg ih

theorem paired_of_stays {g : Goal} {more : List Goal} (h : Stays g more)
    (hg : g ∉ [term, moreFactors, moreTerms]) : Paired more := by
  cases h with
  | expression => exact .cons (by simp) (.cons (by simp) (.cons (by simp) .nil))
  | sum => exact .term .nil
  | term => exact absurd hg (by simp)
  | finish => exact .nil

theorem paired_of_forall {gs : List Goal} (h : ∀ g ∈ gs, g ∉ [term, moreFactors, moreTerms]) :
    Paired gs := by
  induction gs with
  | nil => exact .nil
  | cons g gs ih =>
    rw [List.forall_mem_cons] at h
    exact .cons h.1 (ih h.2)

theorem paired_of_takes {g : Goal} {t : Token} {more : List Goal} (h : Takes g t more)
    (hg : g ∉ [term, moreFactors, moreTerms]) : Paired more := by
  induction h with
  | statements _ ih => exact (ih (by simp)).append (.cons (by simp) .nil)
  | moreTerms | moreFactors => exact absurd hg (by simp)
  | _ => exact paired_of_forall (by simp [condition])

end Goal

open Goal Parse Token

/-! ## A stack is met from the goals that its first one leaves -/

section

variable {r s : Reader} {g : Goal} {rest more : List Goal} {t : Token}

theorem meet_of_stay (h : g.move r.peek? = .stay more) :
    meet (g :: rest) r = meet (more ++ rest) r :=
  (Course.stay .start h).meet_eq

theorem meet_of_take {named : Bool} (h : g.move r.peek? = .take t named more) :
    meet (g :: rest) r = meet (more ++ rest) (r.consume named t) :=
  (Course.take .start h).meet_eq

/-- Whichever goal looks for it, an operator behind an operand leads to the next factor. -/
theorem meet_arithmetic (hpeek : r.peek? = some t) (ht : t.role = .arithmetic) :
    meet (moreFactors :: moreTerms :: rest) r =
      meet (factor :: moreFactors :: moreTerms :: rest) (r.consume false t) := by
  by_cases hmult : t.isMultiplicative = true
  · have hmove : moreFactors.move r.peek? = .take t false [factor, moreFactors] := by
      rw [hpeek]
      simp [move, moveOptional, hmult]
    rw [meet_of_take hmove]
    rfl
  · have hadd : t.isAdditive = true := by
      rw [← isArithmetic_iff_role, isArithmetic, Bool.or_eq_true] at ht
      exact ht.resolve_right hmult
    have hfactors : moreFactors.move r.peek? = .stay [] := by
      rw [hpeek]
      simp [move, moveOptional, hmult]
    have hterms : moreTerms.move r.peek? = .take t false [term, moreTerms] := by
      rw [hpeek]
      simp [move, moveOptional, hadd]
    rw [meet_of_stay hfactors, List.nil_append, meet_of_take hterms, List.cons_append,
      meet_of_stay (g := term) rfl]
    rfl

/-- Where no operator of arithmetic is ahead, no further factors or terms are. -/
theorem meet_no_arithmetic (h : ∀ t ∈ r.peek?, t.role ≠ .arithmetic) :
    meet (moreFactors :: moreTerms :: rest) r = meet rest r := by
  have hclass : ∀ t ∈ r.peek?, t.isAdditive = false ∧ t.isMultiplicative = false := by
    intro t ht
    have hnot : ¬ t.isArithmetic = true := fun harith => h t ht (isArithmetic_iff_role.mp harith)
    simpa [isArithmetic] using hnot
  have hfactors : moreFactors.move r.peek? = .stay [] :=
    moveOptional_eq_stay fun t ht => (hclass t ht).2
  have hterms : moreTerms.move r.peek? = .stay [] :=
    moveOptional_eq_stay fun t ht => (hclass t ht).1
  rw [meet_of_stay hfactors, List.nil_append, meet_of_stay hterms, List.nil_append]

/-- Where readers see tokens that play the same role, both see an operator of arithmetic or neither
does. -/
theorem arithmetic_ahead_or (h : r.peek?.map role = s.peek?.map role) :
    (∃ t u, r.peek? = some t ∧ s.peek? = some u ∧ t.role = .arithmetic ∧ u.role = .arithmetic) ∨
      (∀ t ∈ r.peek?, t.role ≠ .arithmetic) ∧ ∀ u ∈ s.peek?, u.role ≠ .arithmetic := by
  cases hr : r.peek? with
  | none =>
    have hs : s.peek? = none := by simpa [hr] using h.symm
    exact .inr (by simp [hs])
  | some t =>
    obtain ⟨u, hs, hrole⟩ := Option.map_eq_some_iff.mp (h.symm.trans (congrArg _ hr))
    by_cases ht : t.role = .arithmetic
    · exact .inl ⟨t, u, rfl, hs, ht, hrole.trans ht⟩
    · exact .inr (by simp [hs, hrole, ht])

theorem totalWeight_lt_of_stays (h : Stays g more) : totalWeight more < g.weight := by
  cases h with
  | finish hopt => cases g <;> simp [weight]
  | _ => simp [weight]

theorem remaining_consume_lt (hpeek : r.peek? = some t) (named : Bool) :
    (r.consume named t).remaining < r.remaining := by
  have hlt := Reader.lt_size_of_peek? hpeek
  simp only [Reader.remaining, Reader.tokens_consume, Reader.position_consume]
  omega

/-- Induction along a check: a statement about a stack and a reader may be assumed where less is
left to read, and for lighter stacks. -/
theorem meet_induction {motive : List Goal → Reader → Prop}
    (step : ∀ gs r, (∀ gs' r', r'.remaining < r.remaining → motive gs' r') →
      (∀ gs', totalWeight gs' < totalWeight gs → motive gs' r) → motive gs r)
    (gs : List Goal) (r : Reader) : motive gs r := by
  induction hn : r.remaining using Nat.strong_induction_on generalizing gs r with
  | _ n ihread =>
    subst hn
    induction hw : totalWeight gs using Nat.strong_induction_on generalizing gs with
    | _ k ihlight =>
      subst hw
      exact step gs r (fun gs' r' hlt => ihread _ hlt gs' r' rfl)
        (fun gs' hlt => ihlight _ hlt gs' rfl)

end

/-! ## Two runs side by side -/

/-- A reader of some tokens and a reader of others stand at the same position and have recorded the
same number of events. -/
structure Abreast (tokens others : List Token) (r s : Reader) : Prop where
  left : r.tokens = tokens.toArray
  right : s.tokens = others.toArray
  position : r.position = s.position
  verbose : r.verbose = s.verbose
  trace : r.trace.size = s.trace.size

namespace Abreast

variable {tokens others : List Token} {r s : Reader}

theorem ofTokens (tokens others : List Token) (verbose : Bool) :
    Abreast tokens others (.ofTokens tokens verbose) (.ofTokens others verbose) :=
  ⟨rfl, rfl, rfl, rfl, rfl⟩

theorem peek?_left (h : Abreast tokens others r s) : r.peek? = tokens[r.position]? := by
  simp [Reader.peek?, h.left]

theorem peek?_right (h : Abreast tokens others r s) : s.peek? = others[r.position]? := by
  simp [Reader.peek?, h.right, h.position]

theorem map_role_peek? (h : Abreast tokens others r s)
    (hroles : tokens.map role = others.map role) : r.peek?.map role = s.peek?.map role := by
  rw [h.peek?_left, h.peek?_right, ← List.getElem?_map, ← List.getElem?_map, hroles]

theorem note (h : Abreast tokens others r s) (e e' : Event) :
    Abreast tokens others (r.note e) (s.note e') where
  left := by simpa using h.left
  right := by simpa using h.right
  position := by simpa using h.position
  verbose := by simpa using h.verbose
  trace := by
    unfold Reader.note
    rw [h.verbose]
    split
    · simp [h.trace]
    · exact h.trace

theorem skip (h : Abreast tokens others r s) (t u : Token) :
    Abreast tokens others (r.skip t) (s.skip u) := by
  have hnote := h.note (.consumed t r.position) (.consumed u s.position)
  exact ⟨hnote.left, hnote.right, congrArg (· + 1) hnote.position, hnote.verbose, hnote.trace⟩

theorem consume (h : Abreast tokens others r s) (named : Bool) (t u : Token) :
    Abreast tokens others (r.consume named t) (s.consume named u) := by
  cases named with
  | false => exact h.skip t u
  | true => exact (h.note _ _).skip t u

theorem miss (h : Abreast tokens others r s) (want : Option Token) :
    Abreast tokens others (r.miss want) (s.miss want) := by
  cases want with
  | none => exact h
  | some want => exact h.note _ _

end Abreast

/-- Two checks end alike: both succeed, or both fail with violations that differ in no more than the
tokens that they name, and those stand at the same index, right at the readers or right before. -/
inductive EndAbreast (tokens others : List Token) :
    EStateM.Result Violation Reader Unit → EStateM.Result Violation Reader Unit → Prop
  | ok {r s : Reader} (h : Abreast tokens others r s) :
      EndAbreast tokens others (.ok () r) (.ok () s)
  | error {v w : Violation} {r s : Reader} {i : Nat} (h : Abreast tokens others r s)
      (hform : ∀ t, v.naming t = w.naming t) (hv : v.found? = tokens[i]?)
      (hw : w.found? = others[i]?) (hi : r.position = i ∨ r.position = i + 1) :
      EndAbreast tokens others (.error v r) (.error w s)

section

variable {tokens others : List Token}

/-- Moves that fail alike end the checks alike. -/
theorem meet_abreast_of_error {g : Goal} {rest : List Goal} {r s q q' : Reader}
    {v w : Violation} (h : Abreast tokens others r s) (hq : Abreast tokens others q q')
    (hform : ∀ t, v.naming t = w.naming t) (hleft : (g.move r.peek?).perform r = .error v q)
    (hright : (g.move s.peek?).perform s = .error w q') :
    EndAbreast tokens others (meet (g :: rest) r) (meet (g :: rest) s) := by
  rw [Course.start.meet_eq_error hleft, Course.start.meet_eq_error hright]
  refine .error hq hform ((found?_of_error hleft).trans h.peek?_left)
    ((found?_of_error hright).trans h.peek?_right) ?_
  rcases perform_eq_error hleft with ⟨-, hposition⟩ | ⟨-, -, -, hposition⟩
  · exact .inl hposition
  · exact .inr hposition

/-- Checks of the same goals by readers that stand abreast end alike, if the tokens play the same
roles. -/
theorem meet_abreast (hroles : tokens.map role = others.map role) {gs : List Goal}
    {r s : Reader} (hpaired : Paired gs) (hmarked : Marked gs)
    (h : Abreast tokens others r s) : EndAbreast tokens others (meet gs r) (meet gs s) := by
  induction gs, r using meet_induction generalizing s with
  | step gs r ihread ihlight =>
  have hpeek := h.map_role_peek? hroles
  cases hpaired with
  | nil =>
    rw [meet_nil, meet_nil]
    exact .ok h
  | @term rest hrest =>
    rw [meet_of_stay (g := term) rfl, meet_of_stay (g := term) rfl]
    have hlt : totalWeight ([factor, moreFactors] ++ moreTerms :: rest) <
        totalWeight (term :: moreTerms :: rest) := by
      simp only [List.cons_append, List.nil_append, totalWeight_cons, weight]
      omega
    exact ihlight _ hlt (.cons (by simp) (.moreFactors hrest))
      ((marked_of_stays .term).append hmarked.tail) h
  | @moreFactors rest hrest =>
    rcases arithmetic_ahead_or hpeek with ⟨t, u, ht, hu, hrole, hrole'⟩ | ⟨hleft, hright⟩
    · rw [meet_arithmetic ht hrole, meet_arithmetic hu hrole']
      have hfactor : Marked [factor] := by simp [Marked]
      exact ihread _ _ (remaining_consume_lt ht false) (.cons (by simp) (.moreFactors hrest))
        (hfactor.append hmarked) (h.consume false t u)
    · rw [meet_no_arithmetic hleft, meet_no_arithmetic hright]
      have hlt : totalWeight rest < totalWeight (moreFactors :: moreTerms :: rest) := by
        simp only [totalWeight_cons, weight]
        omega
      exact ihlight _ hlt hrest hmarked.tail.tail h
  | @cons g rest hg hrest =>
    have hmove : (g.move r.peek?).Alike (g.move s.peek?) :=
      move_alike hpeek hmarked.head (by simp_all)
    generalize hleft : g.move r.peek? = m at hmove
    generalize hright : g.move s.peek? = n at hmove
    cases hmove with
    | stay more =>
      have hstays := (stays_of_move hleft).1
      have hlt : totalWeight (more ++ rest) < totalWeight (g :: rest) := by
        simpa using totalWeight_lt_of_stays hstays
      rw [meet_of_stay hleft, meet_of_stay hright]
      exact ihlight _ hlt ((paired_of_stays hstays hg).append hrest)
        ((marked_of_stays hstays).append hmarked.tail) h
    | take t u named more =>
      obtain ⟨ht, htakes⟩ := takes_of_move hleft
      rw [meet_of_take hleft, meet_of_take hright]
      exact ihread _ _ (remaining_consume_lt ht named)
        ((paired_of_takes htakes hg).append hrest)
        ((marked_of_takes htakes).append hmarked.tail) (h.consume named t u)
    | refuse want hform =>
      exact meet_abreast_of_error h (h.miss want) hform (by rw [hleft]; rfl) (by rw [hright]; rfl)
    | spoil t u hform =>
      exact meet_abreast_of_error h (h.skip t u) hform (by rw [hleft]; rfl) (by rw [hright]; rfl)

end

/-- Checks of tokens that play the same roles, one by one, end alike: with the same verdict, at the
same position and after as many events, and a violation of the one is a violation of the other once
it names the token at that place. -/
theorem program_abreast {tokens others : List Token} (hroles : tokens.map role = others.map role)
    (verbose : Bool) :
    EndAbreast tokens others (program (Reader.ofTokens tokens verbose))
      (program (Reader.ofTokens others verbose)) :=
  meet_abreast hroles (.cons (by simp) .nil) (by simp [Marked]) (.ofTokens tokens others verbose)

/-- A sum and a term lack their last operand. -/
theorem program_abreast_operand :
    ["x", "=", "1", "+", "y", "*", "int"].map role =
        ["b", "=", "22", "*", "z", "-", "char"].map role ∧
      EndAbreast ["x", "=", "1", "+", "y", "*", "int"] ["b", "=", "22", "*", "z", "-", "char"]
        (program (Reader.ofTokens ["x", "=", "1", "+", "y", "*", "int"] true))
        (program (Reader.ofTokens ["b", "=", "22", "*", "z", "-", "char"] true)) :=
  ⟨by decide, program_abreast (by decide) true⟩

end StatementCheck
