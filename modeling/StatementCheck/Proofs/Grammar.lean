import StatementCheck.Proofs.Move

/-!
# The grammar

The grammar, read as a definition of which sequences of tokens are phrases of which kind. A repeated
group is any finite number of groups, and an optional one is there or not: nothing prefers one
reading of a text to another, so an `else` may belong to any conditional before it.

A goal asks for tokens of one form, and a stack of goals for such tokens one after the other. The
table of moves turns out to be the grammar once more, unfolded by one token.

## Main definitions

* `Phrase`, `Phrase.Derives` : the kinds of phrase, and which tokens form one.
* `Goal.MetBy`, `Goal.AllMetBy` : the tokens that meet a goal, or a stack of goals.
* `Goal.metBy_iff_unfolds` : a goal is met by what its moves lead to.
-/
namespace StatementCheck

/-- The kinds of phrase. -/
inductive Phrase
  | program
  | statement
  | declaration
  | assignment
  | conditional
  | whileLoop
  | forLoop
  | block
  | expression
  | sum
  | term
  | factor

namespace Phrase

/-- Repeated groups of an operator and an operand, one after the other. -/
def groups (gs : List (Token × List Token)) : List Token := gs.flatMap fun g => g.1 :: g.2

@[simp] theorem groups_nil : groups [] = [] := rfl

@[simp] theorem groups_cons (t : Token) (w : List Token) (gs : List (Token × List Token)) :
    groups ((t, w) :: gs) = t :: w ++ groups gs := rfl

/-- The tokens form a phrase of a kind. -/
inductive Derives : Phrase → List Token → Prop
  /-- `Statement*` -/
  | program {ss : List (List Token)} (h : ∀ s ∈ ss, Derives statement s) :
      Derives program ss.flatten
  | declarationStatement {w : List Token} (h : Derives declaration w) : Derives statement w
  | assignmentStatement {w : List Token} (h : Derives assignment w) : Derives statement w
  | conditionalStatement {w : List Token} (h : Derives conditional w) : Derives statement w
  | whileStatement {w : List Token} (h : Derives whileLoop w) : Derives statement w
  | forStatement {w : List Token} (h : Derives forLoop w) : Derives statement w
  | blockStatement {w : List Token} (h : Derives block w) : Derives statement w
  /-- `Type Identifier ";"` -/
  | uninitialized {t x : Token} (ht : t.isType = true) (hx : x.isIdentifier = true) :
      Derives declaration [t, x, ";"]
  /-- `Type Identifier "=" Expression ";"` -/
  | initialized {t x : Token} {e : List Token} (ht : t.isType = true) (hx : x.isIdentifier = true)
      (he : Derives expression e) : Derives declaration ([t, x, "="] ++ e ++ [";"])
  /-- `Identifier "=" Expression ";"` -/
  | assignment {x : Token} {e : List Token} (hx : x.isIdentifier = true)
      (he : Derives expression e) : Derives assignment ([x, "="] ++ e ++ [";"])
  /-- `"if" "(" Expression ")" Statement` -/
  | ifThen {e s : List Token} (he : Derives expression e) (hs : Derives statement s) :
      Derives conditional (["if", "("] ++ e ++ [")"] ++ s)
  /-- `"if" "(" Expression ")" Statement "else" Statement` -/
  | ifThenElse {e s s' : List Token} (he : Derives expression e) (hs : Derives statement s)
      (hs' : Derives statement s') :
      Derives conditional (["if", "("] ++ e ++ [")"] ++ s ++ ["else"] ++ s')
  /-- `"while" "(" Expression ")" Statement` -/
  | whileLoop {e s : List Token} (he : Derives expression e) (hs : Derives statement s) :
      Derives whileLoop (["while", "("] ++ e ++ [")"] ++ s)
  /-- `"for" "(" Declaration Expression ";" Expression ")" Statement` -/
  | forLoop {d e e' s : List Token} (hd : Derives declaration d) (he : Derives expression e)
      (he' : Derives expression e') (hs : Derives statement s) :
      Derives forLoop (["for", "("] ++ d ++ e ++ [";"] ++ e' ++ [")"] ++ s)
  /-- `"{" Statement "}"` -/
  | block {s : List Token} (hs : Derives statement s) :
      Derives block ([Token.openBrace] ++ s ++ [Token.closeBrace])
  /-- `Sum` -/
  | plain {a : List Token} (ha : Derives sum a) : Derives expression a
  /-- `Sum Comparison Sum` -/
  | compared {a b : List Token} {c : Token} (ha : Derives sum a) (hc : c.isComparison = true)
      (hb : Derives sum b) : Derives expression (a ++ [c] ++ b)
  /-- `Term ( ( "+" | "-" ) Term )*` -/
  | sum {a : List Token} {gs : List (Token × List Token)} (ha : Derives term a)
      (hop : ∀ g ∈ gs, g.1.isAdditive = true) (hgs : ∀ g ∈ gs, Derives term g.2) :
      Derives sum (a ++ groups gs)
  /-- `Factor ( ( "*" | "/" ) Factor )*` -/
  | term {a : List Token} {gs : List (Token × List Token)} (ha : Derives factor a)
      (hop : ∀ g ∈ gs, g.1.isMultiplicative = true) (hgs : ∀ g ∈ gs, Derives factor g.2) :
      Derives term (a ++ groups gs)
  /-- `"(" Expression ")"` -/
  | parenthesized {e : List Token} (he : Derives expression e) :
      Derives factor (["("] ++ e ++ [")"])
  /-- `Identifier` -/
  | name {x : Token} (hx : x.isIdentifier = true) : Derives factor [x]
  /-- `Number` -/
  | numeral {n : Token} (hn : n.isNumber = true) : Derives factor [n]

/-- A factor alone is a term. -/
theorem derives_term_of_factor {a : List Token} (h : Derives factor a) : Derives term a := by
  simpa using @Derives.term a [] h (by simp) (by simp)

/-- A term alone is a sum. -/
theorem derives_sum_of_term {a : List Token} (h : Derives term a) : Derives sum a := by
  simpa using @Derives.sum a [] h (by simp) (by simp)

end Phrase

namespace Goal

open Phrase

/-- The tokens that meet a goal. -/
def MetBy : Goal → List Token → Prop
  | literal want, w => w = [want]
  | identifier, w => ∃ x, x.isIdentifier = true ∧ w = [x]
  | statements, w => Derives .program w
  | statement, w => Derives .statement w
  | alternative, w => w = [] ∨ ∃ s, Derives .statement s ∧ w = "else" :: s
  | declaration, w => Derives .declaration w
  | initializer, w => w = [";"] ∨ ∃ e, Derives .expression e ∧ w = "=" :: e ++ [";"]
  | expression, w => Derives .expression w
  | comparison, w => w = [] ∨ ∃ c s, c.isComparison = true ∧ Derives .sum s ∧ w = c :: s
  | boundary, w => w = []
  | sum, w => Derives .sum w
  | moreTerms, w => ∃ gs : List (Token × List Token), (∀ g ∈ gs, g.1.isAdditive = true) ∧
      (∀ g ∈ gs, Derives .term g.2) ∧ w = groups gs
  | term, w => Derives .term w
  | moreFactors, w => ∃ gs : List (Token × List Token), (∀ g ∈ gs, g.1.isMultiplicative = true) ∧
      (∀ g ∈ gs, Derives .factor g.2) ∧ w = groups gs
  | factor, w => Derives .factor w

/-- The tokens that meet a stack of goals, one after the other. -/
def AllMetBy : List Goal → List Token → Prop
  | [], w => w = []
  | g :: gs, w => ∃ a b, w = a ++ b ∧ g.MetBy a ∧ AllMetBy gs b

@[simp] theorem allMetBy_nil {w : List Token} : AllMetBy [] w ↔ w = [] := Iff.rfl

theorem allMetBy_cons {g : Goal} {gs : List Goal} {w : List Token} :
    AllMetBy (g :: gs) w ↔ ∃ a b, w = a ++ b ∧ g.MetBy a ∧ AllMetBy gs b := Iff.rfl

theorem AllMetBy.cons {g : Goal} {gs : List Goal} {a b : List Token} (ha : g.MetBy a)
    (hb : AllMetBy gs b) : AllMetBy (g :: gs) (a ++ b) :=
  ⟨a, b, rfl, ha, hb⟩

theorem AllMetBy.literal {t : Token} {gs : List Goal} {b : List Token} (hb : AllMetBy gs b) :
    AllMetBy (literal t :: gs) (t :: b) :=
  .cons (a := [t]) rfl hb

@[simp] theorem allMetBy_singleton {g : Goal} {w : List Token} : AllMetBy [g] w ↔ g.MetBy w := by
  simp [allMetBy_cons]

theorem allMetBy_append {gs hs : List Goal} {w : List Token} :
    AllMetBy (gs ++ hs) w ↔ ∃ a b, w = a ++ b ∧ AllMetBy gs a ∧ AllMetBy hs b := by
  induction gs generalizing w with
  | nil =>
    constructor
    · intro h
      exact ⟨[], w, rfl, rfl, h⟩
    · rintro ⟨_, _, rfl, rfl, hb⟩
      exact hb
  | cons g gs ih =>
    constructor
    · rintro ⟨a, b, rfl, hg, hb⟩
      obtain ⟨c, d, rfl, hc, hd⟩ := ih.mp hb
      exact ⟨a ++ c, d, by simp, .cons hg hc, hd⟩
    · rintro ⟨_, d, rfl, ⟨a, c, rfl, hg, hc⟩, hd⟩
      exact ⟨a, c ++ d, by simp, hg, ih.mpr ⟨c, d, rfl, hc, hd⟩⟩

theorem AllMetBy.append {gs hs : List Goal} {a b : List Token} (ha : AllMetBy gs a)
    (hb : AllMetBy hs b) : AllMetBy (gs ++ hs) (a ++ b) :=
  allMetBy_append.mpr ⟨a, b, rfl, ha, hb⟩

/-! ## The table is the grammar, unfolded by one token -/

theorem allMetBy_condition_append {gs : List Goal} {w : List Token} :
    AllMetBy (condition ++ gs) w ↔
      ∃ e b, w = ["("] ++ e ++ [")"] ++ b ∧ Derives .expression e ∧ AllMetBy gs b := by
  constructor
  · rintro ⟨_, _, rfl, rfl, e, _, rfl, he, _, b, rfl, rfl, hb⟩
    exact ⟨e, b, by simp, he, hb⟩
  · rintro ⟨e, b, rfl, he, hb⟩
    exact ⟨["("], e ++ ([")"] ++ b), by simp, rfl, e, _, rfl, he, _, b, rfl, rfl, hb⟩

theorem derives_declaration {t : Token} {w : List Token} (ht : t.isType = true)
    (hw : AllMetBy [identifier, initializer] w) : Derives .declaration (t :: w) := by
  obtain ⟨_, _, rfl, ⟨x, hx, rfl⟩, _, _, rfl, hi, rfl⟩ := hw
  rcases hi with rfl | ⟨e, he, rfl⟩
  · exact .uninitialized ht hx
  · simpa using Derives.initialized ht hx he

theorem metBy_of_stays {g : Goal} {more : List Goal} {w : List Token} (h : Stays g more)
    (hw : AllMetBy more w) : g.MetBy w := by
  cases h with
  | expression =>
    obtain ⟨a, _, rfl, ha, c, _, rfl, hc, _, _, rfl, rfl, rfl⟩ := hw
    rcases hc with rfl | ⟨t, s, ht, hs, rfl⟩
    · simpa [MetBy] using Derives.plain ha
    · simpa [MetBy] using Derives.compared ha ht hs
  | sum =>
    obtain ⟨a, _, rfl, ha, _, _, rfl, ⟨gs, hop, hgs, rfl⟩, rfl⟩ := hw
    simpa [MetBy] using Derives.sum ha hop hgs
  | term =>
    obtain ⟨a, _, rfl, ha, _, _, rfl, ⟨gs, hop, hgs, rfl⟩, rfl⟩ := hw
    simpa [MetBy] using Derives.term ha hop hgs
  | finish hopt =>
    cases hw
    cases g with
    | statements => exact @Derives.program [] (by simp)
    | alternative | comparison => exact .inl rfl
    | boundary => rfl
    | moreTerms | moreFactors => exact ⟨[], by simp, by simp, rfl⟩
    | _ => cases hopt

theorem metBy_of_takes {g : Goal} {t : Token} {more : List Goal} {w : List Token}
    (h : Takes g t more) (hw : AllMetBy more w) : g.MetBy (t :: w) := by
  induction h generalizing w with
  | literal => cases hw; rfl
  | identifier h => cases hw; exact ⟨_, h, rfl⟩
  | @statements t more _ ih =>
    obtain ⟨a, _, rfl, ha, b, _, rfl, hb, rfl⟩ := allMetBy_append.mp hw
    cases hb with
    | @program ss hss =>
      have hs : Derives .statement (t :: a) := ih ha
      simpa [MetBy] using Derives.program (List.forall_mem_cons.mpr ⟨hs, hss⟩)
  | typed h => exact .declarationStatement (derives_declaration h hw)
  | declaration h => exact derives_declaration h hw
  | assigned h =>
    obtain ⟨_, _, rfl, rfl, e, _, rfl, he, _, _, rfl, rfl, rfl⟩ := hw
    simpa [MetBy] using Derives.assignmentStatement (.assignment h he)
  | conditional =>
    obtain ⟨e, _, rfl, he, s, _, rfl, hs, _, _, rfl, ha, rfl⟩ := allMetBy_condition_append.mp hw
    rcases ha with rfl | ⟨s', hs', rfl⟩
    · simpa [MetBy] using Derives.conditionalStatement (.ifThen he hs)
    · simpa [MetBy] using Derives.conditionalStatement (.ifThenElse he hs hs')
  | whileLoop =>
    obtain ⟨e, _, rfl, he, s, _, rfl, hs, rfl⟩ := allMetBy_condition_append.mp hw
    simpa [MetBy] using Derives.whileStatement (.whileLoop he hs)
  | forLoop =>
    obtain ⟨_, _, rfl, rfl, d, _, rfl, hd, e, _, rfl, he, _, _, rfl, rfl, e', _, rfl, he',
      _, _, rfl, rfl, s, _, rfl, hs, rfl⟩ := hw
    simpa [MetBy] using Derives.forStatement (.forLoop hd he he' hs)
  | block =>
    obtain ⟨s, _, rfl, hs, _, _, rfl, rfl, rfl⟩ := hw
    simpa [MetBy] using Derives.blockStatement (.block hs)
  | alternative => exact .inr ⟨w, allMetBy_singleton.mp hw, rfl⟩
  | uninitialized => cases hw; exact .inl rfl
  | initialized =>
    obtain ⟨e, _, rfl, he, _, _, rfl, rfl, rfl⟩ := hw
    exact .inr ⟨e, he, by simp⟩
  | comparison h => exact .inr ⟨_, w, h, allMetBy_singleton.mp hw, rfl⟩
  | moreTerms h | moreFactors h =>
    obtain ⟨a, _, rfl, ha, _, _, rfl, ⟨gs, hop, hgs, rfl⟩, rfl⟩ := hw
    exact ⟨(_, a) :: gs, List.forall_mem_cons.mpr ⟨h, hop⟩, List.forall_mem_cons.mpr ⟨ha, hgs⟩,
      by simp⟩
  | parenthesized =>
    obtain ⟨e, _, rfl, he, _, _, rfl, rfl, rfl⟩ := hw
    simpa [MetBy] using Derives.parenthesized he
  | name h => cases hw; exact .name h
  | numeral h => cases hw; exact .numeral h

/-- The goal goes on by the table to goals that the tokens meet. -/
def Unfolds (g : Goal) (w : List Token) : Prop :=
  (∃ more, Stays g more ∧ AllMetBy more w) ∨
    ∃ t more u, w = t :: u ∧ Takes g t more ∧ AllMetBy more u

theorem Unfolds.of_takes {g : Goal} {t : Token} {more : List Goal} {u : List Token}
    (h : Takes g t more) (hu : AllMetBy more u) : Unfolds g (t :: u) :=
  .inr ⟨t, more, u, rfl, h, hu⟩

theorem allMetBy_of_declaration {w : List Token} (h : Derives .declaration w) :
    ∃ t u, w = t :: u ∧ t.isType = true ∧ AllMetBy [identifier, initializer] u := by
  cases h with
  | @uninitialized t x ht hx =>
    exact ⟨t, _, rfl, ht, .cons (a := [x]) ⟨x, hx, rfl⟩ (allMetBy_singleton.mpr (.inl rfl))⟩
  | @initialized t x e ht hx he =>
    exact ⟨t, _, rfl, ht, .cons (a := [x]) ⟨x, hx, rfl⟩
      (allMetBy_singleton.mpr (.inr ⟨e, he, rfl⟩))⟩

theorem takes_of_statement {w : List Token} (h : Derives .statement w) :
    ∃ t more u, w = t :: u ∧ Takes statement t more ∧ AllMetBy more u := by
  cases h with
  | declarationStatement h =>
    obtain ⟨t, u, rfl, ht, hu⟩ := allMetBy_of_declaration h
    exact ⟨t, _, u, rfl, .typed ht, hu⟩
  | assignmentStatement h =>
    cases h with
    | @assignment x e hx he =>
      exact ⟨x, _, _, rfl, .assigned hx,
        .literal (.cons (g := expression) he (allMetBy_singleton.mpr rfl))⟩
  | conditionalStatement h =>
    cases h with
    | @ifThen e s he hs =>
      refine ⟨_, _, _, rfl, .conditional, allMetBy_condition_append.mpr ⟨e, s, by simp, he, ?_⟩⟩
      exact ⟨s, [], by simp, hs, allMetBy_singleton.mpr (.inl rfl)⟩
    | @ifThenElse e s s' he hs hs' =>
      refine ⟨_, _, _, rfl, .conditional,
        allMetBy_condition_append.mpr ⟨e, s ++ "else" :: s', by simp, he, ?_⟩⟩
      exact .cons hs (allMetBy_singleton.mpr (.inr ⟨s', hs', rfl⟩))
  | whileStatement h =>
    cases h with
    | @whileLoop e s he hs =>
      exact ⟨_, _, _, rfl, .whileLoop,
        allMetBy_condition_append.mpr ⟨e, s, by simp, he, allMetBy_singleton.mpr hs⟩⟩
  | forStatement h =>
    cases h with
    | @forLoop d e e' s hd he he' hs =>
      refine ⟨_, _, "(" :: (d ++ (e ++ ";" :: (e' ++ ")" :: s))), by simp, .forLoop, .literal ?_⟩
      exact .cons (g := declaration) hd (.cons (g := expression) he (.literal
        (.cons (g := expression) he' (.literal (allMetBy_singleton.mpr hs)))))
  | blockStatement h =>
    cases h with
    | @block s hs => exact ⟨_, _, _, rfl, .block, .cons hs (allMetBy_singleton.mpr rfl)⟩

/-- What meets a goal meets it by a line of the table. -/
theorem MetBy.unfolds {g : Goal} {w : List Token} (h : g.MetBy w) : Unfolds g w := by
  cases g with
  | literal want => cases h; exact .of_takes .literal rfl
  | identifier =>
    obtain ⟨x, hx, rfl⟩ := h
    exact .of_takes (.identifier hx) rfl
  | statements =>
    cases h with
    | @program ss hss =>
      cases ss with
      | nil => exact .inl ⟨[], .finish rfl, rfl⟩
      | cons s ss =>
        rw [List.forall_mem_cons] at hss
        obtain ⟨t, more, u, rfl, ht, hu⟩ := takes_of_statement hss.1
        exact .of_takes (.statements ht) (hu.append (allMetBy_singleton.mpr (.program hss.2)))
  | statement => exact .inr (takes_of_statement h)
  | alternative =>
    rcases h with rfl | ⟨s, hs, rfl⟩
    · exact .inl ⟨[], .finish rfl, rfl⟩
    · exact .of_takes .alternative (allMetBy_singleton.mpr hs)
  | declaration =>
    obtain ⟨t, u, rfl, ht, hu⟩ := allMetBy_of_declaration h
    exact .of_takes (.declaration ht) hu
  | initializer =>
    rcases h with rfl | ⟨e, he, rfl⟩
    · exact .of_takes .uninitialized rfl
    · exact .of_takes .initialized (.cons he (allMetBy_singleton.mpr rfl))
  | expression =>
    refine .inl ⟨_, .expression, ?_⟩
    cases h with
    | plain ha => exact ⟨w, [], by simp, ha, [], [], rfl, .inl rfl, allMetBy_singleton.mpr rfl⟩
    | @compared a b c ha hc hb =>
      exact ⟨a, c :: b, by simp, ha, c :: b, [], by simp, .inr ⟨c, b, hc, hb, rfl⟩,
        allMetBy_singleton.mpr rfl⟩
  | comparison =>
    rcases h with rfl | ⟨c, s, hc, hs, rfl⟩
    · exact .inl ⟨[], .finish rfl, rfl⟩
    · exact .of_takes (.comparison hc) (allMetBy_singleton.mpr hs)
  | boundary => cases h; exact .inl ⟨[], .finish rfl, rfl⟩
  | sum =>
    cases h with
    | @sum a gs ha hop hgs =>
      exact .inl ⟨_, .sum, .cons ha (allMetBy_singleton.mpr ⟨gs, hop, hgs, rfl⟩)⟩
  | moreTerms =>
    obtain ⟨gs, hop, hgs, rfl⟩ := h
    cases gs with
    | nil => exact .inl ⟨[], .finish rfl, rfl⟩
    | cons g gs =>
      rw [List.forall_mem_cons] at hop hgs
      exact .of_takes (.moreTerms hop.1)
        (.cons hgs.1 (allMetBy_singleton.mpr ⟨gs, hop.2, hgs.2, rfl⟩))
  | term =>
    cases h with
    | @term a gs ha hop hgs =>
      exact .inl ⟨_, .term, .cons ha (allMetBy_singleton.mpr ⟨gs, hop, hgs, rfl⟩)⟩
  | moreFactors =>
    obtain ⟨gs, hop, hgs, rfl⟩ := h
    cases gs with
    | nil => exact .inl ⟨[], .finish rfl, rfl⟩
    | cons g gs =>
      rw [List.forall_mem_cons] at hop hgs
      exact .of_takes (.moreFactors hop.1)
        (.cons hgs.1 (allMetBy_singleton.mpr ⟨gs, hop.2, hgs.2, rfl⟩))
  | factor =>
    cases h with
    | @parenthesized e he =>
      exact .of_takes .parenthesized (.cons he (allMetBy_singleton.mpr rfl))
    | name hx => exact .of_takes (.name hx) rfl
    | numeral hn => exact .of_takes (.numeral hn) rfl

/-- A goal is met by what its lines of the table lead to, and by nothing else. -/
theorem metBy_iff_unfolds {g : Goal} {w : List Token} : g.MetBy w ↔ Unfolds g w := by
  constructor
  · exact MetBy.unfolds
  · rintro (⟨more, hs, hw⟩ | ⟨t, more, u, rfl, ht, hu⟩)
    · exact metBy_of_stays hs hw
    · exact metBy_of_takes ht hu

end Goal

end StatementCheck
