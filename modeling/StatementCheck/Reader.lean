import StatementCheck.Event
import StatementCheck.Violation

/-!
# Reading tokens

A reader stands at a position in a sequence of tokens and only moves forward. A verbose reader also
keeps a trace of what it was asked to consume. The rules of the grammar read through two operations,
`advance` and `expect`; both leave a reader behind when they fail, since its position and its trace
are shown to the user.

## Main definitions

* `Reader` : the tokens, the position, and the trace.
* `Reader.ahead` : the tokens that are still to be read, the view in which the operations are
  stated.
* `Parse` : a computation that reads and may end in a violation.
* `Parse.advance` : consume the token ahead, whatever it is.
* `Parse.expect` : consume one particular token.
* `Parse.require` : consume a token of a class.
-/
namespace StatementCheck

/-- A position in a sequence of tokens, with a trace if the reader is verbose. -/
structure Reader where
  tokens : Array Token
  position : Nat
  verbose : Bool
  trace : Array Event

namespace Reader

/-- A reader at the start of the tokens, with nothing recorded. -/
def ofTokens (tokens : List Token) (verbose : Bool) : Reader :=
  ⟨tokens.toArray, 0, verbose, #[]⟩

/-- The tokens that are still to be read. -/
def ahead (r : Reader) : List Token := r.tokens.toList.drop r.position

/-- The number of tokens that are still to be read. -/
def remaining (r : Reader) : Nat := r.tokens.size - r.position

/-- The token at the position, if the input has not ended. -/
def peek? (r : Reader) : Option Token := r.tokens[r.position]?

/-- Has the input ended? -/
def atEnd (r : Reader) : Bool := decide (r.tokens.size ≤ r.position)

/-- Does one particular token stand ahead? -/
def check (r : Reader) (want : Token) : Bool := r.peek? == some want

/-- Record an event if the reader is verbose. -/
def note (r : Reader) (e : Event) : Reader :=
  if r.verbose then { r with trace := r.trace.push e } else r

/-- Record and step over the token ahead. -/
def skip (r : Reader) (token : Token) : Reader :=
  let noted := r.note (.consumed token r.position)
  { noted with position := noted.position + 1 }

@[simp] theorem tokens_ofTokens (ts : List Token) (v : Bool) :
    (ofTokens ts v).tokens = ts.toArray := rfl

@[simp] theorem position_ofTokens (ts : List Token) (v : Bool) :
    (ofTokens ts v).position = 0 := rfl

@[simp] theorem ahead_ofTokens (ts : List Token) (v : Bool) : (ofTokens ts v).ahead = ts := rfl

theorem head?_ahead (r : Reader) : r.ahead.head? = r.peek? := by
  simp [ahead, peek?]

theorem length_ahead (r : Reader) : r.ahead.length = r.remaining := by
  simp [ahead, remaining]

theorem lt_size_of_peek? {r : Reader} {t : Token} (h : r.peek? = some t) :
    r.position < r.tokens.size := by
  simp only [peek?, Array.getElem?_eq_some_iff] at h
  exact h.1

@[simp] theorem tokens_note (r : Reader) (e : Event) : (r.note e).tokens = r.tokens := by
  unfold note; split <;> rfl

@[simp] theorem position_note (r : Reader) (e : Event) : (r.note e).position = r.position := by
  unfold note; split <;> rfl

@[simp] theorem verbose_note (r : Reader) (e : Event) : (r.note e).verbose = r.verbose := by
  unfold note; split <;> rfl

@[simp] theorem ahead_note (r : Reader) (e : Event) : (r.note e).ahead = r.ahead := by
  simp [ahead]

@[simp] theorem peek?_note (r : Reader) (e : Event) : (r.note e).peek? = r.peek? := by
  simp [peek?]

theorem toList_trace_note (r : Reader) (e : Event) :
    (r.note e).trace.toList = r.trace.toList ++ if r.verbose then [e] else [] := by
  unfold note; split <;> simp_all

@[simp] theorem tokens_skip (r : Reader) (t : Token) : (r.skip t).tokens = r.tokens := by
  simp [skip]

@[simp] theorem position_skip (r : Reader) (t : Token) :
    (r.skip t).position = r.position + 1 := by
  simp [skip]

@[simp] theorem verbose_skip (r : Reader) (t : Token) : (r.skip t).verbose = r.verbose := by
  simp [skip]

theorem remaining_skip {r : Reader} {t : Token} (h : r.peek? = some t) :
    (r.skip t).remaining < r.remaining := by
  have := lt_size_of_peek? h
  simp only [remaining, tokens_skip, position_skip]
  omega

@[simp] theorem remaining_note (r : Reader) (e : Event) :
    (r.note e).remaining = r.remaining := by
  simp [remaining]

theorem toList_trace_skip (r : Reader) (t : Token) :
    (r.skip t).trace.toList =
      r.trace.toList ++ if r.verbose then [.consumed t r.position] else [] := by
  simp [skip, toList_trace_note]

end Reader

/-- A computation that reads tokens and may end in a violation. The reader is kept either way. -/
abbrev Parse := EStateM Violation Reader

namespace Parse

open Reader

/-- The token ahead, left where it is. -/
def lookahead : Parse (Option Token) := fun r => .ok r.peek? r

/-- Consume the token ahead, whatever it is. At the end of the input nothing changes. -/
def advance : Parse Token := fun r =>
  match r.peek? with
  | some t => .ok t (r.skip t)
  | none => .error (.endOfInput []) r

/-- Consume one particular token. A verbose reader records the demand even when it is not met; a
demand that is not met consumes nothing. -/
def expect (want : Token) : Parse Token := fun r =>
  let found := r.peek?
  let r := r.note (.demanded want found)
  match found with
  | none => .error (.endOfInput [want]) r
  | some t => if t = want then .ok t (r.skip t) else .error (.mismatch [want] t) r

/-- Consume a token and require that it belongs to a class. A token of another class has been
consumed when the violation is raised. -/
def require (c : Category) : Parse Unit := do
  let t ← advance
  unless c.admits t do throw (.wrongCategory c t)

/-- Consume a type name. A refused type has a violation of its own. -/
def requireType : Parse Unit := do
  let t ← advance
  unless t.isType do
    throw (if t.isRejectedType then .unsupportedType t else .wrongCategory .type t)

/-! ## What a success says -/

theorem advance_eq_ok {r r' : Reader} {t : Token} (h : advance r = .ok t r') :
    r.peek? = some t ∧ r' = r.skip t := by
  unfold advance at h
  split at h
  · next hp => cases h; exact ⟨hp, rfl⟩
  · cases h

theorem expect_eq_ok {r r' : Reader} {want t : Token} (h : expect want r = .ok t r') :
    r.peek? = some want ∧ t = want ∧
      r' = (r.note (.demanded want (some want))).skip want := by
  unfold expect at h
  cases hp : r.peek? with
  | none => simp [hp] at h
  | some found =>
    by_cases hw : found = want
    · subst hw
      simp only [hp, if_true] at h
      cases h
      exact ⟨rfl, rfl, rfl⟩
    · simp [hp, hw] at h

/-! ## Consumption

A computation that consumes a token whenever it succeeds shortens what is left to read. This is what
lets the rules of the grammar recur.
-/

/-- Every success leaves less to read. -/
def Shortens {α : Type} (p : Parse α) : Prop :=
  ∀ ⦃r a r'⦄, p r = .ok a r' → r'.remaining < r.remaining

/-- Every success leaves as much to read as there was. -/
def Keeps {α : Type} (p : Parse α) : Prop :=
  ∀ ⦃r a r'⦄, p r = .ok a r' → r'.remaining = r.remaining

theorem keeps_pure {α : Type} (a : α) : Keeps (pure a : Parse α) := by
  intro r b r' h
  cases h
  rfl

theorem keeps_throw {α : Type} (v : Violation) : Keeps (throw v : Parse α) := by
  intro r b r' h
  cases h

theorem shortens_throw {α : Type} (v : Violation) : Shortens (throw v : Parse α) := by
  intro r b r' h
  cases h

theorem bind_eq_ok {α β : Type} {p : Parse α} {f : α → Parse β} {r r'' : Reader} {b : β}
    (h : (p >>= f) r = .ok b r'') : ∃ a r', p r = .ok a r' ∧ f a r' = .ok b r'' := by
  change EStateM.bind p f r = .ok b r'' at h
  unfold EStateM.bind at h
  split at h
  · next a r' hp => exact ⟨a, r', hp, h⟩
  · cases h

theorem Shortens.bind {α β : Type} {p : Parse α} {f : α → Parse β} (hp : Shortens p)
    (hf : ∀ a, Keeps (f a)) : Shortens (p >>= f) := by
  intro r b r'' h
  obtain ⟨a, r', h₁, h₂⟩ := bind_eq_ok h
  have := hp h₁
  have := hf a h₂
  omega

theorem shortens_advance : Shortens advance := by
  intro r t r' h
  obtain ⟨hp, rfl⟩ := advance_eq_ok h
  exact remaining_skip hp

theorem shortens_expect (want : Token) : Shortens (expect want) := by
  intro r t r' h
  obtain ⟨hp, rfl, rfl⟩ := expect_eq_ok h
  simpa using remaining_skip (r := r.note _) (by simpa using hp)

theorem shortens_require (c : Category) : Shortens (require c) := by
  refine shortens_advance.bind fun t => ?_
  split
  · exact keeps_pure _
  · exact keeps_throw _

theorem shortens_requireType : Shortens requireType := by
  refine shortens_advance.bind fun t => ?_
  split
  · exact keeps_pure _
  · exact keeps_throw _

/-- A choice by the token ahead shortens if each of its branches does. -/
theorem Shortens.ofLookahead {β : Type} {f : Option Token → Parse β}
    (hf : ∀ found, Shortens (f found)) : Shortens (lookahead >>= f) := by
  intro r b r' h
  exact hf r.peek? h

end Parse

end StatementCheck
