import StatementCheck.Proofs.Acceptance
import StatementCheck.Proofs.Lockstep
import StatementCheck.Reader.Session

/-!
# What a session keeps

Whatever a reader is asked, it does no more to itself than record demands for the token ahead and
step over it. So what these two keep is kept through every session: the tokens are what they were,
the position moves forward within them, the trace grows at its end, and the tokens that the trace
shows as consumed are those before the position, in order.

## Main definitions

* `Reader.Reaches` : a reader comes to another by recording demands and stepping over tokens.
* `reaches_meet`, `reaches_answer` : checks and requests do no more than that.
* `Reader.Steady` : what holds of a reader at all times.
* `Request.Effect` : what one request does.
* `answerAll_steady` : what a session keeps, and what each request in it does.
-/
namespace StatementCheck

open Goal Parse

/-! ## What a reader can come to -/

namespace Reader

/-- A reader comes to another by recording demands for the token ahead and stepping over it. -/
inductive Reaches (r : Reader) : Reader → Prop
  | refl : Reaches r r
  | demand {s : Reader} (h : Reaches r s) (want : Token) :
      Reaches r (s.note (.demanded want s.peek?))
  | skip {s : Reader} {t : Token} (h : Reaches r s) (hpeek : s.peek? = some t) :
      Reaches r (s.skip t)

namespace Reaches

variable {r s : Reader}

theorem consume (h : r.Reaches s) {t : Token} (hpeek : s.peek? = some t) (named : Bool) :
    r.Reaches (s.consume named t) := by
  cases named with
  | false => exact h.skip hpeek
  | true =>
    have hdemand := h.demand t
    rw [hpeek] at hdemand
    exact hdemand.skip (by simpa using hpeek)

theorem miss (h : r.Reaches s) (want : Option Token) : r.Reaches (s.miss want) := by
  cases want with
  | none => exact h
  | some want => exact h.demand want

theorem trans {q : Reader} (h : r.Reaches s) (h' : s.Reaches q) : r.Reaches q := by
  induction h' with
  | refl => exact h
  | demand _ want ih => exact ih.demand want
  | skip _ hpeek ih => exact ih.skip hpeek

theorem tokens_eq (h : r.Reaches s) : s.tokens = r.tokens := by
  induction h with
  | refl => rfl
  | demand _ _ ih => simpa using ih
  | skip _ _ ih => simpa using ih

theorem verbose_eq (h : r.Reaches s) : s.verbose = r.verbose := by
  induction h with
  | refl => rfl
  | demand _ _ ih => simpa using ih
  | skip _ _ ih => simpa using ih

theorem position_le (h : r.Reaches s) : r.position ≤ s.position := by
  induction h with
  | refl => exact le_rfl
  | demand _ _ ih => simpa using ih
  | skip _ _ ih => simpa using Nat.le_succ_of_le ih

/-- A reader that stands within its tokens does not leave them. -/
theorem position_le_size (h : r.Reaches s) (hr : r.position ≤ r.tokens.size) :
    s.position ≤ s.tokens.size := by
  induction h with
  | refl => exact hr
  | demand _ _ ih => simpa using ih
  | skip _ hpeek _ =>
    rw [position_skip, tokens_skip]
    exact lt_size_of_peek? hpeek

/-- What has been recorded stays, and what is new comes behind it. -/
theorem trace_prefix (h : r.Reaches s) : r.trace.toList <+: s.trace.toList := by
  induction h with
  | refl => exact List.prefix_rfl
  | demand _ _ ih =>
    rw [toList_trace_note]
    exact ih.trans (List.prefix_append _ _)
  | skip _ _ ih =>
    rw [toList_trace_skip]
    exact ih.trans (List.prefix_append _ _)

end Reaches

end Reader

theorem Course.reaches {gs hs : List Goal} {r s : Reader} {used : List Token}
    (h : Course gs r used hs s) : r.Reaches s := by
  induction h with
  | start => exact .refl
  | stay _ _ ih => exact ih
  | take _ hm ih => exact ih.consume (takes_of_move hm).1 _

theorem Reader.Reaches.perform_error {r s q : Reader} {g : Goal} {v : Violation}
    (h : r.Reaches s) (hfail : (g.move s.peek?).perform s = .error v q) : r.Reaches q := by
  rcases Move.refuse_or_spoil hfail with ⟨want, -, rfl⟩ | ⟨t, hm, rfl⟩
  · exact h.miss want
  · exact h.skip (spoils_of_move hm).1

/-- A check does no more to a reader than record demands and step over tokens. -/
theorem reaches_meet (gs : List Goal) (r : Reader) : r.Reaches (readerOf (meet gs r)) := by
  cases h : meet gs r with
  | ok _ s =>
    obtain ⟨used, hc⟩ := Course.exists_of_meet_ok h
    exact hc.reaches
  | error v q =>
    obtain ⟨used, g, rest, s, hc, hfail⟩ := Course.exists_of_meet_error h
    exact hc.reaches.perform_error hfail

theorem reaches_program (r : Reader) : r.Reaches (readerOf (program r)) :=
  reaches_meet [statements] r

/-! ## What holds at all times -/

/-- A line of a trace shows that a token was consumed. -/
def showsConsumed (line : String) : Bool := "Bumping: ".toList.isPrefixOf line.toList

theorem showsConsumed_consumed (t : Token) (position : Nat) :
    showsConsumed (Event.consumed t position).line = true := by
  simp [showsConsumed, Event.line]

theorem showsConsumed_demanded (want : Token) (found : Option Token) :
    showsConsumed (Event.demanded want found).line = false := by
  simp [showsConsumed, Event.line, List.isPrefixOf]

namespace Reader

/-- What holds at all times of a reader of some tokens: it stands within them, and its trace shows
as consumed those before it, one by one; if it is not verbose it has no trace. -/
structure Steady (r : Reader) (tokens : List Token) (verbose : Bool) : Prop where
  tokens_eq : r.tokens = tokens.toArray
  position_le : r.position ≤ tokens.length
  consumed : verbose = true → r.traceLines.filter showsConsumed =
    (tokens.take r.position).mapIdx fun i t => "Bumping: " ++ Text.quote t ++ " at " ++ toString i
  silent : verbose = false → r.traceLines = []

variable {r s : Reader} {tokens : List Token} {verbose : Bool}

theorem traceLines_note (r : Reader) (e : Event) :
    (r.note e).traceLines = r.traceLines ++ if r.verbose then [e.line] else [] := by
  rw [traceLines, toList_trace_note, List.map_append, traceLines]
  split <;> rfl

theorem traceLines_skip (r : Reader) (t : Token) : (r.skip t).traceLines =
    r.traceLines ++ if r.verbose then [(Event.consumed t r.position).line] else [] :=
  r.traceLines_note (.consumed t r.position)

theorem steady_ofTokens (tokens : List Token) (verbose : Bool) :
    (ofTokens tokens verbose).Steady tokens verbose where
  tokens_eq := rfl
  position_le := Nat.zero_le _
  consumed _ := rfl
  silent _ := rfl

theorem Steady.demand (h : s.Steady tokens verbose) (hverbose : s.verbose = verbose) (want : Token)
    (found : Option Token) : (s.note (.demanded want found)).Steady tokens verbose where
  tokens_eq := by simpa using h.tokens_eq
  position_le := by simpa using h.position_le
  consumed hv := by
    rw [traceLines_note, List.filter_append, h.consumed hv, position_note, hverbose, if_pos hv]
    simp [showsConsumed_demanded]
  silent hv := by
    rw [traceLines_note, h.silent hv, hverbose, hv]
    rfl

theorem Steady.skip (h : s.Steady tokens verbose) (hverbose : s.verbose = verbose) {t : Token}
    (hpeek : s.peek? = some t) : (s.skip t).Steady tokens verbose where
  tokens_eq := by simpa using h.tokens_eq
  position_le := by
    have hlt := lt_size_of_peek? hpeek
    rw [h.tokens_eq, List.size_toArray] at hlt
    rw [position_skip]
    exact hlt
  consumed hv := by
    have htoken : tokens[s.position]? = some t := by
      rw [peek?, h.tokens_eq] at hpeek
      simpa using hpeek
    have htake : tokens.take (s.position + 1) = tokens.take s.position ++ [t] := by
      rw [List.take_add_one, htoken]
      rfl
    have hlength : (tokens.take s.position).length = s.position :=
      List.length_take_of_le h.position_le
    rw [traceLines_skip, List.filter_append, h.consumed hv, position_skip, htake,
      List.mapIdx_append, hlength, hverbose, if_pos hv,
      List.filter_cons_of_pos (showsConsumed_consumed t s.position)]
    simp [Event.line]
  silent hv := by
    rw [traceLines_skip, h.silent hv, hverbose, hv]
    rfl

/-- What a reader comes to is as steady as the reader. -/
theorem Reaches.steady (h : r.Reaches s) (hr : r.Steady tokens verbose)
    (hverbose : r.verbose = verbose) : s.Steady tokens verbose := by
  induction h with
  | refl => exact hr
  | demand h want ih => exact ih.demand (h.verbose_eq.trans hverbose) want _
  | skip h hpeek ih => exact ih.skip (h.verbose_eq.trans hverbose) hpeek

end Reader

/-! ## Requests -/

/-- What a request does to the reader `r`, when it gets this reply and leaves the reader `s`. -/
def Request.Effect (q : Request) (r : Reader) (reply : Except Violation Reply) (s : Reader) :
    Prop :=
  match q, reply with
  | .advance, .ok reply | .expect _, .ok reply =>
      s.position = r.position + 1 ∧ ∃ t, r.tokens[r.position]? = some t ∧ reply = .consumed t
  | .advance, .error _ => s = r
  | .expect _, .error _ => s = { r with trace := s.trace } ∧ s.trace.size ≤ r.trace.size + 1
  | .program, .ok _ => s.position = s.tokens.size
  | .program, .error _ => True
  | _, _ => s = r

theorem Reader.note_eq (r : Reader) (e : Event) :
    r.note e = { r with trace := (r.note e).trace } := by
  unfold note
  split <;> rfl

theorem Reader.size_trace_note_le (r : Reader) (e : Event) :
    (r.note e).trace.size ≤ r.trace.size + 1 := by
  unfold note
  split <;> simp

theorem advance_eq_error {r s : Reader} {v : Violation} (h : advance r = .error v s) : s = r := by
  unfold advance at h
  split at h
  · cases h
  · cases h; rfl

theorem expect_eq_error {r s : Reader} {want : Token} {v : Violation}
    (h : expect want r = .error v s) : s = r.note (.demanded want r.peek?) := by
  cases hpeek : r.peek? with
  | none =>
    simp only [expect, hpeek] at h
    cases h
    rfl
  | some t =>
    simp only [expect, hpeek] at h
    split_ifs at h
    cases h
    rfl

/-- A check of a program that succeeds comes to the end of the tokens. -/
theorem size_le_position_of_program_ok {r s : Reader} (h : program r = .ok () s) :
    s.tokens.size ≤ s.position := by
  obtain ⟨used, hc⟩ := Course.exists_of_meet_ok h
  rcases hc.bottom with ⟨front, heq⟩ | ⟨-, hpeek⟩
  · simp at heq
  · simpa [Reader.peek?] using hpeek

section

variable {α β : Type} (p : Parse α) (f : α → β) (r : Reader)

theorem readerOf_bind_pure : readerOf ((p >>= fun a => pure (f a)) r) = readerOf (p r) := by
  cases h : p r with
  | ok a s => rw [bind_of_ok h]; rfl
  | error v s => rw [bind_of_error h]; rfl

theorem replyOf_bind_pure : replyOf ((p >>= fun a => pure (f a)) r) = (replyOf (p r)).map f := by
  cases h : p r with
  | ok a s => rw [bind_of_ok h]; rfl
  | error v s => rw [bind_of_error h]; rfl

end

/-- A request does no more to a reader than record demands and step over tokens. -/
theorem reaches_answer (q : Request) (r : Reader) : r.Reaches (readerOf (q.answer r)) := by
  cases q with
  | advance =>
    rw [Request.answer, readerOf_bind_pure]
    cases h : Parse.advance r with
    | ok t s =>
      obtain ⟨hpeek, rfl⟩ := advance_eq_ok h
      exact .skip .refl hpeek
    | error v s =>
      obtain rfl := advance_eq_error h
      exact .refl
  | expect want =>
    rw [Request.answer, readerOf_bind_pure]
    cases h : Parse.expect want r with
    | ok t s =>
      obtain ⟨hpeek, rfl, rfl⟩ := expect_eq_ok h
      exact Reader.Reaches.refl.consume hpeek true
    | error v s =>
      obtain rfl := expect_eq_error h
      exact .demand .refl want
  | program =>
    rw [Request.answer, readerOf_bind_pure]
    exact reaches_program r
  | _ => exact .refl

/-- What a request does to a reader that stands within its tokens. -/
theorem effect_answer (q : Request) {r : Reader} (hr : r.position ≤ r.tokens.size) :
    q.Effect r (replyOf (q.answer r)) (readerOf (q.answer r)) := by
  cases q with
  | advance =>
    rw [Request.answer, readerOf_bind_pure, replyOf_bind_pure]
    cases h : Parse.advance r with
    | ok t s =>
      obtain ⟨hpeek, rfl⟩ := advance_eq_ok h
      exact ⟨r.position_skip t, t, hpeek, rfl⟩
    | error v s => exact advance_eq_error h
  | expect want =>
    rw [Request.answer, readerOf_bind_pure, replyOf_bind_pure]
    cases h : Parse.expect want r with
    | ok t s =>
      obtain ⟨hpeek, rfl, rfl⟩ := expect_eq_ok h
      exact ⟨r.position_consume true t, t, hpeek, rfl⟩
    | error v s =>
      obtain rfl := expect_eq_error h
      exact ⟨r.note_eq _, r.size_trace_note_le _⟩
  | program =>
    rw [Request.answer, readerOf_bind_pure, replyOf_bind_pure]
    cases h : Parse.program r with
    | ok _ s =>
      have hreach := reaches_program r
      rw [h] at hreach
      exact (hreach.position_le_size hr).antisymm (size_le_position_of_program_ok h)
    | error v s => trivial
  | _ => rfl

/-! ## Sessions -/

@[simp] theorem answerAll_nil (r : Reader) : r.answerAll [] = ([], r) := rfl

theorem answerAll_cons (r : Reader) (q : Request) (rest : List Request) :
    r.answerAll (q :: rest) =
      let s := readerOf (q.answer r)
      (⟨replyOf (q.answer r), s.position⟩ :: (s.answerAll rest).1, (s.answerAll rest).2) := by
  rw [Reader.answerAll]
  cases q.answer r <;> rfl

/-- A request that comes last is answered by the reader that the others have left. -/
theorem answerAll_concat (r : Reader) (before : List Request) (q : Request) :
    r.answerAll (before ++ [q]) =
      let s := (r.answerAll before).2
      let last := readerOf (q.answer s)
      ((r.answerAll before).1 ++ [⟨replyOf (q.answer s), last.position⟩], last) := by
  induction before generalizing r with
  | nil => simp [answerAll_cons]
  | cons p before ih => simp [answerAll_cons, ih]

/-- A session does no more to a reader than record demands and step over tokens. -/
theorem reaches_answerAll (r : Reader) (asked : List Request) :
    r.Reaches (r.answerAll asked).2 := by
  induction asked using List.reverseRecOn with
  | nil => exact .refl
  | append_singleton before q ih =>
    rw [answerAll_concat]
    exact ih.trans (reaches_answer q _)

/-- What a session keeps, and what each request in it does. At every moment of a session with a
reader of some tokens, the reader is steady. The next request moves it forward or leaves it where
it is, records something behind what is recorded or nothing, and has the effect of its kind,
whatever the requests before it have come to. -/
theorem answerAll_steady (tokens : List Token) (verbose : Bool) (before : List Request)
    (q : Request) :
    let start := Reader.ofTokens tokens verbose
    let r := (start.answerAll before).2
    let s := (start.answerAll (before ++ [q])).2
    r.Steady tokens verbose ∧ s.Steady tokens verbose ∧
      r.position ≤ s.position ∧ r.traceLines <+: s.traceLines ∧
      ∃ reply, (start.answerAll (before ++ [q])).1 =
          (start.answerAll before).1 ++ [⟨reply, s.position⟩] ∧
        q.Effect r reply s := by
  intro start r s
  have hstart : start.Steady tokens verbose := Reader.steady_ofTokens tokens verbose
  have hr : start.Reaches r := reaches_answerAll start before
  have hs : start.Reaches s := reaches_answerAll start (before ++ [q])
  have hconcat := answerAll_concat start before q
  have hlast : s = readerOf (q.answer r) := congrArg Prod.snd hconcat
  have hstep : r.Reaches s := hlast ▸ reaches_answer q r
  refine ⟨hr.steady hstart rfl, hs.steady hstart rfl, hstep.position_le,
    hstep.trace_prefix.map _, replyOf (q.answer r), ?_, ?_⟩
  · rw [hlast]
    exact congrArg Prod.fst hconcat
  · rw [hlast]
    exact effect_answer q (hr.position_le_size (Nat.zero_le _))

end StatementCheck
