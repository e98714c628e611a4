import StatementCheck.Program

/-!
# Sessions with a reader

A reader can be used step by step. A request that ends in a violation does not end the session: the
next request finds the reader as the failed one left it.

## Main definitions

* `Request` : what a reader can be asked.
* `Request.answer` : the answer, as a computation on the reader.
* `Reader.answerAll` : the answers to a list of requests.
-/
namespace StatementCheck

/-- What a reader can be asked. -/
inductive Request
  /-- Which token stands ahead? -/
  | peek
  /-- Does this token stand ahead? -/
  | check (want : Token)
  /-- Consume the token ahead. -/
  | advance
  /-- Consume this token. -/
  | expect (want : Token)
  /-- Has the input ended? -/
  | atEnd
  /-- Are there no tokens at all? -/
  | isEmpty
  /-- How many tokens are there in all? -/
  | size
  /-- Show the trace so far. -/
  | trace
  /-- Read a program. -/
  | program

/-- An answer to a request. -/
inductive Reply
  | ahead (token : Option Token)
  | consumed (token : Token)
  | truth (value : Bool)
  | count (value : Nat)
  | lines (value : List String)
  | accepted

/-- The lines that show the trace of a reader. -/
def Reader.traceLines (r : Reader) : List String := r.trace.toList.map Event.line

/-- The answer to a request. -/
def Request.answer : Request → Parse Reply
  | peek => fun r => .ok (.ahead r.peek?) r
  | check want => fun r => .ok (.truth (r.check want)) r
  | advance => do return .consumed (← Parse.advance)
  | expect want => do return .consumed (← Parse.expect want)
  | atEnd => fun r => .ok (.truth r.atEnd) r
  | isEmpty => fun r => .ok (.truth r.tokens.isEmpty) r
  | size => fun r => .ok (.count r.tokens.size) r
  | trace => fun r => .ok (.lines r.traceLines) r
  | program => do
    Parse.program
    return .accepted

/-- What a request came to: the reply or the violation, and the position after it. -/
structure Answer where
  reply : Except Violation Reply
  position : Nat

/-- The answers to requests made one after the other, and the reader after the last. -/
def Reader.answerAll (r : Reader) : List Request → List Answer × Reader
  | [] => ([], r)
  | q :: rest =>
    let (reply, r) : Except Violation Reply × Reader :=
      match q.answer r with
      | .ok reply r => (.ok reply, r)
      | .error v r => (.error v, r)
    let (answers, last) := r.answerAll rest
    (⟨reply, r.position⟩ :: answers, last)

end StatementCheck
