import StatementCheck.Toml.Scan

/-!
# TOML texts

A text stands between double quotes, with escapes, or between single quotes, without. Tripled quotes
let it run over several lines.

## Main definitions

* `Toml.escape?` : the character that an escape stands for.
* `Toml.basic`, `Toml.literal` : texts on one line.
* `Toml.multiline` : texts over several lines.
* `Toml.text` : any of them.
-/
namespace StatementCheck.Toml

/-- The value of a hexadecimal digit. -/
def hexValue? (c : Char) : Option Nat :=
  if c.isDigit then some (c.toNat - '0'.toNat)
  else if 'a' ≤ c && c ≤ 'f' then some (c.toNat - 'a'.toNat + 10)
  else if 'A' ≤ c && c ≤ 'F' then some (c.toNat - 'A'.toNat + 10)
  else none

/-- The value of hexadecimal digits, most significant first. -/
def hexNumber? (ds : List Char) : Option Nat :=
  ds.foldlM (fun n d => (hexValue? d).map (16 * n + ·)) 0

/-- The character with a number, if there is one. -/
def charOf? (n : Nat) : Option Char := if n.isValidChar then some (Char.ofNat n) else none

/-- The character written by so many hexadecimal digits. -/
def codePoint? (count : Nat) (cs : List Char) : Option (Char × List Char) :=
  if cs.length < count then none
  else do
    let n ← hexNumber? (cs.take count)
    return (← charOf? n, cs.drop count)

/-- The character that an escape stands for, given without its backslash. -/
def escape? : Scan Char
  | 'b' :: cs => some ('\x08', cs)
  | 't' :: cs => some ('\t', cs)
  | 'n' :: cs => some ('\n', cs)
  | 'f' :: cs => some ('\x0c', cs)
  | 'r' :: cs => some ('\r', cs)
  | '"' :: cs => some ('"', cs)
  | '\\' :: cs => some ('\\', cs)
  | 'u' :: cs => codePoint? 4 cs
  | 'U' :: cs => codePoint? 8 cs
  | _ => none

theorem length_of_codePoint? {count : Nat} {cs rest : List Char} {c : Char}
    (h : codePoint? count cs = some (c, rest)) : rest.length ≤ cs.length := by
  unfold codePoint? at h
  split at h
  · cases h
  · obtain ⟨n, _, h⟩ := Option.bind_eq_some_iff.1 h
    obtain ⟨x, _, h⟩ := Option.bind_eq_some_iff.1 h
    cases h
    simp

theorem length_of_escape? {cs rest : List Char} {c : Char} (h : escape? cs = some (c, rest)) :
    rest.length < cs.length := by
  unfold escape? at h
  split at h
  case h_8 => exact Nat.lt_succ_of_le (length_of_codePoint? h)
  case h_9 => exact Nat.lt_succ_of_le (length_of_codePoint? h)
  case h_10 => cases h
  all_goals
    cases h
    exact Nat.lt_succ_self _

/-- The end of a text on one line between double quotes. `acc` holds what came before, backwards. -/
def basicEnd (acc : List Char) (cs : List Char) : Option (List Char × List Char) :=
  match cs with
  | [] => none
  | '"' :: cs => some (acc.reverse, cs)
  | '\\' :: cs =>
    match _h : escape? cs with
    | none => none
    | some (c, rest) => basicEnd (c :: acc) rest
  | c :: cs => if isPlain c then basicEnd (c :: acc) cs else none
termination_by cs.length
decreasing_by
  · have := length_of_escape? _h
    simp only [List.length_cons]
    omega
  · simp

/-- A text on one line between double quotes, given without the first. -/
def basic : Scan String := fun cs => (basicEnd [] cs).map fun (s, rest) => (String.ofList s, rest)

/-- A text on one line between single quotes, given without the first. -/
def literal : Scan String := fun cs =>
  match cs.dropWhile (fun c => c ≠ '\'' && isPlain c) with
  | '\'' :: rest => some (String.ofList (cs.takeWhile fun c => c ≠ '\'' && isPlain c), rest)
  | _ => none

/-- Past a line end right after opening quotes, which does not belong to the text. -/
def skipFirstNewline (cs : List Char) : List Char :=
  match cs with
  | '\n' :: cs => cs
  | '\r' :: '\n' :: cs => cs
  | cs => cs

/-- Past blanks and line ends. -/
def skipBreaks : List Char → List Char
  | '\r' :: '\n' :: cs => skipBreaks cs
  | c :: cs => if isBlank c || c = '\n' then skipBreaks cs else c :: cs
  | [] => []

/-- Past the blanks and line ends after a backslash that ends its line; none if it does not. -/
def foldedLine? (cs : List Char) : Option (List Char) :=
  match skipBlanks cs with
  | '\n' :: rest => some (skipBreaks rest)
  | '\r' :: '\n' :: rest => some (skipBreaks rest)
  | _ => none

theorem length_skipBlanks_le (cs : List Char) : (skipBlanks cs).length ≤ cs.length :=
  (List.dropWhile_sublist _).length_le

theorem length_skipBreaks_le (cs : List Char) : (skipBreaks cs).length ≤ cs.length := by
  fun_induction skipBreaks cs with
  | case1 cs ih => simp only [List.length_cons]; omega
  | case2 c cs _ _ ih => simp only [List.length_cons]; omega
  | case3 c cs => simp
  | case4 => simp

theorem length_of_foldedLine? {cs rest : List Char} (h : foldedLine? cs = some rest) :
    rest.length < cs.length := by
  have hle := length_skipBlanks_le cs
  unfold foldedLine? at h
  split at h
  · next tail heq =>
    cases h
    have := length_skipBreaks_le tail
    simp only [heq, List.length_cons] at hle
    omega
  · next tail heq =>
    cases h
    have := length_skipBreaks_le tail
    simp only [heq, List.length_cons] at hle
    omega
  · cases h

/-- The end of a text after its three closing quotes: up to two more belong to the text. -/
def closeMultiline (quote : Char) (acc : List Char) (cs : List Char) : List Char × List Char :=
  let extra := ((cs.take 2).takeWhile (· = quote)).length
  (acc.reverse ++ List.replicate extra quote, cs.drop extra)

/-- The end of a text over several lines. `acc` holds what came before, backwards. Any line end
counts as a line feed. -/
def multilineEnd (quote : Char) (escapes : Bool) (acc : List Char) (cs : List Char) :
    Option (List Char × List Char) :=
  match cs with
  | [] => none
  | c :: cs =>
    if c = quote then
      if [quote, quote].isPrefixOf cs then some (closeMultiline quote acc (cs.drop 2))
      else multilineEnd quote escapes (c :: acc) cs
    else if c = '\\' && escapes then
      match _h : foldedLine? cs, _h' : escape? cs with
      | some rest, _ => multilineEnd quote escapes acc rest
      | none, some (x, rest) => multilineEnd quote escapes (x :: acc) rest
      | none, none => none
    else if c = '\r' then
      match cs with
      | '\n' :: cs => multilineEnd quote escapes ('\n' :: acc) cs
      | _ => none
    else if c = '\n' || isPlain c then multilineEnd quote escapes (c :: acc) cs
    else none
termination_by cs.length
decreasing_by
  · simp
  · have := length_of_foldedLine? _h
    simp only [List.length_cons]
    omega
  · have := length_of_escape? _h'
    simp only [List.length_cons]
    omega
  · simp only [List.length_cons]
    omega
  · simp

/-- A text over several lines, given without its opening quotes. -/
def multiline (quote : Char) (escapes : Bool) : Scan String := fun cs =>
  (multilineEnd quote escapes [] (skipFirstNewline cs)).map fun (s, rest) => (String.ofList s, rest)

/-- A text on one line. Keys are written so, or bare. -/
def shortText : Scan String
  | '"' :: cs => basic cs
  | '\'' :: cs => literal cs
  | _ => none

/-- A text. Three quotes open one that may run over several lines. -/
def text : Scan String
  | '"' :: '"' :: '"' :: cs => multiline '"' true cs
  | '\'' :: '\'' :: '\'' :: cs => multiline '\'' false cs
  | cs => shortText cs

end StatementCheck.Toml
