import StatementCheck.Toml.Text

/-!
# Hexadecimal numerals

A number can be written with any number of zeros in front and with digits of either case. However
it is written, it is read back. The usual digits of a number are one way to write it, and a small
number can be written with four.

## Main definitions

* `Toml.Numeral` : the hexadecimal digits of a number, leading zeros allowed.
* `Toml.hexNumber?_of_numeral` : they are read back.
* `Toml.numeral_toDigits`, `Toml.numeral_of_lt` : two ways to write a number.
-/
namespace StatementCheck.Toml

/-- Hexadecimal digits of a number, the most significant first. -/
inductive Numeral : List Char → Nat → Prop
  | nil : Numeral [] 0
  | digit {ds : List Char} {n k : Nat} {d : Char} (h : Numeral ds n) (hk : k < 16)
      (hd : d = Nat.digitChar k ∨ d = (Nat.digitChar k).toUpper) : Numeral (ds ++ [d]) (16 * n + k)

theorem hexValue?_of_digit {k : Nat} {d : Char} (hk : k < 16)
    (hd : d = Nat.digitChar k ∨ d = (Nat.digitChar k).toUpper) : hexValue? d = some k := by
  have hall : ∀ k < 16, hexValue? (Nat.digitChar k) = some k ∧
      hexValue? (Nat.digitChar k).toUpper = some k := by decide
  rcases hd with rfl | rfl
  · exact (hall k hk).1
  · exact (hall k hk).2

theorem hexNumber?_of_numeral {ds : List Char} {n : Nat} (h : Numeral ds n) :
    hexNumber? ds = some n := by
  induction h with
  | nil => rfl
  | digit _ hk hd ih =>
    rw [hexNumber?] at ih ⊢
    simp [List.foldlM_append, ih, hexValue?_of_digit hk hd]

theorem numeral_toDigits (n : Nat) : Numeral (Nat.toDigits 16 n) n := by
  induction n using Nat.strongRecOn with
  | ind n ih =>
    by_cases hn : n < 16
    · have hdigit : Numeral ([] ++ [Nat.digitChar n]) (16 * 0 + n) := .digit .nil hn (.inl rfl)
      rw [Nat.toDigits_of_lt_base hn]
      simpa using hdigit
    · have hle : 16 ≤ n := by omega
      have hfront : Numeral (Nat.toDigits 16 (n / 16)) (n / 16) := ih _ (by omega)
      have hlast : n % 16 < 16 := by omega
      have hsplit : 16 * (n / 16) + n % 16 = n := by omega
      have hall := hfront.digit hlast (.inl rfl)
      rw [hsplit] at hall
      rwa [Nat.toDigits_of_base_le (by omega) hle]

/-- A small number in four digits. -/
theorem numeral_of_lt {n : Nat} (hn : n < 256) :
    Numeral ['0', '0', Nat.digitChar (n / 16), Nat.digitChar (n % 16)] n := by
  have hzero : Numeral ['0'] 0 := .digit (k := 0) .nil (by decide) (.inl rfl)
  have hzeros : Numeral ['0', '0'] 0 := .digit (k := 0) hzero (by decide) (.inl rfl)
  have hhigh : Numeral ['0', '0', Nat.digitChar (n / 16)] (16 * 0 + n / 16) :=
    .digit hzeros (by omega) (.inl rfl)
  have hlow : Numeral ['0', '0', Nat.digitChar (n / 16), Nat.digitChar (n % 16)]
      (16 * (16 * 0 + n / 16) + n % 16) := .digit hhigh (by omega) (.inl rfl)
  have hsplit : 16 * (16 * 0 + n / 16) + n % 16 = n := by omega
  rwa [hsplit] at hlow

end StatementCheck.Toml
