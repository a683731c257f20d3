/-!
Decimal digits in text.

Main statements: `digits?_eq_some_iff`, which texts are read and as what, and `digits?_toDigits`,
that the digits of a number are read as the number.
-/

namespace DocShape

/-- The number that a text of decimal digits writes; none without digits or with anything else. -/
def digits? (cs : List Char) : Option Nat :=
  if !cs.isEmpty && cs.all Char.isDigit then some (Nat.ofDigitChars 10 cs 0) else none

theorem digits?_eq_some_iff {cs : List Char} {n : Nat} :
    digits? cs = some n ↔
      (cs ≠ [] ∧ ∀ c ∈ cs, c.isDigit) ∧ Nat.ofDigitChars 10 cs 0 = n := by
  cases cs <;> simp [digits?]

theorem isDigit_of_mem_toDigits {n : Nat} {c : Char} (h : c ∈ Nat.toDigits 10 n) : c.isDigit :=
  Nat.isDigit_of_mem_toDigits (by decide) (by decide) h

theorem digits?_toDigits (n : Nat) : digits? (Nat.toDigits 10 n) = some n :=
  digits?_eq_some_iff.2
    ⟨⟨Nat.toDigits_ne_nil, fun _ => isDigit_of_mem_toDigits⟩,
      Nat.ofDigitChars_toDigits (by decide) (by decide)⟩

end DocShape
