import DocShape.Number
import DocShape.Number.Digits

/-!
Reading numbers. `Number.ofText?` reads the number syntax of documents; `readInt64?` and
`readBinary64?` read what may stand in a string that is converted to a number.
-/

namespace DocShape

/-- A decimal number taken apart. The exponent is absent when none is written. -/
structure DecimalText where
  negative : Bool
  whole : List Char
  fraction : Option (List Char)
  exponent : Option Int

namespace DecimalText

/-- A number that starts with a sign, and whether that is a minus sign. -/
def splitSign : List Char → Bool × List Char
  | '-' :: rest => (true, rest)
  | '+' :: rest => (false, rest)
  | cs => (false, cs)

/-- An exponent after its mark: digits, with a sign or without. -/
def exponent? (cs : List Char) : Option Int :=
  let (negative, digits) := splitSign cs
  (digits? digits).map fun n => if negative then -n else n

/-- What follows the whole digits: a fraction, an exponent, both or neither. -/
def tail? (cs : List Char) : Option (Option (List Char) × Option Int) :=
  match cs with
  | '.' :: rest =>
    let fraction := rest.takeWhile Char.isDigit
    match rest.dropWhile Char.isDigit with
    | [] => some (some fraction, none)
    | e :: rest => if e = 'e' ∨ e = 'E' then (exponent? rest).map (some fraction, some ·) else none
  | [] => some (none, none)
  | e :: rest => if e = 'e' ∨ e = 'E' then (exponent? rest).map (none, some ·) else none

/-- A number whose sign is split off: digits, then a fraction and an exponent. Digits may be
missing here on either side of the point. -/
def ofUnsigned? (negative : Bool) (cs : List Char) : Option DecimalText :=
  (tail? (cs.dropWhile Char.isDigit)).map fun (fraction, exponent) =>
    ⟨negative, cs.takeWhile Char.isDigit, fraction, exponent⟩

/-- The double that the text stands for; none when it overflows. -/
def toBinary64? (t : DecimalText) : Option Binary64 :=
  let fraction := t.fraction.getD []
  let digits := t.whole ++ fraction
  Binary64.ofDecimal? t.negative (Nat.ofDigitChars 10 digits 0) digits.length
    (t.exponent.getD 0 - fraction.length)

end DecimalText

/-- A number in a document: no plus sign, no superfluous zero in front, digits on both sides of a
point. Without fraction and exponent it is a word if one can hold it. -/
def Number.ofText? (cs : List Char) : Option Number :=
  let (negative, cs) : Bool × List Char :=
    match cs with
    | '-' :: rest => (true, rest)
    | _ => (false, cs)
  (DecimalText.ofUnsigned? negative cs).bind fun t =>
    if t.whole.isEmpty || (t.whole.head? == some '0' && t.whole.length != 1) ||
        t.fraction == some [] then none
    else
      match t.fraction, t.exponent, Number.ofWhole? negative (Nat.ofDigitChars 10 t.whole 0) with
      | none, none, some n => some n
      | _, _, _ => t.toBinary64?.map .float

/-- A signed word: digits, with a sign or without. -/
def readInt64? (cs : List Char) : Option Int64 :=
  let (negative, digits) := DecimalText.splitSign cs
  (digits? digits).bind fun n => signedWord? (if negative then -n else n)

/-- A finite double: digits on at least one side of the point, an exponent perhaps, with a sign or
without. -/
def readBinary64? (cs : List Char) : Option Binary64 :=
  let (negative, rest) := DecimalText.splitSign cs
  (DecimalText.ofUnsigned? negative rest).bind fun t =>
    if (t.whole ++ t.fraction.getD []).isEmpty then none else t.toBinary64?

end DocShape
