import DocShape.Number.Shortest

/-!
The written forms of a double: `Layout.document`, the form in documents, and `Layout.message`, the
form in reports.
-/

namespace DocShape

/-- How the digits of a number are laid out. -/
structure Layout where
  /-- Which of two equally near decimals is written. -/
  tie : Tie
  /-- What follows the digits of a whole number. -/
  wholeMark : String
  /-- The exponents of the first digit that are written without an exponent; absent for all. -/
  plain : Option (Int × Int)

namespace Layout

/-- Documents write a fraction always, and an exponent below `1e-5` and from `1e16` on. -/
def document : Layout := ⟨.toEven, ".0", some (-5, 15)⟩

/-- Reports write neither an exponent nor the fraction of a whole number. -/
def message : Layout := ⟨.up, "", none⟩

/-- The exponent of the first digit. -/
def leadingExponent (d : Decimal) : Int :=
  d.exponent + (Nat.toDigits 10 d.digits).length - 1

/-- The digits with the point where it belongs. -/
def positional (l : Layout) (d : Decimal) : String :=
  let digits := Nat.toDigits 10 d.digits
  let places := (-d.exponent).toNat
  if 0 ≤ d.exponent then
    String.ofList (digits ++ List.replicate d.exponent.toNat '0') ++ l.wholeMark
  else if places < digits.length then
    String.ofList (digits.take (digits.length - places)) ++ "." ++
      String.ofList (digits.drop (digits.length - places))
  else "0." ++ String.ofList (List.replicate (places - digits.length) '0' ++ digits)

/-- One digit before the point, and the exponent with its sign. -/
def scientific (d : Decimal) : String :=
  let digits := Nat.toDigits 10 d.digits
  let exponent := leadingExponent d
  String.ofList (digits.take 1) ++ (if 1 < digits.length then "." else "") ++
    String.ofList (digits.drop 1) ++ (if exponent < 0 then "e-" else "e+") ++
    toString exponent.natAbs

/-- Whether the layout writes the decimal without an exponent. -/
def isPlain (l : Layout) (d : Decimal) : Bool :=
  match l.plain with
  | none => true
  | some (least, greatest) => least ≤ leadingExponent d && leadingExponent d ≤ greatest

/-- The text of a decimal that is not negative. -/
def decimal (l : Layout) (d : Decimal) : String :=
  if l.isPlain d then l.positional d else scientific d

end Layout

/-- The text of a double; a zero keeps its sign. -/
def Binary64.text (l : Layout) (x : Binary64) : String :=
  (if x.negative then "-" else "") ++ l.decimal (x.magnitude.shortest l.tie)

end DocShape
