import DocShape.Proofs.Truncation
import Mathlib.Data.List.TakeWhile

/-!
Conversions in sequence.

The conversions of words, texts, doubles and truth values are written one by one, and each pair of
them has to fit. Texts of words are read back, since no digit and no sign is white space. Doubles
give back what they were converted from where no rounding took place. Where the digits of a text are
a word, they are rounded to a double as the word is.

* `Value.via?`: what a node is after some conversions.
* `readInt64?_toString`, `readBinary64?_of_readInt64?`: the texts of words, read as words and as
  doubles.
* `via?_float_integer_eq_some_iff`, `toInt_eq_truncate_iff`: words by way of doubles.
* `coercions_commute`: which conversions lead to the same.
-/

namespace DocShape

/-- What a node is after conversions to some tags, one after the other. -/
def Value.via? (v : Value) : List Tag → Option Value
  | [] => some v
  | t :: rest => (coerce v t).bind fun o => (o.on v).via? rest

/-! ### Reading -/

/-- Digits have no sign in front. -/
theorem DecimalText.splitSign_of_isDigit {cs : List Char} (h : ∀ c ∈ cs, c.isDigit) :
    splitSign cs = (false, cs) := by
  unfold splitSign
  split
  · cases h '-' List.mem_cons_self
  · cases h '+' List.mem_cons_self
  · rfl

theorem readInt64?_eq_some_iff {cs : List Char} {n : Int64} :
    readInt64? cs = some n ↔ ∃ k, digits? (DecimalText.splitSign cs).2 = some k ∧
      n.toInt = if (DecimalText.splitSign cs).1 then -(k : Int) else k := by
  simp only [readInt64?, Option.bind_eq_some_iff, signedWord?_eq_some_iff]

/-- The text of an integer: digits, with a minus sign or without. -/
theorem toList_toString_int (k : Int) :
    (toString k).toList =
      if 0 ≤ k then Nat.toDigits 10 k.toNat else '-' :: Nat.toDigits 10 (-k).toNat := by
  rw [Int.toString_eq_repr, Int.repr_eq_if]
  split
  · rw [Nat.repr_eq_ofList_toDigits, String.toList_ofList]
  · rw [String.toList_append, Nat.repr_eq_ofList_toDigits,
      @String.toList_ofList (Nat.toDigits 10 (-k).toNat)]
    rfl

/-- The text of a word is read as the word. -/
theorem readInt64?_toString (n : Int64) : readInt64? (toString n.toInt).toList = some n := by
  rw [readInt64?_eq_some_iff, toList_toString_int]
  split
  · rename_i hsign
    rw [DecimalText.splitSign_of_isDigit fun _ => isDigit_of_mem_toDigits]
    exact ⟨n.toInt.toNat, digits?_toDigits _, (Int.toNat_of_nonneg hsign).symm⟩
  · rename_i hsign
    refine ⟨(-n.toInt).toNat, digits?_toDigits _, ?_⟩
    have hneg : (((-n.toInt).toNat : Nat) : Int) = -n.toInt := Int.toNat_of_nonneg (by omega)
    rw [hneg]
    exact (Int.neg_neg n.toInt).symm

/-- There is no white space in it. -/
theorem isBlank_of_mem_toString {k : Int} {c : Char} (h : c ∈ (toString k).toList) :
    Text.isBlank c = false := by
  rw [toList_toString_int] at h
  split at h
  · exact Text.isBlank_of_isDigit (isDigit_of_mem_toDigits h)
  · rcases List.mem_cons.mp h with rfl | hdigit
    · decide
    · exact Text.isBlank_of_isDigit (isDigit_of_mem_toDigits hdigit)

theorem toList_toString_ne_nil (k : Int) : (toString k).toList ≠ [] := by
  rw [toList_toString_int]
  split
  · exact Nat.toDigits_ne_nil
  · exact List.cons_ne_nil _ _

/-- The digits of a word are read as a double too. -/
theorem readBinary64?_of_digits {cs : List Char} {k : Nat}
    (h : digits? (DecimalText.splitSign cs).2 = some k) :
    readBinary64? cs = Binary64.ofDecimal? (DecimalText.splitSign cs).1 k
      (DecimalText.splitSign cs).2.length 0 := by
  obtain ⟨⟨hne, hdigits⟩, hvalue⟩ := digits?_eq_some_iff.mp h
  rw [readBinary64?]
  generalize DecimalText.splitSign cs = sign at *
  obtain ⟨negative, digits⟩ := sign
  dsimp only at *
  rw [DecimalText.ofUnsigned?, List.dropWhile_eq_nil_iff.mpr hdigits,
    List.takeWhile_eq_self_iff.mpr hdigits, DecimalText.tail?, Option.map_some, Option.bind_some]
  simp only [Option.getD_none, List.append_nil, List.isEmpty_iff, hne, if_false,
    DecimalText.toBinary64?, hvalue]
  rfl

/-- The digits of a word are read as the double that the word is converted to, but that zero may
have a sign. -/
theorem readBinary64?_of_readInt64? {cs : List Char} {n : Int64} (h : readInt64? cs = some n) :
    ∃ x, readBinary64? cs = some x ∧ x.units = (Binary64.ofInt64 n).units := by
  obtain ⟨k, hdigits, hn⟩ := readInt64?_eq_some_iff.mp h
  rw [readBinary64?_of_digits hdigits]
  generalize (DecimalText.splitSign cs).1 = negative at hn ⊢
  by_cases hk : k = 0
  · have hzero : n = 0 := by
      rw [← Int64.toInt_inj, hn, hk]
      cases negative <;> rfl
    refine ⟨.zero negative, if_pos (.inl hk), ?_⟩
    rw [Binary64.units_zero, hzero]
    decide +kernel
  · refine ⟨.ofInt64 n, ?_, rfl⟩
    have hsign : decide (n.toInt < 0) = negative := by
      rw [hn]
      cases negative with
      | true => exact decide_eq_true (show -(k : Int) < 0 by omega)
      | false => exact decide_eq_false (show ¬ (k : Int) < 0 by omega)
    have habs : n.toInt.natAbs = k := by
      rw [hn]
      cases negative with
      | true => exact Int.natAbs_neg k
      | false => rfl
    rw [← Binary64.ofRatio?_toInt, hsign, habs, Binary64.ofDecimal?, if_neg (by omega),
      if_neg (by decide)]
    exact congrArg (Binary64.ofRatio? negative · 1) (Nat.mul_one k)

/-! ### Single conversions -/

theorem coerce_string_integer (s : String) :
    coerce (.string s) .integer =
      (readInt64? (Text.trimmed s.toList)).map (.replaced ∘ .number ∘ .integer) :=
  Option.map_map _ _ _

theorem coerce_string_float (s : String) :
    coerce (.string s) .float =
      (readBinary64? (Text.trimmed s.toList)).map (.replaced ∘ .number ∘ .float) :=
  Option.map_map _ _ _

theorem coerce_integer_string (n : Int64) :
    coerce (.number (.integer n)) .string = some (.replaced (.string (toString n.toInt))) :=
  rfl

theorem coerce_integer_float (n : Int64) :
    coerce (.number (.integer n)) .float = some (.replaced (.number (.float (.ofInt64 n)))) :=
  rfl

theorem coerce_float_integer (x : Binary64) :
    coerce (.number (.float x)) .integer =
      (signedWord? x.truncate).map (.replaced ∘ .number ∘ .integer) := by
  rw [coerce_integer_of_float rfl, x.truncate_eq_towardZero]

/-! ### Round trips -/

/-- White space around the text of a word does not matter. -/
theorem coerce_string_integer_of_blank (n : Int64) {before after : String}
    (h : ∀ c ∈ (before ++ after).toList, Text.isBlank c) :
    coerce (.string (before ++ toString n.toInt ++ after)) .integer =
      some (.replaced (.number (.integer n))) := by
  have htrimmed : Text.trimmed (before ++ toString n.toInt ++ after).toList =
      (toString n.toInt).toList := by
    rw [String.toList_append, List.forall_mem_append] at h
    rw [String.toList_append, String.toList_append]
    exact Text.trimmed_append h.1 h.2 (toList_toString_ne_nil _) fun _ => isBlank_of_mem_toString
  rw [coerce_string_integer, htrimmed, readInt64?_toString]
  rfl

theorem via?_string_integer (n : Int64) :
    (Value.number (.integer n)).via? [.string, .integer] = some (.number (.integer n)) := by
  have hback := @coerce_string_integer_of_blank n "" "" nofun
  rw [String.empty_append, String.append_empty] at hback
  rw [Value.via?, coerce_integer_string, Option.bind_some, Value.via?, Outcome.on_replaced, hback]
  rfl

/-- A word that is converted to a double and back becomes the double without its fraction. -/
theorem via?_float_integer (n : Int64) :
    (Value.number (.integer n)).via? [.float, .integer] =
      (signedWord? (Binary64.ofInt64 n).truncate).map (.number ∘ .integer) := by
  rw [Value.via?, coerce_integer_float, Option.bind_some, Value.via?, Outcome.on_replaced,
    coerce_float_integer]
  cases signedWord? (Binary64.ofInt64 n).truncate with
  | none => rfl
  | some m => rfl

theorem via?_float_integer_eq_some_iff {n m : Int64} :
    (Value.number (.integer n)).via? [.float, .integer] = some (.number (.integer m)) ↔
      m.toInt = (Binary64.ofInt64 n).truncate := by
  rw [via?_float_integer, ← signedWord?_eq_some_iff]
  cases signedWord? (Binary64.ofInt64 n).truncate with
  | none => exact iff_of_false nofun nofun
  | some k => simp

/-- The greatest word is rounded up, out of the words. -/
theorem via?_float_integer_maxValue :
    (Value.number (.integer .maxValue)).via? [.float, .integer] = none := by
  have hnone : signedWord? (Binary64.ofInt64 .maxValue).truncate = none := by decide +kernel
  rw [via?_float_integer, hnone]
  rfl

/-- A word is the double that it is converted to, without its fraction, exactly if some double has
the value of the word: what is without fraction is a double again. -/
theorem toInt_eq_truncate_iff (n : Int64) :
    n.toInt = (Binary64.ofInt64 n).truncate ↔ (Number.integer n).IsDouble := by
  constructor
  · intro h
    refine ⟨(Binary64.ofInt64 n).whole, Number.value_eq_iff.mpr ?_⟩
    rw [Number.units, Number.units, Binary64.units_whole, h]
  · intro h
    have hunits : (Binary64.ofInt64 n).units = n.toInt * Format.double.one :=
      Number.units_toBinary64_iff.mpr h
    rw [Binary64.truncate, hunits, Int.mul_tdiv_cancel _ Binary64.natCast_one_pos.ne']

/-- What is written as a word and read as a double has the value of the double that the word is
converted to. -/
theorem exists_coerce_float_of_integer {s : String} {n : Int64}
    (h : coerce (.string s) .integer = some (.replaced (.number (.integer n)))) :
    ∃ x y, coerce (.string s) .float = some (.replaced (.number (.float x))) ∧
      coerce (.number (.integer n)) .float = some (.replaced (.number (.float y))) ∧
      (Number.float x).value = (Number.float y).value := by
  rw [coerce_string_integer] at h
  obtain ⟨m, hread, hm⟩ := Option.map_eq_some_iff.mp h
  cases hm
  obtain ⟨x, hx, hunits⟩ := readBinary64?_of_readInt64? hread
  refine ⟨x, .ofInt64 n, ?_, coerce_integer_float n, Number.value_eq_iff.mpr hunits⟩
  rw [coerce_string_float, hx]
  rfl

/-- Conversions in sequence lead where they should. A word that becomes a text is the word again,
whatever white space is put around the text. A word that becomes a double is the word again exactly
if some double has its value, and else nothing, as the greatest word, or another word. A text that
is read as a word is read as a double of the value that the word is converted to. And a truth value
comes back from every conversion. -/
theorem coercions_commute :
    (∀ n : Int64,
      (Value.number (.integer n)).via? [.string, .integer] = some (.number (.integer n)) ∧
      (∃ text, coerce (.number (.integer n)) .string = some (.replaced (.string text)) ∧
        ∀ before after : String, (∀ c ∈ (before ++ after).toList, Text.isBlank c) →
          coerce (.string (before ++ text ++ after)) .integer =
            some (.replaced (.number (.integer n)))) ∧
      ((Value.number (.integer n)).via? [.float, .integer] = some (.number (.integer n)) ↔
        (Number.integer n).IsDouble) ∧
      (¬ (Number.integer n).IsDouble →
        (Value.number (.integer n)).via? [.float, .integer] = none ∨
          ∃ m ≠ n, (Value.number (.integer n)).via? [.float, .integer] =
            some (.number (.integer m)))) ∧
    (Value.number (.integer .maxValue)).via? [.float, .integer] = none ∧
    (∀ (s : String) (n : Int64),
      coerce (.string s) .integer = some (.replaced (.number (.integer n))) →
      ∃ x y, coerce (.string s) .float = some (.replaced (.number (.float x))) ∧
        coerce (.number (.integer n)) .float = some (.replaced (.number (.float y))) ∧
        (Number.float x).value = (Number.float y).value) ∧
    ∀ b : Bool,
      ∀ tags ∈ [[Tag.integer, .boolean], [.string, .boolean], [.integer, .string, .boolean]],
        (Value.bool b).via? tags = some (.bool b) := by
  refine ⟨fun n => ⟨?_, ?_, ?_, ?_⟩, ?_, fun s n => exists_coerce_float_of_integer, ?_⟩
  · exact via?_string_integer n
  · exact ⟨toString n.toInt, coerce_integer_string n, fun _ _ => coerce_string_integer_of_blank n⟩
  · rw [via?_float_integer_eq_some_iff, toInt_eq_truncate_iff]
  · intro hrounded
    cases hword : signedWord? (Binary64.ofInt64 n).truncate with
    | none =>
      rw [via?_float_integer, hword]
      exact .inl rfl
    | some m =>
      rw [signedWord?_eq_some_iff] at hword
      refine .inr ⟨m, ?_, via?_float_integer_eq_some_iff.mpr hword⟩
      rintro rfl
      exact hrounded ((toInt_eq_truncate_iff m).mp hword)
  · exact via?_float_integer_maxValue
  · intro b
    cases b with
    | true => decide +kernel
    | false => decide +kernel

/-- The word behind `2 ^ 53` is read between white space, and it is not the same after it was a
double. The text `" +007"` is seven as a word and as a double. -/
theorem coercions_commute_behind_two_pow :
    (∃ text,
      coerce (.number (.integer 9007199254740993)) .string = some (.replaced (.string text)) ∧
      coerce (.string (" " ++ text ++ "\n")) .integer =
        some (.replaced (.number (.integer 9007199254740993)))) ∧
    ((Value.number (.integer 9007199254740993)).via? [.float, .integer] = none ∨
      ∃ m ≠ 9007199254740993, (Value.number (.integer 9007199254740993)).via? [.float, .integer] =
        some (.number (.integer m))) ∧
    ∃ x y, coerce (.string " +007") .float = some (.replaced (.number (.float x))) ∧
      coerce (.number (.integer 7)) .float = some (.replaced (.number (.float y))) ∧
      (Number.float x).value = (Number.float y).value := by
  obtain ⟨hwords, -, htexts, -⟩ := coercions_commute
  obtain ⟨-, ⟨text, htext, hblank⟩, -, hrounded⟩ := hwords 9007199254740993
  have hdouble : ¬ (Number.integer 9007199254740993).IsDouble := by
    rw [← Number.units_toBinary64_iff]
    decide +kernel
  have haround : ∀ c ∈ (" " ++ "\n" : String).toList, Text.isBlank c := by
    simp [Text.isBlank, Text.blankRanges, Text.Ranges.contains]
  exact ⟨⟨text, htext, hblank " " "\n" haround⟩, hrounded hdouble,
    htexts " +007" 7 (by decide +kernel)⟩

end DocShape
