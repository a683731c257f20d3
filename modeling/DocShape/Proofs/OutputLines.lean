import DocShape.Proofs.GetRun

/-!
How many lines are printed.

A run prints texts, each ended by a newline. The compact text of a document has no newline in it, so
whatever is written as a document takes one line.

* `Text.IsLine`: texts that stay on one line; it passes through everything that texts are put
  together by.
* `Value.isLine_compact`: documents are written on one line.
* `length_lines_output_eq_iff`: there are as many lines as texts exactly when each text is a line.
* `isLine_of_mem_printed_get`: `get` prints one line for each document up to where it ends.
-/

namespace DocShape

/-! ### Texts on one line -/

namespace Text

/-- Whether a text stays on one line. -/
def IsLine (text : String) : Prop :=
  '\n' ∉ text.toList

instance (text : String) : Decidable (IsLine text) :=
  inferInstanceAs (Decidable ('\n' ∉ text.toList))

@[simp]
theorem isLine_append {s t : String} : IsLine (s ++ t) ↔ IsLine s ∧ IsLine t := by
  rw [IsLine, String.toList_append, List.mem_append, not_or, IsLine, IsLine]

@[simp]
theorem isLine_ofList {cs : List Char} : IsLine (String.ofList cs) ↔ '\n' ∉ cs := by
  rw [IsLine, String.toList_ofList]

theorem isLine_intercalate {s : String} {ts : List String} (hs : IsLine s)
    (h : ∀ t ∈ ts, IsLine t) : IsLine (s.intercalate ts) := by
  induction ts with
  | nil => exact List.not_mem_nil
  | cons t rest ih =>
    rw [List.forall_mem_cons] at h
    cases rest with
    | nil =>
      rw [String.intercalate_singleton]
      exact h.1
    | cons t' rest =>
      rw [String.intercalate_cons_cons, isLine_append, isLine_append]
      exact ⟨⟨h.1, hs⟩, ih h.2⟩

theorem ne_newline_of_isDigit {c : Char} (h : c.isDigit) : c ≠ '\n' := by
  rintro rfl
  cases h

/-- No digit is a newline. -/
theorem newline_notMem_toDigits (n : Nat) : '\n' ∉ Nat.toDigits 10 n := fun h =>
  ne_newline_of_isDigit (Nat.isDigit_of_mem_toDigits (by decide) (by decide) h) rfl

theorem isLine_toString_nat (n : Nat) : IsLine (toString n) := by
  rw [Nat.toString_eq_repr, Nat.repr_eq_ofList_toDigits, isLine_ofList]
  exact newline_notMem_toDigits n

theorem isLine_toString_int (n : Int) : IsLine (toString n) := by
  rw [Int.toString_eq_repr, Int.repr_eq_if]
  split
  · exact isLine_toString_nat _
  · exact isLine_append.mpr ⟨by decide, isLine_toString_nat _⟩

end Text

open Text

/-! ### Documents -/

theorem Layout.isLine_positional {l : Layout} (hl : IsLine l.wholeMark) (d : Decimal) :
    IsLine (l.positional d) := by
  have hdigits := newline_notMem_toDigits d.digits
  have hzeros : ∀ n : Nat, '\n' ∉ List.replicate n '0' := fun n h =>
    absurd (List.eq_of_mem_replicate h) (by decide)
  unfold positional
  dsimp only
  split
  · simp [hdigits, hzeros, hl]
  split
  · simp only [isLine_append, isLine_ofList]
    exact ⟨⟨mt List.mem_of_mem_take hdigits, by decide⟩, mt List.mem_of_mem_drop hdigits⟩
  · simp only [isLine_append, isLine_ofList, List.mem_append, not_or]
    exact ⟨by decide, hzeros _, hdigits⟩

theorem Layout.isLine_scientific (d : Decimal) : IsLine (scientific d) := by
  have hdigits := newline_notMem_toDigits d.digits
  unfold scientific
  simp only [isLine_append, isLine_ofList]
  refine ⟨⟨⟨⟨mt List.mem_of_mem_take hdigits, ?_⟩, mt List.mem_of_mem_drop hdigits⟩, ?_⟩,
    isLine_toString_nat _⟩
  · split <;> decide
  · split <;> decide

theorem Binary64.isLine_text {l : Layout} (hl : IsLine l.wholeMark) (x : Binary64) :
    IsLine (x.text l) := by
  rw [text, isLine_append]
  constructor
  · split <;> decide
  · unfold Layout.decimal
    split
    · exact Layout.isLine_positional hl _
    · exact Layout.isLine_scientific _

theorem Number.isLine_text (n : Number) : IsLine n.text := by
  cases n with
  | integer n => exact isLine_toString_int _
  | large n => exact isLine_toString_nat _
  | float x => exact Binary64.isLine_text (by decide) x

namespace Value

theorem newline_notMem_hexPair : ∀ n < 0x20, '\n' ∉ hexPair n := by
  decide

/-- A newline is escaped, and what characters are escaped to has none. -/
theorem newline_notMem_escapedChar (c : Char) : '\n' ∉ escapedChar c := by
  unfold escapedChar
  split_ifs with hquote hbackslash hbackspace hfeed hnewline hreturn htab hcontrol
  any_goals decide
  · simp [newline_notMem_hexPair _ hcontrol]
  · simpa using Ne.symm hnewline

theorem isLine_stringText (s : String) : IsLine (stringText s) := by
  rw [stringText, isLine_ofList]
  simp [newline_notMem_escapedChar]

/-- A document is written on one line. -/
theorem isLine_compact (v : Value) : IsLine v.compact := by
  have hcomma : ∀ texts, (∀ t ∈ texts, IsLine t) → IsLine (commaSeparated texts) :=
    fun texts => isLine_intercalate (by decide)
  induction v using Value.induct with
  | scalar v harray hobject =>
    cases v with
    | null => decide
    | bool b => cases b <;> decide
    | number n => exact n.isLine_text
    | string s => exact isLine_stringText s
    | array items => exact absurd rfl (harray items)
    | object fields => exact absurd rfl (hobject fields)
  | array items ih =>
    rw [compact, itemTexts_eq_map, isLine_append, isLine_append]
    refine ⟨⟨by decide, hcomma _ ?_⟩, by decide⟩
    exact List.forall_mem_map.mpr ih
  | object fields ih =>
    rw [compact, fieldTexts_eq_map, isLine_append, isLine_append]
    refine ⟨⟨by decide, hcomma _ (List.forall_mem_map.mpr fun e he => ?_)⟩, by decide⟩
    rw [isLine_append, isLine_append]
    exact ⟨⟨isLine_stringText _, by decide⟩, ih e he⟩

end Value

/-! ### Output -/

namespace Command

/-- What a run writes: each text that is printed, ended by a newline. -/
def Report.output (r : Report) : String :=
  String.join (r.printed.map (· ++ "\n"))

theorem length_lines_join_cons (t : String) (rest : List String) :
    (lines (String.join ((t :: rest).map (· ++ "\n")))).length =
      t.toList.count '\n' + 1 + (lines (String.join (rest.map (· ++ "\n")))).length := by
  have hjoin : (String.join ((t :: rest).map (· ++ "\n"))).toList =
      t.toList ++ '\n' :: (String.join (rest.map (· ++ "\n"))).toList := by
    simp [String.toList_join]
  rw [lines, hjoin, length_linesFrom_append, lines]

theorem length_le_length_lines_join (ts : List String) :
    ts.length ≤ (lines (String.join (ts.map (· ++ "\n")))).length := by
  induction ts with
  | nil => exact Nat.zero_le _
  | cons t rest ih =>
    rw [length_lines_join_cons, List.length_cons]
    omega

/-- There are as many lines as texts exactly when each text is a line. -/
theorem length_lines_output_eq_iff (r : Report) :
    (lines r.output).length = r.printed.length ↔ ∀ t ∈ r.printed, IsLine t := by
  unfold Report.output
  induction r.printed with
  | nil => exact iff_of_true rfl (List.forall_mem_nil _)
  | cons t rest ih =>
    have hrest := length_le_length_lines_join rest
    rw [length_lines_join_cons, List.length_cons, List.forall_mem_cons, ← ih, IsLine,
      ← List.count_eq_zero]
    omega

/-- `get` prints one line for each document up to where it ends. -/
theorem isLine_of_mem_printed_get {files : Files} {s : InputSettings} {path : Path}
    {cast : Option Tag} {strict : Bool} {t : String}
    (h : t ∈ (runGet files s path cast strict).printed) : IsLine t := by
  rw [runGet_eq_getLoaded, getLoaded, printed_getAll] at h
  obtain ⟨v, -, rfl⟩ := List.mem_map.mp h
  unfold written
  cases cast <;> exact Value.isLine_compact _

end Command
end DocShape
