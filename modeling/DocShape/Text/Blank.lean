import DocShape.Text.Ranges

/-!
White space, as the Unicode property `White_Space` has it, and trimming it.

Main statements: `isBlank_of_isWhitespace`, each ASCII white space character is blank, and
`trimmed_append`, trimming takes away the white space around a text.
-/

namespace DocShape.Text

/-- The code points with the property `White_Space`. -/
def blankRanges : Ranges :=
  [
    (0x9, 0xD), (0x20, 0x20), (0x85, 0x85), (0xA0, 0xA0), (0x1680, 0x1680), (0x2000, 0x200A),
    (0x2028, 0x2029), (0x202F, 0x202F), (0x205F, 0x205F), (0x3000, 0x3000)]

/-- Whether a character is white space. -/
def isBlank (c : Char) : Bool :=
  blankRanges.contains c

theorem isBlank_of_isWhitespace {c : Char} (h : c.isWhitespace) : isBlank c := by
  simp only [Char.isWhitespace, Bool.or_eq_true, decide_eq_true_eq] at h
  rcases h with ((rfl | rfl) | rfl) | rfl <;> decide

/-- No digit is blank. -/
theorem isBlank_of_isDigit {c : Char} (h : c.isDigit) : isBlank c = false := by
  rw [Char.isDigit, Bool.and_eq_true, decide_eq_true_eq, decide_eq_true_eq] at h
  have hlow : 48 ≤ c.toNat := UInt32.le_iff_toNat_le.mp h.1
  have hhigh : c.toNat ≤ 57 := UInt32.le_iff_toNat_le.mp h.2
  simp only [isBlank, blankRanges, Ranges.contains, List.any_cons, List.any_nil,
    Bool.or_false, Bool.or_eq_false_iff, Bool.and_eq_false_iff, decide_eq_false_iff_not]
  omega

/-- The characters without the white space at both ends. -/
def trimmed (cs : List Char) : List Char :=
  ((cs.dropWhile isBlank).reverse.dropWhile isBlank).reverse

/-- Characters that are not blank stay when the white space before them is taken away. -/
theorem dropWhile_isBlank_append {before cs : List Char} (hbefore : ∀ c ∈ before, isBlank c)
    (hcs : ∀ c ∈ cs.head?, isBlank c = false) : (before ++ cs).dropWhile isBlank = cs := by
  rw [List.dropWhile_append_of_pos hbefore]
  cases cs with
  | nil => rfl
  | cons c rest => exact List.dropWhile_cons_of_neg (ne_true_of_eq_false (hcs c rfl))

/-- White space around characters that are not blank is taken away. -/
theorem trimmed_append {before cs after : List Char} (hbefore : ∀ c ∈ before, isBlank c)
    (hafter : ∀ c ∈ after, isBlank c) (hne : cs ≠ []) (hcs : ∀ c ∈ cs, isBlank c = false) :
    trimmed (before ++ cs ++ after) = cs := by
  have hfront : (before ++ (cs ++ after)).dropWhile isBlank = cs ++ after := by
    refine dropWhile_isBlank_append hbefore fun c hc => hcs c ?_
    cases cs with
    | nil => exact absurd rfl hne
    | cons d rest =>
      cases hc
      exact List.mem_cons_self
  have hback : (after.reverse ++ cs.reverse).dropWhile isBlank = cs.reverse := by
    refine dropWhile_isBlank_append (fun c hc => hafter c (List.mem_reverse.mp hc)) fun c hc => ?_
    exact hcs c (List.mem_reverse.mp (List.mem_of_mem_head? hc))
  rw [trimmed, List.append_assoc, hfront, List.reverse_append, hback, List.reverse_reverse]

end DocShape.Text
