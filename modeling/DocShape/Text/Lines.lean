/-!
The lines of a text. A newline ends a line, and a carriage return right before it belongs to the
end; behind the last newline there is one more line if there is anything.

Main statements: `lines_join`, lines that are put together are the lines of the whole, and
`length_linesFrom_append`, a text that a newline ends has as many lines as newlines.
-/

namespace DocShape.Text

/-- A line that a newline ends. The latest character comes first. -/
def endedLine : (reversed : List Char) → String
  | '\r' :: reversed => String.ofList reversed.reverse
  | reversed => String.ofList reversed.reverse

/-- The lines of a text, the characters of the first one up to here given, the latest first. -/
def linesFrom : (reversed : List Char) → List Char → List String
  | [], [] => []
  | c :: reversed, [] => [String.ofList (c :: reversed).reverse]
  | reversed, c :: rest =>
    if c = '\n' then endedLine reversed :: linesFrom [] rest else linesFrom (c :: reversed) rest

/-- The lines of a text. -/
def lines (text : String) : List String :=
  linesFrom [] text.toList

theorem endedLine_eq {cs : List Char} (h : cs.getLast? ≠ some '\r') :
    endedLine cs.reverse = String.ofList cs := by
  rw [List.getLast?_eq_head?_reverse] at h
  rw [endedLine.eq_def]
  split
  · rename_i hreverse
    rw [hreverse] at h
    exact absurd rfl h
  · rw [List.reverse_reverse]

theorem linesFrom_cons (reversed : List Char) (c : Char) (rest : List Char) :
    linesFrom reversed (c :: rest) =
      if c = '\n' then endedLine reversed :: linesFrom [] rest
      else linesFrom (c :: reversed) rest := by
  cases reversed <;> rw [linesFrom]

theorem linesFrom_append {cs : List Char} (h : '\n' ∉ cs) (reversed rest : List Char) :
    linesFrom reversed (cs ++ '\n' :: rest) =
      endedLine (cs.reverse ++ reversed) :: linesFrom [] rest := by
  induction cs generalizing reversed with
  | nil => simp [linesFrom_cons]
  | cons c cs ih =>
    rw [List.mem_cons, not_or] at h
    have hne : c ≠ '\n' := fun e => h.1 e.symm
    rw [List.cons_append, linesFrom_cons, if_neg hne, ih h.2]
    simp

/-- A text that a newline ends has as many lines as newlines. -/
theorem length_linesFrom_append (reversed cs rest : List Char) :
    (linesFrom reversed (cs ++ '\n' :: rest)).length =
      cs.count '\n' + 1 + (linesFrom [] rest).length := by
  induction cs generalizing reversed with
  | nil => simp [linesFrom_cons, Nat.add_comm]
  | cons c cs ih =>
    rw [List.cons_append, linesFrom_cons]
    split
    · rename_i hc
      rw [hc, List.length_cons, ih, List.count_cons_self]
      omega
    · rename_i hc
      rw [ih, List.count_cons_of_ne hc]

/-- Lines without line breaks, each ended by a newline, are the lines of what they make up. -/
theorem lines_join {ls : List String}
    (h : ∀ l ∈ ls, '\n' ∉ l.toList ∧ l.toList.getLast? ≠ some '\r') :
    lines (String.join (ls.map (· ++ "\n"))) = ls := by
  have hjoin : (String.join (ls.map (· ++ "\n"))).toList = ls.flatMap (·.toList ++ ['\n']) := by
    simp [String.toList_join, List.flatMap_map]
  rw [lines, hjoin]
  clear hjoin
  induction ls with
  | nil => rfl
  | cons l rest ih =>
    rw [List.forall_mem_cons] at h
    rw [List.flatMap_cons, List.append_assoc, List.singleton_append, linesFrom_append h.1.1,
      List.append_nil, endedLine_eq h.1.2, String.ofList_toList, ih h.2]

end DocShape.Text
