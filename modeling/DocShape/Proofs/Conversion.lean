import DocShape.Coercion

/-!
What conversions deliver.

* `tag_of_conversion?`: every conversion of the matrix delivers the tag that it is listed under.
* `tag_of_coerce`: a node that is coerced to a tag carries that tag afterwards.
* `tag_eq_of_coerce_container`: nothing is converted to a mapping or a sequence.
-/

namespace DocShape

namespace Coercion

theorem tag_of_floatToInteger {v w : Value} (h : floatToInteger v = some w) :
    w.tag = .integer := by
  unfold floatToInteger at h
  split at h
  · dsimp only at h
    split at h <;> cases h
    rfl
  · cases h

theorem tag_of_stringToInteger {v w : Value} (h : stringToInteger v = some w) :
    w.tag = .integer := by
  unfold stringToInteger at h
  split at h
  · obtain ⟨n, -, rfl⟩ := Option.map_eq_some_iff.mp h
    rfl
  · cases h

theorem tag_of_stringToFloat {v w : Value} (h : stringToFloat v = some w) : w.tag = .float := by
  unfold stringToFloat at h
  split at h
  · obtain ⟨x, -, rfl⟩ := Option.map_eq_some_iff.mp h
    rfl
  · cases h

theorem tag_of_stringToBoolean {v w : Value} (h : stringToBoolean v = some w) :
    w.tag = .boolean := by
  unfold stringToBoolean at h
  split at h
  · dsimp only at h
    split at h
    · cases h
      rfl
    · split at h <;> cases h
      rfl
  · cases h

/-- A conversion delivers the tag that it is listed under. The conversions that cannot fail on
their kind show it in their result; the others are the lemmas above. -/
theorem tag_of_conversion? {origin target : Tag} {convert : Value → Option Value} {v w : Value}
    (hc : conversion? origin target = some convert) (h : convert v = some w) :
    w.tag = target := by
  unfold conversion? at hc
  split at hc <;> cases hc
  case h_1 => unfold integerToFloat at h; split at h <;> cases h; rfl
  case h_2 => exact tag_of_floatToInteger h
  case h_3 => unfold numberToString at h; split at h <;> cases h; rfl
  case h_4 => unfold numberToString at h; split at h <;> cases h; rfl
  case h_5 => exact tag_of_stringToInteger h
  case h_6 => exact tag_of_stringToFloat h
  case h_7 => unfold booleanToInteger at h; split at h <;> cases h; rfl
  case h_8 => unfold integerToBoolean at h; split at h <;> cases h <;> rfl
  case h_9 => unfold booleanToString at h; split at h <;> cases h; rfl
  case h_10 => exact tag_of_stringToBoolean h

end Coercion

/-- A node that is coerced to a tag carries it afterwards. -/
theorem tag_of_coerce {v : Value} {target : Tag} {o : Outcome} (h : coerce v target = some o) :
    (o.on v).tag = target := by
  unfold coerce at h
  split at h
  · cases h
    assumption
  · obtain ⟨convert, hc, hw⟩ := Option.bind_eq_some_iff.mp h
    obtain ⟨w, hconvert, rfl⟩ := Option.map_eq_some_iff.mp hw
    exact Coercion.tag_of_conversion? hc hconvert

/-- A node that is coerced to a container tag carries the tag already. -/
theorem tag_eq_of_coerce_container {v : Value} {target : Tag} {o : Outcome}
    (ht : target.isContainer) (h : coerce v target = some o) : v.tag = target := by
  unfold coerce at h
  split at h
  · assumption
  · obtain ⟨convert, hc, -⟩ := Option.bind_eq_some_iff.mp h
    have hnone : Coercion.conversion? v.tag target = none := by
      cases target <;> first | (cases v.tag <;> rfl) | cases ht
    rw [hnone] at hc
    cases hc

end DocShape
