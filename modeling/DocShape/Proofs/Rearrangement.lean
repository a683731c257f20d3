import DocShape.Proofs.EntryLaws
import Mathlib.Data.List.Forall2

/-!
Lists that hold related members in another order.

* `exists_related_of_forall₂`, `forall₂_iff_forall₂`, `forall₂_congr_of_mem`: lists that are related
  member by member.
* `Rearranged`: as many members, each related to one on the other side. What is said of all members
  is said of all on the other side: `Rearranged.forall_iff`, `Rearranged.exists_iff`.
* `Entries.lookup_rel`, `Entries.rearranged_of_lookup`: entries without repeated keys are rearranged
  exactly when related values are found at each key.
-/

namespace DocShape

section Forall₂

variable {α β α' β' : Type} {R : α → β → Prop} {xs : List α} {ys : List β}

theorem exists_related_of_forall₂ (h : List.Forall₂ R xs ys) :
    (∀ x ∈ xs, ∃ y ∈ ys, R x y) ∧ ∀ y ∈ ys, ∃ x ∈ xs, R x y := by
  induction h with
  | nil => exact ⟨nofun, nofun⟩
  | cons hxy _ ih =>
    simp only [List.forall_mem_cons, List.exists_mem_cons_iff]
    exact ⟨⟨.inl hxy, fun x hx => .inr (ih.1 x hx)⟩, .inl hxy, fun y hy => .inr (ih.2 y hy)⟩

/-- Lists are related member by member if and only if lists that correspond to them are. -/
theorem forall₂_iff_forall₂ {S : α → α' → Prop} {T : β → β' → Prop} {R' : α' → β' → Prop}
    {xs' : List α'} {ys' : List β'} (hx : List.Forall₂ S xs xs') (hy : List.Forall₂ T ys ys')
    (h : ∀ x ∈ xs, ∀ y ∈ ys, ∀ x' y', S x x' → T y y' → (R x y ↔ R' x' y')) :
    List.Forall₂ R xs ys ↔ List.Forall₂ R' xs' ys' := by
  induction hx generalizing ys ys' with
  | nil => cases hy <;> simp
  | cons hs _ ih =>
    cases hy with
    | nil => simp
    | cons ht hrest =>
      rw [List.forall₂_cons, List.forall₂_cons]
      simp only [List.forall_mem_cons] at h
      exact and_congr (h.1.1 _ _ hs ht) (ih hrest fun x hx y hy => (h.2 x hx).2 y hy)

/-- What corresponds to lists that are related member by member is related so itself. -/
theorem forall₂_of_forall₂ {S : α → α' → Prop} {T : β → β' → Prop} {R' : α' → β' → Prop}
    {xs' : List α'} {ys' : List β'} (h : List.Forall₂ R xs ys) (hx : List.Forall₂ S xs xs')
    (hy : List.Forall₂ T ys ys')
    (hR : ∀ x ∈ xs, ∀ y x' y', R x y → S x x' → T y y' → R' x' y') :
    List.Forall₂ R' xs' ys' := by
  induction h generalizing xs' ys' with
  | nil =>
    cases hx
    cases hy
    exact .nil
  | cons hxy _ ih =>
    cases hx with
    | cons hs hx =>
      cases hy with
      | cons ht hy =>
        rw [List.forall_mem_cons] at hR
        exact .cons (hR.1 _ _ _ hxy hs ht) (ih hx hy hR.2)

theorem forall₂_imp_of_mem {S : α → β → Prop} (h : List.Forall₂ R xs ys)
    (hRS : ∀ x ∈ xs, ∀ y ∈ ys, R x y → S x y) : List.Forall₂ S xs ys := by
  induction h with
  | nil => exact .nil
  | cons hxy _ ih =>
    simp only [List.forall_mem_cons] at hRS
    exact .cons (hRS.1.1 hxy) (ih fun x hx y hy => (hRS.2 x hx).2 y hy)

theorem forall₂_congr_of_mem {S : α → β → Prop} (h : ∀ x ∈ xs, ∀ y ∈ ys, (R x y ↔ S x y)) :
    List.Forall₂ R xs ys ↔ List.Forall₂ S xs ys :=
  ⟨fun hR => forall₂_imp_of_mem hR fun x hx y hy => (h x hx y hy).mp,
    fun hS => forall₂_imp_of_mem hS fun x hx y hy => (h x hx y hy).mpr⟩

end Forall₂

section Rel

variable {α β : Type} {R : α → β → Prop} {o : Option α} {o' : Option β}

theorem isSome_eq_of_rel (h : Option.Rel R o o') : o.isSome = o'.isSome := by
  cases h <;> rfl

/-- A value that is there on both sides or on neither. -/
theorem exists_some_iff_of_rel (h : Option.Rel R o o') {p : α → Prop} {q : β → Prop}
    (hpq : ∀ x ∈ o, ∀ y, R x y → (p x ↔ q y)) :
    (∃ x, o = some x ∧ p x) ↔ ∃ y, o' = some y ∧ q y := by
  cases h with
  | none => simp
  | some hxy => simpa using hpq _ rfl _ hxy

end Rel

/-! ### Rearranged lists -/

/-- Lists that hold related members, in whatever order. -/
def Rearranged {α β : Type} (R : α → β → Prop) (xs : List α) (ys : List β) : Prop :=
  ∃ mid, List.Forall₂ R xs mid ∧ mid.Perm ys

namespace Rearranged

variable {α β : Type} {R : α → β → Prop} {xs : List α} {ys : List β}

theorem refl_of_forall {R : α → α → Prop} (h : ∀ x ∈ xs, R x x) : Rearranged R xs xs :=
  ⟨xs, List.forall₂_same.mpr h, .refl xs⟩

theorem length_eq (h : Rearranged R xs ys) : xs.length = ys.length := by
  obtain ⟨mid, hrel, hperm⟩ := h
  rw [hrel.length_eq, hperm.length_eq]

theorem cons {x : α} {y : β} {before after : List β} (hxy : R x y)
    (h : Rearranged R xs (before ++ after)) : Rearranged R (x :: xs) (before ++ y :: after) := by
  obtain ⟨mid, hrel, hperm⟩ := h
  exact ⟨y :: mid, .cons hxy hrel, (hperm.cons y).trans List.perm_middle.symm⟩

theorem exists_right (h : Rearranged R xs ys) {x : α} (hx : x ∈ xs) : ∃ y ∈ ys, R x y := by
  obtain ⟨mid, hrel, hperm⟩ := h
  obtain ⟨y, hy, hxy⟩ := (exists_related_of_forall₂ hrel).1 x hx
  exact ⟨y, hperm.subset hy, hxy⟩

theorem exists_left (h : Rearranged R xs ys) {y : β} (hy : y ∈ ys) : ∃ x ∈ xs, R x y := by
  obtain ⟨mid, hrel, hperm⟩ := h
  exact (exists_related_of_forall₂ hrel).2 y (hperm.symm.subset hy)

/-- What holds of all members holds of all related ones. -/
theorem forall_iff (h : Rearranged R xs ys) {p : α → Prop} {q : β → Prop}
    (hpq : ∀ x ∈ xs, ∀ y ∈ ys, R x y → (p x ↔ q y)) : (∀ x ∈ xs, p x) ↔ ∀ y ∈ ys, q y := by
  constructor
  · intro hp y hy
    obtain ⟨x, hx, hxy⟩ := h.exists_left hy
    exact (hpq x hx y hy hxy).mp (hp x hx)
  · intro hq x hx
    obtain ⟨y, hy, hxy⟩ := h.exists_right hx
    exact (hpq x hx y hy hxy).mpr (hq y hy)

theorem exists_iff (h : Rearranged R xs ys) {p : α → Prop} {q : β → Prop}
    (hpq : ∀ x ∈ xs, ∀ y ∈ ys, R x y → (p x ↔ q y)) : (∃ x ∈ xs, p x) ↔ ∃ y ∈ ys, q y := by
  constructor
  · rintro ⟨x, hx, hp⟩
    obtain ⟨y, hy, hxy⟩ := h.exists_right hx
    exact ⟨y, hy, (hpq x hx y hy hxy).mp hp⟩
  · rintro ⟨y, hy, hq⟩
    obtain ⟨x, hx, hxy⟩ := h.exists_left hy
    exact ⟨x, hx, (hpq x hx y hy hxy).mpr hq⟩

end Rearranged

/-! ### Rearranged entries -/

namespace Entries

/-- Entries that have related values at the same key. -/
inductive AtKey {α β : Type} (R : α → β → Prop) : String × α → String × β → Prop where
  | intro {key : String} {v : α} {w : β} : R v w → AtKey R (key, v) (key, w)

variable {α β : Type} {R : α → β → Prop} {a : List (String × α)} {b : List (String × β)}

theorem keys_perm (h : Rearranged (AtKey R) a b) : (keys a).Perm (keys b) := by
  obtain ⟨mid, hrel, hperm⟩ := h
  have hkeys : keys a = keys mid := by
    clear hperm
    induction hrel with
    | nil => rfl
    | cons hhead _ ih =>
      cases hhead
      rw [keys_cons, keys_cons, ih]
  rw [hkeys]
  exact hperm.map _

/-- Related values are found at each key. -/
theorem lookup_rel (hn : (keys a).Nodup) (h : Rearranged (AtKey R) a b) (key : String) :
    Option.Rel R (a.lookup key) (b.lookup key) := by
  have hperm := keys_perm h
  cases ha : a.lookup key with
  | none =>
    have hb : b.lookup key = none := by
      rw [lookup_eq_none_iff_notMem, ← hperm.mem_iff, ← lookup_eq_none_iff_notMem]
      exact ha
    rw [hb]
    exact .none
  | some v =>
    obtain ⟨e, he, hve⟩ := h.exists_right (mem_of_lookup_eq_some ha)
    cases hve with
    | intro hvw =>
      rw [lookup_of_mem (hperm.nodup_iff.mp hn) he]
      exact .some hvw

theorem lookup_middle {before after : List (String × β)} {key k : String} {w : β} (h : k ≠ key) :
    (before ++ (key, w) :: after).lookup k = (before ++ after).lookup k := by
  induction before with
  | nil => exact (lookup_cons after key w k).trans (if_neg h)
  | cons e before ih => rw [List.cons_append, List.cons_append, lookup_cons, lookup_cons, ih]

/-- Where related values are found at each key, entries are rearranged. -/
theorem rearranged_of_lookup (ha : (keys a).Nodup) (hb : (keys b).Nodup)
    (h : ∀ key, Option.Rel R (a.lookup key) (b.lookup key)) : Rearranged (AtKey R) a b := by
  induction a generalizing b with
  | nil =>
    cases b with
    | nil => exact ⟨[], .nil, .refl []⟩
    | cons e rest =>
      have hfirst := h e.1
      rw [lookup_cons, if_pos rfl] at hfirst
      cases hfirst
  | cons e rest ih =>
    obtain ⟨key, v⟩ := e
    rw [keys_cons, List.nodup_cons] at ha
    have hfirst := h key
    rw [lookup_cons, if_pos rfl] at hfirst
    cases hw : b.lookup key with
    | none =>
      rw [hw] at hfirst
      cases hfirst
    | some w =>
      rw [hw] at hfirst
      cases hfirst with
      | some hvw =>
        -- The entry with the key is taken out on the right; elsewhere the same is found as before.
        obtain ⟨before, after, rfl, -⟩ := List.lookup_eq_some_iff.mp hw
        rw [keys_append, keys_cons, List.perm_middle.nodup_iff, ← keys_append,
          List.nodup_cons] at hb
        refine .cons (.intro hvw) (ih ha.2 hb.2 fun k => ?_)
        by_cases hk : k = key
        · rw [hk, lookup_eq_none_iff_notMem.mpr ha.1, lookup_eq_none_iff_notMem.mpr hb.1]
          exact .none
        · have hother := h k
          rwa [lookup_middle hk, lookup_cons, if_neg hk] at hother

end Entries
end DocShape
