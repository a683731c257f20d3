import DocShape.Entries
import Mathlib.Data.List.Perm.Subperm

/-!
Laws of keyed entries, beyond those that stand beside the operations.

* `lookup_of_mem`: where no key is repeated, an entry is found at its key.
* `lookup_map`, `lookup_filter`: what is found after values are changed, or entries picked by key.
* `lookup_ofKeys`: what is found in entries that are given by their keys.
* `lookup_insertAll`: of entries that are put one after the other, the last with the key counts,
  then the entries before them.
* `insertAll_of_lookup`: to put entries that are found already changes nothing.
* `keys_insertAll_of_known`: entries with known keys leave the keys as they are.
* `eq_of_lookup`: entries with the same keys are told apart by what is found.
* `insertAll_eq_append`: where the entries stand after others are put, and what they hold.
* `mem_keys_iff_of_subset`: as many keys, none of them repeated, are the same keys.
* `ofList_eq_self`: entries without a repeated key are what putting them one by one leads to.
-/

namespace DocShape.Entries

variable {α : Type}

theorem mem_keys_iff {entries : List (String × α)} {key : String} :
    key ∈ keys entries ↔ ∃ value, (key, value) ∈ entries := by
  simp [keys]

theorem mem_keys_of_mem {entries : List (String × α)} {e : String × α} (h : e ∈ entries) :
    e.1 ∈ keys entries :=
  List.mem_map_of_mem h

@[simp] theorem keys_append (xs ys : List (String × α)) : keys (xs ++ ys) = keys xs ++ keys ys :=
  List.map_append

theorem lookup_eq_none_iff_notMem {entries : List (String × α)} {key : String} :
    entries.lookup key = none ↔ key ∉ keys entries := by
  induction entries with
  | nil => simp
  | cons e rest ih =>
    rw [lookup_cons, keys_cons, List.mem_cons]
    by_cases h : key = e.1 <;> simp [h, ih]

theorem mem_of_lookup_eq_some {entries : List (String × α)} {key : String} {value : α}
    (h : entries.lookup key = some value) : (key, value) ∈ entries := by
  obtain ⟨before, after, rfl, -⟩ := List.lookup_eq_some_iff.mp h
  simp

theorem mem_keys_of_lookup_eq_some {entries : List (String × α)} {key : String} {value : α}
    (h : entries.lookup key = some value) : key ∈ keys entries :=
  mem_keys_iff.mpr ⟨value, mem_of_lookup_eq_some h⟩

/-- Where no key is repeated, an entry is found at its key. -/
theorem lookup_of_mem {entries : List (String × α)} (hn : (keys entries).Nodup) {key : String}
    {value : α} (h : (key, value) ∈ entries) : entries.lookup key = some value := by
  induction entries with
  | nil => cases h
  | cons e rest ih =>
    rw [keys_cons, List.nodup_cons] at hn
    rw [lookup_cons]
    rcases List.mem_cons.mp h with rfl | hrest
    · simp
    · have hne : key ≠ e.1 := by
        rintro rfl
        exact hn.1 (mem_keys_iff.mpr ⟨value, hrest⟩)
      rw [if_neg hne]
      exact ih hn.2 hrest

section Map

variable {β : Type} (f : String → α → β)

theorem keys_map (entries : List (String × α)) :
    keys (entries.map fun e => (e.1, f e.1 e.2)) = keys entries := by
  rw [keys, List.map_map]
  rfl

theorem lookup_map (entries : List (String × α)) (key : String) :
    (entries.map fun e => (e.1, f e.1 e.2)).lookup key = (entries.lookup key).map (f key) := by
  induction entries with
  | nil => rfl
  | cons e rest ih =>
    rw [List.map_cons, lookup_cons, lookup_cons]
    split
    · rename_i h
      rw [h]
      rfl
    · exact ih

end Map

section OfKeys

variable (f : String → α) (ks : List String) (key : String)

theorem lookup_ofKeys :
    (ks.map fun k => (k, f k)).lookup key = if key ∈ ks then some (f key) else none := by
  induction ks with
  | nil => rfl
  | cons k rest ih =>
    rw [List.map_cons, lookup_cons, ih]
    by_cases h : key = k <;> simp [h]

theorem contains_ofKeys : contains (ks.map fun k => (k, f k)) key = ks.contains key := by
  have hkeys : keys (ks.map fun k => (k, f k)) = ks := by
    simp [keys, Function.comp_def]
  rw [Bool.eq_iff_iff, contains_iff, hkeys, List.contains_iff_mem]

end OfKeys

/-- Entries picked by their keys. -/
theorem lookup_filter (p : String → Bool) (entries : List (String × α)) (key : String) :
    (entries.filter fun e => p e.1).lookup key = if p key then entries.lookup key else none := by
  induction entries with
  | nil => simp
  | cons e rest ih =>
    rw [List.filter_cons, lookup_cons]
    by_cases hkey : key = e.1
    · subst hkey
      split
      · rw [lookup_cons, if_pos rfl, if_pos rfl]
      · rename_i hp
        rw [ih, if_neg hp]
    · rw [if_neg hkey, ← ih]
      split
      · rw [lookup_cons, if_neg hkey]
      · rfl

/-- An entry whose key is new goes to the end. -/
theorem insert_of_notMem {entries : List (String × α)} {key : String} (h : key ∉ keys entries)
    (value : α) : insert key value entries = entries ++ [(key, value)] := by
  induction entries with
  | nil => rfl
  | cons e rest ih =>
    rw [keys_cons, List.mem_cons, not_or] at h
    rw [insert, if_neg (Ne.symm h.1), ih h.2, List.cons_append]

theorem insertAll_cons (entries : List (String × α)) (e : String × α)
    (news : List (String × α)) :
    insertAll entries (e :: news) = insertAll (insert e.1 e.2 entries) news := rfl

/-- Entries with new keys go to the end in their order. -/
theorem insertAll_of_nodup {entries news : List (String × α)}
    (h : (keys (entries ++ news)).Nodup) : insertAll entries news = entries ++ news := by
  induction news generalizing entries with
  | nil => exact (List.append_nil entries).symm
  | cons e rest ih =>
    have hnew : e.1 ∉ keys entries := by
      rw [keys_append, List.nodup_append] at h
      intro hmem
      exact h.2.2 _ hmem _ (by simp) rfl
    rw [insertAll_cons, insert_of_notMem hnew, ih (by simpa using h)]
    simp

/-- Entries without a repeated key are what putting them one by one leads to. -/
theorem ofList_eq_self {entries : List (String × α)} (h : (keys entries).Nodup) :
    ofList entries = entries :=
  insertAll_of_nodup h

theorem lookup_insertAll {entries news : List (String × α)} (hn : (keys news).Nodup)
    (key : String) :
    (insertAll entries news).lookup key = (news.lookup key).or (entries.lookup key) := by
  induction news generalizing entries with
  | nil => rfl
  | cons e rest ih =>
    rw [keys_cons, List.nodup_cons] at hn
    rw [insertAll_cons, ih hn.2, lookup_insert, lookup_cons]
    by_cases h : key = e.1
    · rw [if_pos h, if_pos h, h, lookup_eq_none_iff_notMem.mpr hn.1]
      rfl
    · rw [if_neg h, if_neg h]

theorem mem_keys_insertAll {entries news : List (String × α)} {key : String} :
    key ∈ keys (insertAll entries news) ↔ key ∈ keys entries ∨ key ∈ keys news := by
  induction news generalizing entries with
  | nil => simp [insertAll]
  | cons e rest ih =>
    rw [insertAll_cons, ih, keys_insert, keys_cons, List.mem_cons]
    split
    · rename_i h
      constructor
      · rintro (hk | hk)
        · exact .inl hk
        · exact .inr (.inr hk)
      · rintro (hk | rfl | hk)
        · exact .inl hk
        · exact .inl h
        · exact .inr hk
    · rw [List.mem_append, List.mem_singleton, or_assoc]

/-- Entries whose keys are known leave the keys as they are. -/
theorem keys_insertAll_of_known {entries news : List (String × α)}
    (h : ∀ k ∈ keys news, k ∈ keys entries) :
    keys (insertAll entries news) = keys entries := by
  induction news generalizing entries with
  | nil => rfl
  | cons e rest ih =>
    rw [keys_cons, List.forall_mem_cons] at h
    have hkeys : keys (insert e.1 e.2 entries) = keys entries := by
      rw [keys_insert, if_pos h.1]
    rw [insertAll_cons, ih (by rw [hkeys]; exact h.2), hkeys]

/-- New keys come behind the ones that are there. -/
theorem keys_insertAll {entries news : List (String × α)} (hn : (keys news).Nodup) :
    keys (insertAll entries news) =
      keys entries ++ keys (news.filter fun e => !contains entries e.1) := by
  induction news generalizing entries with
  | nil => simp [insertAll]
  | cons e rest ih =>
    rw [keys_cons, List.nodup_cons] at hn
    rw [insertAll_cons, ih hn.2, keys_insert, List.filter_cons]
    have hrest : rest.filter (fun e' => !contains (insert e.1 e.2 entries) e'.1) =
        rest.filter fun e' => !contains entries e'.1 := by
      refine List.filter_congr fun e' he' => ?_
      have hne : e'.1 ≠ e.1 := fun heq => hn.1 (heq ▸ mem_keys_of_mem he')
      rw [Bool.eq_iff_iff]
      simp only [Bool.not_eq_true', ← Bool.not_eq_true, contains_iff, keys_insert]
      split <;> simp [hne]
    rw [hrest]
    by_cases hk : e.1 ∈ keys entries
    · simp [hk, contains_iff.mpr hk]
    · have hnot : contains entries e.1 = false := by
        rwa [← Bool.not_eq_true, contains_iff]
      simp [hk, hnot]

theorem mem_of_mem_insert {entries : List (String × α)} {key : String} {value : α}
    {e : String × α} (h : e ∈ insert key value entries) : e = (key, value) ∨ e ∈ entries := by
  induction entries with
  | nil => exact .inl (List.mem_singleton.mp h)
  | cons e' rest ih =>
    rw [insert] at h
    split at h
    · exact (List.mem_cons.mp h).imp_right (List.mem_cons_of_mem _)
    · rcases List.mem_cons.mp h with rfl | h
      · exact .inr List.mem_cons_self
      · exact (ih h).imp_right (List.mem_cons_of_mem _)

theorem mem_of_mem_insertAll {entries news : List (String × α)} {e : String × α}
    (h : e ∈ insertAll entries news) : e ∈ entries ∨ e ∈ news := by
  induction news generalizing entries with
  | nil => exact .inl h
  | cons e' rest ih =>
    rcases ih h with h | h
    · rcases mem_of_mem_insert h with rfl | h
      · exact .inr List.mem_cons_self
      · exact .inl h
    · exact .inr (List.mem_cons_of_mem _ h)

theorem mem_of_mem_ofList {entries : List (String × α)} {e : String × α} (h : e ∈ ofList entries) :
    e ∈ entries :=
  (mem_of_mem_insertAll h).resolve_left List.not_mem_nil

theorem nodup_keys_insertAll {entries : List (String × α)} (h : (keys entries).Nodup)
    (news : List (String × α)) : (keys (insertAll entries news)).Nodup := by
  induction news generalizing entries with
  | nil => exact h
  | cons e rest ih => exact ih (nodup_keys_insert h e.1 e.2)

theorem nodup_keys_ofList (entries : List (String × α)) : (keys (ofList entries)).Nodup :=
  have hnil : (keys ([] : List (String × α))).Nodup := List.nodup_nil
  nodup_keys_insertAll hnil entries

/-- To put an entry that is found already changes nothing. -/
theorem insert_of_lookup {entries : List (String × α)} {key : String} {value : α}
    (h : entries.lookup key = some value) : insert key value entries = entries := by
  induction entries with
  | nil => cases h
  | cons e rest ih =>
    rw [lookup_cons] at h
    rw [insert]
    split at h
    · rename_i hk
      cases h
      rw [if_pos hk.symm, hk]
    · rename_i hk
      rw [if_neg (Ne.symm hk), ih h]

theorem insertAll_of_lookup {entries news : List (String × α)}
    (h : ∀ e ∈ news, entries.lookup e.1 = some e.2) : insertAll entries news = entries := by
  induction news with
  | nil => rfl
  | cons e rest ih =>
    rw [List.forall_mem_cons] at h
    rw [insertAll_cons, insert_of_lookup h.1, ih h.2]

/-- Entries with the same keys in the same order are equal where the same is found at each key. -/
theorem eq_of_lookup {xs ys : List (String × α)} (hn : (keys xs).Nodup)
    (hkeys : keys xs = keys ys) (h : ∀ k, xs.lookup k = ys.lookup k) : xs = ys := by
  induction xs generalizing ys with
  | nil =>
    cases ys with
    | nil => rfl
    | cons e rest => cases hkeys
  | cons e rest ih =>
    cases ys with
    | nil => cases hkeys
    | cons e' rest' =>
      obtain ⟨k, v⟩ := e
      obtain ⟨k', v'⟩ := e'
      rw [keys_cons, keys_cons, List.cons.injEq] at hkeys
      obtain ⟨hk, hrest⟩ := hkeys
      dsimp only at hk
      subst hk
      rw [keys_cons, List.nodup_cons] at hn
      have hhead := h k
      rw [lookup_cons, lookup_cons, if_pos rfl, if_pos rfl] at hhead
      cases hhead
      rw [ih hn.2 hrest]
      intro key
      have hkey := h key
      rw [lookup_cons, lookup_cons] at hkey
      split at hkey
      · rename_i heq
        subst heq
        have hnone : key ∉ keys rest := hn.1
        rw [lookup_eq_none_iff_notMem.mpr hnone,
          lookup_eq_none_iff_notMem.mpr (hrest ▸ hnone)]
      · exact hkey

/-- Entries whose keys are put again change in their places, and those with new keys come behind
them in order. -/
theorem insertAll_eq_append {entries news : List (String × α)} (he : (keys entries).Nodup)
    (hn : (keys news).Nodup) :
    insertAll entries news = (entries.map fun e => (e.1, (news.lookup e.1).getD e.2)) ++
      news.filter fun e => !contains entries e.1 := by
  refine eq_of_lookup (nodup_keys_insertAll he news) ?_ fun key => ?_
  · rw [keys_insertAll hn, keys_append, keys_map fun key value => (news.lookup key).getD value]
  · rw [lookup_insertAll hn, List.lookup_append,
      lookup_map (fun key value => (news.lookup key).getD value),
      lookup_filter fun key => !contains entries key]
    cases hfound : entries.lookup key with
    | none =>
      have hnot : contains entries key = false := by
        rw [← Bool.not_eq_true, contains_iff]
        exact lookup_eq_none_iff_notMem.mp hfound
      simp [hnot]
    | some value => cases news.lookup key <;> rfl

/-! ### Keys of two lists -/

section KeySets

variable {β : Type} {xs : List (String × α)} {ys : List (String × β)}

/-- As many keys as there are, none of them repeated, are all keys. -/
theorem mem_keys_iff_of_subset (hn : (keys xs).Nodup) (hlength : xs.length = ys.length)
    (h : keys xs ⊆ keys ys) {key : String} : key ∈ keys xs ↔ key ∈ keys ys := by
  have hle : (keys ys).length ≤ (keys xs).length := by
    simp only [keys, List.length_map, hlength, Nat.le_refl]
  exact ((List.subperm_of_subset hn h).perm_of_length_le hle).mem_iff

theorem length_eq_of_mem_keys_iff (hx : (keys xs).Nodup) (hy : (keys ys).Nodup)
    (h : ∀ key, key ∈ keys xs ↔ key ∈ keys ys) : xs.length = ys.length := by
  have hperm : (keys xs).Perm (keys ys) := (List.perm_ext_iff_of_nodup hx hy).mpr h
  simpa only [keys, List.length_map] using hperm.length_eq

end KeySets

end DocShape.Entries
