/-!
Entries in the order in which they were made: a list of keyed values in which a key that is put
again keeps its place.

Main statements: `lookup_insert` says what is found after an entry is put, `keys_insert` where the
keys stand, and `nodup_keys_insert` that no key is repeated.
-/

namespace DocShape.Entries

variable {α : Type}

/-- The keys in order. -/
def keys (entries : List (String × α)) : List String :=
  entries.map (·.1)

/-- Whether an entry has the key. -/
def contains (entries : List (String × α)) (key : String) : Bool :=
  entries.any (·.1 == key)

/-- The entries with `value` at `key`: in the place of the entry that had the key, else at the
end. -/
def insert (key : String) (value : α) : List (String × α) → List (String × α)
  | [] => [(key, value)]
  | (k, v) :: rest => if k = key then (key, value) :: rest else (k, v) :: insert key value rest

/-- The entries put one after the other. -/
def insertAll (entries news : List (String × α)) : List (String × α) :=
  news.foldl (fun acc (key, value) => insert key value acc) entries

/-- The entries of a list in which a key may be repeated; the last value of a key counts. -/
def ofList (entries : List (String × α)) : List (String × α) :=
  insertAll [] entries

@[simp] theorem keys_nil : keys ([] : List (String × α)) = [] := rfl

@[simp] theorem keys_cons (e : String × α) (rest : List (String × α)) :
    keys (e :: rest) = e.1 :: keys rest := rfl

theorem contains_iff {entries : List (String × α)} {key : String} :
    contains entries key ↔ key ∈ keys entries := by
  simp [contains, keys]

theorem lookup_cons (entries : List (String × α)) (key : String) (value : α) (k : String) :
    ((key, value) :: entries).lookup k = if k = key then some value else entries.lookup k := by
  by_cases h : k = key
  · simp [h]
  · have hb : (k == key) = false := by simpa using h
    simp [List.lookup_cons, hb, h]

theorem lookup_insert (entries : List (String × α)) (key : String) (value : α) (k : String) :
    (insert key value entries).lookup k = if k = key then some value else entries.lookup k := by
  induction entries with
  | nil => exact lookup_cons [] key value k
  | cons e rest ih =>
    obtain ⟨k', v'⟩ := e
    by_cases hk : k' = key
    · subst hk
      simp only [insert, if_true, lookup_cons]
      split <;> rfl
    · simp only [insert, hk, if_false, lookup_cons, ih]
      by_cases h : k = k'
      · subst h
        simp [hk]
      · simp [h]

theorem keys_insert (entries : List (String × α)) (key : String) (value : α) :
    keys (insert key value entries) =
      if key ∈ keys entries then keys entries else keys entries ++ [key] := by
  induction entries with
  | nil => simp [insert]
  | cons e rest ih =>
    by_cases hk : e.1 = key
    · simp [insert, hk]
    · have hk' : ¬ key = e.1 := fun h => hk h.symm
      by_cases hm : key ∈ keys rest
      · simp [insert, hk, hk', hm, ih]
      · simp [insert, hk, hk', hm, ih]

theorem nodup_keys_insert {entries : List (String × α)} (h : (keys entries).Nodup) (key : String)
    (value : α) : (keys (insert key value entries)).Nodup := by
  rw [keys_insert]
  split
  · exact h
  · rename_i hm
    refine List.nodup_append.2 ⟨h, by simp, ?_⟩
    intro a ha b hb hab
    exact hm (by rw [← List.mem_singleton.1 hb, ← hab]; exact ha)

end DocShape.Entries
