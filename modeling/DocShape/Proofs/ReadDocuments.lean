import DocShape.Proofs.EntryLaws
import DocShape.Proofs.Loading

/-!
Documents that are read repeat no key.

The reader puts a field into an open object at the place of its key, so what is in the containers
that are open is well-formed at each token, and so is a value that is complete.

* `Reader.wellFormed_step`: each token keeps this.
* `wellFormed_of_read?`: it holds of the document at the end.
* `wellFormed_load`: loaded documents are read, and selected by a pointer perhaps.
-/

namespace DocShape

/-- What each step keeps, a run that does not fail keeps. -/
theorem foldlM_preserves {α β : Type} {p : α → Prop} {f : α → β → Option α}
    (hstep : ∀ a a' b, p a → f a b = some a' → p a') {a a' : α} (h : p a) {bs : List β}
    (hrun : bs.foldlM f a = some a') : p a' := by
  induction bs generalizing a with
  | nil =>
    cases hrun
    exact h
  | cons b rest ih =>
    rw [List.foldlM_cons, Option.bind_eq_bind, Option.bind_eq_some_iff] at hrun
    obtain ⟨a₁, hfirst, hrest⟩ := hrun
    exact ih (hstep _ _ b h hfirst) hrest

/-- Whether what was read into a container repeats no key. -/
def OpenContainer.WellFormed : OpenContainer → Prop
  | .array reversed => (Value.array reversed).WellFormed
  | .object fields _ => (Value.object fields).WellFormed

/-- Whether a value that is complete repeats no key. -/
def Awaited.WellFormed : Awaited → Prop
  | .separator last => last.WellFormed
  | _ => True

namespace Reader

/-- Whether nothing that was read so far repeats a key. -/
structure WellFormed (r : Reader) : Prop where
  stack : ∀ c ∈ r.stack, c.WellFormed
  awaited : r.awaited.WellFormed

end Reader

namespace Value

theorem wellFormed_array_cons {v : Value} {items : List Value} (hv : v.WellFormed)
    (h : (array items).WellFormed) : (array (v :: items)).WellFormed :=
  ⟨hv, h⟩

theorem wellFormed_array_reverse {items : List Value} (h : (array items).WellFormed) :
    (array items.reverse).WellFormed := by
  refine itemsWellFormed_iff.mpr fun v hv => ?_
  exact itemsWellFormed_iff.mp h v (List.mem_reverse.mp hv)

theorem wellFormed_object_insert {fields : List (String × Value)} (h : (object fields).WellFormed)
    (key : String) {v : Value} (hv : v.WellFormed) :
    (object (Entries.insert key v fields)).WellFormed := by
  refine ⟨Entries.nodup_keys_insert h.1 key v, fieldsWellFormed_iff.mpr fun e he => ?_⟩
  rcases Entries.mem_of_mem_insert he with rfl | he
  · exact hv
  · exact fieldsWellFormed_iff.mp h.2 e he

end Value

/-! ### The reader -/

namespace Reader

variable {limit : Nat} {stack : List OpenContainer}

theorem wellFormed_deliver (h : ∀ c ∈ stack, c.WellFormed) {v : Value} (hv : v.WellFormed) :
    (deliver stack v).WellFormed :=
  ⟨h, hv⟩

theorem wellFormed_begin (h : ∀ c ∈ stack, c.WellFormed) {t : Token} {r : Reader}
    (hr : begin limit stack t = some r) : r.WellFormed := by
  cases t with
  | openArray =>
    rw [begin] at hr
    split at hr <;> cases hr
    exact ⟨List.forall_mem_cons.mpr ⟨trivial, h⟩, trivial⟩
  | openObject =>
    rw [begin] at hr
    split at hr <;> cases hr
    exact ⟨List.forall_mem_cons.mpr ⟨⟨List.nodup_nil, trivial⟩, h⟩, trivial⟩
  | null | bool b | number n | string s =>
    cases hr
    exact wellFormed_deliver h trivial
  | _ => cases hr

/-- Each token keeps what was read well-formed. -/
theorem wellFormed_step {r r' : Reader} (h : r.WellFormed) {t : Token}
    (hr : step limit r t = some r') : r'.WellFormed := by
  obtain ⟨stack, awaited⟩ := r
  obtain ⟨hstack, hawaited⟩ := h
  dsimp only [step] at hstack hawaited hr
  -- One case for each line of the definition: what may come before a value, at an item, at a key
  -- and at a separator.
  split at hr
  · exact wellFormed_begin hstack hr
  · cases hr
    exact wellFormed_deliver (List.forall_mem_cons.mp hstack).2 trivial
  · exact wellFormed_begin hstack hr
  · cases hr
    exact wellFormed_deliver (List.forall_mem_cons.mp hstack).2 ⟨List.nodup_nil, trivial⟩
  · cases hr
    obtain ⟨hfields, hstack⟩ := List.forall_mem_cons.mp hstack
    exact ⟨List.forall_mem_cons.mpr ⟨hfields, hstack⟩, trivial⟩
  · cases hr
    obtain ⟨hfields, hstack⟩ := List.forall_mem_cons.mp hstack
    exact ⟨List.forall_mem_cons.mpr ⟨hfields, hstack⟩, trivial⟩
  · cases hr
    exact ⟨hstack, trivial⟩
  · cases hr
    obtain ⟨hitems, hstack⟩ := List.forall_mem_cons.mp hstack
    exact ⟨List.forall_mem_cons.mpr ⟨Value.wellFormed_array_cons hawaited hitems, hstack⟩, trivial⟩
  · cases hr
    obtain ⟨hitems, hstack⟩ := List.forall_mem_cons.mp hstack
    have hlast := Value.wellFormed_array_cons hawaited hitems
    exact wellFormed_deliver hstack (Value.wellFormed_array_reverse hlast)
  · cases hr
    obtain ⟨hfields, hstack⟩ := List.forall_mem_cons.mp hstack
    refine ⟨List.forall_mem_cons.mpr ⟨?_, hstack⟩, trivial⟩
    exact Value.wellFormed_object_insert hfields _ hawaited
  · cases hr
    obtain ⟨hfields, hstack⟩ := List.forall_mem_cons.mp hstack
    exact wellFormed_deliver hstack (Value.wellFormed_object_insert hfields _ hawaited)
  · cases hr

end Reader

/-! ### Documents -/

namespace Value

/-- A document that is read repeats no key. -/
theorem wellFormed_of_read? {limit : Nat} {text : String} {v : Value}
    (h : read? limit text = some v) : v.WellFormed := by
  unfold read? at h
  simp only [Option.bind_eq_bind, Option.bind_eq_some_iff] at h
  obtain ⟨ts, -, r, hr, hfinish⟩ := h
  have hstart : Reader.start.WellFormed := ⟨List.forall_mem_nil _, trivial⟩
  have hreader := foldlM_preserves (fun _ _ _ h hr => Reader.wellFormed_step h hr) hstart hr
  unfold Reader.finish? at hfinish
  split at hfinish
  · rename_i hawaited
    cases hfinish
    have hlast := hreader.awaited
    rw [hawaited] at hlast
    exact hlast
  · cases hfinish

theorem wellFormed_of_pointerStep {v w : Value} (h : v.WellFormed) {token : List Char}
    (hw : v.pointerStep token = some w) : w.WellFormed := by
  cases v with
  | object fields =>
    exact fieldsWellFormed_iff.mp h.2 _ (Entries.mem_of_lookup_eq_some hw)
  | array items =>
    obtain ⟨i, -, hi⟩ := Option.bind_eq_some_iff.mp hw
    exact itemsWellFormed_iff.mp h w (List.mem_of_getElem? hi)
  | _ => cases hw

theorem wellFormed_of_pointer? {v w : Value} (h : v.WellFormed) {pointer : String}
    (hw : v.pointer? pointer = some w) : w.WellFormed := by
  unfold pointer? at hw
  split at hw
  · cases hw
    exact h
  · exact foldlM_preserves (fun _ _ _ h hw => wellFormed_of_pointerStep h hw) h hw
  · cases hw

end Value

namespace Command

variable {files : Files} {s : InputSettings}

namespace Loaded

/-- Whether no document that was loaded repeats a key. -/
def WellFormed (l : Loaded) : Prop :=
  ∀ d ∈ l.documents, d.value.WellFormed

theorem WellFormed.append {a b : Loaded} (ha : a.WellFormed) (hb : b.WellFormed) :
    (a.append b).WellFormed := by
  cases h : a.failure with
  | some e =>
    rw [append_of_failure h]
    exact ha
  | none =>
    rw [append_of_complete h]
    exact List.forall_mem_append.mpr ⟨ha, hb⟩

theorem WellFormed.join {ls : List Loaded} (h : ∀ l ∈ ls, l.WellFormed) : (join ls).WellFormed := by
  induction ls with
  | nil => exact List.forall_mem_nil _
  | cons l rest ih =>
    rw [List.forall_mem_cons] at h
    exact h.1.append (ih h.2)

end Loaded

theorem wellFormed_loadText (label : String) (failure : RunFailure) (text : String) :
    (loadText s label failure text).WellFormed := by
  unfold loadText
  split
  · exact List.forall_mem_nil _
  · rename_i v hread
    have hv := Value.wellFormed_of_read? hread
    split
    · exact List.forall_mem_singleton.mpr hv
    · split
      · rename_i w hw
        exact List.forall_mem_singleton.mpr (Value.wellFormed_of_pointer? hv hw)
      · exact List.forall_mem_nil _

theorem wellFormed_loadLines (path : String) (number : Nat) (lines : List String) :
    (loadLines s path number lines).WellFormed := by
  induction lines generalizing number with
  | nil => exact List.forall_mem_nil _
  | cons line rest ih =>
    rw [loadLines]
    refine Loaded.WellFormed.append ?_ (ih _)
    split
    · exact List.forall_mem_nil _
    · exact wellFormed_loadText _ _ line

theorem wellFormed_loadSource (path : String) : (loadSource files s path).WellFormed := by
  unfold loadSource
  split
  · exact List.forall_mem_nil _
  · split
    · exact wellFormed_loadLines _ _ _
    · exact wellFormed_loadText _ _ _

/-- Documents that are loaded repeat no key. -/
theorem wellFormed_load (inputs : List String) : (load files s inputs).WellFormed := by
  unfold load
  split
  · exact List.forall_mem_nil _
  · exact Loaded.WellFormed.join (List.forall_mem_map.mpr fun path _ => wellFormed_loadSource path)

end Command
end DocShape
