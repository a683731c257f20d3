import DocShape.Proofs.Summary

/-!
The nodes of a shape. `Shape.EachNode` says something of a shape and of all that are inside it.

* `eachNode_of_summarizes`: each node of a shape summarizes the samples at its position, so what
  holds of all shapes that summarize samples holds of each of their nodes.
-/

namespace DocShape.Shape

open Samples

mutual
/-- Whether something holds of each node of a shape. -/
def EachNode (p : Shape → Prop) : Shape → Prop
  | .mk k i r => p (.mk k i r) ∧ EachInItems p i ∧ EachInRecord p r
termination_by structural s => s

def EachInItems (p : Shape → Prop) : Option Shape → Prop
  | none => True
  | some e => EachNode p e
termination_by structural i => i

def EachInRecord (p : Shape → Prop) : Option (RecordShape Shape) → Prop
  | none => True
  | some ⟨_, fields⟩ => EachInFields p fields
termination_by structural r => r

def EachInFields (p : Shape → Prop) : List (String × FieldShape Shape) → Prop
  | [] => True
  | (_, ⟨_, s⟩) :: rest => EachNode p s ∧ EachInFields p rest
termination_by structural fields => fields
end

mutual
def decEachNode (p : Shape → Prop) [DecidablePred p] : (s : Shape) → Decidable (EachNode p s)
  | .mk k i r =>
    match inferInstanceAs (Decidable (p (.mk k i r))), decEachInItems p i, decEachInRecord p r with
    | isTrue h, isTrue hi, isTrue hr => isTrue ⟨h, hi, hr⟩
    | isFalse h, _, _ => isFalse fun hs => h hs.1
    | _, isFalse h, _ => isFalse fun hs => h hs.2.1
    | _, _, isFalse h => isFalse fun hs => h hs.2.2
termination_by structural s => s

def decEachInItems (p : Shape → Prop) [DecidablePred p] :
    (i : Option Shape) → Decidable (EachInItems p i)
  | none => isTrue trivial
  | some e => decEachNode p e
termination_by structural i => i

def decEachInRecord (p : Shape → Prop) [DecidablePred p] :
    (r : Option (RecordShape Shape)) → Decidable (EachInRecord p r)
  | none => isTrue trivial
  | some ⟨_, fields⟩ => decEachInFields p fields
termination_by structural r => r

def decEachInFields (p : Shape → Prop) [DecidablePred p] :
    (fields : List (String × FieldShape Shape)) → Decidable (EachInFields p fields)
  | [] => isTrue trivial
  | (_, ⟨_, s⟩) :: rest =>
    match decEachNode p s, decEachInFields p rest with
    | isTrue hs, isTrue hrest => isTrue ⟨hs, hrest⟩
    | isFalse h, _ => isFalse fun hs => h hs.1
    | _, isFalse h => isFalse fun hs => h hs.2
termination_by structural fields => fields
end

instance (p : Shape → Prop) [DecidablePred p] : DecidablePred (EachNode p) := decEachNode p

section EachNode

variable {p : Shape → Prop}

theorem EachNode.root {s : Shape} (h : EachNode p s) : p s := by
  obtain ⟨k, i, r⟩ := s
  exact h.1

theorem eachInFields_iff {fields : List (String × FieldShape Shape)} :
    EachInFields p fields ↔ ∀ e ∈ fields, EachNode p e.2.shape := by
  induction fields with
  | nil => simp [EachInFields]
  | cons e rest ih =>
    rw [List.forall_mem_cons, ← ih]
    rfl

mutual
/-- What holds of all shapes that summarize samples holds of each of their nodes. -/
theorem eachNode_of_summarizes (hp : ∀ s samples, Summarizes s samples → p s) :
    ∀ (s : Shape) {samples : List Value}, s.Summarizes samples → EachNode p s
  | .mk _ i r, samples, h =>
    ⟨hp _ samples h, eachInItems_of_summarize hp i h.2.1, eachInRecord_of_summarize hp r h.2.2⟩

theorem eachInItems_of_summarize (hp : ∀ s samples, Summarizes s samples → p s) :
    ∀ (i : Option Shape) {samples : List Value}, ItemsSummarize i samples → EachInItems p i
  | none, _, _ => trivial
  | some e, _, h => eachNode_of_summarizes hp e h.2

theorem eachInRecord_of_summarize (hp : ∀ s samples, Summarizes s samples → p s) :
    ∀ (r : Option (RecordShape Shape)) {samples : List Value}, RecordSummarizes r samples →
      EachInRecord p r
  | none, _, _ => trivial
  | some ⟨_, fields⟩, _, ⟨_, _, _, _, h⟩ => eachInFields_of_summarize hp fields h

theorem eachInFields_of_summarize (hp : ∀ s samples, Summarizes s samples → p s) :
    ∀ (fields : List (String × FieldShape Shape)) {samples : List Value},
      FieldsSummarize fields samples → EachInFields p fields
  | [], _, _ => trivial
  | (_, ⟨_, s⟩) :: rest, _, h =>
    ⟨eachNode_of_summarizes hp s h.1.2, eachInFields_of_summarize hp rest h.2⟩
end

end EachNode

end DocShape.Shape
