import DocShape.Proofs.PathText
import Mathlib.Control.Monad.Basic

/-!
What strict walks report.

A walk along a path is broken by one segment: the segments before it find a node, it has to be there
and leads nowhere from that node. So the error of a broken walk depends on the path up to that
segment only. It is the error along every path that begins so, and along the path up to there
itself, which is what the reported location reads as.

* `Path.MissesLast`, `resolve_eq_error_iff`: the paths that a walk is broken along, and that a
  strict walk reports the beginning of its path that is one of them.
* `MissesLast.exists_find?`: before the reported segment every part of the path finds a node.
* `PathArgument.resolve_eq_absent_iff`: the same of path texts and locations.
* `PathArgument.resolve_names_first_missing`: what is reported by strict, lenient and asserting
  walks along path texts.
-/

namespace DocShape

namespace Path

/-- Whether a path finds a node before its last segment, and that segment has to be there and leads
nowhere from the node. -/
def MissesLast (p : Path) (r : Value) : Prop :=
  ∃ before s v, p = before ++ [s] ∧ r.find? before = some v ∧ s.isOptional = false ∧
    s.lookup? v = none

end Path

namespace Value

variable {r : Value} {p q missing : Path}

theorem resolve_append_of_find? {v : Value} (h : r.find? p = some v) (q : Path) :
    r.resolve (p ++ q) = (v.resolve q).mapError (p ++ ·) := by
  rw [resolve_append, resolve_eq_ok_some_iff.mpr h]

theorem resolve_cons_of_none {s : Segment} {rest : Path} (h : s.lookup? r = none) :
    r.resolve (s :: rest) = if s.isOptional then .ok none else .error [s] := by
  rw [resolve, walk_cons_of_none h]
  cases s.isOptional with
  | true => rfl
  | false => rfl

/-- Along a path that goes on behind a miss, the miss is reported. -/
theorem resolve_of_missesLast (h : missing.MissesLast r) (hbegins : missing <+: p) :
    r.resolve p = .error missing := by
  obtain ⟨before, s, v, rfl, hfound, hrequired, hnone⟩ := h
  obtain ⟨rest, rfl⟩ := hbegins
  rw [List.append_assoc, List.singleton_append, resolve_append_of_find? hfound,
    resolve_cons_of_none hnone, hrequired]
  rfl

/-- The path that is reported is where the walk is broken. -/
theorem missesLast_of_resolve (h : r.resolve p = .error missing) :
    missing <+: p ∧ missing.MissesLast r := by
  induction p generalizing r missing with
  | nil => cases h
  | cons s rest ih =>
    cases hs : s.lookup? r with
    | none =>
      rw [resolve_cons_of_none hs] at h
      cases hmark : s.isOptional with
      | true =>
        rw [hmark] at h
        cases h
      | false =>
        rw [hmark] at h
        cases h
        exact ⟨⟨rest, rfl⟩, [], s, r, rfl, rfl, hmark, hs⟩
    | some next =>
      by_cases hstop : s.isOptional ∧ next = .null
      · rw [resolve, walk_cons_of_null hs hstop] at h
        cases h
      · have hfirst : r.find? [s] = some next := by
          rw [find?_eq_some_iff, walk_cons_of_some hs hstop]
          rfl
        change r.resolve ([s] ++ rest) = .error missing at h
        rw [resolve_append_of_find? hfirst] at h
        cases hrest : next.resolve rest with
        | ok found =>
          rw [hrest] at h
          cases h
        | error missing' =>
          rw [hrest] at h
          cases h
          obtain ⟨hbegins, before, t, v, rfl, hfound, hrequired, hnone⟩ := ih hrest
          refine ⟨(List.prefix_append_right_inj [s]).mpr hbegins, s :: before, t, v, rfl, ?_,
            hrequired, hnone⟩
          change r.find? ([s] ++ before) = some v
          rw [find?_append, hfirst]
          exact hfound

/-- A strict walk reports a path exactly if its own path begins with it and it misses a node at its
last segment. -/
theorem resolve_eq_error_iff :
    r.resolve p = .error missing ↔ missing <+: p ∧ missing.MissesLast r := by
  constructor
  · exact missesLast_of_resolve
  · rintro ⟨hbegins, hmisses⟩
    exact resolve_of_missesLast hmisses hbegins

end Value

namespace Path

variable {r : Value} {missing : Path}

theorem MissesLast.ne_nil (h : missing.MissesLast r) : missing ≠ [] := by
  obtain ⟨before, s, v, rfl, -⟩ := h
  exact List.concat_ne_nil s before

theorem MissesLast.required (h : missing.MissesLast r) :
    ∃ s ∈ missing.getLast?, s.isOptional = false := by
  obtain ⟨before, s, v, rfl, -, hrequired, -⟩ := h
  exact ⟨s, List.getLast?_concat, hrequired⟩

/-- Every shorter part of the path finds a node. -/
theorem MissesLast.exists_find? (h : missing.MissesLast r) {part : Path} (hpart : part <+: missing)
    (hne : part ≠ missing) : ∃ v, r.find? part = some v := by
  obtain ⟨before, s, v, rfl, hfound, -⟩ := h
  rcases List.prefix_concat_iff.mp hpart with heq | hbefore
  · exact absurd heq hne
  · obtain ⟨rest, rfl⟩ := hbefore
    rw [Value.find?_append] at hfound
    obtain ⟨w, hw, -⟩ := Option.bind_eq_some_iff.mp hfound
    exact ⟨w, hw⟩

end Path

namespace PathArgument

variable {r : Value} {p : PathArgument} {e : AccessError}

/-! ### Walks along path texts -/

/-- What is reported absent is where the walk is broken. -/
theorem resolve_eq_absent_iff {location : String} :
    resolve p r = .error (.absent location) ↔
      ∃ path missing : Path, p = .ok path ∧ missing <+: path ∧ missing.MissesLast r ∧
        location = missing.text := by
  cases p with
  | error e =>
    refine iff_of_false nofun ?_
    rintro ⟨path, missing, hpath, -⟩
    cases hpath
  | ok path =>
    rw [resolve]
    constructor
    · intro h
      cases hresolve : r.resolve path with
      | ok found =>
        rw [hresolve] at h
        cases h
      | error missing =>
        rw [hresolve] at h
        cases h
        obtain ⟨hbegins, hmisses⟩ := Value.resolve_eq_error_iff.mp hresolve
        exact ⟨path, missing, rfl, hbegins, hmisses, rfl⟩
    · rintro ⟨path', missing, hpath, hbegins, hmisses, rfl⟩
      cases hpath
      rw [Value.resolve_eq_error_iff.mpr ⟨hbegins, hmisses⟩]

/-- The lenient walk forgets why the strict one found nothing. -/
theorem find?_eq_join_resolve (p : PathArgument) (r : Value) :
    find? p r = (resolve p r).toOption.join := by
  cases p with
  | error e => rfl
  | ok path =>
    rw [find?, resolve, Value.find?, Value.resolve]
    cases Value.walk path r with
    | found v => rfl
    | skipped => rfl
    | broken position => rfl

theorem find?_eq_some_iff {v : Value} : find? p r = some v ↔ resolve p r = .ok (some v) := by
  rw [find?_eq_join_resolve]
  cases resolve p r with
  | ok found => simp [Except.toOption]
  | error e => exact iff_of_false nofun nofun

/-! ### Asserting -/

theorem assertGet_of_resolve_error (h : resolve p r = .error e) (t : Target) :
    p.assertGet t r = .error e := by
  cases p with
  | error syntaxError =>
    cases h
    rfl
  | ok path =>
    rw [assertGet, h]
    rfl

/-- After a walk that is not broken only the kind of what was found is in question. -/
theorem assertGet_of_resolve_ok {path : Path} {found : Option Value}
    (h : resolve (.ok path) r = .ok found) (t : Target) :
    assertGet t (.ok path) r =
      match found.bind t.asIs? with
      | some x => .ok x
      | none => .error (.assertion path.text t.tag (found.map Value.tag)) := by
  rw [assertGet, h]
  rfl

theorem optionalGet_place_of_resolve_ok {found : Option Value} (h : resolve p r = .ok found)
    (t : Target) : (p.place r).optionalGet t = found.bind t.asIs? := by
  rw [Place.optionalGet, place, find?_eq_join_resolve, h]
  rfl

/-- Asserting gives what the optional lookup gives. -/
theorem assertGet_eq_ok_iff {t : Target} {x : t.Carrier} :
    p.assertGet t r = .ok x ↔ (p.place r).optionalGet t = some x := by
  cases hresolve : resolve p r with
  | error e =>
    rw [assertGet_of_resolve_error hresolve, Place.optionalGet, place, find?_eq_join_resolve,
      hresolve]
    exact iff_of_false nofun nofun
  | ok found =>
    cases p with
    | error syntaxError => cases hresolve
    | ok path =>
      rw [assertGet_of_resolve_ok hresolve, optionalGet_place_of_resolve_ok hresolve]
      cases found.bind t.asIs? with
      | none => exact iff_of_false nofun nofun
      | some y => simp

/-- What an asserting lookup reports when the walk is not broken. -/
theorem assertGet_of_optionalGet_eq_none {path : Path} {found : Option Value} {t : Target}
    (h : resolve (.ok path) r = .ok found) (hnone : (place (.ok path) r).optionalGet t = none) :
    assertGet t (.ok path) r = .error (.assertion path.text t.tag (found.map Value.tag)) := by
  rw [optionalGet_place_of_resolve_ok h] at hnone
  rw [assertGet_of_resolve_ok h, hnone]

/-! ### The report -/

/-- A document in which one pet is named. -/
def rex : Value := .object [("pets", .array [.object [("name", .string "Rex")]])]

/-- The location that a strict walk along a path text reports absent is read as the first segments
of the path, up to a required one. The walks along fewer of them find a node, and the walks along
these, or along any path that begins with them, report this location. The lenient walk finds what
the strict one finds, and an asserting lookup gives what an optional one gives. Else it reports what
broke the walk, or that the node is of the wrong kind, where a walk that ended quietly has no node.
-/
theorem resolve_names_first_missing (r : Value) (t : String) :
    (∀ location, resolve (Path.parse t) r = .error (.absent location) →
      ∃ path missing : Path, Path.parse t = .ok path ∧ Path.parse location = .ok missing ∧
        missing <+: path ∧ missing ≠ [] ∧ (∃ s ∈ missing.getLast?, s.isOptional = false) ∧
        (∀ part : Path, part <+: missing → part ≠ missing →
          ∃ v, resolve (.ok part) r = .ok (some v)) ∧
        resolve (Path.parse location) r = .error (.absent location) ∧
        ∀ longer : Path, missing <+: longer → resolve (.ok longer) r = .error (.absent location)) ∧
    (∀ v, find? (Path.parse t) r = some v ↔ resolve (Path.parse t) r = .ok (some v)) ∧
    ∀ target : Target,
      (∀ x, assertGet target (Path.parse t) r = .ok x ↔
        (place (Path.parse t) r).optionalGet target = some x) ∧
      (∀ e, resolve (Path.parse t) r = .error e → assertGet target (Path.parse t) r = .error e) ∧
      ∀ found, resolve (Path.parse t) r = .ok found →
        (place (Path.parse t) r).optionalGet target = none →
        ∃ path, Path.parse t = .ok path ∧ assertGet target (Path.parse t) r =
          .error (.assertion path.text target.tag (found.map Value.tag)) := by
  refine ⟨?_, fun v => find?_eq_some_iff, fun target => ⟨fun x => assertGet_eq_ok_iff, ?_, ?_⟩⟩
  · intro location h
    obtain ⟨path, missing, hparse, hbegins, hmisses, rfl⟩ := resolve_eq_absent_iff.mp h
    have hback : Path.parse missing.text = .ok missing := by
      refine Path.parse_text hmisses.ne_nil fun s hs => ?_
      exact (Path.readable_of_parse hparse).2 s (hbegins.subset hs)
    have hlonger : ∀ longer : Path, missing <+: longer →
        resolve (.ok longer) r = .error (.absent missing.text) := fun longer hlonger =>
      resolve_eq_absent_iff.mpr ⟨longer, missing, rfl, hlonger, hmisses, rfl⟩
    refine ⟨path, missing, hparse, hback, hbegins, hmisses.ne_nil, hmisses.required, ?_, ?_,
      hlonger⟩
    · intro part hpart hne
      obtain ⟨v, hv⟩ := hmisses.exists_find? hpart hne
      exact ⟨v, find?_eq_some_iff.mp hv⟩
    · rw [hback]
      exact hlonger missing (List.prefix_refl missing)
  · intro e h
    exact assertGet_of_resolve_error h target
  · intro found h hnone
    cases hparse : Path.parse t with
    | error syntaxError =>
      rw [hparse] at h
      cases h
    | ok path =>
      rw [hparse] at h hnone
      exact ⟨path, rfl, assertGet_of_optionalGet_eq_none h hnone⟩

/-- Rex has no age: the walk misses it behind the first pet, and so do all walks that go on from
there. -/
theorem resolve_names_first_missing_age :
    resolve (Path.parse "pets.[+0]?.age.years") rex = .error (.absent "pets[0]?.age") ∧
      resolve (Path.parse "pets[0]?.age") rex = .error (.absent "pets[0]?.age") ∧
      assertGet .integer (Path.parse "pets.[+0]?.age.years") rex =
        .error (.absent "pets[0]?.age") ∧
      assertGet .integer (Path.parse "pets[1]?.age") rex =
        .error (.assertion "pets[1]?.age" .integer none) := by
  have hmissing : resolve (Path.parse "pets.[+0]?.age.years") rex =
      .error (.absent "pets[0]?.age") := by decide +kernel
  have hquiet : resolve (Path.parse "pets[1]?.age") rex = .ok none := by decide +kernel
  have htext : (Path.parse "pets[1]?.age").map Path.text = .ok "pets[1]?.age" := by decide +kernel
  obtain ⟨habsent, -, hassert⟩ := resolve_names_first_missing rex "pets.[+0]?.age.years"
  obtain ⟨path, missing, -, -, -, -, -, -, hagain, -⟩ := habsent _ hmissing
  obtain ⟨-, -, hkind⟩ := (resolve_names_first_missing rex "pets[1]?.age").2.2 .integer
  obtain ⟨other, hother, hreport⟩ := hkind none hquiet (by decide +kernel)
  rw [hother] at htext
  rw [Except.ok.inj htext] at hreport
  exact ⟨hmissing, hagain, (hassert .integer).2.1 _ hmissing, hreport⟩

end PathArgument
end DocShape
