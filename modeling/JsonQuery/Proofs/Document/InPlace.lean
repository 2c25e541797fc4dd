/-
  JsonQuery.Proofs.Document.InPlace
  ─────────────────────────────────
  Writing in place.

  A write of a draft yields another draft.  Here a write changes a value where it lies: it
  goes down to the place step by step, and each container on the way holds again whatever
  was left of its child, also by a write that failed (`Edit.below`).

  Main results:
    * `Edit.replace_eq`, `Edit.assign_eq` — a write in place answers what the write of the
      draft does, leaves the new document if that succeeds, and leaves the document as it
      was if that fails.
-/
import JsonQuery.Proofs.Document.Apart
import JsonQuery.Proofs.Document.Focus

namespace JsonQuery

/-- A change of a value in place: its answer, and the value that is there afterwards. -/
abbrev Edit := Json → Except RuntimeError Unit × Json

namespace Edit

/-! ## §1. Edits of a value. -/

/-- Put a value in the place of what is there. -/
def store (new : Json) : Edit := fun _ => (.ok (), new)

/-- Put a value under a key of the container that is there. -/
def enter (key : Key) (new : Json) : Edit := fun v =>
  match v.target key with
  | .ok step => (.ok (), v.setChild step new)
  | .error e => (.error e, v)

/-! ## §2. Edits further down. -/

/-- Change the child at a step. The container then holds what is left of it. -/
def below (missing : RuntimeError) (step : Step) (edit : Edit) : Edit := fun v =>
  match v.child? step with
  | some child => ((edit child).1, v.setChild step (edit child).2)
  | none => (.error missing, v)

/-- Change the value at a path. -/
def atPath (missing : RuntimeError) (path : Path) (edit : Edit) : Edit :=
  match path with
  | [] => edit
  | step :: path => below missing step (atPath missing path edit)

variable {missing : RuntimeError} {edit : Edit} {v w c : Json} {path : Path} {step : Step}

theorem below_of_child? (h : v.child? step = some c) :
    below missing step edit v = ((edit c).1, v.setChild step (edit c).2) := by
  unfold below
  rw [h]

/-- Where a path leads somewhere, what is left there is what is written there. -/
theorem atPath_of_get? (h : v.get? path = some w) (hw : v.set? path (edit w).2 = some c) :
    atPath missing path edit v = ((edit w).1, c) := by
  induction path generalizing v c with
  | nil =>
    injection h with h
    injection hw with hw
    rw [atPath, h, ← hw]
  | cons step path ih =>
    simp only [Json.get?, Option.bind_eq_some_iff] at h
    obtain ⟨u, hu, h⟩ := h
    simp only [Json.set?, hu, Option.bind_eq_bind, Option.bind_some, Option.bind_eq_some_iff,
      Option.pure_def, Option.some.injEq] at hw
    obtain ⟨x, hx, rfl⟩ := hw
    rw [atPath, below_of_child? hu, ih h hx]

/-- Where a path leads nowhere, every container on the way gets back the child it had. -/
theorem atPath_of_missing (h : v.get? path = none) :
    atPath missing path edit v = (.error missing, v) := by
  induction path generalizing v with
  | nil => cases h
  | cons step path ih =>
    cases hu : v.child? step with
    | none =>
      rw [atPath, below, hu]
    | some u =>
      simp only [Json.get?, hu, Option.bind_some] at h
      rw [atPath, below_of_child? hu, ih h, Json.setChild_self hu]

/-! ## §3. The writes of a draft. -/

/-- Replace the value at a path. -/
def replace (path : Path) (new : Json) : Edit := atPath (.missingPath path) path (store new)

/-- Put a value under a key of the container at a path. -/
def assign (path : Path) (key : Key) (new : Json) : Edit :=
  atPath (.missingPath path) path (enter key new)

theorem replace_eq (d : Draft) (path : Path) (new : Json) :
    replace path new d.document =
      match d.replace path new with
      | .ok d' => (.ok (), d'.document)
      | .error e => (.error e, d.document) := by
  cases h : d.get? path with
  | none => rw [replace, atPath_of_missing h, Draft.replace_of_missing h]
  | some w =>
    obtain ⟨d', hd', -⟩ := Draft.exists_replace h new
    rw [replace, atPath_of_get? h (Draft.replace_eq_ok_iff.mp hd'), hd']
    rfl

theorem assign_eq (d : Draft) (path : Path) (key : Key) (new : Json) :
    assign path key new d.document =
      match d.assign path key new with
      | .ok d' => (.ok (), d'.document)
      | .error e => (.error e, d.document) := by
  cases h : d.get? path with
  | none =>
    have hd : d.assign path key new = .error (.missingPath path) := by
      rw [Draft.assign, h]
      rfl
    rw [assign, atPath_of_missing h, hd]
  | some w =>
    rw [Draft.assign_eq h, Json.assign_eq]
    cases ht : w.target key with
    | ok step =>
      obtain ⟨d', hd', -⟩ := Draft.exists_replace h (w.setChild step new)
      have hleft : (enter key new w) = (.ok (), w.setChild step new) := by rw [enter, ht]
      have hset := Draft.replace_eq_ok_iff.mp hd'
      rw [assign, atPath_of_get? h (by rw [hleft]; exact hset), hleft]
      show _ = match d.replace path (w.setChild step new) with | .ok d' => _ | .error e => _
      rw [hd']
    | error e =>
      -- the container is left as it is, and so is all that holds it
      have hleft : (enter key new w) = (.error e, w) := by rw [enter, ht]
      rw [assign, atPath_of_get? h (by rw [hleft]; exact Json.set?_self h), hleft]
      rfl

end Edit

end JsonQuery
