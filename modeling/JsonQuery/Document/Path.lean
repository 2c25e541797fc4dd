/-
  JsonQuery.Document.Path
  ───────────────────────
  Paths into a document.  A path names one location by the steps from the root: fields
  by their key, items by their position.
-/
import JsonQuery.Json.Basic

namespace JsonQuery

/-- A step to a child. -/
inductive Step where
  | field (name : String)
  | item (i : Nat)
  deriving Repr, DecidableEq

/-- The steps from the root of a document, outermost first. -/
abbrev Path := List Step

/-- A step as a query writes it. -/
def Step.text : Step → String
  | .field name => "." ++ name
  | .item i => ".[" ++ toString i ++ "]"

/-- A path as a query writes it; the root is a lone point. -/
def Path.text : Path → String
  | [] => "."
  | path => String.join (path.map Step.text)

namespace Json

/-! ## §1. Reading at a path. -/

/-- The child at a step. -/
def child? (v : Json) (step : Step) : Option Json :=
  match v, step with
  | .obj entries, .field name => Entries.get? entries name
  | .arr items, .item i => items[i]?
  | _, _ => none

/-- The value at a path. -/
def get? (v : Json) (path : Path) : Option Json :=
  match path with
  | [] => some v
  | step :: path => (v.child? step).bind fun child => child.get? path

theorem get?_append (v : Json) (p q : Path) :
    v.get? (p ++ q) = (v.get? p).bind fun w => w.get? q := by
  induction p generalizing v with
  | nil => rfl
  | cons step p ih => cases h : v.child? step <;> simp [get?, h, ih]

/-! ## §2. Writing at a path. -/

/-- The value with another child at a step that leads to one. -/
def setChild (v : Json) (step : Step) (new : Json) : Json :=
  match v, step with
  | .obj entries, .field name => .obj (Entries.put entries name new)
  | .arr items, .item i => .arr (items.set i new)
  | v, _ => v

/-- The value with `new` at a path, if the path leads somewhere. -/
def set? (v : Json) (path : Path) (new : Json) : Option Json :=
  match path with
  | [] => some new
  | step :: path => do
    let child ← v.child? step
    let child ← child.set? path new
    return v.setChild step child

theorem child?_setChild {v old : Json} {step : Step} (h : v.child? step = some old) (new : Json) :
    (v.setChild step new).child? step = some new := by
  unfold child? at h
  split at h
  · simp [setChild, child?, Entries.get?_put_self]
  · have := (List.getElem?_eq_some_iff.mp h).1
    simp [setChild, child?, this]
  · cases h

/-- Writing succeeds exactly where reading does. -/
theorem isSome_set? (v : Json) (path : Path) (new : Json) :
    (v.set? path new).isSome = (v.get? path).isSome := by
  induction path generalizing v with
  | nil => rfl
  | cons step path ih =>
    cases h : v.child? step with
    | none => simp [set?, get?, h]
    | some c =>
      have := ih c
      cases hc : c.set? path new <;> simp_all [set?, get?]

/-- What was written is read back. -/
theorem get?_of_set? {v w new : Json} {path : Path} (h : v.set? path new = some w) :
    w.get? path = some new := by
  induction path generalizing v w with
  | nil => cases h; rfl
  | cons step path ih =>
    simp only [set?, Option.bind_eq_bind, Option.bind_eq_some_iff, Option.pure_def,
      Option.some.injEq] at h
    obtain ⟨c, hc, d, hd, rfl⟩ := h
    simp [get?, child?_setChild hc, ih hd]

end Json

end JsonQuery
