/-
  JsonQuery.Document.Draft
  ────────────────────────
  The copy of a document that a statement writes to.  Every write names its location by
  a path from the root, and a write that fails leaves the draft as it is.
-/
import JsonQuery.Document.Index
import JsonQuery.Query.Basic
import JsonQuery.RuntimeError

namespace JsonQuery

/-- The container with `value` under a key. An object gains a key that it lacks as its last entry,
an array only has the items it has. -/
def Json.assign (container : Json) (key : Key) (value : Json) : Except RuntimeError Json :=
  match container with
  | .obj entries => .ok (.obj (Entries.put entries key.text value))
  | .arr items =>
    match key with
    | .index n =>
      match resolveIndex n items.length with
      | some i => .ok (.arr (items.set i value))
      | none => .error (.indexOutOfBounds n items.length)
    | key => .error (.invalidIndex key.text)
  | v => .error (.cannotAssign v.kind key.text)

/-- A document that is being written to. -/
structure Draft where
  document : Json

namespace Draft

/-- The value at a path. -/
def get? (d : Draft) (path : Path) : Option Json := d.document.get? path

/-- Put a value at a path that leads somewhere; the empty path is the whole document. -/
def replace (d : Draft) (path : Path) (value : Json) : Except RuntimeError Draft :=
  match d.document.set? path value with
  | some document => .ok ⟨document⟩
  | none => .error (.missingPath path)

/-- Put a value under a key of the container at a path. -/
def assign (d : Draft) (path : Path) (key : Key) (value : Json) : Except RuntimeError Draft := do
  match d.get? path with
  | none => throw (.missingPath path)
  | some container => d.replace path (← container.assign key value)

end Draft

end JsonQuery
