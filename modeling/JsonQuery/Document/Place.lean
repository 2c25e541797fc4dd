/-
  JsonQuery.Document.Place
  ────────────────────────
  Places in a document.  A place is a value of the document together with the way it was
  reached, so that its parent, its path and the whole document are known.  Places are
  only read from; a write names the place by its path.
-/
import JsonQuery.Document.Index

namespace JsonQuery

/-- A value of a document and the way to it. -/
inductive Place where
  /-- The whole document. -/
  | root (document : Json)
  /-- The value one step below another place. -/
  | child (parent : Place) (step : Step) (value : Json)

namespace Place

/-! ## §1. What is known at a place. -/

/-- The value at the place. -/
def value : Place → Json
  | .root document => document
  | .child _ _ v => v

/-- The place one step above. -/
def parent? : Place → Option Place
  | .root _ => none
  | .child parent _ _ => some parent

/-- The step from the place above. -/
def inbound? : Place → Option Step
  | .root _ => none
  | .child _ step _ => some step

/-- Whether the place is the whole document. -/
def isRoot (p : Place) : Bool := p.parent?.isNone

/-- The place of the whole document. -/
def origin : Place → Place
  | .root document => .root document
  | .child parent _ _ => parent.origin

/-- The steps from the root. -/
def path : Place → Path
  | .root _ => []
  | .child parent step _ => parent.path ++ [step]

/-! ## §2. Going down. -/

/-- The child under a key. -/
def select (p : Place) (key : Key) : Except RuntimeError Place :=
  match p.value with
  | .arr items =>
    match key with
    | .index n =>
      match item? items n with
      | some (i, v) => .ok (p.child (.item i) v)
      | none => .error (.indexOutOfBounds n items.length)
    | key => .error (.invalidIndex key.text)
  | .obj entries =>
    match Entries.get? entries key.text with
    | some v => .ok (p.child (.field key.text) v)
    | none => .error (.keyNotFound key.text)
  | v => .error (.invalidSelection v.kind key.text)

/-- The children that a span addresses, in order. -/
def children (p : Place) (span : Span) : Except RuntimeError (List Place) :=
  match p.value with
  | .arr items =>
    .ok ((span.positions items).map fun (v, i) => p.child (.item i) v)
  | .obj entries =>
    match span with
    | .all => .ok (entries.map fun (k, v) => p.child (.field k) v)
    | .range _ _ => .error .rangeOnObject
  | v => .error (.notIterable v.kind)

end Place

end JsonQuery
