/-
  JsonQuery.Eval
  ──────────────
  Running a query on a document.

  A statement that ends in an assignment or in a chain of calls works on a draft of its
  document.  It is run in one of two modes:

      read   — its result is the value its commands lead to; an iterator collects the
               results of its children in the shape of their container
      write  — its result is the draft after every write; an iterator runs the rest for
               each child and collects nothing

  Navigation always reads the document as it was before the statement.  Operands do so
  too: a nested query sees the value that holds the place it is written at, has no draft
  and may not write.  Only a chain of calls starts from the draft.
-/
import JsonQuery.Document.Draft
import JsonQuery.Document.Place
import JsonQuery.Function.Basic
import JsonQuery.Query.Reader

namespace JsonQuery

/-! ## §1. Errors and outcomes. -/

/-- Failures that no query text leads to. -/
inductive InternalError where
  /-- The command cannot stand before others. -/
  | unrunnable (form : String)
  /-- A write has no draft to go to. -/
  | noDraft
  deriving Repr, DecidableEq

/-- Why a query has no result. -/
inductive QueryError where
  | parse (e : ParseError)
  | runtime (e : RuntimeError)
  | internal (e : InternalError)

/-- The wording of an internal error. -/
def InternalError.message : InternalError → String
  | .unrunnable form => "Unable to run command of type " ++ form
  | .noDraft => "statement wrote without a working copy"

/-- The wording of an error as a caller sees it. -/
def QueryError.message : QueryError → String
  | .parse e => e.report
  | .runtime e => " error : " ++ e.message
  | .internal e => " error : " ++ e.message

/-- A failure on the document as a failure of the query. -/
def runtime {α : Type} (x : Except RuntimeError α) : Except QueryError α := x.mapError .runtime

/-- What running commands leads to. -/
inductive Outcome where
  | value (v : Json)
  /-- The result is the draft. -/
  | written

/-- The value of an outcome, given the draft. -/
def Outcome.result (draft : Option Draft) : Outcome → Except QueryError Json
  | .value v => .ok v
  | .written =>
    match draft with
    | some d => .ok d.document
    | none => .error (.internal .noDraft)

/-- How a chain of calls ends: with a new value for its place, or with a result of its own. -/
inductive ChainEnd where
  | modified (v : Json)
  | produced (v : Json)

/-! ## §2. What a statement does. -/

/-- Whether a statement collects results or writes. -/
inductive Mode where
  | read | write
  deriving Repr, DecidableEq

namespace Registry

/-- The mode of a statement by its last command: a chain writes unless it ends in a producer. -/
def mode (r : Registry) : Command → Mode
  | .assign _ _ => .write
  | .call calls =>
    match calls.getLast?.bind fun c => r.get? c.name with
    | some f => if f.isModifier then .write else .read
    | none => .write
  | _ => .read

/-- Whether a command would write: an assignment, or a chain that names a modifier. -/
def mutates (r : Registry) : Command → Bool
  | .assign _ _ => true
  | .call calls => calls.any fun c => (r.get? c.name).any Function.isModifier
  | _ => false

/-- Whether a statement ends in a command that would write. -/
def endsInMutation (r : Registry) (s : Statement) : Bool := s.getLast?.any r.mutates

/-- The function called, if the value and the number of arguments suit it. -/
def resolve (r : Registry) (name : String) (value : Json) (given : Nat) :
    Except RuntimeError Function :=
  match r.get? name with
  | none => .error (.unknownFunction name)
  | some f =>
    if !f.accepts.contains value.kind then .error (.functionNotApplicable name value.kind)
    else if !f.arities.contains given then .error (.badArity name given f.arities)
    else .ok f

end Registry

/-! ## §3. Going through children. -/

/-- What runs commands at a place, given the draft. -/
abbrev Visit := Place → Option Draft → Except QueryError (Outcome × Option Draft)

/-- The results of a visit at several places, in order. -/
def Visit.collect (visit : Visit) :
    List Place → Option Draft → Except QueryError (List Json × Option Draft)
  | [], draft => .ok ([], draft)
  | place :: places, draft => do
    let (outcome, draft) ← visit place draft
    let v ← outcome.result draft
    let (vs, draft) ← visit.collect places draft
    return (v :: vs, draft)

/-- The draft after a visit at several places, in order. -/
def Visit.sweep (visit : Visit) : List Place → Option Draft → Except QueryError (Option Draft)
  | [], draft => .ok draft
  | place :: places, draft => do
    let (_, draft) ← visit place draft
    visit.sweep places draft

/-! ## §4. Commands, calls and operands. -/

mutual

/-- Apply commands from left to right, starting at a place. -/
def runCommands (r : Registry) (mode : Mode) (commands : List Command) (place : Place)
    (draft : Option Draft) : Except QueryError (Outcome × Option Draft) :=
  match commands with
  | [] => .ok (.value place.value, draft)
  | command :: rest =>
    if rest.isEmpty then runLast r command place draft
    else
      match command with
      | .select key => do
        let child ← runtime (place.select key)
        runCommands r mode rest child draft
      | .iterate span => do
        let children ← runtime (place.children span)
        match mode with
        | .read =>
          let (values, draft) ←
            Visit.collect (fun child draft => runCommands r mode rest child draft) children draft
          return (.value (place.value.refill values), draft)
        | .write =>
          let draft ←
            Visit.sweep (fun child draft => runCommands r mode rest child draft) children draft
          return (.written, draft)
      | other => .error (.internal (.unrunnable other.name))

/-- Apply the last command of a statement. -/
def runLast (r : Registry) (command : Command) (place : Place) (draft : Option Draft) :
    Except QueryError (Outcome × Option Draft) :=
  match command with
  | .select key => do
    let child ← runtime (place.select key)
    return (.value child.value, draft)
  | .iterate span => do
    let part ← runtime (span.slice place.value)
    return (.value part, draft)
  | .assign target value => do
    let v ← runOperand r .assignmentValue value place
    match draft with
    | none => throw (.runtime (.modifierNotAllowed .assignmentValue))
    | some d => return (.written, some (← runtime (d.assign place.path target v)))
  | .call calls => do
    -- earlier writes of the statement are seen, unless a nested query only reads
    let start ← match draft with
      | none => pure place.value
      | some d =>
        match d.get? place.path with
        | some v => pure v
        | none => throw (.runtime (.missingPath place.path))
    match ← runCalls r calls place start with
    | .produced v => return (.value v, draft)
    | .modified v =>
      match draft with
      | none => throw (.runtime (.modifierNotAllowed .functionArgument))
      | some d => return (.written, some (← runtime (d.replace place.path v)))
  | .list items => do
    let values ← runOperands r .listElement items place
    return (.value (.arr values), draft)

/-- Apply calls one after another to a value at a place. Their arguments are read where the
place's parent is. -/
def runCalls (r : Registry) (calls : List Call) (place : Place) (value : Json) :
    Except QueryError ChainEnd :=
  match calls with
  | [] => .ok (.modified value)
  | .mk name args :: rest => do
    let f ← runtime (r.resolve name value args.length)
    let values ← runOperands r .functionArgument args (place.parent?.getD place)
    let result ← runtime (f.run ⟨name, place.value, value, values⟩)
    if f.isModifier then runCalls r rest place result
    else if rest.isEmpty then return .produced result
    else throw (.runtime (.nonModifierNotLast name))

/-- The values of operands at a place, in order. -/
def runOperands (r : Registry) (site : ModifierSite) (operands : List Operand) (place : Place) :
    Except QueryError (List Json) :=
  match operands with
  | [] => .ok []
  | operand :: rest => do
    let v ← runOperand r site operand place
    let vs ← runOperands r site rest place
    return v :: vs

/-- The value of an operand at a place. -/
def runOperand (r : Registry) (site : ModifierSite) (operand : Operand) (place : Place) :
    Except QueryError Json :=
  match operand with
  | .literal v => .ok v
  | .query q => runNested r site q place

/-- The result of a nested query at a place. It is refused before it runs if one of its statements
ends in a write. -/
def runNested (r : Registry) (site : ModifierSite) (q : Query) (place : Place) :
    Except QueryError Json :=
  match q with
  | .single s =>
    if r.endsInMutation s then .error (.runtime (.modifierNotAllowed site))
    else do
      let (outcome, draft) ← runCommands r .read s place none
      outcome.result draft
  | .piped ss =>
    if ss.any r.endsInMutation then .error (.runtime (.modifierNotAllowed site))
    else runPiped r ss place

/-- The result of nested statements, of which the first starts at a place and each further one at
the result of the one before it. -/
def runPiped (r : Registry) (statements : List Statement) (place : Place) :
    Except QueryError Json :=
  match statements with
  | [] => .ok place.value
  | s :: rest => do
    let (outcome, draft) ← runCommands r .read s place none
    let v ← outcome.result draft
    runPiped r rest (.root v)

end

/-! ## §5. Statements and queries. -/

/-- The result of a statement on a document. -/
def Statement.run (r : Registry) (s : Statement) (document : Json) : Except QueryError Json :=
  match s.getLast? with
  | none => .ok document
  | some last => do
    let draft := if last.needsDraft then some ⟨document⟩ else none
    let (outcome, draft) ← runCommands r (r.mode last) s (.root document) draft
    outcome.result draft

/-- The result of a query on a document: each statement runs on the result of the one before. -/
def Query.run (r : Registry) (q : Query) (document : Json) : Except QueryError Json :=
  q.statements.foldlM (fun document s => Statement.run r s document) document

/-- The result of the query that a text writes. -/
def runText (r : Registry) (text : String) (document : Json) : Except QueryError Json := do
  let q ← (Query.parse text).mapError .parse
  q.run r document

end JsonQuery
