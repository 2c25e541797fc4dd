/-
  JsonQuery.Proofs.Eval.Plain
  ───────────────────────────
  Running a query without drafts and paths.

  The evaluator threads one draft through a statement and writes to it by paths.  This
  module says what it computes by recursion on the commands and the document alone:

      read    — a statement that ends in no write: the value its commands lead to
      update  — a statement that ends in a write: the document with the addressed
                children replaced by their updates

  What a command needs to know of its surroundings is a `Scope`: a value of the original
  document and the values that hold it.

  A nested query has no draft.  A write that is met there all the same leads to `refuse`;
  the evaluator has `refused` for it, and that no query text ever asks for it is shown
  where failures are studied.
-/
import JsonQuery.Proofs.Document.Slot

namespace JsonQuery

/-- The failure of a write where only reading is allowed. -/
def refused (site : ModifierSite) : QueryError := .runtime (.modifierNotAllowed site)

/-- The value that a chain of calls ends with, in either way. -/
def ChainEnd.value : ChainEnd → Json
  | .modified v => v
  | .produced v => v

namespace Plain

/-! ## §1. Scopes. -/

/-- A value and the values that hold it, innermost first. -/
structure Scope where
  value : Json
  holders : List Json

namespace Scope

/-- The scope of a whole document. -/
def root (document : Json) : Scope := ⟨document, []⟩

/-- The scope of a child. -/
def enter (s : Scope) (child : Json) : Scope := ⟨child, s.value :: s.holders⟩

/-- The scope of the value that holds this one; a whole document stands for its holder. -/
def outer : Scope → Scope
  | ⟨v, []⟩ => ⟨v, []⟩
  | ⟨_, holder :: rest⟩ => ⟨holder, rest⟩

end Scope

/-! ## §2. Reading. -/

mutual

/-- The value that commands lead to. -/
def read (r : Registry) (refuse : ModifierSite → QueryError) (commands : List Command)
    (s : Scope) : Except QueryError Json :=
  match commands with
  | [] => .ok s.value
  | [last] => readLast r refuse last s
  | .select key :: next :: rest => do
    let child ← s.value.select key
    read r refuse (next :: rest) (s.enter child)
  | .iterate span :: next :: rest =>
    s.value.collect span fun child => read r refuse (next :: rest) (s.enter child)
  | other :: _ :: _ => .error (.internal (.unrunnable other.name))

/-- The value that the last command of a statement leads to. -/
def readLast (r : Registry) (refuse : ModifierSite → QueryError) (command : Command)
    (s : Scope) : Except QueryError Json :=
  match command with
  | .select key => s.value.select key
  | .iterate span => runtime (span.slice s.value)
  | .assign _ value => do
    let _ ← operand r refuse .assignmentValue value s
    throw (refuse .assignmentValue)
  | .call cs => do
    match ← calls r refuse cs s s.value with
    | .produced v => return v
    | .modified _ => throw (refuse .functionArgument)
  | .list items => do
    let values ← operands r refuse .listElement items s
    return .arr values

/-- How calls applied one after another to a value end. Their arguments are computed in the scope
of the value that holds the original one. -/
def calls (r : Registry) (refuse : ModifierSite → QueryError) (cs : List Call) (s : Scope)
    (value : Json) : Except QueryError ChainEnd :=
  match cs with
  | [] => .ok (.modified value)
  | .mk name args :: rest => do
    let f ← runtime (r.resolve name value args.length)
    let values ← operands r refuse .functionArgument args s.outer
    let result ← runtime (f.run ⟨name, s.value, value, values⟩)
    if f.isModifier then calls r refuse rest s result
    else if rest.isEmpty then return .produced result
    else throw (.runtime (.nonModifierNotLast name))

/-- The values of operands, in order. -/
def operands (r : Registry) (refuse : ModifierSite → QueryError) (site : ModifierSite)
    (os : List Operand) (s : Scope) : Except QueryError (List Json) :=
  match os with
  | [] => .ok []
  | o :: rest => do
    let v ← operand r refuse site o s
    let vs ← operands r refuse site rest s
    return v :: vs

/-- The value of an operand. -/
def operand (r : Registry) (refuse : ModifierSite → QueryError) (site : ModifierSite)
    (o : Operand) (s : Scope) : Except QueryError Json :=
  match o with
  | .literal v => .ok v
  | .query q => nested r refuse site q s

/-- The result of a nested query, which may not end a statement in a write. -/
def nested (r : Registry) (refuse : ModifierSite → QueryError) (site : ModifierSite) (q : Query)
    (s : Scope) : Except QueryError Json :=
  match q with
  | .single st =>
    if r.endsInMutation st then .error (.runtime (.modifierNotAllowed site))
    else read r refuse st s
  | .piped sts =>
    if sts.any r.endsInMutation then .error (.runtime (.modifierNotAllowed site))
    else piped r refuse sts s

/-- The result of nested statements, each but the first on the result of the one before it. -/
def piped (r : Registry) (refuse : ModifierSite → QueryError) (sts : List Statement)
    (s : Scope) : Except QueryError Json :=
  match sts with
  | [] => .ok s.value
  | st :: rest => do
    let v ← read r refuse st s
    piped r refuse rest (.root v)

end

theorem read_terminal {r : Registry} {refuse : ModifierSite → QueryError} {command : Command}
    (h : command.isTerminal = true) {next : Command} {rest : List Command} {s : Scope} :
    read r refuse (command :: next :: rest) s = .error (.internal (.unrunnable command.name)) := by
  cases command with
  | select key => cases h
  | iterate span => cases h
  | _ => simp [read]

/-! ## §3. Updating. -/

/-- The value with its addressed children replaced by their updates. An assignment sets a slot of
the value it reaches to an operand computed there, a chain of calls replaces the value it reaches
by the calls' result on it. -/
def update (r : Registry) (refuse : ModifierSite → QueryError) (commands : List Command)
    (s : Scope) : Except QueryError Json :=
  match commands with
  | [] => .ok s.value
  | [.assign target value] => do
    let v ← operand r refuse .assignmentValue value s
    runtime (s.value.assign target v)
  | [.call cs] => do
    let result ← calls r refuse cs s s.value
    return result.value
  | .select key :: rest => s.value.updateAt key fun child => update r refuse rest (s.enter child)
  | .iterate span :: rest =>
    s.value.updateAll span fun child => update r refuse rest (s.enter child)
  | other :: _ => .error (.internal (.unrunnable other.name))

theorem update_terminal {r : Registry} {refuse : ModifierSite → QueryError} {command : Command}
    (h : command.isTerminal = true) {next : Command} {rest : List Command} {s : Scope} :
    update r refuse (command :: next :: rest) s
      = .error (.internal (.unrunnable command.name)) := by
  cases command with
  | select key => cases h
  | iterate span => cases h
  | _ => simp [update]

/-! ## §4. Statements and queries. -/

/-- The result of a statement on a document. -/
def statement (r : Registry) (refuse : ModifierSite → QueryError) (st : Statement)
    (document : Json) : Except QueryError Json :=
  match st.getLast? with
  | none => .ok document
  | some last =>
    match r.mode last with
    | .read => read r refuse st (.root document)
    | .write => update r refuse st (.root document)

section

variable {r : Registry} {refuse : ModifierSite → QueryError} {st : Statement} {last : Command}

theorem statement_of_read (h : st.getLast? = some last) (hm : r.mode last = .read)
    (document : Json) :
    statement r refuse st document = read r refuse st (.root document) := by
  unfold statement
  simp only [h, hm]

theorem statement_of_write (h : st.getLast? = some last) (hm : r.mode last = .write)
    (document : Json) :
    statement r refuse st document = update r refuse st (.root document) := by
  unfold statement
  simp only [h, hm]

/-- A statement without commands reads, too. -/
theorem statement_eq_read (h : ∀ last, st.getLast? = some last → r.mode last = .read)
    (document : Json) :
    statement r refuse st document = read r refuse st (.root document) := by
  cases hlast : st.getLast? with
  | none =>
    rw [List.getLast?_eq_none_iff.mp hlast, read]
    rfl
  | some last => exact statement_of_read hlast (h last hlast) document

end

/-- The result of statements, each on the result of the one before. -/
def query (r : Registry) (refuse : ModifierSite → QueryError) (q : Query) (document : Json) :
    Except QueryError Json :=
  q.statements.foldlM (fun document st => statement r refuse st document) document

end Plain

end JsonQuery
