/-
  JsonQuery.Proofs.Query.Walk
  ───────────────────────────
  Reading query text by walking over it with a cursor.

  The readers take the rest of the text and count characters, and each of them ends because
  the rest gets shorter.  A walk is the same work in steps of a cursor: every decision is
  made on the characters at the cursor, and whatever is read is left behind it.  Nothing
  says that a walk ends, so that `none` stands for one that does not.

  What a walk does over and over is a loop of rounds (`Round`).  Each loop is written apart
  from its round, as it is the round that moves the cursor, or is the last:

      query   — a command, a group or a pipe
      chain   — a call
      items   — an item, the blanks around it and the comma behind it
      token   — a character, or an escape character and the one it stands for
      blanks  — a blank

  Statements, groups and their operands hold one another, to any depth.  The walks over them
  are one recursion over the pieces of a query (`Piece.walk`).
-/
import JsonQuery.Query.Reader

namespace JsonQuery

open Query Text

/-! ## §1. Walks. -/

/-- A walk from a cursor. It may not end (`none`), fail, or yield a value and leave the cursor. -/
abbrev Walk (α : Type) := StateT Cursor (ExceptT ParseError Option) α

/-- What a round of a loop comes to: another round from a new state, or the result of the loop. -/
inductive Round (σ α : Type) where
  | again (state : σ)
  | last (result : α)

namespace Walk

variable {α σ : Type}

/-- What a walk comes to from a cursor. -/
def outcome (w : Walk α) (c : Cursor) : Option (Except ParseError (α × Cursor)) := (w.run c).run

/-- Move on. -/
def pop (amount : UInt64) : Walk Unit := modify (·.advance amount)

/-- Take the next character. -/
def next : Walk (Option Char) := modifyGet (·.next)

/-- Fail at any place of the text. -/
def failAt (index : Nat) (reason : Reason) : Walk α := do
  throw ((← get).errorAt index reason.kind reason.message)

/-- Fail at the cursor. -/
def fail (reason : Reason) : Walk α := do failAt (← get).index reason

/-- Fail at the cursor unless a condition holds. -/
def demand (condition : Bool) (reason : Reason) : Walk Unit :=
  if condition then pure () else fail reason

/-- Fail unless one of the patterns stands at the cursor. -/
def expect (patterns : List String) : Walk Unit := do
  match (← get).expect patterns with
  | .ok () => pure ()
  | .error e => throw e

/-- Take a pattern that has to stand at the cursor. -/
def take (pattern : String) : Walk Unit := do
  expect [pattern]
  pop (.ofNat pattern.length)

/-- A loop, by what a round of it does. -/
structure Loop (σ α : Type) where
  round : σ → Walk (Round σ α)

/-- Rounds up to the last one. -/
def Loop.run (l : Loop σ α) (s : σ) : Walk α := do
  match ← l.round s with
  | .again s => l |>.run s
  | .last a => return a
partial_fixpoint

/-- What a loop does behind a round. -/
def carryOn (loop : σ → Walk α) : Round σ α → Walk α
  | .again s => loop s
  | .last a => pure a

theorem Loop.run_eq (l : Loop σ α) (s : σ) : l.run s = l.round s >>= carryOn l.run := by
  rw [Loop.run]
  exact bind_congr fun r => by cases r <;> rfl

/-! ## §2. Tokens and literals. -/

/-- A character of a token. -/
def tokenRound (stops : Char → Bool) (done : List Char) :
    Walk (Round (List Char) (List Char)) := do
  match (← get).current? with
  | none => return .last done
  | some ch =>
    if ch = '~' then
      pop 1
      match ← next with
      | some escaped => return .again (done ++ [escaped])
      | none => fail .endOfEscape
    else if stops ch then return .last done
    else
      pop 1
      return .again (done ++ [ch])

/-- The characters up to the first that stops the token. -/
def token (stops : Char → Bool) : Walk (List Char) := Loop.run ⟨tokenRound stops⟩ []

/-- A blank. -/
def blankRound (_ : Unit) : Walk (Round Unit Unit) := do
  if (← get).current?.any isBlank then
    pop 1
    return .again ()
  else return .last ()

/-- Leave blanks behind. -/
def blanks : Walk Unit := Loop.run ⟨blankRound⟩ ()

/-- What a literal that is marked with its type begins with. -/
def marks : List String := ["i(", "s(", "f(", "j("]

/-- The type of the literal at the cursor, if it is marked with one. -/
def mark? (c : Cursor) : Option LiteralType :=
  if c.startsWithAny marks then c.current?.bind literalType? else none

/-- A literal of a type, its mark included. -/
def markedLiteral (type : LiteralType) : Walk Json := do
  pop 2
  let start ← get
  demand start.hasMore .endOfQuery
  let body ← token (· == ')')
  take ")"
  match literalValue type body with
  | .ok v => return v
  | .error reason => failAt start.index reason

/-- A literal, which may be an empty token. -/
def literal : Walk Json := do
  match mark? (← get) with
  | some type => markedLiteral type
  | none => return coerce (← token isSpecial)

/-! ## §3. Steps. -/

/-- Whether nothing that belongs to a literal stands at the cursor. -/
def absent (c : Cursor) : Bool := !c.hasMore || c.atAny specials

/-- A step to one child by its key. -/
def selector : Walk Command := do
  take "."
  let start ← get
  demand (!absent start) (.missingKey (!start.hasMore))
  let v ← literal
  match key? v with
  | some key => return .select key
  | none => failAt start.index (.keyType v.kind)

/-- A bound of a range, which may be absent. -/
def bound : Walk (Option Int64) := do
  let start ← get
  if absent start then return none
  else
    match ← literal with
    | .int n => return some n
    | v => failAt start.index (.boundType v.kind)

/-- A range or an index, from behind the opening bracket on. -/
def boundsOrIndex : Walk Command := do
  let start ← get
  let first ← bound
  if (← get).startsWith ":" then
    pop 1
    let stop ← bound
    take "]"
    return .iterate (.range first stop)
  else
    take "]"
    match first with
    | some n => return .select (.index n)
    | none => failAt start.index .missingIndex

/-- A step in brackets, from behind the opening one on: to all children, to those of a range, or to
one by its index. -/
def subscript : Walk Command := do
  let start ← get
  demand start.hasMore .endOfQuery
  if start.startsWith "*]" then
    pop 2
    return .iterate .all
  else boundsOrIndex

/-- A step in brackets. -/
def iterator : Walk Command := do
  take ".["
  subscript

/-- A step, with its point. -/
def step : Walk Command := do
  if (← get).startsWith ".[" then iterator else selector

/-! ## §4. Statements, groups and their operands. -/

/-- How far a query has been read: the statements that are complete, the commands of the one under
way, and whether a group stands right before it. -/
structure Unfinished where
  statements : List Statement
  commands : Statement
  afterGroup : Bool

namespace Unfinished

/-- A query of which nothing has been read. -/
def start : Unfinished := ⟨[], [], false⟩

/-- The statements, if the one under way ends. An empty one does not count behind a group. -/
def finish (s : Unfinished) : List Statement :=
  if s.afterGroup && s.commands.isEmpty then s.statements else s.statements ++ [s.commands]

/-- Behind one more command. -/
def push (s : Unfinished) (c : Command) : Unfinished := ⟨s.statements, s.commands ++ [c], false⟩

/-- Behind a group. -/
def splice (s : Unfinished) (group : List Statement) : Unfinished :=
  ⟨s.statements ++ group, s.commands, true⟩

/-- Behind a pipe. -/
def pipe (s : Unfinished) : Unfinished := ⟨s.finish, [], false⟩

end Unfinished

/-- Fail if a command that has to be the last is followed by anything but a pipe. -/
def demandOpen (commands : Statement) : Walk Unit := do
  match terminalForm? commands with
  | some form => demand ((← get).startsWith "|") (.notLast form)
  | none => return

/-- The comma behind an item, unless the closing character stands there. -/
def comma (close : Char) : Walk Unit := do
  if (← get).startsWith "," then pop 1 else expect (afterItem close)

/-- The pieces of a query that may hold one another, by what is read of them. A piece that is read
in rounds stands with what has been read of it before. -/
inductive Piece : Type → Type where
  /-- The statements of a query, up to the end of the text or, inside a group, to its closing
  bracket. -/
  | query (inside : Bool) (s : Unfinished) : Piece (List Statement)
  /-- A command of the statement under way, a group in front of it, or the pipe behind it. -/
  | queryRound (inside : Bool) (s : Unfinished) : Piece (Round Unfinished (List Statement))
  /-- A command or a group, which the character at the cursor tells. -/
  | phrase (s : Unfinished) (ch : Char) : Piece Unfinished
  /-- The statements of a query in brackets. -/
  | group : Piece (List Statement)
  /-- An assignment to the command before it, which has to be a selector. -/
  | assignment (target : Command) : Piece Command
  /-- Calls, one after another. -/
  | chain (done : List Call) : Piece (List Call)
  /-- One more call, if a mark stands at the cursor. -/
  | chainRound (done : List Call) : Piece (Round (List Call) (List Call))
  /-- The call of a function. -/
  | call : Piece Call
  /-- The building of a list. -/
  | list : Piece Command
  /-- The items up to the character that closes the bracket, which is taken with the last round. -/
  | items (close : Char) (done : List Operand) : Piece (List Operand)
  /-- One more item, the blanks around it and the comma behind it. -/
  | itemsRound (close : Char) (done : List Operand) : Piece (Round (List Operand) (List Operand))
  /-- An item of a list or call. An untyped token loses the blanks it ends with. -/
  | item : Piece Operand

namespace Piece

/-- The walk over a piece. -/
def walk {α : Type} : Piece α → Walk α
  | query inside s => do
    match ← queryRound inside s |>.walk with
    | .again s => query inside s |>.walk
    | .last statements => return statements
  | queryRound inside s => do
    let c ← get
    match c.current? with
    | none => return .last s.finish
    | some ch =>
      if inside && c.atAny [')'] then return .last s.finish
      else
        demandOpen s.commands
        if ch = '|' then
          pop 1
          return .again s.pipe
        else return .again (← phrase s ch |>.walk)
  | phrase s ch => do
    match ch with
    | '[' =>
      demand s.commands.isEmpty .listInside
      return s.push (← list |>.walk)
    | '(' =>
      demand s.commands.isEmpty .groupInside
      return s.splice (← group |>.walk)
    | '.' => return s.push (← step)
    | '=' =>
      match s.commands.getLast? with
      | none => fail .assignToRoot
      | some target =>
        return { s with commands := s.commands.dropLast }.push (← assignment target |>.walk)
    | '#' => return s.push (.call (← chain [] |>.walk))
    | ch => fail (.stray ch)
  | group => do
    take "("
    let statements ← query true .start |>.walk
    take ")"
    return statements
  | assignment target => do
    match target with
    | .select key =>
      take "="
      if (← get).startsWith "(" then
        return .assign key (.query (ofStatements (← group |>.walk)))
      else return .assign key (.literal (← literal))
    | c => fail (.assignTo c.name)
  | chain done => do
    match ← chainRound done |>.walk with
    | .again done => chain done |>.walk
    | .last calls => return calls
  | chainRound done => do
    if (← get).startsWith "#" then return .again (done ++ [← call |>.walk])
    else return .last done
  | call => do
    take "#"
    let start ← get
    let name ← token endsName
    if name.isEmpty then failAt start.index .missingName
    else
      take "("
      return .mk (String.ofList name) (← items ')' [] |>.walk)
  | list => do
    take "["
    return .list (← items ']' [] |>.walk)
  | items close done => do
    match ← itemsRound close done |>.walk with
    | .again done => items close done |>.walk
    | .last operands => return operands
  | itemsRound close done => do
    blanks
    let c ← get
    if !c.hasMore || c.startsWith close.toString then
      take close.toString
      return .last done
    else
      let operand ← item |>.walk
      blanks
      comma close
      return .again (done ++ [operand])
  | item => do
    let c ← get
    if c.startsWith "(" then return .query (ofStatements (← group |>.walk))
    else if (mark? c).isSome then return .literal (← literal)
    else return .literal (coerce (trimBlankEnd (← token isSpecial)))
partial_fixpoint

theorem walk_query (inside : Bool) (s : Unfinished) :
    (query inside s).walk
      = (queryRound inside s).walk >>= carryOn fun s => (query inside s).walk := by
  rw [walk]
  exact bind_congr fun r => by cases r <;> rfl

theorem walk_chain (done : List Call) :
    (chain done).walk = (chainRound done).walk >>= carryOn fun done => (chain done).walk := by
  rw [walk]
  exact bind_congr fun r => by cases r <;> rfl

theorem walk_items (close : Char) (done : List Operand) :
    (items close done).walk
      = (itemsRound close done).walk >>= carryOn fun done => (items close done).walk := by
  rw [walk]
  exact bind_congr fun r => by cases r <;> rfl

end Piece

/-! ## §5. Whole texts. -/

/-- The query that a text writes, from its beginning to its end. -/
def whole : Walk Query := do
  let statements ← Piece.walk (.query false .start)
  match (← get).current? with
  | some ch => fail (.stray ch)
  | none => return ofStatements statements

end Walk

end JsonQuery
