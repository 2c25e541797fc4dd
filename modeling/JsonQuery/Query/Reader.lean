/-
  JsonQuery.Query.Reader
  ──────────────────────
  Reading query text.  Each reader takes the text from its place on and yields a value
  with the number of characters it was written with (`Reading`); the caller goes on
  behind them.  What follows does not change what was read, except that a token ends at
  the first special character.

  Readers call one another only for the text inside a bracket, so the text gets shorter
  on every way back to the same reader.  No reader tries one way and goes back for
  another.  The next character decides, but for `*]` in a subscript (`readSubscript`) and
  for the mark of a literal with its bracket (`marked?`), where the next two do.
-/
import JsonQuery.Json.Reader
import JsonQuery.Query.Basic
import JsonQuery.Query.Cursor
import JsonQuery.Text.Blank

namespace JsonQuery

open Number Text

/-- A value read from the start of a text, and the number of characters it was written with. -/
structure Reading (α : Type) where
  value : α
  length : Nat

/-- The same value with more characters before it. -/
def Reading.behind {α : Type} (n : Nat) (r : Reading α) : Reading α := ⟨r.value, n + r.length⟩

namespace Query

/-! ## §1. Tokens and literals. -/

/-- The characters that end an untyped token. -/
def specials : List Char := [',', '[', ']', '#', '.', '(', ')', '=', ':', '|']

/-- Whether an untyped token ends before the character. -/
def isSpecial (c : Char) : Bool := specials.contains c

/-- Whether the name of a function ends before the character; it may hold points. -/
def endsName (c : Char) : Bool := isSpecial c && c != '.'

/-- The characters up to the first that stops the token; `~c` stands for `c`. -/
def readToken (stops : Char → Bool) : List Char → Except Fault (Reading (List Char))
  | [] => .ok ⟨[], 0⟩
  | ['~'] => .error ⟨.endOfEscape, []⟩
  | '~' :: c :: rest => do
    let more ← readToken stops rest
    return ⟨c :: more.value, more.length + 2⟩
  | c :: rest =>
    if stops c then .ok ⟨[], 0⟩
    else do
      let more ← readToken stops rest
      return ⟨c :: more.value, more.length + 1⟩

/-- The value of an untyped token: an integer if it reads as one, else a finite float if it reads
as one, else a string. -/
def coerce (token : List Char) : Json :=
  match readInt64 token with
  | some n => .int n
  | none =>
    match readFinite token with
    | some x => .float x
    | none => .str (String.ofList token)

/-- The mark of a literal type. -/
def literalType? : Char → Option LiteralType
  | 'i' => some .integer
  | 's' => some .string
  | 'f' => some .float
  | 'j' => some .json
  | _ => none

/-- The type of the literal at the start of the text, if it is marked with one. -/
def marked? : List Char → Option LiteralType
  | mark :: '(' :: _ => literalType? mark
  | _ => none

/-- The value of a literal of a type. JSON literals are arrays and objects. -/
def literalValue (type : LiteralType) (body : List Char) : Except Reason Json :=
  let illWritten := .error (.illWritten type (String.ofList body))
  match type with
  | .string => .ok (.str (String.ofList body))
  | .integer =>
    match readInt64 body with
    | some n => .ok (.int n)
    | none => illWritten
  | .float =>
    match readFinite body with
    | some x => .ok (.float x)
    | none => illWritten
  | .json =>
    match Json.read? (String.ofList body) with
    | some (.arr items) => .ok (.arr items)
    | some (.obj entries) => .ok (.obj entries)
    | some v => .error (.scalarJson v.kind)
    | none => illWritten

/-- A literal of a type, from behind its opening bracket to its closing one. -/
def readMarked (type : LiteralType) (text : List Char) : Except Fault (Reading Json) := do
  if text.isEmpty then throw ⟨.endOfQuery, []⟩
  let body ← readToken (· == ')') text
  if (text.drop body.length).isEmpty then throw ⟨.missing [")"], []⟩
  match literalValue type body.value with
  | .ok v => return ⟨v, body.length + 1⟩
  | .error reason => throw ⟨reason, text⟩

/-- A literal: marked with a type, or an untyped token, which may be empty. -/
def readLiteral (text : List Char) : Except Fault (Reading Json) :=
  match marked? text with
  | some type => (readMarked type (text.drop 2)).map (·.behind 2)
  | none => (readToken isSpecial text).map fun token => ⟨coerce token.value, token.length⟩

/-! ## §2. Steps. -/

/-- Whether nothing that belongs to a literal stands at the start of the text. -/
def atSpecial (text : List Char) : Bool := text.head?.all isSpecial

/-- The key of a value that selects. -/
def key? : Json → Option Key
  | .str s => some (.name s)
  | .int n => some (.index n)
  | .float x => some (.number x)
  | _ => none

/-- A key, from behind the point. -/
def readKey (text : List Char) : Except Fault (Reading Key) := do
  if atSpecial text then throw ⟨.missingKey text.isEmpty, text⟩
  let literal ← readLiteral text
  match key? literal.value with
  | some key => return ⟨key, literal.length⟩
  | none => throw ⟨.keyType literal.value.kind, text⟩

/-- A bound of a range, which may be absent. -/
def readBound (text : List Char) : Except Fault (Reading (Option Int64)) := do
  if atSpecial text then return ⟨none, 0⟩
  let literal ← readLiteral text
  match literal.value with
  | .int n => return ⟨some n, literal.length⟩
  | v => throw ⟨.boundType v.kind, text⟩

/-- Fail unless the character stands at the start of the text; `patterns` is what would be
welcome. -/
def require (c : Char) (patterns : List String) (text : List Char) : Except Fault Unit :=
  match text with
  | [] => .error ⟨.missing patterns, []⟩
  | d :: _ => if d = c then .ok () else .error ⟨.instead d.toString patterns, text⟩

/-- A subscript, from behind its opening bracket to its closing one: everything, an index or a
range. -/
def readSubscript (text : List Char) : Except Fault (Reading Command) := do
  if text.isEmpty then throw ⟨.endOfQuery, []⟩
  if ['*', ']'].isPrefixOf text then return ⟨.iterate .all, 2⟩
  let start ← readBound text
  let rest := text.drop start.length
  if rest.head? = some ':' then
    let stop ← readBound (rest.drop 1)
    require ']' ["]"] (rest.drop (stop.length + 1))
    return ⟨.iterate (.range start.value stop.value), start.length + stop.length + 2⟩
  require ']' ["]"] rest
  match start.value with
  | some n => return ⟨.select (.index n), start.length + 1⟩
  | none => throw ⟨.missingIndex, text⟩

/-- A step, from behind the point. -/
def readStep (text : List Char) : Except Fault (Reading Command) :=
  if text.head? = some '[' then (readSubscript (text.drop 1)).map (·.behind 1)
  else (readKey text).map fun key => ⟨.select key.value, key.length⟩

/-! ## §3. Statements, groups and their operands. -/

/-- The selected key that an assignment writes to, which is the last command before it. -/
def assignTarget (done : Statement) : Except Reason (Statement × Key) :=
  match done.getLast? with
  | none => .error .assignToRoot
  | some (.select key) => .ok (done.dropLast, key)
  | some c => .error (.assignTo c.name)

/-- What is welcome after an item of a bracket: calls name the closing bracket alone. -/
def afterItem (close : Char) : List String :=
  if close = ')' then [")"] else [",", close.toString]

/-- The form of the last command, if nothing may follow it. -/
def terminalForm? (done : Statement) : Option String :=
  (done.getLast?.filter Command.isTerminal).map Command.name

mutual

/-- The statements of a query, up to the end of the text or, inside a group, to its closing
bracket. -/
def readStatements (inside : Bool) (text : List Char) :
    Except Fault (Reading (List Statement)) := do
  let segment ← readSegment inside false text
  if (text.drop segment.length).head? = some '|' then
    let more ← readStatements inside (text.drop (segment.length + 1))
    return ⟨segment.value ++ more.value, segment.length + 1 + more.length⟩
  return segment
termination_by (text.length, 2)
decreasing_by
  · exact Prod.Lex.right _ (by omega)
  · rename_i h
    have : text ≠ [] := by rintro rfl; simp at h
    have := List.length_pos_iff.mpr this
    apply Prod.Lex.left; simp only [List.length_drop]; omega

/-- The statements between two pipes: those of groups, and one more unless it follows a group and
is empty. -/
def readSegment (inside afterGroup : Bool) (text : List Char) :
    Except Fault (Reading (List Statement)) := do
  match text with
  | '(' :: rest =>
    let group ← readGroup rest
    let more ← readSegment inside true (rest.drop group.length)
    return ⟨group.value ++ more.value, 1 + group.length + more.length⟩
  | text =>
    let statement ← readStatement inside [] text
    if afterGroup && statement.value.isEmpty then return ⟨[], statement.length⟩
    return ⟨[statement.value], statement.length⟩
termination_by (text.length, 1)
decreasing_by
  · apply Prod.Lex.left; simp
  · apply Prod.Lex.left; simp only [List.length_cons, List.length_drop]; omega
  · exact Prod.Lex.right _ (by omega)

/-- The statements of a group, from behind its opening bracket to its closing one. -/
def readGroup (text : List Char) : Except Fault (Reading (List Statement)) := do
  let statements ← readStatements true text
  require ')' [")"] (text.drop statements.length)
  return ⟨statements.value, statements.length + 1⟩
termination_by (text.length, 3)
decreasing_by exact Prod.Lex.right _ (by omega)

/-- The commands of a statement after those that are `done`. -/
def readStatement (inside : Bool) (done : Statement) (text : List Char) :
    Except Fault (Reading Statement) :=
  match text with
  | [] => .ok ⟨done, 0⟩
  | c :: rest =>
    if c = '|' || (inside && c = ')') then .ok ⟨done, 0⟩
    else if let some form := terminalForm? done then .error ⟨.notLast form, c :: rest⟩
    else
      match c with
      | '.' => do
        let step ← readStep rest
        let more ← readStatement inside (done ++ [step.value]) (rest.drop step.length)
        return more.behind (step.length + 1)
      | '[' => do
        if !done.isEmpty then throw ⟨.listInside, c :: rest⟩
        let items ← readItems ']' rest
        let more ← readStatement inside [.list items.value] (rest.drop items.length)
        return more.behind (items.length + 1)
      | '(' => .error ⟨.groupInside, c :: rest⟩
      | '=' => do
        match assignTarget done with
        | .error reason => throw ⟨reason, c :: rest⟩
        | .ok (before, target) =>
          let value ← readAssigned rest
          let more ←
            readStatement inside (before ++ [.assign target value.value]) (rest.drop value.length)
          return more.behind (value.length + 1)
      | '#' => do
        let calls ← readCalls rest
        let more ← readStatement inside (done ++ [.call calls.value]) (rest.drop calls.length)
        return more.behind (calls.length + 1)
      | _ => .error ⟨.stray c, c :: rest⟩
termination_by (text.length, 0)
decreasing_by all_goals apply Prod.Lex.left; simp; try omega

/-- The calls of a chain, from behind the first mark. -/
def readCalls (text : List Char) : Except Fault (Reading (List Call)) :=
  match text with
  | [] => .error ⟨.missingName, []⟩
  | c :: rest => do
    let name ← readToken endsName (c :: rest)
    if name.value.isEmpty then throw ⟨.missingName, c :: rest⟩
    require '(' ["("] ((c :: rest).drop name.length)
    let args ← readItems ')' ((c :: rest).drop (name.length + 1))
    let call := Call.mk (String.ofList name.value) args.value
    let length := name.length + 1 + args.length
    if ((c :: rest).drop length).head? = some '#' then
      let more ← readCalls ((c :: rest).drop (length + 1))
      return ⟨call :: more.value, length + 1 + more.length⟩
    return ⟨[call], length⟩
termination_by (text.length, 2)
decreasing_by all_goals apply Prod.Lex.left; simp only [List.length_cons, List.length_drop]; omega

/-- The items of a bracket, from behind its opening character to its closing one. Items are
separated by commas, the last may be followed by one, and blanks around them are dropped. -/
def readItems (close : Char) (text : List Char) : Except Fault (Reading (List Operand)) :=
  match text with
  | [] => .error ⟨.missing [close.toString], []⟩
  | c :: rest =>
    if isBlank c then (readItems close rest).map (·.behind 1)
    else if c = close then .ok ⟨[], 1⟩
    else do
      let item ← readItem (c :: rest)
      let length := item.length + blankCount ((c :: rest).drop item.length)
      if ((c :: rest).drop length).head? = some ',' then
        let more ← readItems close ((c :: rest).drop (length + 1))
        return ⟨item.value :: more.value, length + 1 + more.length⟩
      require close (afterItem close) ((c :: rest).drop length)
      return ⟨[item.value], length + 1⟩
termination_by (text.length, 1)
decreasing_by
  · apply Prod.Lex.left; simp
  · exact Prod.Lex.right _ (by omega)
  · apply Prod.Lex.left; simp only [List.length_cons, List.length_drop]; omega

/-- An item of a list or call. An untyped token loses the blanks it ends with. -/
def readItem (text : List Char) : Except Fault (Reading Operand) :=
  match text with
  | '(' :: rest => do
    let group ← readGroup rest
    return ⟨.query (ofStatements group.value), group.length + 1⟩
  | text =>
    if (marked? text).isSome then
      (readLiteral text).map fun literal => ⟨.literal literal.value, literal.length⟩
    else
      (readToken isSpecial text).map fun token =>
        ⟨.literal (coerce (trimBlankEnd token.value)), token.length⟩
termination_by (text.length, 0)
decreasing_by apply Prod.Lex.left; simp

/-- The right-hand side of an assignment, from behind its sign. -/
def readAssigned (text : List Char) : Except Fault (Reading Operand) :=
  match text with
  | '(' :: rest => do
    let group ← readGroup rest
    return ⟨.query (ofStatements group.value), group.length + 1⟩
  | text => (readLiteral text).map fun literal => ⟨.literal literal.value, literal.length⟩
termination_by (text.length, 0)
decreasing_by apply Prod.Lex.left; simp

end

/-! ## §4. Whole queries. -/

/-- The query that a text writes. -/
def ofChars (text : List Char) : Except Fault Query :=
  (readStatements false text).map fun statements => ofStatements statements.value

/-- The query that a text writes, or where and why it writes none. -/
def parse (text : String) : Except ParseError Query :=
  (ofChars text.toList).mapError (·.toError text.toList)

end Query

end JsonQuery
