/-
  JsonQuery.Proofs.Query.Grammar
  ──────────────────────────────
  The grammar of query texts.

  Each relation of this module says of a text that it is a phrase of one kind and what it
  stands for; a text is put together from the texts of its parts.  Nothing is said of a
  reader: how far a phrase goes is seen from the characters that may follow it, which are
  special ones everywhere.

      query     — segments between `|`
      segment   — commands, which may be none; or groups, then commands that are dropped
                  if there are none
      commands  — steps; or steps and an assignment; or steps and calls; or a list
      items     — of a list or a call, between `,`, with blanks around them; one more `,`
                  may stand behind the last
-/
import JsonQuery.Query.Reader

namespace JsonQuery.Grammar

open Query Text

/-! ## §1. Tokens and literals. -/

/-- Characters up to one that stops, `~c` standing for `c`. -/
inductive Token (stops : Char → Bool) : List Char → List Char → Prop
  | nil : Token stops [] []
  | escaped (c : Char) {t v : List Char} : Token stops t v → Token stops ('~' :: c :: t) (c :: v)
  | plain {c : Char} {t v : List Char} : c ≠ '~' → stops c = false → Token stops t v →
      Token stops (c :: t) (c :: v)

/-- A literal marked with its type. -/
inductive Marked : List Char → Json → Prop
  | mk {mark : Char} {type : LiteralType} {t body : List Char} {v : Json} :
      literalType? mark = some type → Token (· == ')') t body →
      literalValue type body = .ok v → Marked (mark :: '(' :: (t ++ [')'])) v

/-- A literal, which may be an empty token. -/
inductive Literal : List Char → Json → Prop
  | marked {t : List Char} {v : Json} : Marked t v → Literal t v
  | token {t v : List Char} : Token isSpecial t v → Literal t (coerce v)

/-- Whether a text is there and begins with no special character. -/
def Present (t : List Char) : Prop := ∃ c rest, t = c :: rest ∧ isSpecial c = false

/-! ## §2. Steps. -/

/-- A bound of a range. -/
inductive Bound : List Char → Option Int64 → Prop
  | absent : Bound [] none
  | present {t : List Char} {n : Int64} : Present t → Literal t (.int n) → Bound t (some n)

/-- A step to one child or to several. -/
inductive Step : List Char → Command → Prop
  | key {t : List Char} {v : Json} {k : Key} : Present t → Literal t v → key? v = some k →
      Step ('.' :: t) (.select k)
  | all : Step ['.', '[', '*', ']'] (.iterate .all)
  | index {t : List Char} {n : Int64} : Present t → Literal t (.int n) →
      Step ('.' :: '[' :: (t ++ [']'])) (.select (.index n))
  | range {t u : List Char} {a b : Option Int64} : Bound t a → Bound u b →
      Step ('.' :: '[' :: (t ++ ':' :: (u ++ [']']))) (.iterate (.range a b))

/-- Steps, one after another. -/
inductive Steps : List Char → List Command → Prop
  | nil : Steps [] []
  | snoc {t u : List Char} {st : List Command} {c : Command} : Steps t st → Step u c →
      Steps (t ++ u) (st ++ [c])

/-! ## §3. Queries. -/

/-- A text of blanks. -/
def Blanks (t : List Char) : Prop := ∀ c ∈ t, isBlank c = true

mutual

/-- The statements of a query. -/
inductive Statements : List Char → List Statement → Prop
  | segment {t : List Char} {ss : List Statement} : Segment t ss → Statements t ss
  | pipe {t u : List Char} {ss ts : List Statement} : Segment t ss → Statements u ts →
      Statements (t ++ '|' :: u) (ss ++ ts)

/-- The statements between two pipes. -/
inductive Segment : List Char → List Statement → Prop
  | commands {t : List Char} {st : Statement} : Commands t st → Segment t [st]
  | groups {t u : List Char} {ss : List Statement} {st : Statement} : Groups t ss →
      Commands u st → Segment (t ++ u) (ss ++ if st.isEmpty then [] else [st])

/-- The statements of groups that follow each other. -/
inductive Groups : List Char → List Statement → Prop
  | one {t : List Char} {ss : List Statement} : Group t ss → Groups t ss
  | more {t u : List Char} {ss ts : List Statement} : Group t ss → Groups u ts →
      Groups (t ++ u) (ss ++ ts)

/-- The statements of a query in brackets. -/
inductive Group : List Char → List Statement → Prop
  | mk {t : List Char} {ss : List Statement} : Statements t ss → Group ('(' :: (t ++ [')'])) ss

/-- The commands of one statement. -/
inductive Commands : List Char → Statement → Prop
  | steps {t : List Char} {st : Statement} : Steps t st → Commands t st
  | assign {t u w : List Char} {st : Statement} {k : Key} {o : Operand} : Steps t st →
      Step u (.select k) → Assigned w o → Commands (t ++ u ++ '=' :: w) (st ++ [.assign k o])
  | calls {t u : List Char} {st : Statement} {cs : List Call} : Steps t st → Calls u cs →
      Commands (t ++ u) (st ++ [.call cs])
  | list {t : List Char} {os : List Operand} : Items t os →
      Commands ('[' :: (t ++ [']'])) [.list os]

/-- One or more calls. -/
inductive Calls : List Char → List Call → Prop
  | one {t : List Char} {c : Call} : Called t c → Calls t [c]
  | more {t u : List Char} {c : Call} {cs : List Call} : Called t c → Calls u cs →
      Calls (t ++ u) (c :: cs)

/-- A call of a function by its name, which may hold points. -/
inductive Called : List Char → Call → Prop
  | mk {t u name : List Char} {os : List Operand} : Token endsName t name → name ≠ [] →
      Items u os → Called ('#' :: (t ++ '(' :: (u ++ [')']))) (.mk (String.ofList name) os)

/-- The items of a list or a call. -/
inductive Items : List Char → List Operand → Prop
  | none {b : List Char} : Blanks b → Items b []
  | last {b t b' : List Char} {o : Operand} : Blanks b → Item t o → t ≠ [] → Blanks b' →
      Items (b ++ t ++ b') [o]
  | more {b t b' u : List Char} {o : Operand} {os : List Operand} : Blanks b → Item t o →
      Blanks b' → Items u os → Items (b ++ t ++ b' ++ ',' :: u) (o :: os)

/-- An item. A token does not begin with a blank, and loses those it ends with. -/
inductive Item : List Char → Operand → Prop
  | group {t : List Char} {ss : List Statement} : Group t ss →
      Item t (.query (ofStatements ss))
  | marked {t : List Char} {v : Json} : Marked t v → Item t (.literal v)
  | token {t v : List Char} : Token isSpecial t v → t.head?.all (fun c => !isBlank c) = true →
      Item t (.literal (coerce (trimBlankEnd v)))

/-- The right-hand side of an assignment. -/
inductive Assigned : List Char → Operand → Prop
  | group {t : List Char} {ss : List Statement} : Group t ss →
      Assigned t (.query (ofStatements ss))
  | literal {t : List Char} {v : Json} : Literal t v → Assigned t (.literal v)

end

/-- A text reads as a query. -/
def Reads (text : String) (q : Query) : Prop :=
  ∃ ss, Statements text.toList ss ∧ q = ofStatements ss

end JsonQuery.Grammar
