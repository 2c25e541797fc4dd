/-
  JsonQuery.Proofs.Query.Canonical
  ────────────────────────────────
  A text for every well-formed query.

  The canonical text marks every key and every literal with its type and puts the escape
  character before each character that a token would end at or read in another way, so
  that nothing hangs on what the characters of a name, a key or a literal are.  It parses
  to the query it was written for, as long as keys and literals are exact, which leaves
  floats out (`Query.parse_wellFormed`).
-/
import JsonQuery.Proofs.Json.RoundTrip
import JsonQuery.Proofs.Query.Shape

namespace JsonQuery

open Grammar

/-! ## §1. The canonical text. -/

namespace Query

/-- Characters with the escape character before it and before the given ones. -/
def escape (special : Char → Bool) (s : List Char) : List Char :=
  s.flatMap fun c => if c == '~' || special c then ['~', c] else [c]

/-- A literal marked with its type. -/
def markedChars (mark : Char) (body : List Char) : List Char :=
  mark :: '(' :: (escape (· == ')') body ++ [')'])

/-- The text of an integer literal. -/
def integerChars (n : Int64) : List Char := markedChars 'i' (toString n.toInt).toList

/-- The text of a literal. -/
def literalChars : Json → List Char
  | .str s => markedChars 's' s.toList
  | .int n => integerChars n
  | .float x => markedChars 'f' (floatText x).toList
  | v => markedChars 'j' v.compact.toList

/-- The text of a key. -/
def keyChars : Key → List Char
  | .name s => markedChars 's' s.toList
  | .index n => integerChars n
  | .number x => markedChars 'f' (floatText x).toList

/-- The text of a bound of a range. -/
def boundChars : Option Int64 → List Char
  | some n => integerChars n
  | none => []

mutual

/-- The text of an operand. -/
def operandChars : Operand → List Char
  | .literal v => literalChars v
  | .query q => '(' :: (chars q ++ [')'])

/-- The text of items, each followed by a comma. -/
def operandsChars : List Operand → List Char
  | [] => []
  | o :: os => operandChars o ++ ',' :: operandsChars os

/-- The text of a call. -/
def callChars : Call → List Char
  | .mk name args =>
    '#' :: (escape isSpecial name.toList ++ '(' :: (operandsChars args ++ [')']))

/-- The text of a chain. -/
def callsChars : List Call → List Char
  | [] => []
  | c :: cs => callChars c ++ callsChars cs

/-- The text of a command. -/
def commandChars : Command → List Char
  | .select key => '.' :: keyChars key
  | .iterate .all => ['.', '[', '*', ']']
  | .iterate (.range start stop) =>
    '.' :: '[' :: (boundChars start ++ ':' :: (boundChars stop ++ [']']))
  | .assign key value => '.' :: (keyChars key ++ '=' :: operandChars value)
  | .call calls => callsChars calls
  | .list items => '[' :: (operandsChars items ++ [']'])

/-- The text of a statement. -/
def statementChars : List Command → List Char
  | [] => []
  | c :: cs => commandChars c ++ statementChars cs

/-- The text of statements, separated by pipes. -/
def statementsChars : List (List Command) → List Char
  | [] => []
  | [st] => statementChars st
  | st :: next :: ss => statementChars st ++ '|' :: statementsChars (next :: ss)

/-- The characters of the canonical text of a query. -/
def chars : Query → List Char
  | .single st => statementChars st
  | .piped ss => statementsChars ss

end

/-- The canonical text of a query. -/
def text (q : Query) : String := String.ofList q.chars

end Query

/-- A key that is a string or an integer. -/
def Key.IsExact : Key → Prop
  | .name _ | .index _ => True
  | .number _ => False

/-- A literal without floats, which nests no deeper than the reader of JSON goes. -/
def Json.IsExact : Json → Prop
  | .int _ | .str _ => True
  | .arr items =>
    (Json.arr items).Lawful (fun _ => False) ∧ (Json.arr items).depth ≤ Reader.maxDepth
  | .obj entries =>
    (Json.obj entries).Lawful (fun _ => False) ∧ (Json.obj entries).depth ≤ Reader.maxDepth
  | .null | .bool _ | .float _ => False

/-! ## §2. Literals. -/

namespace Grammar

open Query

/-- Escaped characters stand for themselves wherever the token would have stopped. -/
theorem token_escape {stops special : Char → Bool} (h : ∀ c, stops c = true → special c = true)
    (s : List Char) : Token stops (escape special s) s := by
  induction s with
  | nil => exact .nil
  | cons c s ih =>
    unfold escape
    rw [List.flatMap_cons]
    -- every character that would stop the token is among those that are escaped
    by_cases hc : (c == '~' || special c) = true
    · rw [if_pos hc]
      exact ih.escaped c
    · rw [if_neg hc]
      obtain ⟨hne, hspecial⟩ := Bool.or_eq_false_iff.mp (Bool.eq_false_iff.mpr hc)
      have hstop : stops c = false := by
        cases hs : stops c with
        | false => rfl
        | true =>
          rw [h c hs] at hspecial
          cases hspecial
      exact ih.plain (by simpa using hne) hstop

theorem marked_of_value {mark : Char} {type : LiteralType} (hmark : literalType? mark = some type)
    {body : List Char} {v : Json} (hv : literalValue type body = .ok v) :
    Marked (markedChars mark body) v :=
  .mk hmark (token_escape (fun _ h => h) body) hv

theorem marked_string (s : String) : Marked (markedChars 's' s.toList) (.str s) := by
  refine marked_of_value rfl ?_
  unfold literalValue
  rw [String.ofList_toList]

theorem marked_integer (n : Int64) : Marked (integerChars n) (.int n) := by
  refine marked_of_value rfl ?_
  unfold literalValue
  simp only [readInt64_toString]

/-- A container is read back from its JSON text. -/
theorem marked_json {v : Json} (hread : Json.read? v.compact = some v)
    (hv : (∃ items, v = .arr items) ∨ ∃ entries, v = .obj entries) :
    Marked (markedChars 'j' v.compact.toList) v := by
  refine marked_of_value rfl ?_
  unfold literalValue
  rw [String.ofList_toList]
  simp only [hread]
  rcases hv with ⟨items, rfl⟩ | ⟨entries, rfl⟩ <;> rfl

theorem marked_literal {v : Json} (h : v.IsExact) : Marked (literalChars v) v := by
  cases v with
  | null => exact h.elim
  | bool b => exact h.elim
  | int n => exact marked_integer n
  | float x => exact h.elim
  | str s => exact marked_string s
  | arr items => exact marked_json (Json.read?_write h.1 h.2 .compact) (.inl ⟨items, rfl⟩)
  | obj entries => exact marked_json (Json.read?_write h.1 h.2 .compact) (.inr ⟨entries, rfl⟩)

/-! ## §3. Steps. -/

theorem Marked.present {t : List Char} {v : Json} (h : Marked t v) : Present t := by
  obtain ⟨hmark, -, -⟩ := h
  rename_i mark type _ _
  refine ⟨mark, _, rfl, ?_⟩
  cases hs : isSpecial mark with
  | false => rfl
  | true =>
    rw [literalType?_special hs] at hmark
    cases hmark

theorem step_key {key : Key} (h : key.IsExact) : Step ('.' :: keyChars key) (.select key) := by
  cases key with
  | name s => exact .key (marked_string s).present (.marked (marked_string s)) rfl
  | index n => exact .key (marked_integer n).present (.marked (marked_integer n)) rfl
  | number x => exact h.elim

theorem bound_chars (bound : Option Int64) : Bound (boundChars bound) bound := by
  cases bound with
  | none => exact .absent
  | some n => exact .present (marked_integer n).present (.marked (marked_integer n))

/-- The text of a command that something may follow is a step. -/
theorem step_chars {c : Command} (hc : c.isTerminal = false) (hkeys : ∀ k ∈ c.keys, k.IsExact) :
    Step (commandChars c) c := by
  cases c with
  | select key => exact step_key (hkeys key (by simp [Command.keys]))
  | iterate span =>
    cases span with
    | all => exact .all
    | range start stop => exact .range (bound_chars start) (bound_chars stop)
  | assign key value => cases hc
  | call calls => cases hc
  | list items => cases hc

theorem statementChars_append (st st' : Statement) :
    statementChars (st ++ st') = statementChars st ++ statementChars st' := by
  induction st with
  | nil => simp [statementChars]
  | cons c st ih => simp [statementChars, ih]

/-- Steps go on with the text of further ones. -/
theorem Steps.behind {t : List Char} {done st : Statement} (h : Steps t done)
    (hst : ∀ c ∈ st, c.isTerminal = false) (hkeys : ∀ c ∈ st, ∀ k ∈ c.keys, k.IsExact) :
    Steps (t ++ statementChars st) (done ++ st) := by
  induction st generalizing t done with
  | nil => simpa [statementChars] using h
  | cons c st ih =>
    obtain ⟨hc, hst⟩ := List.forall_mem_cons.mp hst
    obtain ⟨hkey, hkeys⟩ := List.forall_mem_cons.mp hkeys
    have hmore := ih (h.snoc (step_chars hc hkey)) hst hkeys
    rw [List.append_assoc, List.append_assoc] at hmore
    exact hmore

/-! ## §4. Queries. -/

theorem items_chars {os : List Operand} (h : ∀ o ∈ os, Item (operandChars o) o) :
    Items (operandsChars os) os := by
  induction os with
  | nil =>
    simp only [operandsChars]
    exact .none (by simp [Blanks])
  | cons o os ih =>
    obtain ⟨ho, hos⟩ := List.forall_mem_cons.mp h
    have hitems : Items ([] ++ operandChars o ++ [] ++ ',' :: operandsChars os) (o :: os) :=
      .more (by simp [Blanks]) ho (by simp [Blanks]) (ih hos)
    rw [List.nil_append, List.append_nil] at hitems
    simpa only [operandsChars] using hitems

theorem called_chars {c : Call} (hname : c.name ≠ "")
    (h : ∀ o ∈ c.args, Item (operandChars o) o) : Called (callChars c) c := by
  obtain ⟨name, args⟩ := c
  have htoken : Token endsName (escape isSpecial name.toList) name.toList :=
    token_escape (fun d hd => (Bool.and_eq_true_iff.mp hd).1) _
  have hne : name.toList ≠ [] := by simpa [Call.name] using hname
  have hcalled := Called.mk htoken hne (items_chars h)
  rw [String.ofList_toList] at hcalled
  simpa only [callChars, Call.args] using hcalled

theorem calls_chars {cs : List Call} (hne : cs ≠ [])
    (h : ∀ c ∈ cs, Called (callChars c) c) : Calls (callsChars cs) cs := by
  induction cs with
  | nil => exact absurd rfl hne
  | cons c cs ih =>
    obtain ⟨hc, hcs⟩ := List.forall_mem_cons.mp h
    simp only [callsChars]
    cases cs with
    | nil =>
      rw [callsChars, List.append_nil]
      exact .one hc
    | cons c' cs => exact .more hc (ih (List.cons_ne_nil _ _) hcs)

/-- A statement is written as its steps are, and then its last command. -/
theorem commands_chars {st : Statement} (hlast : ∀ c ∈ st.dropLast, c.isTerminal = false)
    (hlist : ∀ items, Command.list items ∈ st → st = [.list items])
    (hcalls : ∀ calls, Command.call calls ∈ st → calls ≠ [] ∧ ∀ c ∈ calls, c.name ≠ "")
    (hkeys : ∀ c ∈ st, ∀ k ∈ c.keys, k.IsExact)
    (ho : ∀ c ∈ st, ∀ site o, c.Holds site o →
      Item (operandChars o) o ∧ Assigned (operandChars o) o) :
    Commands (statementChars st) st := by
  cases hst : st.getLast? with
  | none =>
    rw [List.getLast?_eq_none_iff.mp hst]
    exact .steps .nil
  | some last =>
    obtain ⟨steps, rfl⟩ := List.getLast?_eq_some_iff.mp hst
    rw [List.dropLast_concat] at hlast
    obtain ⟨hkeys, hkey⟩ := List.forall_mem_append.mp hkeys
    have hmem : last ∈ steps ++ [last] := List.mem_append_right _ (List.mem_singleton.mpr rfl)
    have hsteps : Steps (statementChars steps) steps := by
      simpa using Steps.nil.behind hlast hkeys
    have hkey := hkey last (List.mem_singleton.mpr rfl)
    have ho := ho last hmem
    rw [statementChars_append]
    simp only [statementChars, List.append_nil]
    -- what stands before the last command are steps, whatever it is itself
    cases last with
    | select key => exact .steps (hsteps.snoc (step_chars rfl hkey))
    | iterate span => exact .steps (hsteps.snoc (step_chars rfl hkey))
    | assign key value =>
      have hassign := Commands.assign hsteps (step_key (hkey key (by simp [Command.keys])))
        (ho _ _ (.assigned key value)).2
      rw [List.append_assoc] at hassign
      simpa only [commandChars, List.cons_append] using hassign
    | call calls =>
      obtain ⟨hne, hnames⟩ := hcalls calls hmem
      have hcalled : ∀ c ∈ calls, Called (callChars c) c := fun c hc =>
        called_chars (hnames c hc) fun o hmem => (ho _ o (.argument hc hmem)).1
      simpa only [commandChars] using Commands.calls hsteps (calls_chars hne hcalled)
    | list items =>
      have hnil : steps = [] := by
        have halone := hlist items hmem
        simpa using halone
      have hitems := items_chars fun o hmem => (ho _ o (.element hmem)).1
      subst hnil
      simpa only [commandChars, statementChars, List.nil_append] using Commands.list hitems

theorem statements_chars {ss : List Statement} (hne : ss ≠ [])
    (h : ∀ st ∈ ss, Commands (statementChars st) st) : Statements (statementsChars ss) ss := by
  induction ss with
  | nil => exact absurd rfl hne
  | cons st ss ih =>
    obtain ⟨hst, hss⟩ := List.forall_mem_cons.mp h
    cases ss with
    | nil =>
      rw [statementsChars]
      exact .segment (.commands hst)
    | cons st' ss =>
      rw [statementsChars]
      exact .pipe (.commands hst) (ih (List.cons_ne_nil _ _) hss)

mutual

theorem WellFormed.commands {st : Statement} :
    Statement.WellFormed Key.IsExact Json.IsExact st → Commands (statementChars st) st
  | .mk hlast hlist hcalls hkeys ho =>
    commands_chars hlast hlist hcalls hkeys fun c hc site o h =>
      WellFormed.operand (ho c hc site o h)

theorem WellFormed.operand {o : Operand} : Operand.WellFormed Key.IsExact Json.IsExact o →
    Item (operandChars o) o ∧ Assigned (operandChars o) o
  | .literal hv => by
    have h := marked_literal hv
    rw [operandChars]
    exact ⟨.marked h, .literal (.marked h)⟩
  | .query hq => by
    obtain ⟨hstatements, hq⟩ := WellFormed.statements hq
    have hitem := Item.group (.mk hstatements)
    have hassigned := Assigned.group (.mk hstatements)
    rw [hq] at hitem hassigned
    rw [operandChars]
    exact ⟨hitem, hassigned⟩

theorem WellFormed.statements {q : Query} : q.WellFormed Key.IsExact Json.IsExact →
    Statements q.chars q.statements ∧ ofStatements q.statements = q
  | .single h => by
    have hcommands := WellFormed.commands h
    rw [Query.chars]
    exact ⟨.segment (.commands hcommands), rfl⟩
  | @Query.WellFormed.piped _ _ ss hlength h => by
    have hcommands : ∀ st ∈ ss, Commands (statementChars st) st := fun st hst =>
      WellFormed.commands (h st hst)
    rw [Query.chars]
    match ss, hlength with
    | st :: st' :: ss, _ => exact ⟨statements_chars (List.cons_ne_nil _ _) hcommands, rfl⟩

end

end Grammar

namespace Query

/-- The texts write well-formed queries only, and every well-formed query whose keys and literals
are exact is written by a text: its canonical one. -/
theorem parse_wellFormed :
    (∀ text q, parse text = .ok q → q.WellFormed (fun _ => True) Json.IsLiteral)
      ∧ ∀ q : Query, q.WellFormed Key.IsExact Json.IsExact → parse q.text = .ok q := by
  refine ⟨fun text q h => wellFormed_of_parse h, fun q h => ?_⟩
  obtain ⟨hstatements, hq⟩ := WellFormed.statements h
  rw [← String.toList_ofList (l := q.chars)] at hstatements
  have hparse := parse_of_statements q.text hstatements
  rwa [hq] at hparse

/-- An empty list, computed and written under the key `~`. -/
theorem parse_wellFormed_empty_list :
    parse ".s(~~)=([])" = .ok (.single [.assign (.name "~") (.query (.single [.list []]))]) := by
  have hlist : Statement.WellFormed Key.IsExact Json.IsExact [.list []] :=
    Statement.wellFormed_snoc [] (by simp) (by simp) (by simp) (by simp [Command.keys])
      (by rintro _ _ (_ | _ | h); cases h)
  have hassign : Statement.WellFormed Key.IsExact Json.IsExact
      [.assign (.name "~") (.query (.single [.list []]))] :=
    Statement.wellFormed_snoc [] (by simp) (by simp) (by simp)
      (by simp [Command.keys, Key.IsExact]) (by rintro _ _ ⟨⟩; exact .query (.single hlist))
  have htext : (Query.single [.assign (.name "~") (.query (.single [.list []]))]).text
      = ".s(~~)=([])" := by
    rfl
  rw [← htext]
  exact parse_wellFormed.2 _ (.single hassign)

end Query

end JsonQuery
