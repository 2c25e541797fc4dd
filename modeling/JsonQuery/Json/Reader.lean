/-
  JsonQuery.Json.Reader
  ─────────────────────
  Reading JSON text.  The text is cut into tokens from left to right, and each token
  moves a machine whose state holds the containers that are open (`Reader.step`).
  The machine looks at one token at a time and never back.

  The format is strict: white space is blank, TAB, LF and CR only, strings hold no
  control characters, a `\u` escape stands for a character or is half of a surrogate
  pair, and nothing may follow the value.  At most 127 containers may be open at once.
  A key that comes again keeps its first position and takes the last value.
-/
import JsonQuery.Json.Number

namespace JsonQuery

/-! ## §1. Tokens. -/

/-- A token of JSON text. -/
inductive Token where
  | openArray | closeArray | openObject | closeObject | comma | colon
  /-- A string, which may be a value or a key. -/
  | text (s : String)
  /-- Any other scalar: null, a boolean or a number. -/
  | scalar (v : Json)

namespace Token

/-- The white space of JSON. -/
def isSpace (c : Char) : Bool := c == ' ' || c == '\t' || c == '\n' || c == '\r'

/-- The value of a hexadecimal digit. -/
def hexDigit? (c : Char) : Option Nat :=
  if '0' ≤ c ∧ c ≤ '9' then some (c.toNat - '0'.toNat)
  else if 'a' ≤ c ∧ c ≤ 'f' then some (c.toNat - 'a'.toNat + 10)
  else if 'A' ≤ c ∧ c ≤ 'F' then some (c.toNat - 'A'.toNat + 10)
  else none

/-- The number written by four hexadecimal digits. -/
def hexUnit? (a b c d : Char) : Option Nat := do
  some (4096 * (← hexDigit? a) + 256 * (← hexDigit? b) + 16 * (← hexDigit? c) + (← hexDigit? d))

/-- The character that a one-letter escape stands for. -/
def escaped? : Char → Option Char
  | '"' => some '"'
  | '\\' => some '\\'
  | '/' => some '/'
  | 'b' => some '\x08'
  | 'f' => some '\x0c'
  | 'n' => some '\n'
  | 'r' => some '\r'
  | 't' => some '\t'
  | _ => none

/-- The rest of a string after its opening quote, and its length with the closing quote. `high` is
the first half of a surrogate pair whose second half has to come next; `read` holds the characters
read so far, last first, and `length` counts the text used. -/
def readText (high : Option Nat) (read : List Char) (length : Nat) :
    List Char → Option (String × Nat)
  | '"' :: _ => if high.isSome then none else some (String.ofList read.reverse, length + 1)
  | '\\' :: 'u' :: a :: b :: c :: d :: rest => do
    let unit ← hexUnit? a b c d
    match high with
    | none =>
      if 0xD800 ≤ unit ∧ unit < 0xDC00 then readText (some unit) read (length + 6) rest
      else if 0xDC00 ≤ unit ∧ unit < 0xE000 then none
      else readText none (Char.ofNat unit :: read) (length + 6) rest
    | some first =>
      if 0xDC00 ≤ unit ∧ unit < 0xE000 then
        let code := 0x10000 + 0x400 * (first - 0xD800) + (unit - 0xDC00)
        readText none (Char.ofNat code :: read) (length + 6) rest
      else none
  | '\\' :: c :: rest => do
    let e ← escaped? c
    if high.isSome then none else readText none (e :: read) (length + 2) rest
  | c :: rest =>
    if high.isSome || c.toNat < 0x20 || c == '\\' then none
    else readText none (c :: read) (length + 1) rest
  | [] => none

/-- A word at the start of the text. -/
def readWord (word : String) (v : Json) (text : List Char) : Option (Token × Nat) :=
  if word.toList.isPrefixOf text then some (.scalar v, word.length) else none

/-- The token that begins with the character `c` before `rest`, and its length. -/
def first (c : Char) (rest : List Char) : Option (Token × Nat) :=
  match c with
  | '[' => some (.openArray, 1)
  | ']' => some (.closeArray, 1)
  | '\x7b' => some (.openObject, 1)
  | '\x7d' => some (.closeObject, 1)
  | ',' => some (.comma, 1)
  | ':' => some (.colon, 1)
  | '"' => (readText none [] 1 rest).map fun (s, n) => (.text s, n)
  | 'n' => readWord "null" .null (c :: rest)
  | 't' => readWord "true" (.bool true) (c :: rest)
  | 'f' => readWord "false" (.bool false) (c :: rest)
  | _ => do
    let (numeral, n) ← Numeral.read (c :: rest)
    some (.scalar (← numeral.value), n)

end Token

/-! ## §2. The machine. -/

/-- A container that is open, with what it holds so far. -/
inductive Frame where
  /-- An array, its items last first. -/
  | array (items : List Json)
  /-- An object, its complete entries, and the key whose value is being read. -/
  | object (entries : Entries) (key : String)

/-- Where the machine stands; the open containers are listed innermost first. -/
inductive Reader where
  /-- A value has to come next; `mayClose` right after the opening bracket of an array. -/
  | value (mayClose : Bool) (outer : List Frame)
  /-- In an object, a key has to come next; `mayClose` right after the opening brace. -/
  | key (mayClose : Bool) (entries : Entries) (outer : List Frame)
  /-- In an object, the colon after a key has to come next. -/
  | colon (entries : Entries) (key : String) (outer : List Frame)
  /-- A value is complete. -/
  | complete (v : Json) (outer : List Frame)

namespace Reader

/-- How many containers may be open at once. -/
def maxDepth : Nat := 127

/-- Before the first token. -/
def start : Reader := .value false []

/-- The machine after one more token, or nothing where the token may not stand. -/
def step : Reader → Token → Option Reader
  | .value _ outer, .openArray =>
    if outer.length < maxDepth then some (.value true (.array [] :: outer)) else none
  | .value _ outer, .openObject =>
    if outer.length < maxDepth then some (.key true [] outer) else none
  | .value _ outer, .text s => some (.complete (.str s) outer)
  | .value _ outer, .scalar v => some (.complete v outer)
  | .value true (.array items :: outer), .closeArray => some (.complete (.arr items.reverse) outer)
  | .key _ entries outer, .text s => some (.colon entries s outer)
  | .key true entries outer, .closeObject => some (.complete (.obj entries) outer)
  | .colon entries k outer, .colon => some (.value false (.object entries k :: outer))
  | .complete v (.array items :: outer), .comma =>
    some (.value false (.array (v :: items) :: outer))
  | .complete v (.array items :: outer), .closeArray =>
    some (.complete (.arr (v :: items).reverse) outer)
  | .complete v (.object entries k :: outer), .comma =>
    some (.key false (entries.put k v) outer)
  | .complete v (.object entries k :: outer), .closeObject =>
    some (.complete (.obj (entries.put k v)) outer)
  | _, _ => none

/-- The machine after all tokens of the text. -/
def run (r : Reader) (text : List Char) : Option Reader :=
  match text with
  | [] => some r
  | c :: rest =>
    if Token.isSpace c then run r rest
    else
      match Token.first c rest with
      | none => none
      | some (token, length) =>
        match r.step token with
        | none => none
        | some r => run r (rest.drop (length - 1))
termination_by text.length
decreasing_by all_goals simp only [List.length_cons, List.length_drop]; omega

/-- The value read, if it is complete. -/
def result? : Reader → Option Json
  | .complete v [] => some v
  | _ => none

end Reader

/-- The value that a JSON text holds, if it is well-formed. -/
def Json.read? (text : String) : Option Json :=
  (Reader.start.run text.toList).bind Reader.result?

end JsonQuery
