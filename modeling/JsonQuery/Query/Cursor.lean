/-
  JsonQuery.Query.Cursor
  ──────────────────────
  A place in a query text, counted in characters.  A cursor looks ahead, moves on and
  reports errors at its place.

  Amounts and offsets are 64-bit words, and so are their sums with the place: a sum that
  leaves the word wraps around.  The place itself is then cut to the length of the text.
-/
import JsonQuery.Query.Fault

namespace JsonQuery

/-- A place in a text. -/
structure Cursor where
  text : List Char
  /-- How many characters stand before the place. -/
  index : Nat

namespace Cursor

/-! ## §1. Looking ahead. -/

/-- The beginning of a text. -/
def ofString (text : String) : Cursor := ⟨text.toList, 0⟩

/-- How many characters the whole text has. -/
def length (c : Cursor) : Nat := c.text.length

/-- Whether the whole text is empty. -/
def isEmpty (c : Cursor) : Bool := c.text.isEmpty

/-- The text from the place on. -/
def rest (c : Cursor) : List Char := c.text.drop c.index

/-- Whether a character stands at the place. -/
def hasMore (c : Cursor) : Bool := c.index < c.text.length

/-- The place that lies a word further on, as a word. -/
def wordAfter (c : Cursor) (amount : UInt64) : Nat := (c.index + amount.toNat) % UInt64.size

/-- The character at the place. -/
def current? (c : Cursor) : Option Char := c.text[c.index]?

/-- The character `offset` places further on. -/
def peekChar? (c : Cursor) (offset : UInt64) : Option Char := c.text[c.wordAfter offset]?

/-- The characters from the place up to another one, which must not lie before it. -/
def cut? (c : Cursor) (stop : Nat) : Option String :=
  if c.index ≤ stop then some (String.ofList (c.rest.take (stop - c.index))) else none

/-- Up to `length` characters from the place on; nothing at the end of the text. The call breaks off
(`none`) if the end of those characters lies before the place. -/
def peek (c : Cursor) (length : UInt64) : Option (Option String) :=
  if c.hasMore then (c.cut? (min (c.wordAfter length) c.text.length)).map some else some none

/-- What `peek` shows, if it shows anything. -/
def peek? (c : Cursor) (length : UInt64) : Option String := (c.peek length).join

/-- Whether the text from the place on begins with the pattern, which must not be empty. -/
def startsWith (c : Cursor) (pattern : String) : Bool :=
  c.hasMore && !pattern.isEmpty &&
    pattern.toList.zipIdx.all fun (expected, offset) =>
      c.peekChar? (.ofNat offset) == some expected

/-- Whether the text from the place on begins with one of the patterns. -/
def startsWithAny (c : Cursor) (patterns : List String) : Bool := patterns.any c.startsWith

/-- Whether one of the characters stands at the place. -/
def atAny (c : Cursor) (chars : List Char) : Bool := c.current?.any chars.contains

/-! ## §2. Moving on. -/

/-- Move on, at most to the end of the text. -/
def advance (c : Cursor) (amount : UInt64) : Cursor :=
  { c with index := min (c.wordAfter amount) c.text.length }

/-- The character at the place, and the cursor behind it. -/
def next (c : Cursor) : Option Char × Cursor := (c.current?, c.advance 1)

/-! ## §3. Errors. -/

/-- An error at any place of the text. -/
def errorAt (c : Cursor) (index : Nat) (kind : FaultKind) (message : String) : ParseError :=
  ⟨kind, String.ofList c.text, index, message⟩

/-- An error at the place of the cursor. -/
def error (c : Cursor) (kind : FaultKind) (message : String) : ParseError :=
  c.errorAt c.index kind message

/-- How many characters the longest of the patterns has. -/
def width (patterns : List String) : Nat :=
  if patterns.isEmpty then 1 else (patterns.map String.length).foldl max 0

/-- Fail unless the text from the place on begins with one of the patterns. What is found is shown
as wide as the longest pattern. -/
def expect (c : Cursor) (patterns : List String) : Except ParseError Unit :=
  let fail (reason : Reason) := throw (c.error reason.kind reason.message)
  if !c.hasMore then fail (.missing patterns)
  else if c.startsWithAny patterns then pure ()
  else fail (.instead ((c.peek? (.ofNat (width patterns))).getD "") patterns)

end Cursor

/-- The error for a fault met while reading a text: its place is where the rest begins. -/
def Fault.toError (f : Fault) (text : List Char) : ParseError :=
  let place : Cursor := ⟨text, text.length - f.rest.length⟩
  place.error f.reason.kind f.reason.message

end JsonQuery
