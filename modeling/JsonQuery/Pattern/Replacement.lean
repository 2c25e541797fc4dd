/-
  JsonQuery.Pattern.Replacement
  ─────────────────────────────
  Replacing every match of a pattern.  A replacement may refer to groups: `$name`, where
  the name is as long as it can be, or the name between braces; `$$` is a dollar sign.
  A group that does not exist or took no part in the match is empty.
-/
import JsonQuery.Pattern.Reader
import JsonQuery.Pattern.Search

namespace JsonQuery.Pattern

/-! ## §1. Templates. -/

/-- A part of a replacement. -/
inductive Part where
  | char (c : Char)
  | group (name : String)

/-- Whether a character belongs to a name without braces. -/
def isNameChar (c : Char) : Bool := c.isAlphanum || c == '_'

/-- The part at the start of a replacement behind a dollar sign, and its length. A dollar sign that
begins no reference stands for itself. -/
def readPart (text : List Char) : Part × Nat :=
  match text with
  | '$' :: _ => (.char '$', 1)
  | '\x7b' :: rest =>
    let name := rest.takeWhile (· != '\x7d')
    if name.length < rest.length then (.group (String.ofList name), name.length + 2)
    else (.char '$', 0)
  | text =>
    let name := text.takeWhile isNameChar
    if name.isEmpty then (.char '$', 0) else (.group (String.ofList name), name.length)

/-- The parts of a replacement. -/
def readParts (text : List Char) : List Part :=
  match text with
  | [] => []
  | c :: rest =>
    if c = '$' then
      let (part, n) := readPart rest
      part :: readParts (rest.drop n)
    else .char c :: readParts rest
termination_by text.length
decreasing_by all_goals simp only [List.length_cons, List.length_drop]; omega

/-- The number that a name writes, if it is one. -/
def groupNumber? (name : String) : Option Nat :=
  let digits := match name.toList with
    | '+' :: rest => rest
    | text => text
  let n := digits.foldl (fun n d => 10 * n + (d.toNat - '0'.toNat)) 0
  if digits.isEmpty || !digits.all Char.isDigit || UInt32.size ≤ n then none else some n

/-- The text of a group of a match; `text` is the text from `index` on. -/
def groupText (m : Match) (index : Nat) (text : List Char) (group : Nat) : List Char :=
  match m.slots.getD (2 * group) none, m.slots.getD (2 * group + 1) none with
  | some start, some stop => (text.drop (start - index)).take (stop - start)
  | _, _ => []

/-- The text of a part for a match. -/
def Part.expand (names : List (String × Nat)) (m : Match) (index : Nat) (text : List Char) :
    Part → List Char
  | .char c => [c]
  | .group name =>
    match (groupNumber? name).or (names.lookup name) with
    | some i => groupText m index text i
    | none => []

/-! ## §2. All matches. -/

/-- A text with every match replaced. `previous` is the character before it and `index` its place;
`lastStop` is where the last match ended: an empty match there is none. -/
def replaceFrom (m : Matcher) (expand : Match → Nat → List Char → List Char)
    (previous : Option Char) (index : Nat) (lastStop : Option Nat) (text : List Char) :
    List Char :=
  match m.find? previous index text with
  | none => text
  | some found =>
    let skipped := text.take (found.start - index)
    let isEmpty := found.start == found.stop
    let image := if isEmpty && lastStop == some found.stop then [] else expand found index text
    -- an empty match is found again at its own end, so the search goes on one character later
    let passed := if isEmpty then (text.drop (found.start - index)).take 1 else []
    let length := found.stop - index + isEmpty.toNat
    match _h : text.drop (length - 1) with
    | [] => skipped ++ image
    | last :: rest =>
      skipped ++ image ++ passed
        ++ replaceFrom m expand (some last) (index + length) (some found.stop) rest
termination_by text.length
decreasing_by
  have := congrArg List.length _h
  simp only [List.length_cons, List.length_drop] at this
  omega

/-- A string with every match of a pattern replaced. -/
def Named.replaceAll (p : Named) (text replacement : String) : String :=
  let parts := readParts replacement.toList
  let expand (m : Match) (index : Nat) (text : List Char) : List Char :=
    parts.flatMap (Part.expand p.names m index text)
  String.ofList
    (replaceFrom (.ofPattern p.pattern p.groups) expand none 0 none text.toList)

/-- Whether a pattern matches anywhere in a string. -/
def Named.test (p : Named) (text : String) : Bool :=
  (Matcher.ofPattern p.pattern p.groups).test text.toList

end JsonQuery.Pattern
