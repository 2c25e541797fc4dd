/-
  JsonQuery.Pattern.Reader
  ────────────────────────
  Reading the text of a pattern.  A machine goes through the text from left to right; its
  state holds the groups that are open, each with the alternatives and the pieces read so
  far.  Classes in brackets have a machine of their own, whose state holds the brackets
  that are open.

  There are no conditions that look beyond a place and no references to groups; a text
  that writes one is no pattern.  Nor is a text that nests too deep, or one whose classes
  leave ASCII by what they exclude although its flags keep them there.
-/
import JsonQuery.Pattern.Basic
import JsonQuery.Pattern.Property
import JsonQuery.Pattern.Room
import JsonQuery.Text.Blank

namespace JsonQuery

namespace Pattern

/-! ## §1. Flags. -/

/-- What may be switched on and off inside a pattern. -/
structure Flags where
  /-- Case does not count. -/
  caseless : Bool := false
  /-- `^` and `$` stand for the ends of lines. -/
  multiLine : Bool := false
  /-- The point stands for line ends too. -/
  dotAll : Bool := false
  /-- Repetitions are greedy only with a question mark. -/
  swapGreed : Bool := false
  /-- Classes and case go beyond ASCII. -/
  unicode : Bool := true
  /-- Lines end with CR, LF or both. -/
  crlf : Bool := false
  /-- White space and comments do not count. -/
  spaced : Bool := false

namespace Flags

/-- The flags with one of them switched. -/
def set (f : Flags) (on : Bool) : Char → Option Flags
  | 'i' => some { f with caseless := on }
  | 'm' => some { f with multiLine := on }
  | 's' => some { f with dotAll := on }
  | 'U' => some { f with swapGreed := on }
  | 'u' => some { f with unicode := on }
  | 'R' => some { f with crlf := on }
  | 'x' => some { f with spaced := on }
  | _ => none

/-- A class with the variants that the flags ask for. -/
def fold (f : Flags) (c : CharClass) : CharClass :=
  if !f.caseless then c
  else if f.unicode then c.caseless Text.foldRuns
  else c.caseless Text.asciiFoldRuns

/-- A class or everything outside it, if the flags allow it: without classes beyond ASCII, it must
be inside ASCII. -/
def signed (f : Flags) (negated : Bool) (c : CharClass) : Option CharClass :=
  let c := if negated then c.compl else c
  if f.unicode || c.below 0x80 then some c else none

/-- The characters that the point stands for. -/
def dot (f : Flags) : Option CharClass :=
  f.signed true (if f.dotAll then [] else if f.crlf then [(0x0A, 0x0A), (0x0D, 0x0D)]
    else .single 0x0A)

/-- A condition under the flags. -/
def look (f : Flags) (l : Look) : Pattern := .look (f.unicode && l.isOfWords) l

/-- The condition that `^` stands for. -/
def caret (f : Flags) : Look :=
  if !f.multiLine then .textStart else if f.crlf then .crlfLineStart else .lineStart

/-- The condition that `$` stands for. -/
def dollar (f : Flags) : Look :=
  if !f.multiLine then .textEnd else if f.crlf then .crlfLineEnd else .lineEnd

/-- How many characters at the start of the text do not count; `comment` inside a comment. -/
def skipFrom (comment : Bool) : List Char → Nat
  | [] => 0
  | c :: rest =>
    if comment then 1 + skipFrom (c != '\n') rest
    else if Text.isBlank c then 1 + skipFrom false rest
    else if c == '#' then 1 + skipFrom true rest
    else 0

/-- How many characters at the start of the text do not count. -/
def skip (f : Flags) (text : List Char) : Nat := if f.spaced then skipFrom false text else 0

/-- The characters at the start of the text that pass a test, and the length of what they take. What
does not count may stand behind each of them. -/
def takeWhile (f : Flags) (test : Char → Bool) (text : List Char) : List Char × Nat :=
  match text with
  | [] => ([], 0)
  | c :: rest =>
    if test c then
      let blanks := f.skip rest
      let (cs, n) := takeWhile f test (rest.drop blanks)
      (c :: cs, 1 + blanks + n)
    else ([], 0)
termination_by text.length
decreasing_by simp only [List.length_cons, List.length_drop]; omega

/-- So many characters from the start of the text, and the length of what they take. -/
def take (f : Flags) : Nat → List Char → List Char × Nat
  | count + 1, c :: rest =>
    let blanks := f.skip rest
    let (cs, n) := take f count (rest.drop blanks)
    (c :: cs, 1 + blanks + n)
  | _, _ => ([], 0)

/-- The text up to a closing brace, without what does not count, and its length with the brace. -/
def braced (f : Flags) (text : List Char) : Option (List Char × Nat) :=
  let blanks := f.skip text
  let (content, n) := f.takeWhile (· != '\x7d') (text.drop blanks)
  if (text.drop (blanks + n)).isEmpty then none else some (content, blanks + n + 1)

/-- The flags written from behind `(?`, up to the colon or bracket that ends them: the flags, how
many signs there are, and the rest from the end on. `seen` holds the signs so far. -/
def read (f : Flags) (seen : List Char) : List Char → Option (Flags × Nat × List Char)
  | [] => none
  | c :: rest =>
    if c == ':' || c == ')' then
      if seen.head? = some '-' then none else some (f, seen.length, c :: rest)
    else if seen.contains c then none
    else if c == '-' then read f (c :: seen) rest
    else do read (← f.set (!seen.contains '-') c) (c :: seen) rest

end Flags

/-! ## §2. Escapes. -/

/-- What a single character or an escape stands for. -/
inductive Primitive where
  | char (code : Nat)
  | charClass (c : CharClass)
  | look (l : Look)

/-- The value of a hexadecimal digit. -/
def hexDigit? (c : Char) : Option Nat :=
  let c := c.toLower
  if '0' ≤ c ∧ c ≤ '9' then some (c.toNat - '0'.toNat)
  else if 'a' ≤ c ∧ c ≤ 'f' then some (c.toNat - 'a'.toNat + 10)
  else none

/-- The character that hexadecimal digits write, if there is one. -/
def hexCode? (digits : List Char) : Option Nat := do
  if digits.isEmpty then none
  let ns ← digits.mapM hexDigit?
  let n := ns.foldl (fun n d => 16 * n + d) 0
  if n < 0xD800 ∨ (0xE000 ≤ n ∧ n < 0x110000) then some n else none

/-- A character written by its code point: between braces, or by a fixed number of digits. Two
digits write a byte, which is a character beyond ASCII only if the flags allow one. -/
def readHex (f : Flags) (width : Nat) (text : List Char) : Option (Primitive × Nat) := do
  let blanks := f.skip text
  match text.drop blanks with
  | '\x7b' :: rest =>
    let (digits, n) ← f.braced rest
    some (.char (← hexCode? digits), blanks + 1 + n)
  | rest =>
    let (digits, n) := f.take width rest
    let code ← hexCode? digits
    if digits.length < width ∨ (width = 2 ∧ !f.unicode ∧ 0x80 ≤ code) then none
    else some (.char code, blanks + n)

/-- Whether a character stands for itself behind a backslash. -/
def isEscapable (c : Char) : Bool := c.toNat < 0x80 && !c.isAlphanum && c != '<' && c != '>'

/-- The condition of a word, written in braces behind `\b`. -/
def wordLook? : String → Option Look
  | "start" => some .wordStart
  | "end" => some .wordEnd
  | "start-half" => some .wordStartHalf
  | "end-half" => some .wordEndHalf
  | _ => none

/-- Whether a character may stand in the name of a condition of a word. -/
def isLookSign (c : Char) : Bool := c.isAlpha || c == '-'

/-- The condition behind `\b`. Braces that do not begin with a letter or dash are no part of it. -/
def readWordLook (f : Flags) (text : List Char) : Option (Primitive × Nat) :=
  match text with
  | '\x7b' :: rest =>
    let blanks := f.skip rest
    let (name, n) := f.takeWhile isLookSign (rest.drop blanks)
    let behind := rest.drop (blanks + n)
    -- the brace may be that of a counted repetition
    if name.isEmpty && !behind.isEmpty then some (.look .wordBoundary, 0)
    else if behind.head? != some '\x7d' then none
    else (wordLook? (String.ofList name)).map fun l => (.look l, blanks + n + 2)
  | _ => some (.look .wordBoundary, 0)

/-- The class that a letter stands for. -/
def letterClass (f : Flags) : Char → Option CharClass
  | 'd' => some (.digit f.unicode)
  | 's' => some (.space f.unicode)
  | 'w' => some (.word f.unicode)
  | _ => none

/-- A class by a property, from behind `\p`: a letter, or a description between braces. -/
def readProperty (f : Flags) (negated : Bool) (text : List Char) : Option (Primitive × Nat) := do
  let blanks := f.skip text
  let (content, n) ← match text.drop blanks with
    | [] => none
    | '\x7b' :: rest => (f.braced rest).map fun (content, n) => (content, n + 1)
    | rest => some (f.take 1 rest)
  if !f.unicode then none else
  let d ← Description.read? content
  some (.charClass (← f.signed (negated != d.differs) (f.fold d.set.ranges)), blanks + n)

/-- What an escape stands for, from behind its backslash, and its length. -/
def readEscape (f : Flags) (text : List Char) : Option (Primitive × Nat) := do
  match text with
  | [] => none
  | c :: rest =>
    let plain (code : Nat) : Option (Primitive × Nat) := some (.char code, 1)
    let longer (found : Option (Primitive × Nat)) : Option (Primitive × Nat) :=
      found.map fun (p, n) => (p, n + 1)
    match c with
    | 'x' => longer (readHex f 2 rest)
    | 'u' => longer (readHex f 4 rest)
    | 'U' => longer (readHex f 8 rest)
    | 'p' => longer (readProperty f false rest)
    | 'P' => longer (readProperty f true rest)
    | 'b' => longer (readWordLook f rest)
    | 'B' => some (.look .notWordBoundary, 1)
    | 'A' => some (.look .textStart, 1)
    | 'z' => some (.look .textEnd, 1)
    | '<' => some (.look .wordStart, 1)
    | '>' => some (.look .wordEnd, 1)
    | 'a' => plain 0x07
    | 'f' => plain 0x0C
    | 't' => plain 0x09
    | 'n' => plain 0x0A
    | 'r' => plain 0x0D
    | 'v' => plain 0x0B
    | c =>
      match letterClass f c.toLower with
      | some a => do some (.charClass (← f.signed c.isUpper a), 1)
      | none => if isEscapable c then plain c.toNat else none

/-! ## §3. Nesting. -/

/-- Something that was read, and how deep it is nested: how many groups, classes, repetitions,
sequences and choices lie around its innermost part, itself among them. -/
structure Nested (α : Type) where
  value : α
  depth : Nat

/-- A text that nests deeper than this is no pattern. -/
def maxDepth : Nat := 250

/-! ## §4. Classes in brackets. -/

/-- The operations between the parts of a class. -/
inductive SetOperation where
  | inter | diff | symmDiff

/-- A bracket that is open. -/
structure Bracket where
  negated : Bool
  /-- The part before an operation, and the operation. -/
  left : Option (Nested CharClass × SetOperation)
  /-- The part that is being read, as deep as its deepest item. -/
  items : Nested CharClass
  /-- How many items it has. -/
  count : Nat

namespace Bracket

/-- The bracket with one more item. -/
def add (b : Bracket) (item : Nested CharClass) : Bracket :=
  { b with
    items := ⟨b.items.value.union item.value, max b.items.depth item.depth⟩
    count := b.count + 1 }

/-- What an operation makes of two classes. -/
def combine (f : Flags) (op : SetOperation) (a b : CharClass) : CharClass :=
  match op with
  | .inter => (f.fold a).inter (f.fold b)
  | .diff => (f.fold a).diff (f.fold b)
  | .symmDiff => (f.fold a).symmDiff (f.fold b)

/-- Everything read so far, as far as the operations go. -/
def content (f : Flags) (b : Bracket) : Nested CharClass :=
  let depth := if b.count ≤ 1 then b.items.depth else b.items.depth + 1
  match b.left with
  | none => ⟨b.items.value, depth⟩
  | some (l, op) => ⟨combine f op l.value b.items.value, max l.depth depth + 1⟩

/-- The bracket after an operation sign. -/
def operate (f : Flags) (op : SetOperation) (b : Bracket) : Bracket :=
  { b with left := some (b.content f, op), items := ⟨[], 0⟩, count := 0 }

/-- The class that the closed bracket writes. -/
def close (f : Flags) (b : Bracket) : Option (Nested CharClass) := do
  let c := b.content f
  return ⟨← f.signed b.negated (f.fold c.value), c.depth + 1⟩

/-- A bracket from behind its opening character, and how much of the text opens it: the sign that
negates it, dashes, and a closing bracket that stands for itself. -/
def begin (f : Flags) (text : List Char) : Bracket × Nat :=
  let start := f.skip text
  let negated := (text.drop start).head? == some '^'
  let signs := if negated then start + (f.take 1 (text.drop start)).2 else start
  let (dashes, n) := f.takeWhile (· == '-') (text.drop signs)
  let behind := signs + n
  if !dashes.isEmpty then (⟨negated, none, ⟨.single '-'.toNat, 0⟩, dashes.length⟩, behind)
  else if (text.drop behind).head? == some ']' then
    (⟨negated, none, ⟨.single ']'.toNat, 0⟩, 1⟩, behind + (f.take 1 (text.drop behind)).2)
  else (⟨negated, none, ⟨[], 0⟩, 0⟩, behind)

end Bracket

/-- A named set of ASCII characters from behind its opening bracket: the set, whether it is negated,
and the length of its text. -/
def readAsciiClass (text : List Char) : Option (CharClass × Bool × Nat) := do
  match text with
  | ':' :: rest =>
    let negated := rest.head? == some '^'
    let body := if negated then rest.drop 1 else rest
    let name := body.takeWhile (· != ':')
    if [':', ']'].isPrefixOf (body.drop name.length) then
      let c ← CharClass.ascii? (String.ofList name)
      some (c, negated, name.length + 3 + negated.toNat)
    else none
  | _ => none

/-- A character or escape inside brackets, and its length. -/
def readMember (f : Flags) (text : List Char) : Option (Primitive × Nat) := do
  let (p, n) ← match text with
    | [] => none
    | '\\' :: rest => (readEscape f rest).map fun (p, n) => (p, n + 1)
    | c :: _ => some (.char c.toNat, 1)
  match p with
  | .char code => if f.unicode || code < 0x80 then some (p, n) else none
  | _ => some (p, n)

/-- The character that decides whether a dash makes a range, from behind the dash: the first that is
no blank, or inside a comment whose sign has been passed. If there is none, it is the very first. -/
def decisive (f : Flags) (text : List Char) : Option Char :=
  if !f.spaced then text.head?
  else
    let signs := text.filter fun c => !Text.isBlank c
    (match signs with
      | '#' :: rest => rest.head?
      | signs => signs.head?).or text.head?

/-- A member or range inside brackets, and its length. A dash before the closing bracket or before
another dash makes no range. -/
def readRange (f : Flags) (text : List Char) : Option (CharClass × Nat) := do
  let (low, n) ← readMember f text
  let n := n + f.skip (text.drop n)
  let next := decisive f (text.drop (n + 1))
  if (text.drop n).head? = some '-' ∧ next ≠ some ']' ∧ next ≠ some '-' then
    let n := n + 1 + f.skip (text.drop (n + 1))
    let (high, m) ← readMember f (text.drop n)
    match low, high with
    | .char a, .char b => if a ≤ b then some ([(a, b)], n + m) else none
    | _, _ => none
  else
    match low with
    | .char a => some (.single a, n)
    | .charClass c => some (c, n)
    | .look _ => none

/-- The operation that stands at the start of the text. -/
def operation? : List Char → Option SetOperation
  | '&' :: '&' :: _ => some .inter
  | '-' :: '-' :: _ => some .diff
  | '~' :: '~' :: _ => some .symmDiff
  | _ => none

/-- The class inside brackets, and the length of its text up to its closing bracket; `outer` are the
brackets around the innermost one. -/
def readClass (f : Flags) (inner : Bracket) (outer : List Bracket) (text : List Char) :
    Option (Nested CharClass × Nat) :=
  match text with
  | [] => none
  | c :: rest =>
    let go (inner : Bracket) (outer : List Bracket) (more : Nat) :
        Option (Nested CharClass × Nat) :=
      (readClass f inner outer (rest.drop more)).map fun (a, n) => (a, n + 1 + more)
    if 0 < f.skip (c :: rest) then go inner outer (f.skip (c :: rest) - 1)
    else if c == ']' then
      match inner.close f, outer with
      | none, _ => none
      | some a, [] => some (a, 1)
      | some a, b :: bs => go (b.add a) bs 0
    else if c == '[' then
      match readAsciiClass rest with
      | some (a, negated, n) =>
        match f.signed negated (f.fold a) with
        | some a => go (inner.add ⟨a, 0⟩) outer n
        | none => none
      | none =>
        -- what does not name a set of ASCII characters is a bracket like any other
        let (b, n) := Bracket.begin f rest
        go b (inner :: outer) n
    else
      match operation? (c :: rest) with
      | some op => go (inner.operate f op) outer 1
      | none =>
        match readRange f (c :: rest) with
        | some (a, n) => go (inner.add ⟨a, 0⟩) outer (n - 1)
        | none => none
termination_by text.length

/-! ## §5. Groups and repetitions. -/

/-- What stands in an alternative. -/
inductive Piece where
  | pattern (p : Nested Pattern)
  /-- Flags, which cannot be repeated. -/
  | flags

namespace Piece

/-- The pattern of a piece. -/
def value : Piece → Pattern
  | pattern p => p.value
  | flags => .empty

/-- How deep a piece is nested. -/
def depth : Piece → Nat
  | pattern p => p.depth
  | flags => 0

end Piece

/-- How deep parts one beside the other are nested; a single part stands for itself. -/
def depthBeside : List Nat → Nat
  | [] => 0
  | [d] => d
  | ds => ds.foldl max 0 + 1

/-- A group that is open, or the whole pattern. -/
structure Level where
  /-- The number by which its text is remembered. -/
  capture : Option Nat
  /-- The flags from before it, which hold again behind it. -/
  flags : Flags
  /-- The complete alternatives, last first. -/
  branches : List (Nested Pattern)
  /-- The pieces of the alternative that is being read, last first. -/
  pieces : List Piece

namespace Level

/-- The pieces one after another. -/
def branch (l : Level) : Nested Pattern :=
  ⟨l.pieces.foldl (fun tail piece => piece.value.append tail) .empty,
    depthBeside (l.pieces.map Piece.depth)⟩

/-- The alternatives one after another. -/
def alternatives (l : Level) : Nested Pattern :=
  ⟨oneOf (l.branches.reverse.map Nested.value ++ [l.branch.value]),
    depthBeside (l.branch.depth :: l.branches.map Nested.depth)⟩

/-- The pattern that the closed group writes. -/
def close (l : Level) : Nested Pattern :=
  let p := l.alternatives
  match l.capture with
  | some i => ⟨.capture i p.value, p.depth + 1⟩
  | none => ⟨p.value, p.depth + 1⟩

/-- The group with one more piece. -/
def add (l : Level) (p : Nested Pattern) : Level := { l with pieces := .pattern p :: l.pieces }

end Level

/-- Where the machine stands. -/
structure Reader where
  flags : Flags
  /-- How many groups are remembered. -/
  groups : Nat
  /-- The names of remembered groups. -/
  names : List (String × Nat)
  level : Level
  outer : List Level

namespace Reader

/-- Before the first character. -/
def start : Reader := ⟨{}, 0, [], ⟨none, {}, [], []⟩, []⟩

/-- The machine after one more piece. -/
def add (r : Reader) (p : Pattern) (depth : Nat := 0) : Reader :=
  { r with level := r.level.add ⟨p, depth⟩ }

/-- The machine after a character or escape. -/
def addPrimitive (r : Reader) : Primitive → Reader
  | .char n => r.add (.ofClass (r.flags.fold (.single n)))
  | .charClass c => r.add (.ofClass c)
  | .look l => r.add (r.flags.look l)

/-- The machine after a repetition of the last piece, which must be there. -/
def repeatLast (r : Reader) (min : Nat) (max : Option Nat) (greedy : Bool) : Option Reader :=
  match r.level.pieces with
  | .pattern p :: before =>
    let p : Nested Pattern :=
      ⟨repetition p.value min max (greedy != r.flags.swapGreed), p.depth + 1⟩
    some { r with level := { r.level with pieces := .pattern p :: before } }
  | _ => none

/-- A number, with blanks around it, and its length. -/
def readNumber (f : Flags) (text : List Char) : Option (Nat × Nat) :=
  let before := Text.blankCount text
  let (digits, length) := f.takeWhile Char.isDigit (text.drop before)
  let (_, after) := f.takeWhile Text.isBlank (text.drop (before + length))
  let n := digits.foldl (fun n d => 10 * n + (d.toNat - '0'.toNat)) 0
  if digits.isEmpty || UInt32.size ≤ n then none else some (n, before + length + after)

/-- The bounds of a counted repetition from behind its brace, and their length with the closing
brace. -/
def readCount (f : Flags) (text : List Char) : Option ((Nat × Option Nat) × Nat) := do
  let start := f.skip text
  let (low, n) ← readNumber f (text.drop start)
  let n := start + n
  match text.drop n with
  | '\x7d' :: _ => some ((low, some low), n + 1)
  | ',' :: rest =>
    let n := n + 1 + f.skip rest
    let rest := text.drop n
    if rest.head? = some '\x7d' then some ((low, none), n + 1)
    else
      let (high, m) ← readNumber f rest
      if (rest.drop m).head? = some '\x7d' ∧ low ≤ high then some ((low, some high), n + m + 1)
      else none
  | _ => none

/-- The machine after a repetition sign of the given length, behind which a question mark changes
the preference. -/
def addRepetition (r : Reader) (min : Nat) (max : Option Nat) (length : Nat) (rest : List Char) :
    Option (Reader × Nat) :=
  if rest.head? = some '?' then (r.repeatLast min max false).map (·, length + 1)
  else (r.repeatLast min max true).map (·, length)

/-- The letters that may stand in the name of a group, those of a later edition among them. -/
def nameLetter : CharClass := Text.CodeSet.alphabetic.ranges.union Text.laterAlphabetic

/-- The numbers that may stand in the name of a group, those of a later edition among them. -/
def nameNumber : CharClass := Text.CodeSet.number.ranges.union Text.laterNumber

/-- Whether the name of a group may hold the character, at its beginning or later. -/
def inName (first : Bool) (c : Char) : Bool :=
  c == '_' || nameLetter.contains c
    || (!first && (c == '.' || c == '[' || c == ']' || nameNumber.contains c))

/-- The machine inside a new group. -/
def openGroup (r : Reader) (capture : Option Nat) (inside : Flags) : Reader :=
  { r with flags := inside, level := ⟨capture, r.flags, [], []⟩, outer := r.level :: r.outer }

/-- The machine inside a new group that is remembered. -/
def openCapture (r : Reader) : Reader :=
  { r.openGroup (some (r.groups + 1)) r.flags with groups := r.groups + 1 }

/-- The machine inside a new group with a name, from the name on. -/
def openNamed (r : Reader) (text : List Char) : Option (Reader × Nat) :=
  let name := text.takeWhile (· != '>')
  let valid := match name with
    | [] => false
    | c :: cs => inName true c && cs.all (inName false)
  let s := String.ofList name
  if valid && name.length < text.length && (r.names.lookup s).isNone then
    some ({ r.openCapture with names := (s, r.groups + 1) :: r.names }, name.length + 1)
  else none

/-- The machine behind an opening bracket, and how much more of the text belongs to it. -/
def enterGroup (r : Reader) (text : List Char) : Option (Reader × Nat) := do
  let blanks := r.flags.skip text
  match text.drop blanks with
  | '?' :: 'P' :: '<' :: rest =>
    let (r, n) ← r.openNamed rest
    some (r, blanks + 3 + n)
  | '?' :: '<' :: rest =>
    -- a condition on the text before the place
    if rest.head? = some '=' ∨ rest.head? = some '!' then none
    else
      let (r, n) ← r.openNamed rest
      some (r, blanks + 2 + n)
  | '?' :: rest =>
    let (flags, n, after) ← r.flags.read [] rest
    -- flags before a colon hold in the group, flags alone up to the end of the group around them
    if after.head? = some ':' then some (r.openGroup none flags, blanks + n + 2)
    else if n = 0 then none
    else some ({ r with flags, level := { r.level with pieces := .flags :: r.level.pieces } },
      blanks + n + 2)
  | _ => some (r.openCapture, blanks)

/-- The machine behind a closing bracket. -/
def close (r : Reader) : Option Reader :=
  match r.outer with
  | [] => none
  | l :: ls => some { r with flags := r.level.flags, level := l.add r.level.close, outer := ls }

/-- The machine behind the sign between alternatives. -/
def alternate (r : Reader) : Reader :=
  { r with level := { r.level with branches := r.level.branch :: r.level.branches, pieces := [] } }

/-- The machine after the next sign of the text, and the length of the sign. -/
def step (r : Reader) (c : Char) (rest : List Char) : Option (Reader × Nat) :=
  if 0 < r.flags.skip (c :: rest) then some (r, r.flags.skip (c :: rest))
  else
    match c with
    | '(' => (r.enterGroup rest).map fun (r, n) => (r, n + 1)
    | ')' => r.close.map (·, 1)
    | '|' => some (r.alternate, 1)
    | '[' =>
      let (b, n) := Bracket.begin r.flags rest
      (readClass r.flags b [] (rest.drop n)).map fun (a, m) =>
        (r.add (.ofClass a.value) a.depth, n + m + 1)
    | '?' => r.addRepetition 0 (some 1) 1 rest
    | '*' => r.addRepetition 0 none 1 rest
    | '+' => r.addRepetition 1 none 1 rest
    | '\x7b' => do
      let ((low, high), n) ← readCount r.flags rest
      let n := n + r.flags.skip (rest.drop n)
      r.addRepetition low high (n + 1) (rest.drop n)
    | '.' => r.flags.dot.map fun a => (r.add (.ofClass a), 1)
    | '^' => some (r.add (r.flags.look r.flags.caret), 1)
    | '$' => some (r.add (r.flags.look r.flags.dollar), 1)
    | '\\' => (readEscape r.flags rest).map fun (p, n) => (r.addPrimitive p, n + 1)
    | c => some (r.addPrimitive (.char c.toNat), 1)

/-- The machine after the whole text. -/
def run (r : Reader) (text : List Char) : Option Reader :=
  match text with
  | [] => some r
  | c :: rest =>
    match r.step c rest with
    | none => none
    | some (r, n) => run r (rest.drop (n - 1))
termination_by text.length
decreasing_by simp only [List.length_cons, List.length_drop]; omega

end Reader

/-- A pattern with the names of its groups. -/
structure Named where
  pattern : Pattern
  names : List (String × Nat)
  /-- How many groups are remembered, the whole pattern not counted. -/
  groups : Nat

/-- The pattern that a text writes, if it is one and not too large. -/
def read? (text : String) : Option Named := do
  let r ← Reader.start.run text.toList
  let p := r.level.alternatives
  if r.outer.isEmpty && p.depth ≤ maxDepth && p.value.fits then
    some ⟨p.value, r.names, r.groups⟩
  else none

end Pattern

end JsonQuery
