/-
  JsonQuery.Pattern.Basic
  ───────────────────────
  Patterns of text.  What a pattern prefers is part of its meaning: of two alternatives
  the first, of the numbers of repetitions the greatest or, if it is not greedy, the
  least.

  Patterns are put together by `sequence`, `oneOf` and `repetition`, which give them
  their plain form: characters one after another are one text, alternatives that are
  single characters or classes are one class, what all alternatives begin with stands
  before them, and what can only match nothing is not repeated.
-/
import JsonQuery.Pattern.CharClass

namespace JsonQuery

namespace Pattern

/-! ## §1. Places. -/

/-- Conditions on a place between two characters. -/
inductive Look where
  | textStart | textEnd
  | lineStart | lineEnd
  /-- Lines end with CR, LF or both. -/
  | crlfLineStart | crlfLineEnd
  | wordBoundary | notWordBoundary | wordStart | wordEnd | wordStartHalf | wordEndHalf
  deriving Repr, DecidableEq

/-- Whether a place satisfies a condition, given the characters next to it and the class of word
characters. -/
def Look.holds (word : CharClass) (previous next : Option Char) : Look → Bool
  | .textStart => previous.isNone
  | .textEnd => next.isNone
  | .lineStart => previous.all (· == '\n')
  | .lineEnd => next.all (· == '\n')
  | .crlfLineStart => previous.all (· == '\n') || (previous == some '\r' && next != some '\n')
  | .crlfLineEnd => next.all (· == '\r') || (next == some '\n' && previous != some '\r')
  | .wordBoundary => previous.any word.contains != next.any word.contains
  | .notWordBoundary => previous.any word.contains == next.any word.contains
  | .wordStart => !previous.any word.contains && next.any word.contains
  | .wordEnd => previous.any word.contains && !next.any word.contains
  | .wordStartHalf => !previous.any word.contains
  | .wordEndHalf => !next.any word.contains

/-- Whether a condition asks for word characters. -/
def Look.isOfWords : Look → Bool
  | .textStart | .textEnd | .lineStart | .lineEnd | .crlfLineStart | .crlfLineEnd => false
  | _ => true

end Pattern

/-! ## §2. Patterns. -/

/-- A pattern of text. -/
inductive Pattern where
  | empty
  /-- These characters, by their code points. -/
  | literal (codes : List Nat)
  /-- One character of a class. -/
  | one (c : Pattern.CharClass)
  /-- A condition on the place; `unicode` is whether words go beyond ASCII. -/
  | look (unicode : Bool) (l : Pattern.Look)
  | cat (p q : Pattern)
  | alt (p q : Pattern)
  /-- At least `min` times and, if there is a `max`, at most so often. -/
  | repeated (p : Pattern) (min : Nat) (max : Option Nat) (greedy : Bool)
  /-- A group whose text is remembered. -/
  | capture (index : Nat) (p : Pattern)
  deriving DecidableEq

namespace Pattern

/-! ## §3. Lengths and ends. -/

/-- The length of the shortest text that matches, if there is one. -/
def minLength? : Pattern → Option Nat
  | empty | look _ _ => some 0
  | literal codes => some codes.length
  | one c => if c.isEmpty then none else some 1
  | cat p q => do return (← p.minLength?) + (← q.minLength?)
  | alt p q => do return min (← p.minLength?) (← q.minLength?)
  | repeated p n _ _ => p.minLength?.map (n * ·)
  | capture _ p => p.minLength?

/-- Whether some text matches, and none that is empty. -/
def isProductive (p : Pattern) : Bool := p.minLength?.any (0 < ·)

/-- Whether only the empty text can match. -/
def isWidthless : Pattern → Bool
  | empty | look _ _ => true
  | literal _ | one _ => false
  | cat p q | alt p q => p.isWidthless && q.isWidthless
  | repeated p _ _ _ | capture _ p => p.isWidthless

/-- Whether every match begins where a condition holds. -/
def beginsAt (l : Look) : Pattern → Bool
  | empty | literal _ | one _ => false
  | look _ l' => l == l'
  | cat p q => p.beginsAt l || (p.isWidthless && q.beginsAt l)
  | alt p q => p.beginsAt l && q.beginsAt l
  | repeated p min _ _ => 0 < min && p.beginsAt l
  | capture _ p => p.beginsAt l

/-- Whether every match ends where a condition holds. -/
def endsAt (l : Look) : Pattern → Bool
  | empty | literal _ | one _ => false
  | look _ l' => l == l'
  | cat p q => q.endsAt l || (q.isWidthless && p.endsAt l)
  | alt p q => p.endsAt l && q.endsAt l
  | repeated p min _ _ => 0 < min && p.endsAt l
  | capture _ p => p.endsAt l

/-! ## §4. Sequences. -/

/-- A character of a class; a class of a single character is a text. -/
def ofClass : CharClass → Pattern
  | [(low, high)] => if low = high then literal [low] else one [(low, high)]
  | c => one c

/-- A text before a pattern. -/
def prepend (codes : List Nat) : Pattern → Pattern
  | empty => literal codes
  | literal codes' => literal (codes ++ codes')
  | cat (literal codes') p => cat (literal (codes ++ codes')) p
  | p => cat (literal codes) p

/-- Two patterns one after the other, in plain form if they are. -/
def append : Pattern → Pattern → Pattern
  | empty, q => q
  | literal codes, q => q.prepend codes
  | cat p p', q => append p (append p' q)
  | p, empty => p
  | p, q => cat p q

/-- Patterns one after the other. -/
def sequence (ps : List Pattern) : Pattern := ps.foldr append empty

/-- The parts of a pattern that stand one after the other. -/
def parts : Pattern → List Pattern
  | empty => []
  | cat p q => p :: q.parts
  | p => [p]

/-! ## §5. Alternatives. -/

/-- The alternatives of a pattern. -/
def branches : Pattern → List Pattern
  | alt p q => p.branches ++ [q]
  | p => [p]

/-- The character that a pattern stands for. -/
def char? : Pattern → Option (Nat × Nat)
  | literal [code] => some (code, code)
  | _ => none

/-- The class that a pattern stands for. -/
def class? : Pattern → Option CharClass
  | one c => some c
  | _ => none

/-- Patterns as alternatives: a class if they are all characters or all classes. -/
def choice (ps : List Pattern) : Pattern :=
  let ps := ps.flatMap branches
  match ps.mapM char?, ps.mapM class?, ps with
  | some codes, _, _ => ofClass (.ofList codes)
  | _, some classes, _ => ofClass (classes.foldl Text.Ranges.union [])
  | _, _, [] => one []
  | _, _, p :: ps => ps.foldl alt p

/-- What two lists begin with. -/
def commonStart : List Pattern → List Pattern → List Pattern
  | p :: ps, q :: qs => if p = q then p :: commonStart ps qs else []
  | _, _ => []

/-- Alternatives that are all sequences and begin alike, with their beginning before them. -/
def factor? (ps : List Pattern) : Option Pattern :=
  let ps := ps.flatMap branches
  let isSequence : Pattern → Bool
    | cat _ _ => true
    | _ => false
  match ps.map parts with
  | p :: q :: rest =>
    let start := (q :: rest).foldl commonStart p
    if start.isEmpty || !ps.all isSequence then none
    else some (sequence (start ++
      [choice ((p :: q :: rest).map fun parts => sequence (parts.drop start.length))]))
  | _ => none

/-- Patterns as alternatives, in plain form if they are. -/
def oneOf (ps : List Pattern) : Pattern :=
  match choice ps with
  | alt p q => (factor? ps).getD (alt p q)
  | p => p

/-! ## §6. Repetitions. -/

/-- A pattern repeated, in plain form if it is. -/
def repetition (p : Pattern) (min : Nat) (max : Option Nat) (greedy : Bool) : Pattern :=
  let bounds := if p.isWidthless then (Nat.min min 1, some (Nat.min (max.getD 1) 1)) else (min, max)
  match bounds with
  | (0, some 0) => empty
  | (1, some 1) => p
  | (min, max) => repeated p min max greedy

end Pattern

end JsonQuery
