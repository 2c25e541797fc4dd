/-
  JsonQuery.Pattern.Search
  ────────────────────────
  Searching a text for a pattern.  All ways through the program are followed at once,
  one character after another, in the order in which they are preferred; of two ways that
  are at the same instruction the preferred one stays.  The first match is the one that
  begins first and, among those, the one that the pattern prefers.
-/
import JsonQuery.Pattern.Program

namespace JsonQuery.Pattern

/-! ## §1. Ways through a program. -/

/-- The places remembered on a way. -/
abbrev Slots := Array (Option Nat)

/-- A way that waits at an instruction. -/
structure Thread where
  address : Nat
  slots : Slots

/-- The ways at one place of the text. -/
structure Threads where
  /-- Which instructions were reached. -/
  reached : Array Bool
  /-- The ways that wait for a character or are at the end, preferred ones last. -/
  waiting : List Thread

/-- No ways yet, in a program of the given size. -/
def Threads.none (size : Nat) : Threads := ⟨Array.replicate size false, []⟩

/-- A place in a text: the characters before and behind it, and its number. -/
structure Spot where
  previous : Option Char
  next : Option Char
  index : Nat

/-- Follow ways, preferred ones first, until they wait. Every instruction is visited once and leads
to at most two others, so `fuel` need not be more than twice their number. -/
def follow (program : Program) (spot : Spot) : Nat → List Thread → Threads → Threads
  | 0, _, threads => threads
  | _, [], threads => threads
  | fuel + 1, ⟨address, slots⟩ :: others, threads =>
    if threads.reached.getD address true then follow program spot fuel others threads
    else
      let threads := { threads with reached := threads.reached.setIfInBounds address true }
      match program[address]? with
      | none => follow program spot fuel others threads
      | some (.jump target) => follow program spot fuel (⟨target, slots⟩ :: others) threads
      | some (.split first second) =>
        follow program spot fuel (⟨first, slots⟩ :: ⟨second, slots⟩ :: others) threads
      | some (.save slot) =>
        let slots := slots.setIfInBounds slot (some spot.index)
        follow program spot fuel (⟨address + 1, slots⟩ :: others) threads
      | some (.look word l) =>
        if l.holds word spot.previous spot.next then
          follow program spot fuel (⟨address + 1, slots⟩ :: others) threads
        else follow program spot fuel others threads
      | some (.char _) | some .accept =>
        follow program spot fuel others
          { threads with waiting := ⟨address, slots⟩ :: threads.waiting }

/-- Follow one way until it waits. -/
def followFrom (program : Program) (spot : Spot) (start : Thread) (threads : Threads) : Threads :=
  follow program spot (2 * program.size + 2) [start] threads

/-! ## §2. Matches. -/

/-- Whether a way is at the end. -/
def Thread.isAccepted (program : Program) (t : Thread) : Bool :=
  match program[t.address]? with
  | some .accept => true
  | _ => false

/-- The ways, preferred ones first, up to the first that is at the end, and the places that one
remembers. -/
def splitAccepted (program : Program) (ways : List Thread) : List Thread × Option Slots :=
  (ways.takeWhile fun t => !t.isAccepted program,
    (ways.find? (Thread.isAccepted program)).map Thread.slots)

/-- The ways behind a character. -/
def advance (program : Program) (c : Char) (spot : Spot) (ways : List Thread) : Threads :=
  ways.foldl (fun (threads : Threads) (t : Thread) =>
    match program[t.address]? with
    | some (.char a) =>
      if a.contains c then followFrom program spot ⟨t.address + 1, t.slots⟩ threads else threads
    | _ => threads) (Threads.none program.size)

/-- The places remembered by the first match in a text, given the ways that lead to its start.
`found` is the best match so far; once there is one, no way begins any more. -/
def searchFrom (program : Program) (slots : Slots) (previous : Option Char) (index : Nat)
    (threads : Threads) (found : Option Slots) (text : List Char) : Option Slots :=
  let begin (next : Option Char) : Threads :=
    if found.isSome then threads
    else followFrom program ⟨previous, next, index⟩ ⟨0, slots⟩ threads
  match text with
  | [] =>
    let (_, accepted) := splitAccepted program (begin none).waiting.reverse
    accepted.or found
  | c :: rest =>
    let (ways, accepted) := splitAccepted program (begin (some c)).waiting.reverse
    -- only ways that are preferred to the new match go on, so it is better than the old one
    let found := accepted.or found
    if ways.isEmpty && found.isSome then found
    else
      searchFrom program slots (some c) (index + 1)
        (advance program c ⟨some c, rest.head?, index + 1⟩ ways) found rest

/-- A match: where it begins and ends, and the places of its groups. -/
structure Match where
  start : Nat
  stop : Nat
  slots : Slots

/-- A pattern that is ready for searching. -/
structure Matcher where
  program : Program
  groups : Nat

/-- Make a pattern with the given number of groups ready. -/
def Matcher.ofPattern (p : Pattern) (groups : Nat) : Matcher := ⟨p.program, groups⟩

/-- The first match in a text that stands behind `previous` and begins at `index`. -/
def Matcher.find? (m : Matcher) (previous : Option Char) (index : Nat) (text : List Char) :
    Option Match := do
  let slots : Slots := Array.replicate (2 * (m.groups + 1)) none
  let slots ← searchFrom m.program slots previous index (.none m.program.size) none text
  some ⟨← slots.getD 0 none, ← slots.getD 1 none, slots⟩

/-- Whether the pattern matches anywhere in a text. -/
def Matcher.test (m : Matcher) (text : List Char) : Bool := (m.find? none 0 text).isSome

end JsonQuery.Pattern
