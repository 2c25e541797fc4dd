/-
  JsonQuery.Pattern.Room
  ──────────────────────
  How much room the automata of a pattern take.  A pattern is accepted only if the two
  automata on bytes that it would be searched with, one for each direction, stay within
  a limit (`Pattern.fits`).

  Every state takes 32 bytes, and so many more as it has links beyond the first.  The
  automata are not built: it is counted what each part of a pattern adds.  Only classes
  beyond ASCII need more than counting, because they share states where characters
  begin or end with the same bytes.  What was built before is looked up in a table of
  fixed size, in which later entries push out earlier ones; so the numbers of the states
  matter too.
-/
import JsonQuery.Pattern.Basic
import JsonQuery.Text.Encoding
import Std.Data.HashMap

namespace JsonQuery.Pattern

/-! ## §1. Room. -/

/-- The room that an automaton takes so far. -/
structure Room where
  states : Nat
  /-- The bytes of links beyond the states. -/
  links : Nat
  /-- Whether a link from the last part takes room, because it ends where ways part. -/
  fans : Bool

namespace Room

/-- The room before the first state. -/
def start : Room := ⟨0, 0, false⟩

/-- The room in bytes. -/
def bytes (r : Room) : Nat := 32 * r.states + r.links

/-- No automaton may take more bytes. -/
def limit : Nat := 10485760

/-- The room with more states and bytes of links, if it is not too much. -/
def add (states links : Nat) (r : Room) : Option Room :=
  let r : Room := ⟨r.states + states, r.links + links, false⟩
  if r.bytes ≤ limit then some r else none

/-- The room with a link from the last part to whatever follows. -/
def leave (r : Room) : Option Room := if r.fans then r.add 0 4 else some r

/-- The room, where the last part ends with a state in which ways part. -/
def fanOut (r : Room) : Room := { r with fans := true }

end Room

/-! ## §2. Shared states. -/

/-- A link by a range of bytes. -/
structure Link where
  low : Nat
  high : Nat
  target : Nat
  deriving DecidableEq

/-- The room, and a table of the states that may be shared, each under its key. -/
structure Shared (κ : Type) where
  room : Room
  known : Std.HashMap Nat (κ × Nat)

/-- The place of a list of numbers in a table of the given size. -/
def tablePlace (size : Nat) (key : List Nat) : Nat :=
  let hash : UInt64 := key.foldl (fun h n => (h ^^^ n.toUInt64) * 1099511628211)
    14695981039346656037
  hash.toNat % size

/-- A state with the given key and bytes of links: the known one, or a new one. -/
def Shared.state {κ : Type} [DecidableEq κ] (s : Shared κ) (place : Nat) (key : κ) (links : Nat) :
    Option (Nat × Shared κ) :=
  match s.known[place]? with
  | some (key', state) => if key = key' then some (state, s) else new
  | none => new
where
  /-- The new state, which takes its place in the table. -/
  new : Option (Nat × Shared κ) :=
    (s.room.add 1 links).map fun room =>
      (s.room.states, ⟨room, s.known.insert place (key, s.room.states)⟩)

/-! ## §3. Classes from the first byte to the last. -/

/-- A state that is still growing: its finished links, and the bytes of its last link. -/
structure Growing where
  links : List Link
  low : Nat
  high : Nat

/-- A state that begins with one link. -/
def Growing.start (r : Nat × Nat) : Growing := ⟨[], r.1, r.2⟩

/-- The links of a state whose last link leads to a state. -/
def Growing.finish (g : Growing) (target : Nat) : List Link := g.links ++ [⟨g.low, g.high, target⟩]

/-- The numbers by which links are looked up. -/
def linkKey (links : List Link) : List Nat := links.flatMap fun l => [l.low, l.high, l.target]

/-- Finish the states of a path, the last one first. The last one leads to `target`. -/
def finishPath (target : Nat) : List Growing → Shared (List Link) →
    Option (Nat × Shared (List Link))
  | [], s => some (target, s)
  | g :: rest, s =>
    match finishPath target rest s with
    | none => none
    | some (next, s) =>
      let links := g.finish next
      s.state (tablePlace 10000 (linkKey links)) links (8 * links.length)

/-- Add a byte sequence behind all earlier ones: what it begins with like the last one is shared,
and the rest of the last one is finished. -/
def addForward (target : Nat) : List Growing → List (Nat × Nat) → Shared (List Link) →
    Option (List Growing × Shared (List Link))
  | g :: rest, r :: more, s =>
    if (g.low, g.high) = r then
      (addForward target rest more s).map fun (rest, s) => (g :: rest, s)
    else
      (finishPath target rest s).map fun (next, s) =>
        (⟨g.finish next, r.1, r.2⟩ :: more.map Growing.start, s)
  | _, bytes, s => some (bytes.map Growing.start, s)

/-- The room with a class, read forward. -/
def addClassForward (c : CharClass) (r : Room) : Option Room := do
  let target := r.states
  let room ← r.add 1 0
  let (path, s) ← c.bytes.foldlM (fun (path, s) bytes => addForward target path bytes s)
    (([] : List Growing), (⟨room, {}⟩ : Shared (List Link)))
  let (_, s) ← finishPath target path s
  return s.room

/-! ## §4. Classes from the last byte to the first. -/

/-- Add a byte sequence, each byte in front of what follows it. -/
def addBackward (target : Nat) (bytes : List (Nat × Nat)) (s : Shared Link) :
    Option (Shared Link) := do
  let (_, s) ← bytes.foldlM (fun (next, (s : Shared Link)) r =>
    s.state (tablePlace 1000 [next, r.1, r.2]) (⟨r.1, r.2, next⟩ : Link) 0) (target, s)
  return { s with room := ← s.room.add 0 4 }

/-- The room with a class, read backward. -/
def addClassBackward (c : CharClass) (r : Room) : Option Room := do
  let room ← r.add 2 0
  let s ← c.bytes.foldlM (fun s bytes => addBackward (r.states + 1) bytes s)
    (⟨room, {}⟩ : Shared Link)
  return s.room

/-- The room with a class. -/
def addClass (backward : Bool) (c : CharClass) (r : Room) : Option Room :=
  if c.below 0x80 then r.add 2 (8 * c.length)
  else if backward then addClassBackward c r
  else addClassForward c r

/-! ## §5. Choices of words. -/

/-- The texts that are the alternatives of a pattern, as bytes, if all are texts. -/
def words? : Pattern → Option (List (List Nat))
  | .literal codes => some [codes.flatMap Text.bytesOf]
  | .alt p (.literal codes) => (words? p).map (· ++ [codes.flatMap Text.bytesOf])
  | _ => none

/-- The words up to every empty one, and behind the last. -/
def splitAtEmpty : List (List Nat) → List (List (List Nat))
  | [] => [[]]
  | [] :: words => [] :: splitAtEmpty words
  | word :: words =>
    match splitAtEmpty words with
    | [] => [[word]]
    | chunk :: chunks => (word :: chunk) :: chunks

/-- The states and the bytes of links of a tree of words, in which words that begin alike share
states as long as no shorter word comes between. `fuel` is more than the length of any word. -/
def treeRoom : Nat → List (List Nat) → Nat × Nat
  | 0, _ => (0, 0)
  | fuel + 1, words =>
    if words.all List.isEmpty then (0, 0)
    else
      -- of empty words at the start only the first is kept
      let words := if words.head? = some [] then [] :: words.dropWhile List.isEmpty else words
      let chunks := splitAtEmpty words
      let filled := chunks.filter fun chunk => !chunk.isEmpty
      let start : Nat × Nat := (1, 4 * (filled.length + chunks.length - 1))
      filled.foldl (fun room chunk =>
        let firsts := (chunk.filterMap List.head?).eraseDups
        let links := if firsts.length = 1 then 0 else 8 * firsts.length
        firsts.foldl (fun (states, links) first =>
          let (states', links') := treeRoom fuel
            ((chunk.filter fun word => word.head? == some first).map (List.drop 1))
          (states + states', links + links')) (room.1 + 1, room.2 + links)) start

/-- The room with a choice of words. -/
def addWords (backward : Bool) (words : List (List Nat)) (r : Room) : Option Room :=
  let words := if backward then words.map List.reverse else words
  let fuel := words.foldl (fun n word => max n word.length) 0 + 1
  let (states, links) := treeRoom fuel words
  r.add (states + 1) links

/-! ## §6. Patterns. -/

/-- The room with something added `count` times more. -/
def addAgain (body : Room → Option Room) : Nat → Room → Option Room
  | 0, r => some r
  | count + 1, r =>
    match r.leave with
    | none => none
    | some r =>
      match body r with
      | none => none
      | some r => addAgain body count r

/-- The room with something added `count` times. -/
def addTimes (body : Room → Option Room) : Nat → Room → Option Room
  | 0, r => r.add 1 0
  | count + 1, r => (body r).bind (addAgain body count)

/-- The room with a pattern; `inner` is whether it is the beginning of a longer choice. -/
def addPattern? (backward : Bool) : Bool → Pattern → Room → Option Room
  | _, .empty, r | _, .look _ _, r => r.add 1 0
  | _, .literal codes, r => r.add (codes.flatMap Text.bytesOf).length 0
  | _, .one c, r => addClass backward c r
  | _, .cat p q, r =>
    if backward then do addPattern? backward false p (← (← addPattern? backward false q r).leave)
    else do addPattern? backward false q (← (← addPattern? backward false p r).leave)
  | inner, .alt p q, r =>
    -- a choice of words takes the room of a tree, but only as a whole
    match if inner then none else words? (.alt p q) with
    | some words => addWords backward words r
    | none => do
      let r ← (← addPattern? backward true p r).leave
      let r ← (← addPattern? backward false q r).leave
      match p with
      | .alt _ _ => r.add 0 4
      | _ => r.add 2 8
  | _, .repeated p 0 none _, r =>
    -- a body that may match nothing is repeated at least once, and all of that may be left out
    if p.isProductive then do
      let r ← (← addPattern? backward false p (← r.add 1 0)).leave
      return (← r.add 0 4).fanOut
    else do (← (← addPattern? backward false p r).leave).add 3 16
  | _, .repeated p (n + 1) none _, r => do
    let r ← (← addTimes (fun r => addPattern? backward false p r) (n + 1) r).leave
    return (← r.add 1 4).fanOut
  | _, .repeated p 0 (some 1) _, r => do
    (← (← addPattern? backward false p (← r.add 1 0)).leave).add 1 8
  | _, .repeated p n (some m) _, r =>
    let body (r : Room) : Option Room := addPattern? backward false p r
    if n = m then addTimes body n r
    else do
      -- every body beyond the first `n` may be left out with all behind it
      let r ← (← addTimes body n r).leave
      (← addAgain (fun r => (r.add 1 8).bind body) (m - n) (← r.add 1 0)).leave
  | _, .capture _ p, r =>
    -- read backward, no text is remembered
    if backward then addPattern? backward false p r
    else do (← (← addPattern? backward false p (← r.add 1 0)).leave).add 1 0

/-- The room of the automaton that reads in one direction, if it is not too much. Unless all matches
are at the end it starts from, it begins with a loop over any bytes. -/
def room? (backward : Bool) (p : Pattern) : Option Room := do
  let anchored := if backward then p.endsAt .textEnd else p.beginsAt .textStart
  let r ← Room.start.add (if anchored then 1 else 3) (if anchored then 0 else 12)
  let r ← (← addPattern? backward false (.capture 0 p) r).leave
  r.add 1 (if anchored then 0 else 4)

/-- Whether the automata of a pattern are not too large. -/
def fits (p : Pattern) : Bool := (room? false p).isSome && (room? true p).isSome

end JsonQuery.Pattern
