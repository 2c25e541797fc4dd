/-
  JsonQuery.Pattern.Program
  ─────────────────────────
  Patterns as programs for a search.  A program is an array of instructions, each at its
  address; an instruction that does not say where to go on goes on at the next address.
  Of two ways to go on the first is preferred.

  A repetition whose body may match nothing becomes a repetition of at least one time
  that may be left out, so that the body is tried before the repetition is given up.
-/
import JsonQuery.Pattern.Basic

namespace JsonQuery.Pattern

/-! ## §1. Instructions. -/

/-- An instruction. -/
inductive Instruction where
  /-- Go on behind one character of a class. -/
  | char (c : CharClass)
  /-- Go on if the place satisfies a condition; `word` is the class of word characters. -/
  | look (word : CharClass) (l : Look)
  /-- Remember the place. -/
  | save (slot : Nat)
  | jump (target : Nat)
  | split (first second : Nat)
  | accept

/-- A program, or the beginning of one. -/
abbrev Program := Array Instruction

/-- A split that prefers the body if the repetition is greedy. -/
def splitFor (greedy : Bool) (body exit : Nat) : Instruction :=
  if greedy then .split body exit else .split exit body

/-! ## §2. Sizes. -/

/-- How many instructions a pattern takes. -/
def size : Pattern → Nat
  | .empty => 0
  | .literal codes => codes.length
  | .one _ | .look _ _ => 1
  | .cat p q => size p + size q
  | .alt p q => size p + size q + 2
  | .repeated p 0 none _ => size p + 2
  | .repeated p (n + 1) none _ => (n + 1) * size p + 1
  | .repeated p n (some m) _ => n * size p + (m - n) * (size p + 1)
  | .capture _ p => size p + 2

/-! ## §3. Programs. -/

/-- A program with `count` times the same added. -/
def addCopies (add : Program → Program) : Nat → Program → Program
  | 0, program => program
  | count + 1, program => addCopies add count (add program)

/-- A program with `count` copies added that may each be left out together with all behind it. -/
def addOptions (add : Program → Program) (greedy : Bool) (exit : Nat) : Nat → Program → Program
  | 0, program => program
  | count + 1, program =>
    addOptions add greedy exit count (add (program.push (splitFor greedy (program.size + 1) exit)))

/-- A program with the instructions of a pattern added. -/
def addPattern : Pattern → Program → Program
  | .empty, program => program
  | .literal codes, program => codes.foldl (fun program code => program.push (.char [(code, code)]))
      program
  | .one c, program => program.push (.char c)
  | .look unicode l, program => program.push (.look (.word unicode) l)
  | .cat p q, program => addPattern q (addPattern p program)
  | .alt p q, program =>
    let start := program.size
    let second := start + 1 + size p + 1
    let first := addPattern p (program.push (.split (start + 1) second))
    addPattern q (first.push (.jump (second + size q)))
  | .repeated p 0 none greedy, program =>
    let start := program.size
    let exit := start + size p + 2
    -- a body that may match nothing is tried once before the repetition can be left
    let again := if p.isProductive then .jump start else splitFor greedy (start + 1) exit
    (addPattern p (program.push (splitFor greedy (start + 1) exit))).push again
  | .repeated p (n + 1) none greedy, program =>
    let start := program.size + n * size p
    (addCopies (fun program => addPattern p program) (n + 1) program).push
      (splitFor greedy start (start + size p + 1))
  | .repeated p n (some m) greedy, program =>
    let exit := program.size + n * size p + (m - n) * (size p + 1)
    addOptions (fun program => addPattern p program) greedy exit (m - n)
      (addCopies (fun program => addPattern p program) n program)
  | .capture i p, program =>
    (addPattern p (program.push (.save (2 * i)))).push (.save (2 * i + 1))

/-- The program of a pattern, which remembers the place of the whole match as group 0. -/
def program (p : Pattern) : Program := (addPattern (.capture 0 p) #[]).push .accept

end JsonQuery.Pattern
