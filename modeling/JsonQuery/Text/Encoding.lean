/-
  JsonQuery.Text.Encoding
  ───────────────────────
  UTF-8: the bytes of a character, and the bytes of ranges of characters.  A range is
  cut where the number of bytes changes, at the surrogates, and so that in every piece
  each byte runs through a range of its own (`byteRanges`).
-/
import JsonQuery.Text.Ranges

namespace JsonQuery.Text

/-! ## §1. Characters. -/

/-- The last code points that take one, two and three bytes. -/
def lengthBounds : List Nat := [0x7F, 0x7FF, 0xFFFF]

/-- The bytes of a code point. -/
def bytesOf (code : Nat) : List Nat :=
  if code < 0x80 then [code]
  else if code < 0x800 then [0xC0 + code / 64, 0x80 + code % 64]
  else if code < 0x10000 then [0xE0 + code / 4096, 0x80 + code / 64 % 64, 0x80 + code % 64]
  else [0xF0 + code / 262144, 0x80 + code / 4096 % 64, 0x80 + code / 64 % 64, 0x80 + code % 64]

/-! ## §2. Ranges. -/

/-- Where a range is cut so that its last bytes run through all their values: the end of its left
part. `unit` is the number of values of the bytes behind the one at which its ends differ. -/
def cutAt (low high unit : Nat) : Option Nat :=
  if low / unit = high / unit then none
  else if low % unit ≠ 0 then some (low / unit * unit + (unit - 1))
  else if high % unit ≠ unit - 1 then some (high / unit * unit - 1)
  else none

/-- Where a range must be cut: the end of its left part. -/
def cut? (low high : Nat) : Option Nat :=
  if low < 0xE000 ∧ 0xD7FF < high then some 0xD7FF
  else
    match lengthBounds.find? fun bound => low ≤ bound && bound < high with
    | some bound => some bound
    | none => if high < 0x80 then none else [64, 4096, 262144].findSome? (cutAt low high)

/-- The byte sequences of the characters in a range, each as a sequence of ranges of bytes, in the
order of the characters. -/
def byteRanges (low high : Nat) : List (List (Nat × Nat)) :=
  match cut? low high with
  | some last =>
    if _h : low ≤ last ∧ last < high then
      byteRanges low last ++
        (if nextCode last ≤ high then byteRanges (nextCode last) high else [])
    else []
  | none => [(bytesOf low).zip (bytesOf high)]
termination_by high - low
decreasing_by all_goals (try unfold nextCode); (try split); all_goals omega

/-- The byte sequences of the characters of a set. -/
def Ranges.bytes (ranges : Ranges) : List (List (Nat × Nat)) :=
  ranges.flatMap fun r => byteRanges r.1 r.2

end JsonQuery.Text
