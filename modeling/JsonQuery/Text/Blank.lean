/-
  JsonQuery.Text.Blank
  ────────────────────
  The characters of the Unicode property `White_Space`, and the two ways in which
  texts drop them: at the start, where they are counted (`blankCount`), and at the end
  (`trimBlankEnd`).
-/

namespace JsonQuery.Text

variable {c : Char}

/-! ## §1. The property. -/

/-- The characters of `White_Space`: the five controls from TAB to CR, NEL, and the spaces and
separators of the general punctuation and CJK blocks. -/
def isBlank (c : Char) : Bool :=
  let n := c.toNat
  (9 ≤ n && n ≤ 13) || n == 0x20 || n == 0x85 || n == 0xA0 || n == 0x1680
    || (0x2000 ≤ n && n ≤ 0x200A) || n == 0x2028 || n == 0x2029 || n == 0x202F
    || n == 0x205F || n == 0x3000

theorem ne_of_isBlank {d : Char} (h : isBlank c = true) (hd : isBlank d = false) : c ≠ d := by
  rintro rfl
  rw [h] at hd
  cases hd

/-- No blank is a visible character of ASCII. -/
theorem toNat_of_isBlank (h : isBlank c = true) : c.toNat ≤ 0x20 ∨ 0x7F < c.toNat := by
  simp only [isBlank, Bool.or_eq_true, Bool.and_eq_true, decide_eq_true_eq, beq_iff_eq] at h
  omega

theorem isDigit_of_isBlank (h : isBlank c = true) : c.isDigit = false := by
  cases hd : c.isDigit with
  | false => rfl
  | true =>
    have hdigit : 48 ≤ c.toNat ∧ c.toNat ≤ 57 := by
      simpa [Char.isDigit, UInt32.le_iff_toNat_le] using hd
    have hblank := toNat_of_isBlank h
    omega

theorem toLower_of_isBlank (h : isBlank c = true) : c.toLower = c := by
  have hupper : ¬(c.val ≥ 'A'.val ∧ c.val ≤ 'Z'.val) := by
    intro hc
    have hc : 65 ≤ c.toNat ∧ c.toNat ≤ 90 := hc
    have hblank := toNat_of_isBlank h
    omega
  unfold Char.toLower
  rw [dif_neg hupper]

/-! ## §2. Blanks at the start of a text. -/

/-- How many blanks the text begins with. -/
def blankCount (text : List Char) : Nat := (text.takeWhile isBlank).length

theorem drop_blankCount (text : List Char) :
    text.drop (blankCount text) = text.dropWhile isBlank := by
  have h : (text.takeWhile isBlank ++ text.dropWhile isBlank).drop (blankCount text)
      = text.dropWhile isBlank := List.drop_left
  rwa [List.takeWhile_append_dropWhile] at h

/-- Behind the blanks that a text begins with there is none. -/
theorem not_isBlank_head {text rest : List Char}
    (h : text.drop (blankCount text) = c :: rest) : isBlank c = false := by
  rw [drop_blankCount] at h
  have hhead := List.head?_dropWhile_not isBlank text
  rw [h] at hhead
  exact hhead

/-! ## §3. Blanks at the end of a text. -/

/-- The text without the blanks it ends with. -/
def trimBlankEnd (text : List Char) : List Char := (text.reverse.dropWhile isBlank).reverse

theorem trimBlankEnd_append_blanks (text : List Char) {blanks : List Char}
    (h : ∀ c ∈ blanks, isBlank c = true) :
    trimBlankEnd (text ++ blanks) = trimBlankEnd text := by
  unfold trimBlankEnd
  rw [List.reverse_append, List.dropWhile_append_of_pos fun c hc => h c (List.mem_reverse.mp hc)]

end JsonQuery.Text
