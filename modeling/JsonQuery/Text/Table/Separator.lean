/-
  JsonQuery.Text.Table.Separator
  ──────────────────────────────
  The separators, the controls and what else has no form of its own, by general
  categories.
-/
import JsonQuery.Text.Ranges

namespace JsonQuery.Text

/-- The category Zs. -/
def spaceSeparator : Ranges :=
  [(32, 32), (160, 160), (5760, 5760), (8192, 8202), (8239, 8239), (8287, 8287), (12288, 12288)]

/-- The category Zl. -/
def lineSeparator : Ranges :=
  [(8232, 8232)]

/-- The category Zp. -/
def paragraphSeparator : Ranges :=
  [(8233, 8233)]

/-- The category Cc. -/
def control : Ranges :=
  [(0, 31), (127, 159)]

/-- The category Cf. -/
def formatCharacter : Ranges :=
  [(173, 173), (1536, 1541), (1564, 1564), (1757, 1757), (1807, 1807), (2192, 2193), (2274, 2274),
   (6158, 6158), (8203, 8207), (8234, 8238), (8288, 8292), (8294, 8303), (65279, 65279),
   (65529, 65531), (69821, 69821), (69837, 69837), (78896, 78911), (113824, 113827),
   (119155, 119162), (917505, 917505), (917536, 917631)]

/-- The category Cs. -/
def surrogate : Ranges :=
  [(55296, 57343)]

/-- The category Co. -/
def privateUse : Ranges :=
  [(57344, 63743), (983040, 1048573), (1048576, 1114109)]

end JsonQuery.Text
