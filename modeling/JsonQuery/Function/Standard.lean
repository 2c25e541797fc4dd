/-
  JsonQuery.Function.Standard
  ───────────────────────────
  The functions that every query can call unless its registry says otherwise.
-/
import JsonQuery.Function.Collection
import JsonQuery.Function.Sort
import JsonQuery.Function.Text

namespace JsonQuery

namespace Function

/-- Sort a list from the least to the greatest. -/
def sort : Function where
  name := "sort"
  role := .modifier
  description := "Sort a list in ascending order"
  usages := ["#sort()", "#sort(key)", "#sort(item, key)"]
  accepts := [.array]
  arities := [0, 1, 2]
  run := sortList .ascending

/-- Sort a list from the greatest to the least. -/
def rsort : Function where
  name := "rsort"
  role := .modifier
  description := "Sort a list in descending order"
  usages := ["#rsort()", "#rsort(key)", "#rsort(item, key)"]
  accepts := [.array]
  arities := [0, 1, 2]
  run := sortList .descending

/-- Change a string to upper case. -/
def upper : Function where
  name := "upper"
  role := .modifier
  description := "Convert a string to upper case"
  usages := ["#upper()"]
  accepts := [.string]
  run := changeCase Text.upper

/-- Change a string to lower case. -/
def lower : Function where
  name := "lower"
  role := .modifier
  description := "Convert a string to lower case"
  usages := ["#lower()"]
  accepts := [.string]
  run := changeCase Text.lower

/-- Replace what a pattern matches. -/
def replace : Function where
  name := "replace"
  role := .modifier
  description := "Replace every match of a regular expression"
  usages := ["#replace(pattern, replacement)"]
  accepts := [.string]
  arities := [2]
  run := replaceMatches

/-- Count the entries of a container. -/
def len : Function where
  name := "len"
  role := .producer
  description := "Number of elements of a list or entries of an object"
  usages := ["#len()"]
  accepts := [.array, .object]
  run := countEntries

/-- List the keys of an object. -/
def keys : Function where
  name := "keys"
  role := .producer
  description := "Keys of an object, in document order"
  usages := ["#keys()"]
  accepts := [.object]
  run := listKeys

/-- Add up a list of numbers. -/
def sum : Function where
  name := "sum"
  role := .producer
  description := "Sum of a list of numbers"
  usages := ["#sum()"]
  accepts := [.array]
  run := sumList

/-- Test a string by a pattern. -/
def test : Function where
  name := "matches"
  role := .producer
  description := "Whether a string matches a regular expression"
  usages := ["#matches(pattern)"]
  accepts := [.string]
  arities := [1]
  run := testPattern

end Function

/-- The standard functions, in the order in which they are listed. -/
def Registry.standard : Registry :=
  .ofList [.sort, .rsort, .upper, .lower, .replace, .len, .keys, .sum, .test]

end JsonQuery
