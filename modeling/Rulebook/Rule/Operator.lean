import Rulebook.Text.Case

/-!
# Comparison operators

The eight comparisons of a rule: four on texts in the order of code points, three on numbers, and the
search for a pattern.
-/

namespace Rulebook

/-- A comparison. -/
inductive Operator where
  | eq
  | ne
  | lt
  | gt
  | numLt
  | numGt
  | numEq
  | search
  deriving Repr, DecidableEq, Inhabited

namespace Operator

/-- All comparisons. -/
def all : List Operator := [eq, ne, lt, gt, numLt, numGt, numEq, search]

/-- The spelling of a comparison in rules and reports. -/
def spelling : Operator → String
  | eq => "eq"
  | ne => "ne"
  | lt => "lt"
  | gt => "gt"
  | numLt => "<"
  | numGt => ">"
  | numEq => "=="
  | search => "=~"

/-- Searches for a pattern. -/
def isRegex (op : Operator) : Bool := op == search

/-- Compares numbers where both operands look like numbers. -/
def isNumeric (op : Operator) : Bool := op == numLt || op == numGt || op == numEq

/-- The comparison with exactly this spelling. -/
def ofSpelling? (name : Text) : Option Operator := all.find? fun op => Text.same (Text.ofString op.spelling) name

/-- A name in lower case, with `like` for the search written as its spelling. -/
def normalize (name : Text) : Text :=
  let low := Text.lower name
  if Text.same low "like" then "=~" else low

/-- The comparison of a name in any case; the error is the normalized name. -/
def parse (name : Text) : Except Text Operator :=
  let normal := normalize name
  match ofSpelling? normal with
  | some op => .ok op
  | none => .error normal

theorem normalize_of_ascii {name : Text} (h : ∀ c ∈ name, c < 128) :
    normalize name = if Text.same (Text.asciiLower name) "like" then ("=~" : Text) else Text.asciiLower name := by
  rw [normalize, Text.lower_of_ascii h]

/-- A spelling in ASCII, or `like`, in any case. -/
theorem parse_of_ascii {name : Text} {op : Operator} (h : ∀ c ∈ name, c < 128)
    (hop : ofSpelling? (if Text.same (Text.asciiLower name) "like" then ("=~" : Text) else Text.asciiLower name) =
      some op) : parse name = .ok op := by
  rw [parse, normalize_of_ascii h, hop]

end Operator

end Rulebook
