import Rulebook.Text.Basic

/-!
# Quoted literals

A text as a double-quoted literal on one line: backslashes and quotes carry a backslash, and what a
source line cannot hold is written by its number.
-/

namespace Rulebook.Text

/-- A backslash before each code point that satisfies `p`. -/
def escapeWhere (p : CodePoint → Bool) (t : Text) : Text :=
  t.flatMap fun c => if p c then [cp '\\', c] else [c]

/-- A backslash before each backslash and double quote, and then before each of the further characters,
taken literally. -/
def esc (t : Text) (metas : Text) : Text :=
  let quoted := escapeWhere (fun c => c == cp '\\' || c == cp '"') t
  if metas.isEmpty then quoted else escapeWhere (fun c => metas.contains c) quoted

/-- What a literal cannot carry as it is: control characters and surrogates. -/
def isUnprintable (c : CodePoint) : Bool := c ≤ 0x1f || c == 0x7f || isSurrogate c

/-- The number of a code point as an escape of two or four digits. -/
def numericEscape (c : CodePoint) : Text :=
  if c ≤ 0xff then cp '\\' :: cp 'x' :: hex 2 c else cp '\\' :: cp 'u' :: hex 4 c

/-- The text as a double-quoted literal. -/
def quote (t : Text) : Text :=
  cp '"' :: (esc t []).flatMap (fun c => if isUnprintable c then numericEscape c else [c]) ++ [cp '"']

end Rulebook.Text
