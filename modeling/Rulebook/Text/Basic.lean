/-!
# Texts

A text is a list of code points. Lone surrogates are allowed, so a text is more than a sequence of
characters, and every length, order and position counts code points. Texts grow long: what walks over
one keeps no frame per code point.
-/

namespace Rulebook

/-- A code point, surrogates included. -/
abbrev CodePoint := Nat

/-- A sequence of code points. -/
abbrev Text := List CodePoint

namespace Text

/-- The code points of a string. -/
def ofString (s : String) : Text := s.toList.map Char.toNat

instance : Coe String Text := ⟨ofString⟩

/-- The code point of a character. -/
abbrev cp (c : Char) : CodePoint := c.toNat

/-- The character of a code point; a surrogate has none and shows as the replacement character. -/
def charOf (c : CodePoint) : Char := if c.isValidChar then Char.ofNat c else '\uFFFD'

/-- The text as a string, for texts without surrogates. -/
def toStringLossy (t : Text) : String := String.ofList (t.map charOf)

/-- One code point after the other is the same. -/
def same : Text → Text → Bool
  | [], [] => true
  | a :: s, b :: t => if a = b then same s t else false
  | _, _ => false

/-- Lexicographic order by code point. -/
def order : Text → Text → Ordering
  | [], [] => .eq
  | [], _ :: _ => .lt
  | _ :: _, [] => .gt
  | a :: s, b :: t => if a < b then .lt else if b < a then .gt else order s t

/-- Strictly before in the order by code point. -/
def before (s t : Text) : Bool := order s t == .lt

/-- The second text opens the first. -/
def startsWith (t start : Text) : Bool := start.isPrefixOf t

/-- The rest of a text after an opening, if it has that opening. -/
def after? : Text → Text → Option Text
  | [], t => some t
  | _ :: _, [] => none
  | a :: s, b :: t => if a = b then after? s t else none

/-- The second text closes the first. -/
def endsWith (t stop : Text) : Bool := stop.reverse.isPrefixOf t.reverse

/-- Whether some part of the text is the other text. -/
def hasPart (part : Text) : Text → Bool
  | [] => part.isEmpty
  | c :: rest => if part.isPrefixOf (c :: rest) then true else hasPart part rest

/-- The place of the first occurrence of `part`, counted from `i`. -/
def findFrom (part : Text) (i : Nat) : Text → Option Nat
  | [] => if part.isEmpty then some i else none
  | c :: rest => if part.isPrefixOf (c :: rest) then some i else findFrom part (i + 1) rest

/-- The place of the first occurrence of `part`. -/
def find? (part t : Text) : Option Nat := findFrom part 0 t

/-- The pieces one after the other with `sep` between them. -/
def join (sep : Text) : List Text → Text
  | [] => []
  | [t] => t
  | t :: ts => t ++ ts.flatMap (sep ++ ·)

/-- A text, or another sequence, written `n` times. -/
def times {α : Type} (n : Nat) (t : List α) : List α := (List.replicate n t).flatten

/-- Without the leading code points that satisfy `p`. -/
def stripLeftBy (p : CodePoint → Bool) (t : Text) : Text := t.dropWhile p

/-- Without the trailing code points that satisfy `p`. -/
def stripRightBy (p : CodePoint → Bool) (t : Text) : Text := (t.reverse.dropWhile p).reverse

/-- Without the code points that satisfy `p` at either end. -/
def stripBy (p : CodePoint → Bool) (t : Text) : Text := stripRightBy p (stripLeftBy p t)

/-- White space: what separates words and what stripping takes away. -/
def isSpace (c : CodePoint) : Bool :=
  (9 ≤ c && c ≤ 13) || (28 ≤ c && c ≤ 32) || c == 0x85 || c == 0xa0 || c == 0x1680 ||
    (0x2000 ≤ c && c ≤ 0x200a) || c == 0x2028 || c == 0x2029 || c == 0x202f || c == 0x205f || c == 0x3000

/-- Without white space at either end. -/
def strip (t : Text) : Text := stripBy isSpace t

/-- A surrogate, which no encoding of texts can carry. -/
def isSurrogate (c : CodePoint) : Bool := 0xd800 ≤ c && c ≤ 0xdfff

/-- One of the digits 0 to 9. -/
def isAsciiDigit (c : CodePoint) : Bool := 0x30 ≤ c && c ≤ 0x39

/-- One of the letters A to Z and a to z. -/
def isAsciiLetter (c : CodePoint) : Bool := (0x41 ≤ c && c ≤ 0x5a) || (0x61 ≤ c && c ≤ 0x7a)

/-- The lower-case image of A to Z, all else unchanged. -/
def asciiLower (t : Text) : Text := t.map fun c => if 0x41 ≤ c ∧ c ≤ 0x5a then c + 32 else c

/-- The value of a hexadecimal digit. -/
def hexValue? (c : CodePoint) : Option Nat :=
  if 0x30 ≤ c ∧ c ≤ 0x39 then some (c - 0x30)
  else if 0x61 ≤ c ∧ c ≤ 0x66 then some (c - 0x57)
  else if 0x41 ≤ c ∧ c ≤ 0x46 then some (c - 0x37)
  else none

/-- The value of digits in a base up to 16. -/
def valueInBase (base : Nat) (digits : Text) : Nat := digits.foldl (fun n c => base * n + (hexValue? c).getD 0) 0

/-- An octal digit. -/
def isOctalDigit (c : CodePoint) : Bool := 0x30 ≤ c && c ≤ 0x37

/-- The digit of a value below 16, small letters above nine. -/
def hexDigit (d : Nat) : CodePoint := if d < 10 then 0x30 + d else 0x57 + d

/-- The lowest `width` hexadecimal digits of a number. -/
def hex (width : Nat) (n : Nat) : Text :=
  (List.range width).reverse.map fun i => hexDigit (n / Nat.pow 16 i % 16)

/-- The small letters a to z as capitals. -/
def asciiUpper (t : Text) : Text := t.map fun c => if 0x61 ≤ c ∧ c ≤ 0x7a then c - 32 else c

/-- The digits of a number before the ones in `acc`. -/
def decimalLoop (n : Nat) (acc : Text) : Text :=
  if n < 10 then (0x30 + n) :: acc else decimalLoop (n / 10) ((0x30 + n % 10) :: acc)
termination_by n

/-- A natural number in decimal digits. -/
def ofNat (n : Nat) : Text := decimalLoop n []

/-- An integer in decimal digits, with a minus sign if it is negative. -/
def ofInt : Int → Text
  | .ofNat n => ofNat n
  | .negSucc n => cp '-' :: ofNat (n + 1)

/-- The value of a run of digits, each given by its weight. -/
def valueOfDigits (digits : List Nat) : Nat := digits.foldl (fun n d => 10 * n + d) 0

/-- The leading ASCII digits, and the rest. -/
def spanDigits (t : Text) : Text × Text := (t.takeWhile isAsciiDigit, t.dropWhile isAsciiDigit)

/-- The value of ASCII digits. -/
def digitsValue (t : Text) : Nat := valueOfDigits (t.map (· - 0x30))

/-- The members that keep their place when each later equal one is dropped. -/
def distinct (ts : List Text) : List Text :=
  (ts.foldl (fun seen t => if seen.any (same t) then seen else t :: seen) []).reverse

/-- The texts in ascending order. -/
def sorted (ts : List Text) : List Text := ts.mergeSort fun s t => !before t s

end Text

end Rulebook
