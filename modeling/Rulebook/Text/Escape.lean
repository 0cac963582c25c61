import Rulebook.Text.CharacterName

/-!
# Backslash escapes

The escapes of text literals: single letters, octal and hexadecimal numbers and character names. An escape
that means nothing stands for itself. Positions of faults count the code points of the escaped text.
-/

namespace Rulebook.Text

/-- An escape that cannot be decoded: where it starts, the place behind what was read of it, and why. -/
structure EscapeFault where
  start : Nat
  stop : Nat
  reason : Text
  deriving Repr, DecidableEq

/-- The code point of a one-letter escape. -/
def letterEscape? (c : CodePoint) : Option CodePoint :=
  if c = 0x5c ∨ c = 0x27 ∨ c = 0x22 then some c
  else if c = cp 'a' then some 7
  else if c = cp 'b' then some 8
  else if c = cp 'f' then some 12
  else if c = cp 'n' then some 10
  else if c = cp 'r' then some 13
  else if c = cp 't' then some 9
  else if c = cp 'v' then some 11
  else none

/-- At most `count` leading hexadecimal digits. -/
def leadingHex (count : Nat) (t : Text) : Text := (t.take count).takeWhile fun c => (hexValue? c).isSome

/-- The number of digits behind a hexadecimal escape, and what a short one is called. -/
def hexEscape? (c : CodePoint) : Option (Nat × Text) :=
  if c = cp 'x' then some (2, "truncated \\xXX escape")
  else if c = cp 'u' then some (4, "truncated \\uXXXX escape")
  else if c = cp 'U' then some (8, "truncated \\UXXXXXXXX escape")
  else none

/-- Decodes the escapes of a text from the place `i` on, behind the reversed result so far. With `raw` set,
names and code points above 255 are not escapes. -/
def decodeEscapesLoop (raw : Bool) : Nat → Nat → Text → Text → Except EscapeFault Text
  | 0, _, done, _ => .ok done.reverse
  | _ + 1, _, done, [] => .ok done.reverse
  | fuel + 1, i, done, c :: rest =>
    if c ≠ 0x5c then decodeEscapesLoop raw fuel (i + 1) (c :: done) rest
    else
      match rest with
      | [] => .error ⟨i, i + 1, "\\ at end of string"⟩
      | e :: more =>
        if e = 10 then decodeEscapesLoop raw fuel (i + 2) done more
        else
          match letterEscape? e with
          | some d => decodeEscapesLoop raw fuel (i + 2) (d :: done) more
          | none =>
            if isOctalDigit e then
              let digits := (rest.take 3).takeWhile isOctalDigit
              let value := digits.foldl (fun n d => 8 * n + (d - 0x30)) 0
              decodeEscapesLoop raw fuel (i + 1 + digits.length) ((if raw then value % 256 else value) :: done)
                (rest.drop digits.length)
            else
              match hexEscape? e with
              | some (count, reason) =>
                if raw ∧ count ≠ 2 then decodeEscapesLoop raw fuel (i + 2) (e :: c :: done) more
                else
                  let digits := leadingHex count more
                  if digits.length < count then .error ⟨i, i + 2 + digits.length, reason⟩
                  else if 0x10ffff < valueInBase 16 digits then
                    .error ⟨i, i + 2 + count, "illegal Unicode character"⟩
                  else
                    decodeEscapesLoop raw fuel (i + 2 + count) (valueInBase 16 digits :: done) (more.drop count)
              | none =>
                if e = cp 'N' ∧ !raw then
                  match more with
                  | 0x7b :: name =>
                    let inside := name.takeWhile (· != 0x7d)
                    if inside.length = name.length ∨ inside.isEmpty then
                      .error ⟨i, i + 3 + inside.length, "malformed \\N character escape"⟩
                    else
                      match ofCharacterName? inside with
                      | some d =>
                        decodeEscapesLoop raw fuel (i + 4 + inside.length) (d :: done) (name.drop (inside.length + 1))
                      | none => .error ⟨i, i + 4 + inside.length, "unknown Unicode character name"⟩
                  | _ => .error ⟨i, i + 2, "malformed \\N character escape"⟩
                else decodeEscapesLoop raw fuel (i + 2) (e :: c :: done) more

/-- Decodes the escapes of a text. -/
def decodeEscapes (t : Text) : Except EscapeFault Text := decodeEscapesLoop false (t.length + 1) 0 [] t

/-- Decodes the escapes of a byte text. -/
def decodeByteEscapes (t : Text) : Except EscapeFault Text := decodeEscapesLoop true (t.length + 1) 0 [] t

/-- A code point beyond ASCII as an escape, as short as its size allows. -/
def asciiEscape (c : CodePoint) : Text :=
  if c < 0x80 then [c]
  else if c ≤ 0xff then cp '\\' :: cp 'x' :: hex 2 c
  else if c ≤ 0xffff then cp '\\' :: cp 'u' :: hex 4 c
  else cp '\\' :: cp 'U' :: hex 8 c

end Rulebook.Text
