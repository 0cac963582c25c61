import Rulebook.Fault

/-!
# Texts in UTF-8

The text that bytes encode. Overlong forms, surrogates and values beyond the last code point are refused at the
first byte that cannot stand where it is.
-/

namespace Rulebook.Text.Utf8

/-- What the bytes at a place are: a code point with its length, or a number of bytes that are wrong there. -/
inductive Reading where
  | point (c : CodePoint) (width : Nat)
  | wrongStart
  | wrongContinuation (width : Nat)
  | cut
  deriving Repr, DecidableEq

/-- A byte inside the form of a code point. -/
def isContinuation (b : Nat) : Bool := b / 64 == 2

/-- The second byte of a form can follow the first. -/
def follows (first second : Nat) : Bool :=
  isContinuation second &&
    (if first = 0xe0 then 0xa0 ≤ second
    else if first = 0xed then second < 0xa0
    else if first = 0xf0 then 0x90 ≤ second
    else if first = 0xf4 then second < 0x90
    else true)

/-- The number of bytes of a form by its first byte; none for bytes that start no form. -/
def width? (b : Nat) : Option Nat :=
  if b < 0x80 then some 1
  else if b < 0xc2 then none
  else if b < 0xe0 then some 2
  else if b < 0xf0 then some 3
  else if b < 0xf5 then some 4
  else none

/-- What the bytes start with. -/
def reading (b : Nat) (rest : List Nat) : Reading :=
  match width? b with
  | none => .wrongStart
  | some 1 => .point b 1
  | some 2 =>
    match rest with
    | [] => .cut
    | b2 :: _ => if isContinuation b2 then .point ((b - 0xc0) * 64 + (b2 - 0x80)) 2 else .wrongContinuation 1
  | some 3 =>
    match rest with
    | [] => .cut
    | [b2] => if follows b b2 then .cut else .wrongContinuation 1
    | b2 :: b3 :: _ =>
      if !follows b b2 then .wrongContinuation 1
      else if !isContinuation b3 then .wrongContinuation 2
      else .point (((b - 0xe0) * 64 + (b2 - 0x80)) * 64 + (b3 - 0x80)) 3
  | some _ =>
    match rest with
    | [] => .cut
    | [b2] => if follows b b2 then .cut else .wrongContinuation 1
    | [b2, b3] =>
      if !follows b b2 then .wrongContinuation 1 else if isContinuation b3 then .cut else .wrongContinuation 2
    | b2 :: b3 :: b4 :: _ =>
      if !follows b b2 then .wrongContinuation 1
      else if !isContinuation b3 then .wrongContinuation 2
      else if !isContinuation b4 then .wrongContinuation 3
      else .point ((((b - 0xf0) * 64 + (b2 - 0x80)) * 64 + (b3 - 0x80)) * 64 + (b4 - 0x80)) 4

/-- The fault of bytes from a place on. -/
def fault (first place width : Nat) (reason : Text) : Fault :=
  ⟨.undecodable,
    if width = 1 then
      "'utf-8' codec can't decode byte 0x" ++ Text.hex 2 first ++ " in position " ++ Text.ofNat place ++ ": " ++ reason
    else
      "'utf-8' codec can't decode bytes in position " ++ Text.ofNat place ++ "-" ++ Text.ofNat (place + width - 1) ++
        ": " ++ reason⟩

/-- The text of the bytes from a place on behind the text so far, which is reversed. `skip` bytes belong to the
code point before. -/
def decodeFrom : Nat → Nat → Text → List Nat → Except Fault Text
  | _, _, done, [] => .ok done.reverse
  | place, skip + 1, done, _ :: rest => decodeFrom (place + 1) skip done rest
  | place, 0, done, b :: rest =>
    match reading b rest with
    | .point c width => decodeFrom (place + 1) (width - 1) (c :: done) rest
    | .wrongStart => .error (fault b place 1 "invalid start byte")
    | .wrongContinuation width => .error (fault b place width "invalid continuation byte")
    | .cut => .error (fault b place (rest.length + 1) "unexpected end of data")

/-- The text that bytes encode. -/
def decode (data : List Nat) : Except Fault Text := decodeFrom 0 0 [] data

end Rulebook.Text.Utf8
