import Rulebook.Number.Decimal
import Rulebook.Value.Printer

/-!
# Numbers, dates and times in configuration files

Each reader takes the longest beginning of a text that has its form, and returns the rest.
-/

namespace Rulebook.Toml

/-- A two-digit number up to a bound at the beginning of a text. -/
def twoDigits? (least most : Nat) : Text → Option (Nat × Text)
  | a :: b :: rest =>
    if Text.isAsciiDigit a && Text.isAsciiDigit b then
      let n := Text.digitsValue [a, b]
      if least ≤ n ∧ n ≤ most then some (n, rest) else none
    else none
  | _ => none

/-- A sign at the beginning of a text. -/
def sign? (c : CodePoint) : Text → Option Text
  | d :: rest => if d = c then some rest else none
  | [] => none

/-- The microseconds behind a point, if there are any; digits behind the sixth are dropped. -/
def fraction (t : Text) : Nat × Text :=
  match t with
  | 0x2e :: rest =>
    let digits := rest.takeWhile Text.isAsciiDigit
    if digits.isEmpty then (0, t)
    else
      let six := (digits ++ List.replicate 6 0x30).take 6
      (Text.digitsValue six, rest.drop digits.length)
  | _ => (0, t)

/-- A time of day. -/
def time? (t : Text) : Option (Time × Text) := do
  let (hour, t) ← twoDigits? 0 23 t
  let (minute, t) ← twoDigits? 0 59 (← sign? 0x3a t)
  let (second, t) ← twoDigits? 0 59 (← sign? 0x3a t)
  let (micro, t) := fraction t
  return (⟨hour, minute, second, micro⟩, t)

/-- The offset behind a time, if there is one. -/
def offset (t : Text) : Option Offset × Text :=
  match t with
  | c :: rest =>
    if c = 0x5a ∨ c = 0x7a then (some .utc, rest)
    else if c = 0x2b ∨ c = 0x2d then
      let read : Option (Offset × Text) := do
        let (hour, more) ← twoDigits? 0 23 rest
        let (minute, more) ← twoDigits? 0 59 (← sign? 0x3a more)
        let seconds : Int := (hour * 3600 + minute * 60 : Nat)
        let signed := if c = 0x2d then -seconds else seconds
        return (if signed = 0 then .utc else .seconds signed, more)
      match read with
      | some (o, more) => (some o, more)
      | none => (none, t)
    else (none, t)
  | [] => (none, [])

/-- The digits of a date. -/
def dateDigits? (t : Text) : Option (Date × Text) := do
  let year := t.take 4
  if year.length < 4 || !year.all Text.isAsciiDigit then none
  let (month, t) ← twoDigits? 1 12 (← sign? 0x2d (t.drop 4))
  let (day, t) ← twoDigits? 1 31 (← sign? 0x2d t)
  return (⟨Text.digitsValue year, month, day⟩, t)

/-- The number of days of a month. -/
def monthLength (year month : Nat) : Nat :=
  if month = 2 then (if year % 4 = 0 ∧ (year % 100 ≠ 0 ∨ year % 400 = 0) then 29 else 28)
  else if month = 4 ∨ month = 6 ∨ month = 9 ∨ month = 11 then 30
  else 31

/-- The day is one of the calendar. -/
def isCalendarDay (d : Date) : Bool := 1 ≤ d.year && d.day ≤ monthLength d.year d.month

/-- A date, with the time of day and the offset that follow it; nothing if the day is not in the calendar. -/
def dateTime? (t : Text) : Option (Option Value × Text) := do
  let (date, rest) ← dateDigits? t
  let withTime : Option (Value × Text) := do
    match rest with
    | c :: more =>
      if c = 0x54 ∨ c = 0x74 ∨ c = 0x20 then
        let (time, more) ← time? more
        let (o, more) := offset more
        return (.dateTime date time o, more)
      else none
    | [] => none
  let (v, rest) := withTime.getD (.date date, rest)
  return (if isCalendarDay date then some v else none, rest)

/-- Digits of a class with single low lines between them, behind those in `done`, and the rest. -/
def spanMarked (p : CodePoint → Bool) : Text → Text → Text × Text
  | done, c :: rest =>
    if p c then spanMarked p (c :: done) rest
    else
      match rest with
      | d :: more =>
        if c = 0x5f ∧ p d ∧ !done.isEmpty then spanMarked p (d :: done) more else (done.reverse, c :: rest)
      | [] => (done.reverse, [c])
  | done, [] => (done.reverse, [])

/-- A number in base sixteen, eight or two behind its mark. -/
def basedInteger? (t : Text) : Option (Int × Text) :=
  let read (base : Nat) (p : CodePoint → Bool) (rest : Text) : Option (Int × Text) :=
    match spanMarked p [] rest with
    | ([], _) => none
    | (digits, more) => some ((Text.valueInBase base digits : Nat), more)
  match t with
  | 0x30 :: 0x78 :: rest => read 16 (fun c => (Text.hexValue? c).isSome) rest
  | 0x30 :: 0x62 :: rest => read 2 (fun c => c == 0x30 || c == 0x31) rest
  | 0x30 :: 0x6f :: rest => read 8 Text.isOctalDigit rest
  | _ => none

/-- The digits behind a point, if there are any. -/
def pointDigits (t : Text) : Text × Text :=
  match t with
  | 0x2e :: rest =>
    match spanMarked Text.isAsciiDigit [] rest with
    | ([], _) => ([], t)
    | (digits, more) => (digits, more)
  | _ => ([], t)

/-- The exponent, if there is one. -/
def exponent? (t : Text) : Option (Int × Text) :=
  match t with
  | c :: rest =>
    if c = 0x65 ∨ c = 0x45 then
      let (negative, body) :=
        match rest with
        | 0x2d :: more => (true, more)
        | 0x2b :: more => (false, more)
        | _ => (false, rest)
      match spanMarked Text.isAsciiDigit [] body with
      | ([], _) => none
      | (digits, more) =>
        let n : Int := Text.digitsValue digits
        some (if negative then -n else n, more)
    else none
  | [] => none

/-- A number in base ten: an integer, or a double if it has a fraction or an exponent. -/
def decimalNumber? (t : Text) : Option (Except Fault Value × Text) :=
  let (negative, body) :=
    match t with
    | 0x2d :: rest => (true, rest)
    | 0x2b :: rest => (false, rest)
    | _ => (false, t)
  let (whole, rest) :=
    match body with
    | 0x30 :: rest => (([0x30] : Text), rest)
    | _ => spanMarked Text.isAsciiDigit [] body
  if whole.isEmpty then none
  else
    let (fraction, rest) := pointDigits rest
    match fraction, exponent? rest with
    | [], none =>
      if maxIntegerDigits < whole.length then
        some (.error (Fault.longNumber whole.length), rest)
      else
        let n : Int := Text.digitsValue whole
        some (.ok (.int (if negative then -n else n)), rest)
    | _, e? =>
      let (e, rest) := e?.getD (0, rest)
      let d : Decimal := ⟨Text.digitsValue (whole ++ fraction), e - fraction.length⟩
      some (.ok (.float (d.toDouble negative)), rest)

/-- A word for a double that is no number or without bounds. -/
def wordDouble? (t : Text) : Option (Value × Text) :=
  let word (negative : Bool) (rest : Text) : Option (Value × Text) :=
    match Text.after? "inf" rest, Text.after? "nan" rest with
    | some more, _ => some (.float (.infinite negative), more)
    | _, some more => some (.float .nan, more)
    | _, _ => none
  match t with
  | 0x2d :: rest => word true rest
  | 0x2b :: rest => word false rest
  | _ => word false t

end Rulebook.Toml
