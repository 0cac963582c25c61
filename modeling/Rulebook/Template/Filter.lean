import Rulebook.Template.Access
import Rulebook.Template.Signature
import Rulebook.Text.Part

/-!
# Filters

What a bar and a name make of a value. A filter is applied to the value, the arguments by position and those
by name; its signature decides which of them fit.
-/

namespace Rulebook.Template

/-- The names of all filters. -/
def filterNames : List Text :=
  ["abs", "attr", "batch", "capitalize", "center", "count", "d", "default", "dictsort", "e", "escape",
    "filesizeformat", "first", "float", "forceescape", "format", "groupby", "indent", "int", "items", "join",
    "last", "length", "list", "lower", "map", "max", "min", "pprint", "random", "reject", "rejectattr",
    "replace", "reverse", "round", "safe", "select", "selectattr", "slice", "sort", "string", "striptags",
    "sum", "title", "tojson", "trim", "truncate", "unique", "upper", "urlencode", "urlize", "wordcount",
    "wordwrap", "xmlattr"].map Text.ofString

/-- The filter exists. -/
def isFilterName (name : Text) : Bool := filterNames.any (Text.same name)

/-- Only the filtered value is taken. -/
def plainSignature (label : String) (hidden : Nat) : Signature := ⟨label, hidden, [.required "s"]⟩

/-- The integer that a filter needs. -/
def integerArgument (v : Value) : Except Fault Int :=
  match v.asInteger? with
  | some n => .ok n
  | none => .error (Fault.wrongType ("'" ++ v.operandName ++ "' object cannot be interpreted as an integer"))

/-- The size that a filter or method needs. -/
def sizeArgument (v : Value) : Except Fault Int := do
  let n ← integerArgument v
  if isWithin maxSize n then return n else throw (beyondRange "ssize_t")

/-- The members of a value from the last to the first. -/
def iterateReversed (v : Value) : Except Fault (List Value) :=
  let refusal : Text := "'" ++ v.operandName ++ "' object is not reversible"
  match v with
  | .set _ => .error (Fault.wrongType refusal)
  | .frozenSet _ => .error (Fault.wrongType refusal)
  | _ => do return (← iterateOr refusal v).reverse

/-- The way to a part of a value: names and places between points. -/
def partsOfPath (v : Value) : List Value :=
  let segments (t : Text) : List Value :=
    (Text.splitAt [0x2e] (t.length + 1) (t.length + 1) [] t).map fun s =>
      if !s.isEmpty && s.all Text.isDigit then .int (Text.valueOfDigits (Text.digitValues s) : Nat) else .text s
  match v with
  | .null => []
  | .text t => segments t
  | v => [v]

/-- The part of a value at the end of a way. -/
def followPath (strict : Bool) (path : List Value) (v : Value) : Except Fault Value :=
  path.foldlM (fun w part => getItem strict w part) v

/-- Texts without their case, for comparisons that ignore it. -/
def ignoringCase (v : Value) : Value :=
  match v with
  | .text t => .text (Text.lower t)
  | v => v

/-- Integer and fraction digits of a text that a double denotes, cut off toward zero. -/
def integerOfReal (x : Double) (default : Value) : Value :=
  match x.truncate? with
  | some n => .int n
  | none => default

/-- A digit of any base up to 36. -/
def baseDigit? (base : Nat) (c : CodePoint) : Option Nat :=
  let d : Option Nat :=
    match Text.digitValue? c with
    | some d => some d
    | none =>
      if 0x61 ≤ c ∧ c ≤ 0x7a then some (c - 0x57) else if 0x41 ≤ c ∧ c ≤ 0x5a then some (c - 0x37) else none
  d.filter (· < base)

/-- The digits of a text in a base, with single low lines between them. -/
def digitsInBase? (base : Nat) : Bool → Nat → Text → Option Nat
  | afterDigit, n, [] => if afterDigit then some n else none
  | afterDigit, n, c :: rest =>
    if c = 0x5f then (if afterDigit then digitsInBase? base false n rest else none)
    else
      match baseDigit? base c with
      | some d => digitsInBase? base true (base * n + d) rest
      | none => none

/-- An integer in a base, with the mark of the base in front allowed. -/
def readInBase? (base : Nat) (t : Text) : Option Int :=
  let (negative, body) := Text.splitSign (Text.strip t)
  let marked (mark : String) (b : Nat) : Option Text :=
    if base = b ∨ base = 0 then Text.after? (mark : Text) (Text.asciiLower (body.take 2) ++ body.drop 2) else none
  let value (b : Nat) (digits : Text) : Option Int := do
    let digits := if digits.head? == some 0x5f && digits.length < body.length then digits.drop 1 else digits
    let n : Int := ((← digitsInBase? b false 0 digits) : Nat)
    return if negative then -n else n
  match marked "0x" 16, marked "0o" 8, marked "0b" 2 with
  | some digits, _, _ => value 16 digits
  | _, some digits, _ => value 8 digits
  | _, _, some digits => value 2 digits
  | _, _, _ => if base = 0 then Text.readInteger? t else value base body

/-- The value as an integer: as it stands, or the digits before the point of the double it denotes. -/
def toInteger (v default base : Value) : Except Fault Value := do
  let real (t : Text) : Value :=
    match Text.readReal? t with
    | some x => integerOfReal x default
    | none => default
  match v with
  | .undefined u => throw u.fault
  | .float x =>
    match x with
    | .infinite _ => throw ⟨.overflow, "cannot convert float infinity to integer"⟩
    | _ => return integerOfReal x default
  | .text t =>
    match base.asInteger? with
    | some b =>
      let read? :=
        if b = 10 then Text.readInteger? t
        else if b = 0 ∨ (2 ≤ b ∧ b ≤ 36) then readInBase? b.toNat t
        else none
      match read? with
      | some n => return .int n
      | none => return real t
    | none => return real t
  | .bytes d =>
    match Text.readInteger? d with
    | some n => return .int n
    | none => return real d
  | .byteArray d =>
    match Text.readInteger? d with
    | some n => return .int n
    | none => return real d
  | v =>
    match v.asInteger? with
    | some n => return .int n
    | none => return default

/-- The value as a double. -/
def toReal (v default : Value) : Except Fault Value := do
  let real (t : Text) : Value :=
    match Text.readReal? t with
    | some x => .float x
    | none => default
  match v with
  | .undefined u => throw u.fault
  | .text t => return real t
  | .bytes d => return real d
  | .byteArray d => return real d
  | v =>
    match asNumber? v with
    | some x => return .float (← x.toDouble?)
    | none => return default

/-- The number nearest to a fraction with so many digits after the point; of two, the one with an even last
digit. -/
def roundFraction (digits : Int) (negative : Bool) (a b : Nat) : Double :=
  let m := Double.roundQuotient (a * Nat.pow 10 digits.toNat) (b * Nat.pow 10 (-digits).toNat)
  Decimal.toDouble ⟨m, -digits⟩ negative

/-- The nearest double with so many digits after the point. More than 323 digits leave it as it is, and less than -308
leave nothing of it. -/
def roundDouble (digits : Int) (x : Double) : Except Fault Double :=
  match x.toFraction? with
  | none => .ok x
  | some (a, b) =>
    if 323 < digits then .ok x
    else if digits < -308 then .ok (Double.zero x.isNegative)
    else
      match roundFraction digits x.isNegative a.natAbs b with
      | .infinite _ => .error ⟨.overflow, "rounded value too large to represent"⟩
      | y => .ok y

/-- The integer nearest to a number; of two, the even one. -/
def Number.nearest : Number → Except Fault Int
  | .int n => .ok n
  | .float x =>
    match x.toFraction? with
    | none => integerOf x
    | some (a, b) => .ok (a.sign * (Double.roundQuotient a.natAbs b : Nat))

/-- The multiple of a power of ten nearest to an integer; of two, the even one. -/
def roundInteger (digits m : Int) : Int :=
  let unit := Nat.pow 10 (-digits).toNat
  m.sign * (Double.roundQuotient m.natAbs unit * unit : Nat)

/-- The nearest number with so many digits after the point. -/
def Number.round (digits : Int) : Number → Except Fault Value
  | .int n => .ok (.int (roundInteger digits n))
  | .float x => do return .float (← roundDouble digits x)

/-- The nearest number with so many digits after the point, or the nearest integer if nothing is said of digits. -/
def roundValue (v digits : Value) : Except Fault Value :=
  match asNumber? v with
  | none => .error (Fault.wrongType ("type " ++ v.operandName ++ " doesn't define __round__ method"))
  | some n =>
    match digits with
    | .null => do return .int (← n.nearest)
    | digits => do n.round (← integerArgument digits)

/-- The next integer upwards or downwards. -/
def Number.next (upwards : Bool) : Number → Except Fault Int
  | .int n => .ok n
  | .float x =>
    match x.toFraction? with
    | none => integerOf x
    | some (a, b) => .ok (if upwards then -((-a).fdiv b) else a.fdiv b)

/-- The next number upwards or downwards with so many digits after the point. -/
def roundTowards (upwards : Bool) (v digits : Value) : Except Fault Value := do
  let unit ← arith .pow (.int 10) digits
  let scaled ← arith .mul v unit
  match asNumber? scaled with
  | some n => arith .div (.int (← n.next upwards)) unit
  | none => throw (Fault.wrongType ("must be real number, not " ++ scaled.operandName))

/-- The number with so many digits after the point: the nearest one, or the next one in a direction. -/
def roundBy (v digits method : Value) : Except Fault Value := do
  let refused : Fault := ⟨.templateRuntime, "method must be common, ceil or floor"⟩
  checkMember method
  match method with
  | .text t =>
    match t.toStringLossy with
    | "common" => roundValue v digits
    | "ceil" => roundTowards true v digits
    | "floor" => roundTowards false v digits
    | _ => throw refused
  | _ => throw refused

/-- A member put among sorted ones, behind those that are not greater. -/
def insertByKey (less : Value → Value → Except Fault Bool) (x : Value × Value) :
    List (Value × Value) → Except Fault (List (Value × Value))
  | [] => .ok [x]
  | y :: ys =>
    match less x.1 y.1 with
    | .error f => .error f
    | .ok true => .ok (x :: y :: ys)
    | .ok false =>
      match insertByKey less x ys with
      | .ok zs => .ok (y :: zs)
      | .error f => .error f

/-- The members in the order of their keys. -/
def sortByKey (pairs : List (Value × Value)) (reversed : Bool) : Except Fault (List Value) := do
  let less (a b : Value) : Except Fault Bool :=
    if reversed then relate .gt a b else relate .lt a b
  let sorted ← pairs.foldlM (fun done x => insertByKey less x done) []
  return sorted.map (·.2)

/-- Members with the keys by which they are compared. -/
def keyed (strict : Bool) (v caseSensitive part : Value) : Except Fault (List (Value × Value)) := do
  let path := partsOfPath part
  let respect ← truth caseSensitive
  (← iterate v).mapM fun item => do
    let key ← followPath strict path item
    return (if respect then key else ignoringCase key, item)

/-- The member whose key is before all others in a relation. -/
def bestByKey (strict : Bool) (r : Relation) (pairs : List (Value × Value)) : Except Fault Value :=
  match pairs with
  | [] => .ok (undefinedOf strict "No aggregated item, sequence was empty.")
  | first :: rest => do
    let best ← rest.foldlM (fun best x => do return if ← relate r x.1 best.1 then x else best) first
    return best.2

/-- Signs that have a meaning in markup as references. -/
def escapeMarkup (t : Text) : Text :=
  t.flatMap fun c =>
    if c = Text.cp '&' then "&amp;"
    else if c = Text.cp '<' then "&lt;"
    else if c = Text.cp '>' then "&gt;"
    else if c = Text.cp '"' then "&#34;"
    else if c = Text.cp '\'' then "&#39;"
    else [c]

/-- The words of a text that hold a letter, digit or low line. -/
def wordCount (t : Text) : Nat :=
  ((Text.runsBy Text.isWord [] [] t).filter fun run => run.any Text.isWord).length

/-- The texts of members with a separator between them. -/
def joinValues (strict : Bool) (v separator part : Value) : Except Fault Value := do
  let path := partsOfPath part
  let sep ← printed separator
  let parts ← (← iterate v).mapM fun item => do printed (← followPath strict path item)
  return .text (Text.join sep parts)

/-- The value, or another where it is undefined or, if asked strictly, counts as false. -/
def orDefault (v other strictly : Value) : Except Fault Value :=
  match v with
  | .undefined _ => .ok other
  | v => do
    if ← truth strictly then return if ← truth v then v else other
    else return v

/-- The number of replacements, unless there is no limit on it. -/
def replaceCount (count : Value) : Except Fault (Option Nat) :=
  match count with
  | .null => .ok none
  | count => do
    let n ← sizeArgument count
    return if n < 0 then none else some n.toNat

/-- The text of a value with a part replaced by another. -/
def replaceParts (v old new count : Value) : Except Fault Value := do
  let t ← printed v
  let old ← printed old
  let new ← printed new
  return .text (Text.replace old new (← replaceCount count) t)

/-- The number without its sign. -/
def absolute (v : Value) : Except Fault Value :=
  match asNumber? v with
  | some (.int n) => .ok (.int n.natAbs)
  | some (.float x) => .ok (.float x.abs)
  | none =>
    .error (if isNumeric v then leftOut "the size of a complex number"
      else Fault.wrongType ("bad operand type for abs(): '" ++ v.operandName ++ "'"))

/-- Refuses to add up texts or bytes. -/
def checkStart (start : Value) : Except Fault Unit :=
  let refuse (kind mark : Text) : Except Fault Unit :=
    .error (Fault.wrongType ("sum() can't sum " ++ kind ++ " [use " ++ mark ++ "''.join(seq) instead]"))
  match start with
  | .text _ => refuse "strings" []
  | .bytes _ => refuse "bytes" "b"
  | .byteArray _ => refuse "bytearray" "b"
  | _ => .ok ()

/-- The sum of the parts of members. -/
def sumValues (strict : Bool) (v part start : Value) : Except Fault Value := do
  let path := partsOfPath part
  let items ← iterate v
  checkStart start
  items.foldlM (fun total item => do arith .add total (← followPath strict path item)) start

/-- The property of a value that a name asks for. Something undefined has no property but those that begin with two
low lines. -/
def namedProperty (strict : Bool) (v : Value) (name : Text) : Except Fault Value :=
  let property := (safeProperty? strict v name).getD (missingProperty strict v name)
  match v with
  | .undefined u => if Text.startsWith name "__" || hasProperty v name then .ok property else .error u.fault
  | v => if hidesProperty v name then .error (hiddenProperty v name) else .ok property

/-- What a filter makes of a value. A filter whose work is not offered reports that. -/
def applyFilter (strict : Bool) (name : Text) (v : Value) (args : List Value) (named : List (Text × Value)) :
    Except Fault Value := do
  let all := v :: args
  let onText (label : String) (f : Text → Text) : Except Fault Value := do
    let _ ← (plainSignature label 0).bind all named
    return .text (f (← printed v))
  let counted : Except Fault Value := do
    let v ← exactlyOne "len" all named
    return .int (← length v : Nat)
  let orElse : Except Fault Value := do
    let values ← Signature.bind ⟨"do_default", 0,
      [.required "value", .optional "default_value" (.text []), .optional "boolean" (.bool false)]⟩ all named
    match values with
    | [v, other, strictly] => orDefault v other strictly
    | _ => return v
  let escaped (label : String) : Except Fault Value := onText label escapeMarkup
  let best (label : String) (r : Relation) : Except Fault Value := do
    let values ← Signature.bind ⟨label, 1,
      [.required "value", .optional "case_sensitive" (.bool false), .optional "attribute" .null]⟩ all named
    match values with
    | [v, caseSensitive, part] => bestByKey strict r (← keyed strict v caseSensitive part)
    | _ => return v
  match name.toStringLossy with
  | "upper" => onText "do_upper" Text.upper
  | "lower" => onText "do_lower" Text.lower
  | "title" => onText "do_title" Text.titleWords
  | "capitalize" => onText "do_capitalize" Text.capitalize
  | "string" => onText "soft_str" id
  | "e" => escaped "escape"
  | "escape" => escaped "escape"
  | "forceescape" => escaped "do_forceescape"
  | "safe" => onText "do_mark_safe" id
  | "wordcount" => do
    let _ ← (plainSignature "do_wordcount" 0).bind all named
    return .int (wordCount (← printed v) : Nat)
  | "trim" => do
    let values ← Signature.bind ⟨"do_trim", 0, [.required "value", .optional "chars" .null]⟩ all named
    let t ← printed v
    match values with
    | [_, .null] => return .text (Text.strip t)
    | [_, .text chars] => return .text (Text.stripBy chars.contains t)
    | _ => throw (Fault.wrongType "strip arg must be None or str")
  | "length" => counted
  | "count" => counted
  | "default" => orElse
  | "d" => orElse
  | "join" => do
    let values ← Signature.bind ⟨"sync_do_join", 1,
      [.required "value", .optional "d" (.text []), .optional "attribute" .null]⟩ all named
    match values with
    | [v, separator, part] => joinValues strict v separator part
    | _ => return v
  | "first" => do
    let _ ← Signature.bind ⟨"sync_do_first", 1, [.required "seq"]⟩ all named
    return ((← iterate v).head?).getD (undefinedOf strict "No first item, sequence was empty.")
  | "last" => do
    let _ ← Signature.bind ⟨"do_last", 1, [.required "seq"]⟩ all named
    return ((← iterateReversed v).head?).getD (undefinedOf strict "No last item, sequence was empty.")
  | "replace" => do
    let values ← Signature.bind ⟨"do_replace", 1,
      [.required "s", .required "old", .required "new", .optional "count" .null]⟩ all named
    match values with
    | [v, old, new, count] => replaceParts v old new count
    | _ => return v
  | "abs" => do
    absolute (← exactlyOne "abs" all named)
  | "int" => do
    let values ← Signature.bind ⟨"do_int", 0,
      [.required "value", .optional "default" (.int 0), .optional "base" (.int 10)]⟩ all named
    match values with
    | [v, default, base] => toInteger v default base
    | _ => return v
  | "float" => do
    let values ← Signature.bind ⟨"do_float", 0,
      [.required "value", .optional "default" (.float (Double.zero false))]⟩ all named
    match values with
    | [v, default] => toReal v default
    | _ => return v
  | "list" => do
    let _ ← Signature.bind ⟨"sync_do_list", 0, [.required "value"]⟩ all named
    return .list (← iterate v)
  | "reverse" => do
    let _ ← Signature.bind ⟨"do_reverse", 0, [.required "value"]⟩ all named
    match v with
    | .text t => return .text t.reverse
    | v => return .list (← iterate v).reverse
  | "round" => do
    let values ← Signature.bind ⟨"do_round", 0,
      [.required "value", .optional "precision" (.int 0), .optional "method" (.text "common")]⟩ all named
    match values with
    | [v, digits, method] => roundBy v digits method
    | _ => return v
  | "sum" => do
    let values ← Signature.bind ⟨"sync_do_sum", 1,
      [.required "iterable", .optional "attribute" .null, .optional "start" (.int 0)]⟩ all named
    match values with
    | [v, part, start] => sumValues strict v part start
    | _ => return v
  | "min" => best "do_min" .lt
  | "max" => best "do_max" .gt
  | "sort" => do
    let values ← Signature.bind ⟨"do_sort", 1,
      [.required "value", .optional "reverse" (.bool false), .optional "case_sensitive" (.bool false),
        .optional "attribute" .null]⟩ all named
    match values with
    | [v, reversed, caseSensitive, part] =>
      return .list (← sortByKey (← keyed strict v caseSensitive part) (← truth reversed))
    | _ => return v
  | "unique" => do
    let values ← Signature.bind ⟨"do_unique", 1,
      [.required "value", .optional "case_sensitive" (.bool false), .optional "attribute" .null]⟩ all named
    match values with
    | [v, caseSensitive, part] =>
      let pairs ← keyed strict v caseSensitive part
      pairs.forM fun x => checkKey x.1
      let kept := pairs.foldl
        (fun (kept : List (Value × Value)) x => if Value.among x.1 (kept.map (·.1)) then kept else x :: kept) []
      return .list (kept.reverse.map (·.2))
    | _ => return v
  | "items" => do
    let _ ← Signature.bind ⟨"do_items", 0, [.required "value"]⟩ all named
    match v with
    | .undefined _ => return .list []
    | .mapping entries => return .list (entries.map fun (k, w) => .tuple [k, w])
    | _ => throw (Fault.wrongType "Can only get item pairs from a mapping.")
  | "center" => do
    let values ← Signature.bind ⟨"do_center", 0, [.required "value", .optional "width" (.int 80)]⟩ all named
    match values with
    | [v, width] => do
      let t ← printed v
      return .text (Text.center 0x20 (← sizeArgument width).toNat t)
    | _ => return v
  | "attr" => do
    let values ← Signature.bind ⟨"do_attr", 1, [.required "obj", .required "name"]⟩ all named
    match values with
    | [v, .text property] => namedProperty strict v property
    | _ => throw (Fault.wrongType "attribute name must be string")
  | "format" =>
    if !args.isEmpty && !named.isEmpty then
      throw ⟨.templateRuntime, "can't handle positional and keyword arguments at the same time"⟩
    let given : Value := if named.isEmpty then .tuple args else .mapping (named.map fun (k, v) => (.text k, v))
    return .text (← Format.apply (← printed v) given)
  | _ => throw (leftOut ("the filter " ++ name))

end Rulebook.Template
