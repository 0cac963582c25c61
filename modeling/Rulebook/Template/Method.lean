import Rulebook.Template.Filter
import Rulebook.Text.Identifier
import Rulebook.Text.Letter

/-!
# Methods

What the properties of texts, lists, tuples and mappings give when they are called.
-/

namespace Rulebook.Template

/-- A method that takes nothing. -/
def noArguments (label : Text) (args : List Value) (named : List (Text × Value)) : Except Fault Unit :=
  if !named.isEmpty then .error (Fault.wrongType (label ++ "() takes no keyword arguments"))
  else if !args.isEmpty then
    .error (Fault.wrongType (label ++ "() takes no arguments (" ++ Text.ofNat args.length ++ " given)"))
  else .ok ()

/-- Refuses arguments by name. -/
def noNames (label : Text) (named : List (Text × Value)) : Except Fault Unit :=
  if named.isEmpty then .ok () else .error (Fault.wrongType (label ++ "() takes no keyword arguments"))

/-- Refuses too few or too many arguments. -/
def argumentCount (label : Text) (least most : Nat) (args : List Value) : Except Fault Unit :=
  let n := args.length
  let limit (bound : Text) (k : Nat) : Except Fault Unit :=
    .error (Fault.wrongType (label ++ " expected " ++ bound ++ Text.ofNat k ++ " argument" ++ plural k ++ ", got " ++
      Text.ofNat n))
  if n < least then limit (if least = most then [] else "at least ") least
  else if most < n then limit (if least = most then [] else "at most ") most
  else .ok ()

/-- Refuses too few or too many arguments of a search in a text. -/
def searchCount (label : Text) (args : List Value) : Except Fault Unit :=
  if args.isEmpty then .error (Fault.wrongType (label ++ "() takes at least 1 argument (0 given)"))
  else if 3 < args.length then
    .error (Fault.wrongType (label ++ "() takes at most 3 arguments (" ++ Text.ofNat args.length ++ " given)"))
  else .ok ()

/-- The part of a sequence between the bounds that are given, with the place where it starts, unless it starts
behind the end. -/
def between {α : Type} (items : List α) (bounds : List Value) : Except Fault (Option (Nat × List α)) := do
  let bound (v : Value) : Except Fault (Option Int) := sliceBound v
  let start ← match bounds with | v :: _ => bound v | [] => pure none
  let stop ← match bounds with | _ :: v :: _ => bound v | _ => pure none
  let size := items.length
  let clamp (i : Int) : Nat := (if i < 0 then i + size else i).toNat
  let first := clamp (start.getD 0)
  let last := min (clamp (stop.getD size)) size
  if size < first ∨ last < first then return none
  else return some (first, (items.take last).drop first)

/-- A bound of a search in a list. -/
def listBound (v : Value) : Except Fault Int :=
  match v.asInteger? with
  | some n => .ok n
  | none => .error (Fault.wrongType "slice indices must be integers or have an __index__ method")

/-- The first place where a value is equal to a given one. -/
def firstPlace (v : Value) : List Value → Except Fault (Option Nat)
  | [] => .ok none
  | w :: ws => do if ← equalValues w v then return some 0 else return (← firstPlace v ws).map (· + 1)

/-- The place of a member. -/
def indexOf (v : Value) (items : List Value) (bounds : List Value) : Except Fault (Option Nat) := do
  let size := items.length
  let clamp (i : Int) : Nat := (if i < 0 then i + size else i).toNat
  let first ← match bounds with | b :: _ => do pure (clamp (← listBound b)) | [] => pure 0
  let last ← match bounds with | _ :: b :: _ => do pure (clamp (← listBound b)) | _ => pure size
  return (← firstPlace v ((items.take last).drop first)).map (first + ·)

/-- The text that an argument must be. -/
def textArgument (message : Value → Text) (v : Value) : Except Fault Text :=
  match v with
  | .text t => .ok t
  | v => .error (Fault.wrongType (message v))

/-- The ends that a text may have, for a question about its beginning or end. -/
def affixes (label : Text) (v : Value) : Except Fault (List Text) :=
  match v with
  | .text t => .ok [t]
  | .tuple items => items.mapM fun w =>
      textArgument (fun w => "tuple for " ++ label ++ " must only contain str, not " ++ w.operandName) w
  | v =>
    .error (Fault.wrongType (label ++ " first arg must be str or a tuple of str, not " ++ v.operandName))

/-- What the code points that may be stripped are. -/
def strippable (label : Text) (args : List Value) : Except Fault (CodePoint → Bool) :=
  match args with
  | [] => .ok Text.isSpace
  | [.null] => .ok Text.isSpace
  | [.text chars] => .ok chars.contains
  | _ => .error (Fault.wrongType (label ++ " arg must be None or str"))

/-- The pieces of a text between separators. -/
def splitText (t : Text) (args : List Value) (named : List (Text × Value)) : Except Fault Value := do
  let values ← Signature.bind ⟨"split", 0, [.optional "sep" .null, .optional "maxsplit" (.int (-1))]⟩ args named
  match values with
  | [separator, limit] =>
    let n ← sizeArgument limit
    let most := if n < 0 then t.length + 1 else n.toNat
    match separator with
    | .null => return .list ((Text.splitWords (t.length + 1) most t).map .text)
    | .text [] => throw (Fault.badValue "empty separator")
    | .text sep => return .list ((Text.splitAt sep (t.length + 1) most [] t).map .text)
    | v => throw (Fault.wrongType ("must be str or None, not " ++ v.operandName))
  | _ => return .null

/-- The texts of a collection with a separator between them. -/
def joinTexts (sep : Text) (v : Value) : Except Fault Value := do
  let items ← iterateOr "can only join an iterable" v
  let parts ← items.zipIdx.mapM fun (item, i) =>
    textArgument (fun w => "sequence item " ++ Text.ofNat i ++ ": expected str instance, " ++ w.operandName ++ " found")
      item
  return .text (Text.join sep parts)

/-- The width and the fill of a padded text. -/
def paddingOf (label : Text) (args : List Value) (named : List (Text × Value)) : Except Fault (Nat × CodePoint) := do
  noNames ("str." ++ label) named
  argumentCount label 1 2 args
  let width ← sizeArgument (args.headD .null)
  match args.drop 1 with
  | [] => return (width.toNat, 0x20)
  | .text [c] :: _ => return (width.toNat, c)
  | .text _ :: _ => throw (Fault.wrongType "The fill character must be exactly one character long")
  | v :: _ => throw (Fault.wrongType ("The fill character must be a unicode character, not " ++ v.operandName))

/-- The text before a separator, the separator and the text behind it, for the first or the last that is there. -/
def partition (last : Bool) (t sep : Text) : Value :=
  let place := if last then Text.findLast? sep t else Text.find? sep t
  match place with
  | some i => .tuple [.text (t.take i), .text sep, .text (t.drop (i + sep.length))]
  | none => if last then .tuple [.text [], .text [], .text t] else .tuple [.text t, .text [], .text []]

/-- The text with zeros behind its sign, or else in front, up to a width. -/
def padZeros (width : Nat) (t : Text) : Text :=
  match t with
  | c :: rest => if c = 0x2b ∨ c = 0x2d then c :: Text.padLeft 0x30 (width - 1) rest else Text.padLeft 0x30 width t
  | [] => Text.padLeft 0x30 width t

/-- A method of a text that lays it out or takes it apart. -/
def callLayoutMethod (t : Text) (name : Text) (args : List Value) (named : List (Text × Value)) :
    Except Fault Value := do
  let label : Text := "str." ++ name
  let parted (last : Bool) : Except Fault Value := do
    let sep ← textArgument (fun v => "must be str, not " ++ v.operandName) (← exactlyOne label.toStringLossy args named)
    if sep.isEmpty then throw (Fault.badValue "empty separator")
    return partition last t sep
  let affix : Except Fault Text := do
    let v ← exactlyOne label.toStringLossy args named
    textArgument (fun v => name ++ "() argument must be str, not " ++ v.operandName) v
  match name.toStringLossy with
  | "center" => do
    let (width, c) ← paddingOf name args named
    return .text (Text.center c width t)
  | "ljust" => do
    let (width, c) ← paddingOf name args named
    return .text (Text.padRight c width t)
  | "rjust" => do
    let (width, c) ← paddingOf name args named
    return .text (Text.padLeft c width t)
  | "zfill" => do
    let width := (← sizeArgument (← exactlyOne "str.zfill" args named)).toNat
    return .text (padZeros width t)
  | "partition" => parted false
  | "rpartition" => parted true
  | "removeprefix" => do
    let a ← affix
    return .text (if Text.startsWith t a then t.drop a.length else t)
  | "removesuffix" => do
    let a ← affix
    return .text (if Text.endsWith t a then t.take (t.length - a.length) else t)
  | _ => throw (leftOut ("the method " ++ name))

/-- The part that a method of a text looks for, and where it looks, unless that is behind the end. -/
def searched (t name : Text) (args : List Value) (named : List (Text × Value)) :
    Except Fault (Option (Text × Option (Nat × Text))) := do
  noNames ("str." ++ name) named
  searchCount name args
  match args with
  | part :: bounds =>
    let part ← textArgument (fun v => "must be str, not " ++ v.operandName) part
    return some (part, ← between t bounds)
  | [] => return none

/-- The place that a method of a text finds. -/
def placeOf (find : Text → Text → Option Nat) (t name : Text) (args : List Value) (named : List (Text × Value)) :
    Except Fault (Option Nat) := do
  match ← searched t name args named with
  | some (part, some (first, window)) => return (find part window).map (first + ·)
  | _ => return none

/-- The place that must be found. -/
def placeOrFault (place : Option Nat) : Except Fault Value :=
  match place with
  | some i => .ok (.int (i : Nat))
  | none => .error (Fault.badValue "substring not found")

/-- The place, or minus one. -/
def placeOrMinusOne (place : Option Nat) : Value :=
  match place with
  | some i => .int (i : Nat)
  | none => .int (-1)

/-- How often the part occurs that a method of a text looks for. -/
def countOf (t name : Text) (args : List Value) (named : List (Text × Value)) : Except Fault Value := do
  match ← searched t name args named with
  | some (part, some (_, window)) => return .int (Text.countParts part (window.length + 1) window : Nat)
  | _ => return .int 0

/-- Whether the text begins or ends with one of the ends that a method is given. -/
def hasAffix (p : Text → Text → Bool) (t name : Text) (args : List Value) (named : List (Text × Value)) :
    Except Fault Value := do
  noNames ("str." ++ name) named
  searchCount name args
  match args with
  | ends :: bounds =>
    let ends ← affixes name ends
    match ← between t bounds with
    | some (_, window) => return .bool (ends.any fun e => p window e)
    | none => return .bool false
  | [] => return .null

/-- The number of replacements, unless there is no limit on it. -/
def replaceLimit (args : List Value) : Except Fault (Option Nat) :=
  match args with
  | v :: _ => do
    let n ← sizeArgument v
    return if n < 0 then none else some n.toNat
  | [] => .ok none

/-- The text with a part replaced by another. -/
def replaceIn (t name : Text) (args : List Value) (named : List (Text × Value)) : Except Fault Value := do
  noNames ("str." ++ name) named
  argumentCount name 2 3 args
  let argument (i : Nat) (v : Value) : Except Fault Text :=
    textArgument (fun v => "replace() argument " ++ Text.ofNat i ++ " must be str, not " ++ v.operandName) v
  match args with
  | old :: new :: rest =>
    let old ← argument 1 old
    let new ← argument 2 new
    return .text (Text.replace old new (← replaceLimit rest) t)
  | _ => return .null

/-- A method of a text. -/
def callTextMethod (t : Text) (name : Text) (args : List Value) (named : List (Text × Value)) : Except Fault Value := do
  let label : Text := "str." ++ name
  let mapped (f : Text → Text) : Except Fault Value := do
    noArguments label args named
    return .text (f t)
  let asks (p : Text → Bool) : Except Fault Value := do
    noArguments label args named
    return .bool (p t)
  let every (p : CodePoint → Bool) : Except Fault Value := asks fun t => !t.isEmpty && t.all p
  let stripped (f : (CodePoint → Bool) → Text → Text) : Except Fault Value := do
    noNames label named
    argumentCount name 0 1 args
    return .text (f (← strippable name args) t)
  match name.toStringLossy with
  | "upper" => mapped Text.upper
  | "lower" => mapped Text.lower
  | "title" => mapped Text.titleCased
  | "capitalize" => mapped Text.capitalize
  | "swapcase" => mapped Text.swapCase
  | "strip" => stripped Text.stripBy
  | "lstrip" => stripped Text.stripLeftBy
  | "rstrip" => stripped Text.stripRightBy
  | "startswith" => hasAffix Text.startsWith t name args named
  | "endswith" => hasAffix Text.endsWith t name args named
  | "index" => do placeOrFault (← placeOf Text.find? t name args named)
  | "rindex" => do placeOrFault (← placeOf Text.findLast? t name args named)
  | "find" => do return placeOrMinusOne (← placeOf Text.find? t name args named)
  | "rfind" => do return placeOrMinusOne (← placeOf Text.findLast? t name args named)
  | "count" => countOf t name args named
  | "replace" => replaceIn t name args named
  | "split" => splitText t args named
  | "join" => do joinTexts t (← exactlyOne "str.join" args named)
  | "islower" => asks Text.isLowerCase
  | "isupper" => asks Text.isUpperCase
  | "isspace" => every Text.isSpace
  | "isalnum" => every Text.isAlphanumeric
  | "isdecimal" => every Text.isDigit
  | "isalpha" => every Text.isLetter
  | "isascii" => asks fun t => t.all (· < 128)
  | "isidentifier" => asks Text.isIdentifier
  | _ => callLayoutMethod t name args named

/-- A method of a list or tuple. -/
def callSequenceMethod (kind : Text) (missing : Value → Except Fault Text) (items : List Value)
    (name : Text) (args : List Value) (named : List (Text × Value)) : Except Fault Value := do
  let label : Text := kind ++ "." ++ name
  match name.toStringLossy with
  | "index" => do
    noNames label named
    argumentCount name 1 3 args
    match args with
    | v :: bounds =>
      match ← indexOf v items bounds with
      | some i => return .int (i : Nat)
      | none => throw (Fault.badValue (← missing v))
    | [] => return .null
  | "count" => do
    let v ← exactlyOne (label.toStringLossy) args named
    return .int ((← items.filterM fun w => equalValues w v).length : Nat)
  | "copy" => do
    noArguments label args named
    return .list items
  | _ => throw (leftOut ("the method " ++ name))

/-- A method of a mapping. -/
def callMappingMethod (entries : List (Value × Value)) (name : Text) (args : List Value)
    (named : List (Text × Value)) : Except Fault Value := do
  let label : Text := "dict." ++ name
  match name.toStringLossy with
  | "get" => do
    noNames label named
    argumentCount name 1 2 args
    match args with
    | k :: rest =>
      checkKey k
      return (Value.lookup k entries).getD (rest.headD .null)
    | [] => return .null
  | "keys" => do
    noArguments label args named
    return .view .keys (entries.map (·.1))
  | "values" => do
    noArguments label args named
    return .view .values (entries.map (·.2))
  | "items" => do
    noArguments label args named
    return .view .items (entries.map fun (k, v) => .tuple [k, v])
  | "copy" => do
    noArguments label args named
    return .mapping entries
  | _ => throw (leftOut ("the method " ++ name))

/-- What a method of a value gives. -/
def callMethod (receiver : Value) (name : Text) (args : List Value) (named : List (Text × Value)) :
    Except Fault Value :=
  match receiver with
  | .text t => callTextMethod t name args named
  | .list items =>
    callSequenceMethod "list" (fun v => do return (← v.display) ++ " is not in list") items name args named
  | .tuple items =>
    callSequenceMethod "tuple" (fun _ => .ok "tuple.index(x): x not in tuple") items name args named
  | .mapping entries => callMappingMethod entries name args named
  | _ => .error (leftOut ("the method " ++ name))

end Rulebook.Template
