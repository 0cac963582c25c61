import Rulebook.Value.Printer

/-!
# Equality of values

Numbers and truth values are equal when they denote the same number, texts and bytes when they have the
same members, collections when their members are equal: in order for sequences, in any order for sets and
mappings. Not-a-number is equal to nothing.
-/

namespace Rulebook

namespace Value

/-- The integer that a truth value or an integer denotes. -/
def asInteger? : Value → Option Int
  | int n => some n
  | bool b => some (if b then 1 else 0)
  | _ => none

/-- Equality of two numbers of any types; other values are no numbers. -/
def equalReals (v w : Value) : Bool :=
  match v, w with
  | float x, float y => x.order y == some .eq
  | float x, _ =>
    match w.asInteger? with
    | some n => x.orderInt n == some .eq
    | none => false
  | _, float y =>
    match v.asInteger? with
    | some n => y.orderInt n == some .eq
    | none => false
  | _, _ =>
    match v.asInteger?, w.asInteger? with
    | some m, some n => m == n
    | _, _ => false

/-- Equality of two numbers of any types, complex ones by their parts; other values are no numbers. -/
def equalNumbers (v w : Value) : Bool :=
  match v, w with
  | complex a b, complex c d => equalReals (float a) (float c) && equalReals (float b) (float d)
  | complex a b, w => b.isZero && equalReals (float a) w
  | v, complex a b => b.isZero && equalReals v (float a)
  | v, w => equalReals v w

/-- The members of a range. -/
def rangeLength (start stop step : Int) : Nat :=
  if 0 < step then ((stop - start + step - 1).fdiv step).toNat
  else if step < 0 then ((start - stop - step - 1).fdiv (-step)).toNat
  else 0

/-- Two ranges have the same members. -/
def equalRanges (a b s a' b' s' : Int) : Bool :=
  let n := rangeLength a b s
  n == rangeLength a' b' s' && (n == 0 || a == a' && (n == 1 || s == s'))

mutual

/-- The values are equal. -/
def equal : Value → Value → Bool
  | null, null => true
  | ellipsis, ellipsis => true
  | text s, text t => Text.same s t
  | bytes s, bytes t => Text.same s t
  | bytes s, byteArray t => Text.same s t
  | byteArray s, bytes t => Text.same s t
  | byteArray s, byteArray t => Text.same s t
  | list xs, list ys => equalAll xs ys
  | tuple xs, tuple ys => equalAll xs ys
  | set xs, set ys => xs.length == ys.length && allAmong xs ys
  | set xs, frozenSet ys => xs.length == ys.length && allAmong xs ys
  | frozenSet xs, set ys => xs.length == ys.length && allAmong xs ys
  | frozenSet xs, frozenSet ys => xs.length == ys.length && allAmong xs ys
  | mapping xs, mapping ys => xs.length == ys.length && allEntriesAmong xs ys
  | range a b s, range a' b' s' => equalRanges a b s a' b' s'
  | date d, date d' => d == d'
  | time t, time t' => t == t'
  | dateTime d t o, dateTime d' t' o' => d == d' && t == t' && o == o'
  | rule r, rule r' => r == r'
  | undefined u, undefined u' => u.strict == u'.strict
  | view _ xs, view _ ys => xs.length == ys.length && allAmong xs ys
  | method v n, method w m => Text.same n m && equal v w
  | function n _ _, function m _ _ => Text.same n m
  | templateFunction i _, templateFunction j _ => i == j
  | v, w => equalNumbers v w

/-- The values are equal one by one. -/
def equalAll : List Value → List Value → Bool
  | [], [] => true
  | v :: vs, w :: ws => equal v w && equalAll vs ws
  | _, _ => false

/-- Each value is equal to one of the others. -/
def allAmong : List Value → List Value → Bool
  | [], _ => true
  | v :: vs, ws => ws.any (fun w => equal v w) && allAmong vs ws

/-- Each entry is equal to one of the others. -/
def allEntriesAmong : List (Value × Value) → List (Value × Value) → Bool
  | [], _ => true
  | (k, v) :: rest, ws => ws.any (fun e => equal k e.1 && equal v e.2) && allEntriesAmong rest ws

end

/-- The value is equal to one of the others. -/
def among (v : Value) (ws : List Value) : Bool := ws.any (fun w => equal v w)

/-- The value of a key. -/
def lookup (key : Value) : List (Value × Value) → Option Value
  | [] => none
  | (k, v) :: rest => if equal k key then some v else lookup key rest

/-- The value of a text key. -/
def lookupText (key : Text) (entries : List (Value × Value)) : Option Value := lookup (text key) entries

/-- Replacement of the value of a key that is there. -/
def replaceEntry (key v : Value) (entries : List (Value × Value)) : List (Value × Value) :=
  entries.map fun (k, w) => if equal k key then (k, v) else (k, w)

/-- The entries with a value for a key: in its place if the key is there, else at the end. -/
def insertEntry (key v : Value) (entries : List (Value × Value)) : List (Value × Value) :=
  if (lookup key entries).isSome then replaceEntry key v entries else entries ++ [(key, v)]

/-- Entries in order; a later one with a key that is there replaces its value. -/
def entriesOf (pairs : List (Value × Value)) : List (Value × Value) :=
  pairs.foldl (fun entries (k, v) => insertEntry k v entries) []

/-- The members in order, each equal one once. -/
def members (items : List Value) : List Value :=
  (items.foldl (fun seen v => if among v seen then seen else v :: seen) []).reverse

/-- The members of a range as values. -/
def rangeItems (start stop step : Int) : List Value :=
  (List.range (rangeLength start stop step)).map fun (i : Nat) => int (start + step * (i : Int))

end Value

/-- A value counts as true. -/
def Value.truth : Value → Bool
  | .null => false
  | .bool b => b
  | .int n => n != 0
  | .float x => !x.isZero
  | .complex a b => !(a.isZero && b.isZero)
  | .text t => !t.isEmpty
  | .bytes d => !d.isEmpty
  | .byteArray d => !d.isEmpty
  | .list items => !items.isEmpty
  | .tuple items => !items.isEmpty
  | .set items => !items.isEmpty
  | .frozenSet items => !items.isEmpty
  | .mapping entries => !entries.isEmpty
  | .range a b s => Value.rangeLength a b s != 0
  | .view _ items => !items.isEmpty
  | .undefined _ => false
  | _ => true

end Rulebook
