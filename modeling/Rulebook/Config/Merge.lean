import Rulebook.Fault
import Rulebook.Value.Equality

/-!
# Merging configurations

A mapping laid over another: mappings under the same key are merged in turn, any other value replaces what was
there. The keys keep their places, and new ones follow.
-/

namespace Rulebook.Config

mutual

/-- A value laid over what was there. -/
def mergeOver (old : Option Value) : Value → Value
  | .mapping top =>
    match old with
    | some (.mapping base) => .mapping (mergeEntries base top)
    | _ => .mapping top
  | v => v

/-- Entries laid over others. -/
def mergeEntries (base : List (Value × Value)) : List (Value × Value) → List (Value × Value)
  | [] => base
  | (k, v) :: rest => mergeEntries (Value.insertEntry k (mergeOver (Value.lookup k base) v) base) rest

end

/-- A value without a method. -/
def lacksMethod (v : Value) (name : Text) : Fault :=
  ⟨.missingAttribute, "'" ++ v.typeName ++ "' object has no attribute '" ++ name ++ "'"⟩

/-- A value that can be copied as a whole. -/
def isCopied : Value → Bool
  | .list _ => true
  | .set _ => true
  | .frozenSet _ => true
  | .byteArray _ => true
  | .mapping _ => true
  | _ => false

/-- A configuration laid over another; both have to be mappings. -/
def merge (base top : Value) : Except Fault Value :=
  if !isCopied base then .error (lacksMethod base "copy")
  else
    match base, top with
    | .mapping a, .mapping b => .ok (.mapping (mergeEntries a b))
    | _, .mapping [] => .ok base
    | _, .mapping _ => .error (lacksMethod base "get")
    | _, _ => .error (lacksMethod top "items")

end Rulebook.Config
