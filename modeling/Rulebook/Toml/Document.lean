import Rulebook.Value.Equality
import Rulebook.Value.Printer

/-!
# Documents of configuration files

Tables inside tables, under keys of several parts, and what is known about the parts: a table that was declared
cannot be declared again, and the inside of a value is closed.
-/

namespace Rulebook.Toml

/-- A key of one or more parts. -/
abbrev Key := List Text

/-- A key as messages show it. -/
def Key.display (k : Key) : Text := tupleText (k.map Text.display)

/-- The parts of a key open the other. -/
def Key.isPrefix : Key → Key → Bool
  | [], _ => true
  | _ :: _, [] => false
  | a :: k, b :: l => Text.same a b && isPrefix k l

/-- Two keys are the same. -/
def Key.same (k l : Key) : Bool := k.length == l.length && Key.isPrefix k l

/-- What is known about keys: those that were declared, those whose inside is closed, and those that count as
declared from the next table on. -/
structure Marks where
  declared : List Key
  closed : List Key
  pending : List Key
  deriving Repr, Inhabited

namespace Marks

/-- Nothing is known. -/
def none : Marks := ⟨[], [], []⟩

/-- The key was declared. -/
def isDeclared (m : Marks) (k : Key) : Bool := !k.isEmpty && m.declared.any (Key.same k)

/-- The key is closed, or lies inside a closed one. -/
def isClosed (m : Marks) (k : Key) : Bool := !k.isEmpty && m.closed.any fun c => Key.isPrefix c k

/-- Declares a key. -/
def declare (m : Marks) (k : Key) : Marks := { m with declared := k :: m.declared }

/-- Closes a key. -/
def close (m : Marks) (k : Key) : Marks := { m with closed := k :: m.closed }

/-- Declares a key from the next table on. -/
def declareLater (m : Marks) (k : Key) : Marks := { m with pending := k :: m.pending }

/-- Declares what was put off. -/
def settle (m : Marks) : Marks := ⟨m.pending ++ m.declared, m.closed, []⟩

/-- Forgets what is known about a key and its inside. -/
def forget (m : Marks) (k : Key) : Marks :=
  { m with
    declared := m.declared.filter fun d => !Key.isPrefix k d
    closed := m.closed.filter fun d => !Key.isPrefix k d }

end Marks

/-- The entries of a table. -/
abbrev Table := List (Value × Value)

/-- The table with the one under a key changed; tables on the way are made where nothing is. In a list the last
table is meant, if lists are entered. Nothing comes of a way that leads through another value. -/
def Table.change (enterLists : Bool) (f : Table → Option Table) : Key → Table → Option Table
  | [], table => f table
  | k :: rest, table =>
    match Value.lookupText k table with
    | none => do
      let inner ← change enterLists f rest []
      return Value.insertEntry (.text k) (.mapping inner) table
    | some (.mapping inner) => do
      let inner ← change enterLists f rest inner
      return Value.insertEntry (.text k) (.mapping inner) table
    | some (.list items) =>
      if enterLists then
        match items.getLast? with
        | some (.mapping inner) => do
          let inner ← change enterLists f rest inner
          return Value.insertEntry (.text k) (.list (items.dropLast ++ [.mapping inner])) table
        | _ => none
      else none
    | some _ => none

/-- The table with an empty one added to the list of tables under a key. -/
def Table.addToList (key : Key) (table : Table) : Option Table :=
  table.change true
    (fun nest =>
      match key.getLast? with
      | none => none
      | some last =>
        match Value.lookupText last nest with
        | none => some (Value.insertEntry (.text last) (.list [.mapping []]) nest)
        | some (.list items) => some (Value.insertEntry (.text last) (.list (items ++ [.mapping []])) nest)
        | some _ => none)
    key.dropLast

/-- The table under a key has a value for a name. -/
def Table.hasAt (enterLists : Bool) : Key → Text → Table → Bool
  | [], name, table => (Value.lookupText name table).isSome
  | k :: rest, name, table =>
    match Value.lookupText k table with
    | some (.mapping inner) => hasAt enterLists rest name inner
    | some (.list items) =>
      if enterLists then
        match items.getLast? with
        | some (.mapping inner) => hasAt enterLists rest name inner
        | _ => false
      else false
    | _ => false

end Rulebook.Toml
