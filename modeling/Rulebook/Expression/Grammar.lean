import Rulebook.Expression.Literal
import Rulebook.Expression.Phrase

/-!
# The grammar of expressions

A phrase has alternatives, which are tried in their order. An alternative is a row of items and says what is built
from them.
-/

namespace Rulebook.Expression

/-- What an alternative asks for at a place. -/
inductive Item where
  /-- A keyword or an operator. -/
  | word (spelling : String)
  /-- A certain name. -/
  | soft (name : String)
  /-- A name that some statements start with. -/
  | softKeyword
  | nameToken
  | numberToken
  | stringToken
  /-- Quoted texts side by side. -/
  | stringTokens
  | newline
  | indent
  | dedent
  | finish
  | phrase (p : Phrase)
  /-- A phrase that stands for a fault; it is read only when faults are looked for. -/
  | check (p : Phrase)
  | oneOf (alternatives : List (List Item))
  | optional (alternatives : List (List Item))
  | many (item : Item)
  | atLeastOne (item : Item)
  /-- One or more items with another between each two. -/
  | separated (separator item : Item)
  /-- The item comes next; nothing is taken. -/
  | ahead (item : Item)
  /-- The item does not come next. -/
  | notAhead (item : Item)
  /-- Behind this place no other alternative is tried. -/
  | commit
  /-- A word that must be there. -/
  | forced (spelling : String)
  deriving Inhabited

instance : Coe Phrase Item := ⟨Item.phrase⟩

instance : Coe String Item := ⟨Item.word⟩

/-- Where an alternative was read: the line where it starts, and how many brackets are open behind it. -/
structure Place where
  line : Nat
  depth : Nat

/-- What comes of the parts of an alternative. -/
inductive Built where
  | node (n : Node)
  /-- The phrase is not there after all, and no other alternative is tried. -/
  | nothing
  | refused (c : Complaint)

/-- An alternative of a phrase. -/
structure Alternative where
  items : List Item
  build : Place → List Node → Built

end Rulebook.Expression
