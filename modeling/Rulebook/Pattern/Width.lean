import Rulebook.Pattern.Syntax

/-!
# Widths of patterns

The least and the greatest number of code points that a pattern can match. A look behind needs a pattern
for which the two agree.
-/

namespace Rulebook.Pattern

/-- A least and a greatest length. -/
structure Width where
  least : Nat
  most : Nat
  deriving Repr, DecidableEq, Inhabited

namespace Width

/-- Where widths stop growing. -/
def bound : Nat := Nat.pow 2 64

/-- A fixed length. -/
def fixed (n : Nat) : Width := ⟨n, n⟩

/-- One after the other. -/
def add (v w : Width) : Width := ⟨v.least + w.least, v.most + w.most⟩

/-- Either. -/
def either (v w : Width) : Width := ⟨min v.least w.least, max v.most w.most⟩

/-- Within the bound. -/
def capped (w : Width) : Width := ⟨min w.least bound, min w.most bound⟩

/-- So many times. -/
def times (w : Width) (least : Nat) (most : Option Nat) : Width :=
  ⟨w.least * least,
    match most with
    | some n => w.most * n
    | none => if w.most = 0 then 0 else bound⟩

end Width

mutual

/-- The width of a part, given the widths of the captured groups. -/
def Node.width (groups : Array (Option Width)) : Node → Width
  | .one _ => .fixed 1
  | .notOne _ => .fixed 1
  | .any => .fixed 1
  | .set .. => .fixed 1
  | .anchor _ => .fixed 0
  | .repetition _ least most body => (bodyWidth groups body).capped.times least most
  | .group _ _ _ body => (bodyWidth groups body).capped
  | .atomic body => (bodyWidth groups body).capped
  | .look .. => .fixed 0
  | .choice alternatives => (choiceWidth groups alternatives).getD ⟨Width.bound, 0⟩
  | .backReference g => ((groups[g]?).join).getD (.fixed 0)
  | .conditional _ yes no =>
    let w := (bodyWidth groups yes).capped
    match no with
    | some no => w.either (bodyWidth groups no).capped
    | none => ⟨0, w.most⟩

/-- The width of a sequence of parts. -/
def bodyWidth (groups : Array (Option Width)) : List Node → Width
  | [] => .fixed 0
  | n :: rest => (n.width groups).add (bodyWidth groups rest)

/-- The width of a choice, which has at least one alternative. -/
def choiceWidth (groups : Array (Option Width)) : List (List Node) → Option Width
  | [] => none
  | body :: rest =>
    let w := (bodyWidth groups body).capped
    match choiceWidth groups rest with
    | some more => some (w.either more)
    | none => some w

end

end Rulebook.Pattern
