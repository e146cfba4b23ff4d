/-!
What is selected in an editor, in source lines.
-/
namespace ListingPanel

/-- A closed range of source lines. -/
structure LineRange where
  first : Nat
  last : Nat
  first_le_last : first ≤ last := by omega
  deriving DecidableEq, Repr

namespace LineRange

/-- The lines between `a` and `b`, in either order. -/
def between (a b : Nat) : LineRange := { first := min a b, last := max a b }

def single (n : Nat) : LineRange := between n n

end LineRange

/-- The caret's line, and the lines selected from one end to the other, if any are. -/
structure Selection where
  caret : Nat
  ends : Option (Nat × Nat) := none
  deriving DecidableEq, Repr

/-- The lines that a selection stands for: those selected, else the caret's. -/
def Selection.lines (s : Selection) : LineRange :=
  match s.ends with
  | some (a, b) => .between a b
  | none => .single s.caret

end ListingPanel
