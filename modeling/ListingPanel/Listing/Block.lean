/-!
Blocks of a listing: the display lines that belong to one source line.
-/
namespace ListingPanel

/-- Display lines `first` to `last`, counted from zero, which show source line `sourceLine`. -/
structure Block where
  sourceLine : Nat
  first : Nat
  last : Nat
  deriving DecidableEq, Repr

namespace Block

def length (b : Block) : Nat := b.last - b.first + 1

def contains (b : Block) (line : Nat) : Bool := b.first ≤ line && line ≤ b.last

end Block

end ListingPanel
