/-!
A character screen: cells in columns and rows, and what can be painted on them.
-/
namespace ListingPanel

structure Color where
  red : UInt8
  green : UInt8
  blue : UInt8
  deriving DecidableEq, Repr

/-- `width` columns from column `x` on, in `height` rows from row `y` on. -/
structure Area where
  x : Nat
  y : Nat
  width : Nat
  height : Nat
  deriving DecidableEq, Repr

namespace Area

def right (a : Area) : Nat := a.x + a.width

def bottom (a : Area) : Nat := a.y + a.height

def contains (a : Area) (x y : Nat) : Bool :=
  a.x ≤ x && x < a.right && a.y ≤ y && y < a.bottom

end Area

structure Cell where
  symbol : String := " "
  background : Option Color := none
  deriving DecidableEq, Repr

structure Screen where
  area : Area
  cell : Nat → Nat → Cell

/-- What a line of text puts into a column. -/
inductive Ink where
  /-- The text of a cluster, in its first column. -/
  | glyph (symbol : String)
  /-- The further columns of a wide cluster, which are blank. -/
  | shadow
  deriving DecidableEq, Repr

namespace Ink

/-- The cell that the ink leaves. A glyph keeps the background where no color is given; a shadow
has the default one. -/
def onto (background : Option Color) (old : Cell) : Ink → Cell
  | glyph symbol => ⟨symbol, background <|> old.background⟩
  | shadow => {}

end Ink

namespace Screen

def paint (s : Screen) (area : Area) (color : Color) : Screen :=
  { s with cell := fun x y =>
      if area.contains x y then { s.cell x y with background := some color } else s.cell x y }

/-- Puts ink into row `y` from column `x` on. -/
def write (s : Screen) (x y : Nat) (inks : Array Ink) (background : Option Color) : Screen :=
  { s with cell := fun i j =>
      if j = y ∧ x ≤ i then
        match inks[i - x]? with
        | some ink => ink.onto background (s.cell i j)
        | none => s.cell i j
      else s.cell i j }

def rows (s : Screen) : List (List Cell) :=
  (List.range s.area.height).map fun j =>
    (List.range s.area.width).map fun i => s.cell (s.area.x + i) (s.area.y + j)

end Screen

end ListingPanel
