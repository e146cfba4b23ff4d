import ListingPanel.Listing.Block

/-!
The window of a panel on its display lines.
-/
namespace ListingPanel

/-- A window `height` lines high that starts at line `top` of `lineCount`. -/
structure Viewport where
  top : Nat := 0
  height : Nat
  lineCount : Nat := 0
  deriving DecidableEq, Repr

namespace Viewport

/-- The end of the visible lines. -/
def stop (v : Viewport) : Nat := min (v.top + v.height) v.lineCount

/-- The first visible line, or the end if no line is visible. -/
def start (v : Viewport) : Nat := min v.top v.stop

/-- The visible lines, in order. -/
def visible (v : Viewport) : List Nat := (List.range (v.stop - v.start)).map (v.start + ·)

/-- The greatest top without blank space below the last line. -/
def maxTop (v : Viewport) : Nat := v.lineCount - v.height

def limitScroll (v : Viewport) : Viewport := { v with top := min v.top v.maxTop }

def resize (v : Viewport) (height : Nat) : Viewport := { v with height }.limitScroll

/-- Shows the start of a text of `lineCount` lines. -/
def reset (v : Viewport) (lineCount : Nat) : Viewport := { v with lineCount, top := 0 }

def scrollTo (v : Viewport) (line : Nat) : Viewport := { v with top := line }.limitScroll

/-- The top that shows a block: its start if it is higher than the window, else half a window above
its middle. -/
def revealTarget (v : Viewport) (b : Block) : Nat :=
  if v.height < b.length then b.first else b.first + (b.last - b.first) / 2 - v.height / 2

def reveal (v : Viewport) (b : Block) : Viewport := v.scrollTo (v.revealTarget b)

end Viewport

end ListingPanel
