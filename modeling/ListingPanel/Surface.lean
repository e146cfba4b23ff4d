import ListingPanel.Highlights
import ListingPanel.Text.Lines
import ListingPanel.Typography
import ListingPanel.Viewport

/-!
The surface of a panel: a text with highlighted lines, seen through a viewport.
-/
namespace ListingPanel

structure Surface where
  text : String := ""
  lines : Array String := #[]
  highlights : Highlights := {}
  viewport : Viewport
  highlightColor : Color
  deriving DecidableEq

namespace Surface

/-- Set before a highlighted line in plain output. -/
def marker : String := "> "

/-- Set before any other line in plain output. -/
def gutter : String := "  "

def blank (height : Nat) (highlightColor : Color) : Surface :=
  { viewport := { height }, highlightColor }

/-- Shows another text from its start, without highlights. -/
def setText (s : Surface) (text : String) : Surface :=
  let lines := ((Text.lines text.toList).map String.ofList).toArray
  { s with
    text, lines
    highlights := {}
    viewport := s.viewport.reset lines.size }

def line (s : Surface) (i : Nat) : String := s.lines[i]?.getD ""

/-- The visible lines, each with whether it is highlighted, and with its marker or gutter. -/
def plainLines (s : Surface) : List (Bool × String) :=
  s.viewport.visible.map fun i =>
    let highlighted := s.highlights.covers i
    (highlighted, (if highlighted then marker else gutter) ++ s.line i)

/-- Shows line `i` in row `y` of `area`. -/
def renderLine (t : Typography) (s : Surface) (area : Area) (screen : Screen) (y i : Nat) :
    Screen :=
  let overlays := s.highlights.inWindow s.viewport.start s.viewport.stop
  let room := min area.width (screen.area.right - area.x)
  let inks := (t.inks room (s.line i).toList).toArray
  if overlays.any (·.contains i) then
    (screen.paint ⟨area.x, y, area.width, 1⟩ s.highlightColor).write area.x y inks
      (some s.highlightColor)
  else screen.write area.x y inks none

/-- Shows the visible lines in the rows of `area`, as far as they reach. -/
def render (t : Typography) (s : Surface) (area : Area) (screen : Screen) : Screen :=
  (s.viewport.visible.take area.height).zipIdx.foldl
    (fun screen (i, row) => s.renderLine t area screen (area.y + row) i) screen

end Surface

end ListingPanel
