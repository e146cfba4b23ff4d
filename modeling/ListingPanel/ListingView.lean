import ListingPanel.Listing.Index
import ListingPanel.Surface

/-!
A listing on a surface, highlighted for selected source lines. Scrolling to a highlight is put off
until the view settles; whatever changes the highlights makes an older request void.
-/
namespace ListingPanel

/-- A block to scroll to, asked for in a generation of highlights. -/
structure ScrollRequest where
  generation : Nat
  block : Block
  deriving DecidableEq, Repr

structure ListingView where
  surface : Surface
  index : Index := .empty
  generation : Nat := 0
  pending : Option ScrollRequest := none
  /-- Whether a selection scrolls to its first block. -/
  autoScroll : Bool := true
  deriving DecidableEq

namespace ListingView

def blank (height : Nat) (highlightColor : Color) (autoScroll : Bool) : ListingView :=
  { surface := .blank height highlightColor, autoScroll }

def clear (v : ListingView) : ListingView :=
  { v with
    surface := { v.surface with highlights := {} }
    pending := none
    generation := v.generation + 1 }

def setText (v : ListingView) (text : String) : ListingView :=
  let v := v.clear
  { v with surface := v.surface.setText text, index := .ofText text.toList }

def overlay (b : Block) : Overlay := ⟨b.first, b.last, b.sourceLine⟩

def addOverlay (v : ListingView) (o : Overlay) : ListingView :=
  { v with surface := { v.surface with highlights := v.surface.highlights.insert o } }

/-- Highlights the blocks of the selected lines, and no others. -/
def highlight (v : ListingView) (r : LineRange) : ListingView :=
  (v.index.blocksFor r).foldl (fun v b => v.addOverlay (overlay b)) v.clear

def requestScroll (v : ListingView) (b : Block) : ListingView :=
  { v with pending := some ⟨v.generation, b⟩ }

/-- Highlights the blocks of the selected lines, and asks to scroll to the first of them. -/
def follow (v : ListingView) (r : LineRange) : ListingView :=
  let v := v.highlight r
  match v.index.blocksFor r with
  | b :: _ => if v.autoScroll then v.requestScroll b else v
  | [] => v

/-- Scrolls to the requested block, unless the request is void. -/
def settle (v : ListingView) : ListingView :=
  let w := { v with pending := none }
  match v.pending with
  | some q =>
    if q.generation = v.generation then
      { w with surface.viewport := v.surface.viewport.reveal q.block }
    else w
  | none => w

/-- Whether settling moves the window. -/
def moves (v : ListingView) : Bool :=
  match v.pending with
  | some q =>
    q.generation = v.generation && (v.surface.viewport.reveal q.block).top ≠ v.surface.viewport.top
  | none => false

def resize (v : ListingView) (height : Nat) : ListingView :=
  { v with surface.viewport := v.surface.viewport.resize height }

def scrollTo (v : ListingView) (line : Nat) : ListingView :=
  { v with surface.viewport := v.surface.viewport.scrollTo line }

/-- Display lines highlighted, as pairs of first and last line. -/
def highlighted (v : ListingView) : List (Nat × Nat) := v.surface.highlights.keys

def top (v : ListingView) : Nat := v.surface.viewport.top

end ListingView

end ListingPanel
