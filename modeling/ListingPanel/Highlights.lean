import ListingPanel.Search

/-!
Highlighted runs of display lines.
-/
namespace ListingPanel

/-- Display lines `first` to `last`, highlighted for source line `sourceLine`. -/
structure Overlay where
  first : Nat
  last : Nat
  sourceLine : Nat
  deriving DecidableEq, Repr

namespace Overlay

def key (o : Overlay) : Nat × Nat := (o.first, o.last)

def contains (o : Overlay) (line : Nat) : Bool := o.first ≤ line && line ≤ o.last

/-- Shares a line with `start ≤ line < stop`, if neither is empty. -/
def overlaps (o : Overlay) (start stop : Nat) : Bool := o.first < stop && start ≤ o.last

/-- Comes before `p`: it starts earlier, or at the same line and ends earlier. -/
def before (o p : Overlay) : Bool :=
  o.first < p.first || (o.first == p.first && o.last < p.last)

end Overlay

/-- Overlays in ascending order of their keys, no key twice. -/
structure Highlights where
  overlays : List Overlay := []
  deriving DecidableEq, Repr

namespace Highlights

def hasKey (h : Highlights) (key : Nat × Nat) : Bool := h.overlays.any (·.key = key)

/-- Looks for the key of `o` by halves and puts `o` where the search ends, unless the key is there.
Tells whether `o` was put in. -/
def add (h : Highlights) (o : Overlay) : Bool × Highlights :=
  let i := partitionPoint h.overlays.length fun i => h.overlays[i]?.any (·.before o)
  if h.overlays[i]?.any (·.key = o.key) then (false, h)
  else (true, ⟨h.overlays.take i ++ o :: h.overlays.drop i⟩)

def insert (h : Highlights) (o : Overlay) : Highlights := (h.add o).2

def keys (h : Highlights) : List (Nat × Nat) := h.overlays.map (·.key)

def at? (h : Highlights) (line : Nat) : Option Overlay := h.overlays.find? (·.contains line)

def covers (h : Highlights) (line : Nat) : Bool := (h.at? line).isSome

/-- The overlays that overlap `start ≤ line < stop`. -/
def inWindow (h : Highlights) (start stop : Nat) : List Overlay :=
  h.overlays.filter (·.overlaps start stop)

end Highlights

end ListingPanel
