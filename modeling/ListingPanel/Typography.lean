import ListingPanel.Screen
import ListingPanel.Text.Width

/-!
How a line of text is laid out in columns.
-/
namespace ListingPanel

/-- How text is cut into clusters, and how many columns a cluster takes. -/
structure Typography where
  clusters : List Char → List (List Char)
  width : List Char → Nat

namespace Typography

/-- Extended grapheme clusters with terminal widths. -/
def unicode : Typography := ⟨Text.Cluster.ofText, Text.Width.ofCluster⟩

/-- A control character. -/
def isControl (c : Char) : Bool := c.toNat < 0x20 || (0x7F ≤ c.toNat && c.toNat < 0xA0)

/-- Lays clusters out in `room` columns. Those with control characters and those without width are
left out, and the first one that does not fit ends the line. -/
def layOut (t : Typography) : Nat → List (List Char) → List Ink
  | _, [] => []
  | room, c :: r =>
    if c.any isControl then layOut t room r
    else
      let w := t.width c
      if w = 0 then layOut t room r
      else if room < w then []
      else .glyph (String.ofList c) :: (List.replicate (w - 1) .shadow ++ layOut t (room - w) r)

/-- The ink of a line in `room` columns. -/
def inks (t : Typography) (room : Nat) (line : List Char) : List Ink :=
  layOut t room (t.clusters line)

theorem length_layOut_le (t : Typography) (room : Nat) (cs : List (List Char)) :
    (layOut t room cs).length ≤ room := by
  fun_induction layOut t room cs with
  | case1 => simp
  | case2 room c r hc ih => exact ih
  | case3 room c r hc w hw ih => exact ih
  | case4 => simp
  | case5 room c r hc w hw hr ih =>
    have : w ≠ 0 := hw
    simp only [List.length_cons, List.length_append, List.length_replicate]
    omega

end Typography

end ListingPanel
