import ListingPanel.Proofs.View.Reveal
import ListingPanel.Proofs.View.Run

/-! The lines that a view shows: a window of all its lines, as high as there are rows, if there are
so many lines. -/
namespace ListingPanel

namespace Viewport

/-- No row is left blank below the last line while lines are hidden above. -/
def Limited (v : Viewport) : Prop := v.top ≤ v.maxTop

theorem limited_limitScroll (v : Viewport) : v.limitScroll.Limited := Nat.min_le_right _ _

theorem limited_resize (v : Viewport) (n : Nat) : (v.resize n).Limited := limited_limitScroll _

theorem limited_reveal (v : Viewport) (b : Block) : (v.reveal b).Limited := limited_limitScroll _

theorem limited_reset (v : Viewport) (n : Nat) : (v.reset n).Limited := Nat.zero_le _

theorem visible_eq (v : Viewport) :
    v.visible = ((List.range v.lineCount).drop v.top).take v.height := by
  apply List.ext_getElem
  · simp only [visible, start, stop, List.length_map, List.length_range, List.length_take,
      List.length_drop]
    omega
  · intro i hi hi'
    simp only [visible, start, stop, List.length_map, List.length_range] at hi
    simp only [visible, start, stop, List.getElem_map, List.getElem_range, List.getElem_take,
      List.getElem_drop]
    omega

end Viewport

/-- Visible lines are there. -/
theorem Surface.getElem?_lines {s : Surface} (h : s.viewport.lineCount = s.lines.size) {i : Nat}
    (hi : i ∈ s.viewport.visible) : s.lines[i]? = some (s.line i) := by
  have hlt : i < s.lines.size := by
    rw [← h]
    exact (Viewport.mem_visible.mp hi).2.2
  rw [line, Array.getElem?_eq_getElem hlt, Option.getD_some]

namespace ListingView

variable {v : ListingView}

theorem limited_settle (h : v.surface.viewport.Limited) : v.settle.surface.viewport.Limited := by
  unfold settle
  cases v.pending with
  | none => exact h
  | some q =>
    dsimp only
    split_ifs
    · exact Viewport.limited_reveal _ _
    · exact h

theorem height_settle (v : ListingView) :
    v.settle.surface.viewport.height = v.surface.viewport.height := by
  unfold settle
  cases v.pending with
  | none => rfl
  | some q => dsimp only; split_ifs <;> rfl

/-- The lines of a text, each with whether it is in one of the blocks. -/
def rows (text : String) (bs : List Block) : List (Bool × String) :=
  (Text.lines text.toList).zipIdx.map fun (l, i) => (bs.any (·.contains i), String.ofList l)

theorem length_rows (text : String) (bs : List Block) :
    (rows text bs).length = (Text.lines text.toList).length := by
  simp [rows]

/-- The lines of a view by number. -/
theorem rows_eq {bs : List Block} (hv : v.Coherent) (hm : v.Marks bs) :
    rows v.surface.text bs = (List.range v.surface.viewport.lineCount).map fun i =>
      (v.surface.highlights.covers i, v.surface.line i) := by
  have hc : ∀ i, v.surface.highlights.covers i = bs.any (·.contains i) := fun i => by
    rw [Bool.eq_iff_iff, hm.covers_iff hv, List.any_eq_true]
  have hl := hv.lines
  apply List.ext_getElem
  · simp [length_rows, hv.lineCount, hl]
  · intro i hi hi'
    have hlt : i < (Text.lines v.surface.text.toList).length := by rwa [length_rows] at hi
    have hline : v.surface.line i = String.ofList (Text.lines v.surface.text.toList)[i] := by
      simp [Surface.line, hl, hlt]
    simp [rows, hc, hline]

/-- Plain output shows the lines from the top on, as many as there are rows. -/
theorem plainLines_eq {bs : List Block} (hv : v.Coherent) (hm : v.Marks bs) :
    v.surface.plainLines =
      (((rows v.surface.text bs).drop v.surface.viewport.top).take v.surface.viewport.height).map
        fun (marked, line) =>
          (marked, (if marked then Surface.marker else Surface.gutter) ++ line) := by
  unfold Surface.plainLines
  rw [Viewport.visible_eq, rows_eq hv hm, ← List.map_drop, ← List.map_take, List.map_map]
  rfl

end ListingView

end ListingPanel
