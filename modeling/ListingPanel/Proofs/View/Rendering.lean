import ListingPanel.Proofs.View.Window
import Mathlib.Algebra.Ring.Nat

/-! What a surface draws on a screen: in each row the line that plain output has in that place, as
far as whole clusters fit, over the highlight color exactly if plain output marks the line, and
nothing outside of these rows. -/
namespace ListingPanel

/-! ### Clipped lines -/

namespace Typography
variable (t : Typography)

/-- A cluster that takes columns of its own. -/
def isShown (c : List Char) : Bool := !c.any isControl && t.width c != 0

/-- The ink of a cluster, in all its columns. -/
def columns (c : List Char) : List Ink :=
  .glyph (String.ofList c) :: List.replicate (t.width c - 1) .shadow

/-- Of a line's clusters that take columns, `shown` are the first, as many as fit in `room`. -/
structure Clipped (room : Nat) (clusters shown : List (List Char)) : Prop where
  lead : shown <+: clusters.filter t.isShown
  fits : (shown.map t.width).sum ≤ room
  full : ∀ c, shown ++ [c] <+: clusters.filter t.isShown →
    room < (shown.map t.width).sum + t.width c

variable {t} {room : Nat} {c : List Char} {clusters shown : List (List Char)}

theorem isShown_iff : t.isShown c = true ↔ c.any isControl = false ∧ t.width c ≠ 0 := by
  simp [isShown]

theorem length_columns (h : t.isShown c = true) : (t.columns c).length = t.width c := by
  have hw : t.width c ≠ 0 := (isShown_iff.mp h).2
  rw [columns, List.length_cons, List.length_replicate]
  omega

namespace Clipped

/-- The ink of the clusters that are shown ends within the room. -/
theorem length_le (h : t.Clipped room clusters shown) :
    (shown.flatMap t.columns).length ≤ room := by
  have hlen : shown.map (fun c => (t.columns c).length) = shown.map t.width :=
    List.map_congr_left fun c hc => length_columns (List.mem_filter.mp (h.lead.subset hc)).2
  rw [List.length_flatMap, hlen]
  exact h.fits

theorem nil (t : Typography) (room : Nat) : t.Clipped room [] [] :=
  ⟨List.nil_prefix, Nat.zero_le _, fun c hc => by simp at hc⟩

theorem skip (hc : ¬ t.isShown c = true) (h : t.Clipped room clusters shown) :
    t.Clipped room (c :: clusters) shown := by
  have hf : (c :: clusters).filter t.isShown = clusters.filter t.isShown :=
    List.filter_cons_of_neg hc
  exact ⟨hf ▸ h.lead, h.fits, hf ▸ h.full⟩

/-- A cluster that does not fit ends the line. -/
theorem stop (hc : t.isShown c = true) (hw : room < t.width c) (clusters : List (List Char)) :
    t.Clipped room (c :: clusters) [] := by
  refine ⟨List.nil_prefix, Nat.zero_le _, fun d hd => ?_⟩
  rw [List.filter_cons_of_pos hc, List.nil_append, List.cons_prefix_cons] at hd
  rw [hd.1]
  simpa using hw

theorem cons (hc : t.isShown c = true) (hw : t.width c ≤ room)
    (h : t.Clipped (room - t.width c) clusters shown) :
    t.Clipped room (c :: clusters) (c :: shown) := by
  have hf : (c :: clusters).filter t.isShown = c :: clusters.filter t.isShown :=
    List.filter_cons_of_pos hc
  have hfits := h.fits
  refine ⟨?_, ?_, fun d hd => ?_⟩
  · rw [hf, List.cons_prefix_cons]
    exact ⟨rfl, h.lead⟩
  · rw [List.map_cons, List.sum_cons]
    omega
  · rw [hf, List.cons_append, List.cons_prefix_cons] at hd
    have hnext := h.full d hd.2
    rw [List.map_cons, List.sum_cons]
    omega

end Clipped

/-- Laying out a line clips it. -/
theorem exists_clipped (t : Typography) (room : Nat) (clusters : List (List Char)) :
    ∃ shown, t.Clipped room clusters shown ∧
      layOut t room clusters = shown.flatMap t.columns := by
  fun_induction layOut t room clusters with
  | case1 room => exact ⟨[], .nil t room, rfl⟩
  | case2 room c r hc ih =>
    obtain ⟨shown, h, hink⟩ := ih
    have hhidden : ¬ t.isShown c = true := fun hs => by
      rw [(isShown_iff.mp hs).1] at hc
      cases hc
    exact ⟨shown, h.skip hhidden, hink⟩
  | case3 room c r hc w hw ih =>
    obtain ⟨shown, h, hink⟩ := ih
    exact ⟨shown, h.skip fun hs => (isShown_iff.mp hs).2 hw, hink⟩
  | case4 room c r hc w hw hr =>
    exact ⟨[], .stop (isShown_iff.mpr ⟨by simpa using hc, hw⟩) hr r, rfl⟩
  | case5 room c r hc w hw hr ih =>
    obtain ⟨shown, h, hink⟩ := ih
    have hshown : t.isShown c = true := isShown_iff.mpr ⟨by simpa using hc, hw⟩
    refine ⟨c :: shown, .cons hshown (Nat.not_lt.mp hr) h, ?_⟩
    rw [List.flatMap_cons, columns, hink, List.cons_append]

end Typography

/-! ### Rows -/

/-- All of `a` lies in `b`. -/
structure Area.Within (a b : Area) : Prop where
  left : b.x ≤ a.x
  right : a.right ≤ b.right
  top : b.y ≤ a.y
  bottom : a.bottom ≤ b.bottom

theorem Area.contains_iff {a : Area} {x y : Nat} :
    a.contains x y = true ↔ a.x ≤ x ∧ x < a.x + a.width ∧ a.y ≤ y ∧ y < a.y + a.height := by
  simp only [contains, Bool.and_eq_true, decide_eq_true_eq, and_assoc]
  rfl

/-- The cell that ink leaves in a row over `background`, if there is one. Without ink the symbol
stays as it was. -/
def Cell.inked (background : Option Color) (old : Cell) : Option Ink → Cell
  | some ink => ink.onto background old
  | none => { old with background := background <|> old.background }

/-- Ink on a row that was painted before. -/
theorem Cell.getD_onto (background : Option Color) (old : Cell) (ink? : Option Ink) :
    (ink?.map (·.onto background { old with background := background <|> old.background })).getD
        { old with background := background <|> old.background } =
      old.inked background ink? := by
  rcases ink? with _ | (_ | _)
  · rfl
  · cases background <;> rfl
  · rfl

theorem Cell.symbol_inked (background : Option Color) (old : Cell) (ink? : Option Ink) :
    (old.inked background ink?).symbol =
      match ink? with
      | some (.glyph symbol) => symbol
      | some .shadow => " "
      | none => old.symbol := by
  rcases ink? with _ | (_ | _) <;> rfl

theorem Cell.background_inked (background : Option Color) (old : Cell) (ink? : Option Ink) :
    (old.inked background ink?).background =
      if ink? = some .shadow then none else background <|> old.background := by
  rcases ink? with _ | (_ | _) <;> rfl

namespace Surface

variable (t : Typography) (s : Surface) {area : Area} {screen : Screen}

/-- The color under line `i`, if it is highlighted. -/
def colorUnder (i : Nat) : Option Color :=
  if s.highlights.covers i then some s.highlightColor else none

@[simp] theorem renderLine_area (area : Area) (screen : Screen) (y i : Nat) :
    (s.renderLine t area screen y i).area = screen.area := by
  unfold renderLine
  dsimp only
  split_ifs <;> rfl

/-- Ink that ends within the area leaves all cells as they were but those of its row. -/
theorem cell_write (inks : Array Ink) (hinks : inks.size ≤ area.width)
    (background : Option Color) (x' y' y : Nat) :
    (screen.write area.x y inks background).cell x' y' =
      if y' = y ∧ area.x ≤ x' ∧ x' < area.right then
        (inks[x' - area.x]?.map (·.onto background (screen.cell x' y'))).getD (screen.cell x' y')
      else screen.cell x' y' := by
  unfold Screen.write
  dsimp only
  by_cases hx : y' = y ∧ area.x ≤ x'
  · rw [if_pos hx]
    by_cases hr : x' < area.right
    · rw [if_pos ⟨hx.1, hx.2, hr⟩]
      cases inks[x' - area.x]? <;> rfl
    · have hnone : inks[x' - area.x]? = none := by
        unfold Area.right at hr
        exact Array.getElem?_eq_none (by omega)
      rw [if_neg fun h => hr h.2.2, hnone]
  · rw [if_neg hx, if_neg fun h => hx ⟨h.1, h.2.1⟩]

theorem cell_paint_row (color : Color) (x' y' y : Nat) :
    (screen.paint ⟨area.x, y, area.width, 1⟩ color).cell x' y' =
      if y' = y ∧ area.x ≤ x' ∧ x' < area.right then
        { screen.cell x' y' with background := some color }
      else screen.cell x' y' := by
  unfold Screen.paint
  dsimp only
  refine if_congr ?_ rfl rfl
  rw [Area.contains_iff]
  unfold Area.right
  dsimp only
  omega

/-- A line changes just the cells of its row. -/
theorem cell_renderLine (hright : area.right ≤ screen.area.right) {y i : Nat}
    (hi : i ∈ s.viewport.visible) (x' y' : Nat) :
    (s.renderLine t area screen y i).cell x' y' =
      if y' = y ∧ area.x ≤ x' ∧ x' < area.right then
        (screen.cell x' y').inked (s.colorUnder i)
          (t.inks area.width (s.line i).toList)[x' - area.x]?
      else screen.cell x' y' := by
  have hroom : min area.width (screen.area.right - area.x) = area.width := by
    unfold Area.right at *
    omega
  have hany : (s.highlights.inWindow s.viewport.start s.viewport.stop).any (·.contains i) =
      s.highlights.covers i := by
    obtain ⟨j, hj, rfl⟩ := List.mem_map.mp hi
    have hlt := List.mem_range.mp hj
    exact Highlights.any_inWindow (by omega) (by omega)
  have hinks : (t.inks area.width (s.line i).toList).toArray.size ≤ area.width :=
    t.length_layOut_le area.width (t.clusters (s.line i).toList)
  unfold renderLine colorUnder
  dsimp only
  rw [hroom, hany]
  cases s.highlights.covers i with
  | true =>
    rw [if_pos rfl, if_pos rfl, cell_write _ hinks, cell_paint_row]
    split_ifs
    · rw [List.getElem?_toArray]
      exact Cell.getD_onto (some s.highlightColor) _ _
    · rfl
  | false =>
    rw [if_neg Bool.false_ne_true, if_neg Bool.false_ne_true, cell_write _ hinks]
    split_ifs
    · rw [List.getElem?_toArray]
      exact Cell.getD_onto none _ _
    · rfl

/-! ### Areas -/

/-- The lines in order in the rows of the area from row `n` on. -/
def renderLines (area : Area) (n : Nat) (screen : Screen) (lines : List Nat) : Screen :=
  (lines.zipIdx n).foldl (fun screen (i, row) => s.renderLine t area screen (area.y + row) i) screen

theorem renderLines_cons (area : Area) (n : Nat) (screen : Screen) (i : Nat) (lines : List Nat) :
    s.renderLines t area n screen (i :: lines) =
      s.renderLines t area (n + 1) (s.renderLine t area screen (area.y + n) i) lines := rfl

@[simp] theorem renderLines_area (area : Area) (n : Nat) (screen : Screen) (lines : List Nat) :
    (s.renderLines t area n screen lines).area = screen.area := by
  induction lines generalizing n screen with
  | nil => rfl
  | cons i r ih => rw [renderLines_cons, ih, renderLine_area]

section Rows
variable {lines : List Nat} (hlines : ∀ i ∈ lines, i ∈ s.viewport.visible)
  (hright : area.right ≤ screen.area.right) {n : Nat}
include hlines hright

/-- Cells that are in none of the rows stay as they were. -/
theorem cell_renderLines_of_not {x y : Nat}
    (h : ¬ (area.x ≤ x ∧ x < area.right ∧ area.y + n ≤ y ∧ y < area.y + n + lines.length)) :
    (s.renderLines t area n screen lines).cell x y = screen.cell x y := by
  induction lines generalizing n screen with
  | nil => rfl
  | cons i r ih =>
    obtain ⟨hi, hr⟩ := List.forall_mem_cons.mp hlines
    rw [List.length_cons] at h
    rw [renderLines_cons, ih hr (by simpa using hright) (by omega),
      cell_renderLine t s hright hi, if_neg (by omega)]

/-- Each row shows its line. -/
theorem cell_renderLines {k i j : Nat} (hk : lines[k]? = some i) (hj : j < area.width) :
    (s.renderLines t area n screen lines).cell (area.x + j) (area.y + n + k) =
      (screen.cell (area.x + j) (area.y + n + k)).inked (s.colorUnder i)
        (t.inks area.width (s.line i).toList)[j]? := by
  induction lines generalizing n k screen with
  | nil => cases hk
  | cons l r ih =>
    obtain ⟨hl, hr⟩ := List.forall_mem_cons.mp hlines
    have hright' : area.right ≤ (s.renderLine t area screen (area.y + n) l).area.right := by
      rwa [renderLine_area]
    rw [renderLines_cons]
    cases k with
    | zero =>
      obtain rfl : l = i := Option.some.inj hk
      -- the rows below leave this one
      have hrest := cell_renderLines_of_not t s hr hright' (n := n + 1) (x := area.x + j)
        (y := area.y + n + 0) (by omega)
      have hin : area.y + n + 0 = area.y + n ∧ area.x ≤ area.x + j ∧ area.x + j < area.right := by
        unfold Area.right
        omega
      rw [hrest, cell_renderLine t s hright hl, if_pos hin, Nat.add_sub_cancel_left]
    | succ k =>
      have hcell := ih hr hright' (n := n + 1) (k := k) hk
      rw [show area.y + (n + 1) + k = area.y + n + (k + 1) by omega] at hcell
      rw [hcell, cell_renderLine t s hright hl, if_neg (by omega)]

end Rows

/-- Symbols of a row are those of the ink, where there is any. Its background is the color, if
there is one, but for the further columns of wide clusters, which have none. -/
structure RowShows (area : Area) (old new : Screen) (row : Nat) (color : Option Color)
    (inks : List Ink) : Prop where
  symbol : ∀ j < area.width, (new.cell (area.x + j) (area.y + row)).symbol =
    match inks[j]? with
    | some (.glyph symbol) => symbol
    | some .shadow => " "
    | none => (old.cell (area.x + j) (area.y + row)).symbol
  background : ∀ j < area.width, (new.cell (area.x + j) (area.y + row)).background =
    if inks[j]? = some .shadow then none
    else color <|> (old.cell (area.x + j) (area.y + row)).background

/-! ### Surfaces -/

inductive Action where
  | setText (text : String)
  | add (o : Overlay)
  | clear
  | scrollTo (line : Nat)
  | resize (height : Nat)
  /-- Sets the top as it stands, without a limit. -/
  | place (top : Nat)
  deriving DecidableEq

def act (s : Surface) : Action → Surface
  | .setText t => s.setText t
  | .add o => { s with highlights := s.highlights.insert o }
  | .clear => { s with highlights := {} }
  | .scrollTo n => { s with viewport := s.viewport.scrollTo n }
  | .resize n => { s with viewport := s.viewport.resize n }
  | .place n => { s with viewport := { s.viewport with top := n } }

def run (s : Surface) (as : List Action) : Surface := as.foldl act s

/-- The window is on the lines of the surface. -/
theorem lineCount_act {s : Surface} (h : s.viewport.lineCount = s.lines.size) (a : Action) :
    (s.act a).viewport.lineCount = (s.act a).lines.size := by
  cases a with
  | setText t => rfl
  | add _ | clear | scrollTo _ | resize _ | place _ => exact h

theorem lineCount_run {s : Surface} (h : s.viewport.lineCount = s.lines.size) (as : List Action) :
    (s.run as).viewport.lineCount = (s.run as).lines.size := by
  induction as generalizing s with
  | nil => exact h
  | cons a as ih => exact ih (lineCount_act h a)

/-- Whatever a surface has been through, in each row of the area it draws the line that plain output
has in that place, clipped to whole clusters, over the highlight color exactly if plain output marks
it. It leaves all other cells of the screen as they were. -/
theorem render_agrees_plainLines (t : Typography) (height : Nat) (color : Color)
    (as : List Action) {area : Area} {screen : Screen} (ha : area.Within screen.area) :
    let s := (blank height color).run as
    let drawn := s.render t area screen
    (∀ k marked text, k < area.height → s.plainLines[k]? = some (marked, text) →
      ∃ i line shown, s.viewport.visible[k]? = some i ∧ s.lines[i]? = some line ∧
        (marked = true ↔ ∃ o ∈ s.highlights.overlays, o.contains i = true) ∧
        text = (if marked then marker else gutter) ++ line ∧
        t.Clipped area.width (t.clusters line.toList) shown ∧
        (shown.flatMap t.columns).length ≤ area.width ∧
        RowShows area screen drawn k (if marked then some s.highlightColor else none)
          (shown.flatMap t.columns)) ∧
    drawn.area = screen.area ∧
    ∀ x y, ¬ (area.contains x y = true ∧ y < area.y + s.plainLines.length) →
      drawn.cell x y = screen.cell x y := by
  intro s drawn
  have hcount : s.viewport.lineCount = s.lines.size := lineCount_run rfl as
  have hlines : ∀ i ∈ s.viewport.visible.take area.height, i ∈ s.viewport.visible := fun i hi =>
    List.mem_of_mem_take hi
  have hlength : (s.viewport.visible.take area.height).length =
      min area.height s.plainLines.length := by
    rw [List.length_take, plainLines, List.length_map]
  refine ⟨fun k marked text hk hplain => ?_, renderLines_area t s area 0 screen _, fun x y h => ?_⟩
  · rw [plainLines, List.getElem?_map] at hplain
    obtain ⟨i, hi, he⟩ := Option.map_eq_some_iff.mp hplain
    obtain ⟨rfl, rfl⟩ := Prod.mk.inj he
    obtain ⟨shown, hclipped, hinks⟩ :=
      t.exists_clipped area.width (t.clusters (s.line i).toList)
    have hrow : (s.viewport.visible.take area.height)[k]? = some i := by
      rw [List.getElem?_take_of_lt hk, hi]
    have hcell : ∀ j < area.width, drawn.cell (area.x + j) (area.y + k) =
        (screen.cell (area.x + j) (area.y + k)).inked (s.colorUnder i)
          (shown.flatMap t.columns)[j]? := fun j hj => by
      rw [← hinks]
      exact cell_renderLines t s hlines ha.right (n := 0) hrow hj
    refine ⟨i, s.line i, shown, hi, getElem?_lines hcount (List.mem_of_getElem? hi),
      Highlights.covers_iff, rfl, hclipped, hclipped.length_le, fun j hj => ?_, fun j hj => ?_⟩
    · rw [hcell j hj, Cell.symbol_inked]
    · rw [hcell j hj, Cell.background_inked]
      rfl
  · refine cell_renderLines_of_not t s hlines ha.right (n := 0) fun hin => h ?_
    rw [hlength] at hin
    rw [Area.contains_iff]
    unfold Area.right at hin
    omega

/-- The last wide cluster does not fit and is left out, the highlight goes on to the edge, and the
row below the last line stays as it was. -/
theorem render_agrees_plainLines_cut :
    let t : Typography := ⟨fun cs => cs.map ([·]), fun c => if c = ['W'] then 2 else 1⟩
    let s := (blank 2 ⟨0, 0, 255⟩).run [.setText "aW\nbcWd\n", .add ⟨5, 0, 1⟩, .add ⟨1, 7, 2⟩]
    let area : Area := ⟨1, 1, 3, 3⟩
    let screen : Screen := ⟨⟨0, 0, 8, 4⟩, fun _ _ => { symbol := "." }⟩
    area.Within screen.area ∧ s.plainLines = [(false, "  aW"), (true, "> bcWd")] ∧
      (∃ shown, t.Clipped 3 [['b'], ['c'], ['W'], ['d']] shown ∧
        RowShows area screen (s.render t area screen) 1 (some ⟨0, 0, 255⟩)
          (shown.flatMap t.columns)) ∧
      (s.render t area screen).cell 1 3 = { symbol := "." } := by
  intro t s area screen
  have ha : area.Within screen.area := ⟨by decide, by decide, by decide, by decide⟩
  have hplain : s.plainLines = [(false, "  aW"), (true, "> bcWd")] := by decide +kernel
  have hs : s = (blank 2 ⟨0, 0, 255⟩).run
    [.setText "aW\nbcWd\n", .add ⟨5, 0, 1⟩, .add ⟨1, 7, 2⟩] := rfl
  have hagree := render_agrees_plainLines t 2 ⟨0, 0, 255⟩
    [.setText "aW\nbcWd\n", .add ⟨5, 0, 1⟩, .add ⟨1, 7, 2⟩] ha
  rw [← hs] at hagree
  obtain ⟨hrows, -, hrest⟩ := hagree
  refine ⟨ha, hplain, ?_, ?_⟩
  · obtain ⟨i, line, shown, hi, hl, -, -, hclipped, -, hshows⟩ :=
      hrows 1 true "> bcWd" (by decide) (congrArg (·[1]?) hplain)
    have hi' : s.viewport.visible[1]? = some 1 := by decide
    obtain rfl : 1 = i := Option.some.inj (hi'.symm.trans hi)
    have hl' : s.lines[1]? = some "bcWd" := by decide
    obtain rfl : "bcWd" = line := Option.some.inj (hl'.symm.trans hl)
    exact ⟨shown, hclipped, hshows⟩
  · refine hrest 1 3 ?_
    rw [hplain]
    decide

end Surface

end ListingPanel
