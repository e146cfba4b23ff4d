import ListingPanel.Proofs.Panel.Diagnosis
import ListingPanel.Proofs.Panel.Printed
import ListingPanel.Proofs.View.Order

/-!
Drawing and settling with checks: there is no result where a line is asked for that is not there,
where a difference would be negative, or where ink would come to lie off the screen. In panels none
of this happens.
-/
namespace ListingPanel

/-! ### Operations with checks -/

/-- The difference of two numbers, unless it is negative. -/
def minus? (a b : Nat) : Option Nat := if b ≤ a then some (a - b) else none

def Block.length? (b : Block) : Option Nat := (minus? b.last b.first).map (· + 1)

/-- Writes ink that lies on the screen. -/
def Screen.write? (s : Screen) (x y : Nat) (inks : Array Ink) (background : Option Color) :
    Option Screen :=
  if ∀ i < inks.size, s.area.contains (x + i) y = true then some (s.write x y inks background)
  else none

namespace Viewport
variable (v : Viewport) (b : Block)

def revealTarget? : Option Nat := do
  if v.height < (← b.length?) then some b.first
  else some (b.first + (← minus? b.last b.first) / 2 - v.height / 2)

def reveal? : Option Viewport := (v.revealTarget? b).map v.scrollTo

end Viewport

namespace Surface
variable (t : Typography) (s : Surface) (area : Area)

def plainLines? : Option (List (Bool × String)) :=
  s.viewport.visible.mapM fun i => do
    let highlighted := s.highlights.covers i
    some (highlighted, (if highlighted then marker else gutter) ++ (← s.lines[i]?))

def renderLine? (screen : Screen) (y i : Nat) : Option Screen := do
  let overlays := s.highlights.inWindow s.viewport.start s.viewport.stop
  let room := min area.width (screen.area.right - area.x)
  let inks := (t.inks room (← s.lines[i]?).toList).toArray
  if overlays.any (·.contains i) then
    (screen.paint ⟨area.x, y, area.width, 1⟩ s.highlightColor).write? area.x y inks
      (some s.highlightColor)
  else screen.write? area.x y inks none

def render? (screen : Screen) : Option Screen :=
  (s.viewport.visible.take area.height).zipIdx.foldlM
    (fun screen (i, row) => s.renderLine? t area screen (area.y + row) i) screen

end Surface

def ListingView.settle? (v : ListingView) : Option ListingView :=
  let w := { v with pending := none }
  match v.pending with
  | some q =>
    if q.generation = v.generation then
      (v.surface.viewport.reveal? q.block).map fun x => { w with surface.viewport := x }
    else some w
  | none => some w

/-! ### Checks that hold -/

theorem minus?_eq {a b : Nat} (h : b ≤ a) : minus? a b = some (a - b) := if_pos h

theorem Block.length?_eq {b : Block} (h : b.first ≤ b.last) : b.length? = some b.length := by
  rw [length?, minus?_eq h]
  rfl

theorem Viewport.reveal?_eq (v : Viewport) {b : Block} (h : b.first ≤ b.last) :
    v.reveal? b = some (v.reveal b) := by
  have ht : v.revealTarget? b = some (v.revealTarget b) := by
    unfold revealTarget? revealTarget
    rw [Block.length?_eq h, minus?_eq h]
    simp only [Option.bind_eq_bind, Option.bind_some]
    split_ifs <;> rfl
  rw [reveal?, ht]
  rfl

theorem Screen.write?_eq {s : Screen} {x y : Nat} {inks : Array Ink}
    (h : ∀ i < inks.size, s.area.contains (x + i) y = true) (background : Option Color) :
    s.write? x y inks background = some (s.write x y inks background) := if_pos h

theorem mapM_eq_some {α β : Type} {f : α → Option β} {g : α → β} {l : List α}
    (h : ∀ a ∈ l, f a = some (g a)) : l.mapM f = some (l.map g) := by
  induction l with
  | nil => rfl
  | cons a l ih =>
    obtain ⟨ha, hl⟩ := List.forall_mem_cons.mp h
    rw [List.mapM_cons, ha, ih hl]
    rfl

/-- A fold does not fail if no step fails from where the steps before it can have led. -/
private theorem foldlM_eq_some {α β : Type} {f : β → α → Option β} {g : β → α → β} {P : β → Prop}
    {l : List α} (h : ∀ a ∈ l, ∀ b, P b → f b a = some (g b a) ∧ P (g b a)) {b : β} (hb : P b) :
    l.foldlM f b = some (l.foldl g b) := by
  induction l generalizing b with
  | nil => rfl
  | cons a l ih =>
    obtain ⟨ha, hl⟩ := List.forall_mem_cons.mp h
    obtain ⟨hf, hg⟩ := ha b hb
    rw [List.foldlM_cons, hf, Option.bind_eq_bind, Option.bind_some, ih hl hg, List.foldl_cons]

namespace ListingView.Fits
variable {v : ListingView} (hv : v.Fits)
include hv

theorem plainLines?_eq : v.surface.plainLines? = some v.surface.plainLines := by
  refine mapM_eq_some fun i hi => ?_
  rw [Surface.getElem?_lines hv.lineCount hi]
  rfl

theorem settle?_eq : v.settle? = some v.settle := by
  unfold settle? settle
  cases hp : v.pending with
  | none => rfl
  | some q =>
    have hb := (hv.bounds_of_mem_blocks (hv.pending q hp)).1
    dsimp only
    rw [Viewport.reveal?_eq _ hb]
    split_ifs <;> rfl

/-- In a row of a screen, and not left of its columns, ink stays on the screen. -/
theorem renderLine?_eq (t : Typography) {area : Area} {screen : Screen} {y i : Nat}
    (hi : i ∈ v.surface.viewport.visible) (hx : screen.area.x ≤ area.x)
    (hy : screen.area.y ≤ y) (hbottom : y < screen.area.bottom) :
    v.surface.renderLine? t area screen y i = some (v.surface.renderLine t area screen y i) := by
  have hroom := Typography.length_layOut_le t (min area.width (screen.area.right - area.x))
    (t.clusters (v.surface.line i).toList)
  have hon : ∀ j < (t.inks (min area.width (screen.area.right - area.x))
      (v.surface.line i).toList).toArray.size, screen.area.contains (area.x + j) y = true := by
    intro j hj
    rw [List.size_toArray, Typography.inks] at hj
    simp only [Area.contains, Bool.and_eq_true, decide_eq_true_eq]
    omega
  unfold Surface.renderLine? Surface.renderLine
  rw [Surface.getElem?_lines hv.lineCount hi]
  dsimp only [Option.bind_eq_bind, Option.bind_some]
  split_ifs
  · refine Screen.write?_eq ?_ _
    exact hon
  · exact Screen.write?_eq hon _

theorem render?_eq (t : Typography) {area : Area} {screen : Screen}
    (hx : screen.area.x ≤ area.x) (hy : screen.area.y ≤ area.y)
    (hbottom : area.bottom ≤ screen.area.bottom) :
    v.surface.render? t area screen = some (v.surface.render t area screen) := by
  refine foldlM_eq_some (P := fun s => s.area = screen.area) ?_ rfl
  rintro ⟨i, row⟩ hi s hs
  obtain ⟨hrow, hvisible⟩ := List.mem_zipIdx' hi
  have hmem : i ∈ v.surface.viewport.visible := by
    rw [hvisible]
    exact List.mem_of_mem_take (List.getElem_mem _)
  have hheight : row < area.height := by
    rw [List.length_take] at hrow
    omega
  rw [← hs] at hx hy hbottom
  constructor
  · exact hv.renderLine?_eq t hmem hx (by omega) (by unfold Area.bottom at *; omega)
  · dsimp only [Surface.renderLine]
    split_ifs <;> exact hs

end ListingView.Fits

/-- Whatever a panel has been through, its index and its lines are those of its text, highlights lie
apart on these lines, a request to scroll is for a block of the index, and the window does not reach
below the last line while lines are hidden above. So no check fails when its lines are put out or
drawn, or when it settles. -/
theorem SyncedPanel.fits_of_reachable {p : SyncedPanel} (hp : p.Reachable) :
    p.view.Fits ∧
    (∀ o ∈ p.view.surface.highlights.overlays,
      o.first ≤ o.last ∧ o.last < p.view.surface.viewport.lineCount) ∧
    p.view.surface.plainLines? = some p.view.surface.plainLines ∧
    p.view.settle? = some p.view.settle ∧
    ∀ (t : Typography) (area : Area) (screen : Screen), screen.area.x ≤ area.x →
      screen.area.y ≤ area.y → area.bottom ≤ screen.area.bottom →
      p.view.surface.render? t area screen = some (p.view.surface.render t area screen) := by
  have hv : p.view.Fits := hp.fits
  exact ⟨hv, fun _ ho => hv.bounds ho, hv.plainLines?_eq, hv.settle?_eq,
    fun t _ _ hx hy hbottom => hv.render?_eq t hx hy hbottom⟩

/-- A panel has become lower than the block that it highlights and still has to scroll to. -/
theorem SyncedPanel.fits_of_reachable_lowered :
    let text := "  1 A\n  2 B\n    C\n"
    let h : Host := {
      activeEditor := some 1, file := some ⟨"/x.py"⟩, toolchain := some ⟨"/py"⟩
      selections := [(1, { caret := 2 })], documents := .held [(⟨"/x.py"⟩, "b = 2\n")]
      machine := .bare }
    let p := ((fresh {} (.ofConfig {}) 20).refresh (printing text) 0 h).1.resize 1
    p.Reachable ∧ p.view.surface.highlights = ⟨[⟨1, 2, 2⟩]⟩ ∧
      p.view.pending.map (·.block) = some ⟨2, 1, 2⟩ ∧ p.view.Fits ∧
      p.view.surface.plainLines? = some [(false, "    1 A")] ∧ p.view.settle? = some p.view.settle ∧
      p.view.surface.render? .unicode ⟨2, 0, 80, 1⟩ ⟨⟨0, 0, 80, 24⟩, fun _ _ => {}⟩ =
        some (p.view.surface.render .unicode ⟨2, 0, 80, 1⟩ ⟨⟨0, 0, 80, 24⟩, fun _ _ => {}⟩) := by
  intro text h p
  have hp : p.Reachable := ((Reachable.fresh {} (.ofConfig {}) 20).refresh _ 0 h).resize 1
  obtain ⟨hfits, -, hlines, hsettle, hrender⟩ := fits_of_reachable hp
  let v := (fresh {} (.ofConfig {}) 20).view.clear.setText text
  have hview : p.view = (v.follow (.single 2)).resize 1 := by
    have hready : h.Ready ⟨"/x.py"⟩ :=
      ⟨⟨⟨"/py"⟩, "py", rfl, unhindered_bare⟩, rfl, by decide +kernel⟩
    have hrefresh := refresh_printing (p := fresh {} (.ofConfig {}) 20) hready rfl
      (by decide +kernel) text 0
    dsimp only [p]
    rw [hrefresh]
    rfl
  have hblocks : v.index.blocksFor (.single 2) = [⟨2, 1, 2⟩] := by
    change (Index.ofText text.toList).blocksFor (.single 2) = _
    rw [Index.blocksFor_of_ascending (by decide) (by decide)]
    decide
  have hmarks := (ListingView.Marks.follow v (.single 2)).highlights
  rw [hblocks] at hmarks
  have hlight : p.view.surface.highlights = ⟨[⟨1, 2, 2⟩]⟩ := by
    rw [hview]
    exact hmarks.trans (by decide +kernel)
  refine ⟨hp, hlight, ?_, hfits, ?_, hsettle, hrender _ _ _ (by decide) (by decide) (by decide)⟩
  · rw [hview]
    change (v.follow (.single 2)).pending.map (·.block) = _
    rw [ListingView.follow_eq, hblocks]
    rfl
  · have hwindow : p.view.surface.viewport = { height := 1, lineCount := 3 } := by
      rw [hview]
      change (v.follow (.single 2)).surface.viewport.resize 1 = _
      rw [ListingView.follow_viewport]
      decide +kernel
    have htext : p.view.surface.lines = #["  1 A", "  2 B", "    C"] := by
      rw [hview]
      change (v.follow (.single 2)).surface.lines = _
      rw [ListingView.follow_lines]
      decide +kernel
    rw [hlines]
    unfold Surface.plainLines Surface.line
    rw [hwindow, htext, hlight]
    decide +kernel

end ListingPanel
