import ListingPanel.Proofs.Panel.State

/-! Which lines are visible once a block has been scrolled to. A block no higher than the window is
shown whole, unless it is exactly as high, the height is even and lines stand above it: then the
window starts one line too early. -/
namespace ListingPanel

namespace Viewport

theorem mem_visible {v : Viewport} {d : Nat} :
    d ∈ v.visible ↔ v.top ≤ d ∧ d < v.top + v.height ∧ d < v.lineCount := by
  unfold visible
  rw [List.mem_map]
  constructor
  · rintro ⟨i, hi, rfl⟩
    have hi' := List.mem_range.mp hi
    unfold start stop at *
    omega
  · rintro ⟨ht, hh, hc⟩
    refine ⟨d - v.start, List.mem_range.mpr ?_, ?_⟩ <;> unfold start stop <;> omega

/-- The window shows all lines of a block. -/
def Shows (v : Viewport) (b : Block) : Prop := ∀ d, b.first ≤ d → d ≤ b.last → d ∈ v.visible

theorem shows_iff {v : Viewport} {b : Block} (hb : b.first ≤ b.last) :
    v.Shows b ↔ v.top ≤ b.first ∧ b.last < v.top + v.height ∧ b.last < v.lineCount := by
  constructor
  · intro h
    have hf := mem_visible.mp (h b.first le_rfl hb)
    have hl := mem_visible.mp (h b.last hb le_rfl)
    exact ⟨hf.1, hl.2⟩
  · rintro ⟨ht, hh, hc⟩ d hf hl
    exact mem_visible.mpr ⟨by omega, by omega, by omega⟩

/-- A block that fits has its middle put half a window below the top, as far as the text goes. -/
theorem top_reveal {v : Viewport} {b : Block} (h : b.length ≤ v.height) :
    (v.reveal b).top =
      min (b.first + (b.last - b.first) / 2 - v.height / 2) (v.lineCount - v.height) := by
  change min (v.revealTarget b) (v.lineCount - v.height) = _
  unfold revealTarget
  rw [if_neg (by omega)]

theorem shows_reveal_iff {v : Viewport} {b : Block} (hb : b.first ≤ b.last)
    (hc : b.last < v.lineCount) (hh : b.length ≤ v.height) :
    (v.reveal b).Shows b ↔ b.first = 0 ∨ b.length < v.height ∨ v.height % 2 = 1 := by
  have ht := top_reveal hh
  have hv : (v.reveal b).height = v.height := rfl
  unfold Block.length at *
  rw [shows_iff hb, lineCount_reveal, ht, hv]
  omega

end Viewport

namespace ListingView

/-- Settling right after a selection scrolls to its first block. -/
theorem viewport_settle_follow {v : ListingView} (ha : v.autoScroll = true) {r : LineRange}
    {b : Block} (hb : (v.index.blocksFor r).head? = some b) :
    (v.follow r).settle.surface.viewport = v.surface.viewport.reveal b := by
  have hg : (v.follow r).generation = v.generation + 1 := by
    rw [follow_eq, highlight_eq]
    rfl
  have hp : (v.follow r).pending = some ⟨v.generation + 1, b⟩ := by
    rw [follow_eq, ha, hb]
    rfl
  unfold settle
  rw [hp]
  simp [hg]

theorem Coherent.shows_settle_iff {v : ListingView} (h : v.Coherent) (ha : v.autoScroll = true)
    {r : LineRange} {b : Block} (hb : (v.index.blocksFor r).head? = some b)
    (hh : b.length ≤ v.surface.viewport.height) :
    (v.follow r).settle.surface.viewport.Shows b ↔
      b.first = 0 ∨ b.length < v.surface.viewport.height ∨ v.surface.viewport.height % 2 = 1 := by
  obtain ⟨hfl, hc⟩ := h.bounds (List.mem_of_head? hb)
  rw [viewport_settle_follow ha hb]
  exact Viewport.shows_reveal_iff hfl hc hh

end ListingView

/-- A block that fits `n` rows is shown whole once the view has settled on it exactly if it starts
the text, leaves a row free, or fills an odd number of rows: in a window, in any view that
operations reach, and in any panel that they reach. -/
theorem shows_first_block_iff (n : Nat) :
    (∀ (v : Viewport) (b : Block), v.height = n → b.first ≤ b.last → b.last < v.lineCount →
      b.length ≤ n → ((v.reveal b).Shows b ↔ b.first = 0 ∨ b.length < n ∨ n % 2 = 1)) ∧
    (∀ v : ListingView, v.Reachable → v.autoScroll = true → v.surface.viewport.height = n →
      ∀ r b, (v.index.blocksFor r).head? = some b → b.length ≤ n →
      ((v.follow r).settle.surface.viewport.Shows b ↔
        b.first = 0 ∨ b.length < n ∨ n % 2 = 1)) ∧
    (∀ p : SyncedPanel, p.Reachable → p.view.autoScroll = true →
      p.view.surface.viewport.height = n → ∀ (e : EditorEvent) (b : Block),
      (p.view.index.blocksFor e.lines).head? = some b → b.length ≤ n →
      ((p.receive e.editor e).settle.view.surface.viewport.Shows b ↔
        b.first = 0 ∨ b.length < n ∨ n % 2 = 1)) := by
  refine ⟨?_, ?_, ?_⟩
  · rintro v b rfl hb hc hh
    exact Viewport.shows_reveal_iff hb hc hh
  · rintro v hv ha rfl r b hb hh
    exact hv.coherent.shows_settle_iff ha hb hh
  · rintro p hp ha rfl e b hb hh
    have hr : (p.receive e.editor e).settle.view = (p.view.follow e.lines).settle := by
      simp [SyncedPanel.receive, SyncedPanel.settle]
    rw [hr]
    exact hp.view.coherent.shows_settle_iff ha hb hh

/-- The three lines for source line 2 fit a window of three rows, which shows them all. -/
theorem shows_first_block_odd :
    let b : Block := ⟨2, 1, 3⟩
    let window : Viewport := { height := 3, lineCount := 5 }
    let v := (ListingView.blank 3 ⟨0, 0, 255⟩ true).setText
      "  1 A\n  2 B\n    C\n    D\n  3 E\n"
    b.length ≤ 3 ∧ (window.reveal b).Shows b ∧
      v.Reachable ∧ (v.index.blocksFor (.single 2)).head? = some b ∧
      (v.follow (.single 2)).settle.surface.viewport.Shows b := by
  intro b window v
  have hv : v.Reachable := .act (.blank 3 ⟨0, 0, 255⟩ true) (.setText _)
  have hb : (v.index.blocksFor (.single 2)).head? = some b := by
    change ((Index.ofText "  1 A\n  2 B\n    C\n    D\n  3 E\n".toList).blocksFor _).head? = _
    rw [Index.blocksFor_of_ascending (by decide) (by decide)]
    decide
  obtain ⟨hwindow, hview, -⟩ := shows_first_block_iff 3
  exact ⟨by decide, (hwindow window b rfl (by decide) (by decide) (by decide)).mpr (by decide), hv,
    hb, (hview v hv rfl rfl _ b hb (by decide)).mpr (by decide)⟩

/-- The two lines for source line 2 fit a window of two rows, which still shows only the first. -/
theorem follow_settle_hides_last :
    let v := (ListingView.blank 2 ⟨0, 0, 255⟩ true).setText "  1 A\n  2 B\n    C\n"
    v.Reachable ∧ v.autoScroll = true ∧
      (v.index.blocksFor (.single 2)).head? = some ⟨2, 1, 2⟩ ∧
      (Block.mk 2 1 2).length ≤ v.surface.viewport.height ∧
      ¬ (v.follow (.single 2)).settle.surface.viewport.Shows ⟨2, 1, 2⟩ := by
  intro v
  have hv : v.Reachable := .act (.blank 2 ⟨0, 0, 255⟩ true) (.setText _)
  have hb : (v.index.blocksFor (.single 2)).head? = some ⟨2, 1, 2⟩ := by
    have hi : v.index = .ofText "  1 A\n  2 B\n    C\n".toList := rfl
    rw [hi, Index.blocksFor_of_ascending (by decide) (by decide)]
    decide
  refine ⟨hv, rfl, hb, by decide, ?_⟩
  rw [hv.coherent.shows_settle_iff rfl hb (by decide)]
  decide

end ListingPanel
