import ListingPanel.Proofs.View.Window

/-! How the parts of the view of a panel belong together: text, lines, index, window, highlights,
and the request to scroll. -/
namespace ListingPanel

namespace ListingView

/-- The parts of a view fit its text. Highlights are for blocks of the index and lie apart, in
ascending order, a request to scroll is for one of its blocks, and the window does not reach below
the last line while lines are hidden above. -/
structure Fits (v : ListingView) : Prop extends Coherent v where
  marked : ∀ o ∈ v.surface.highlights.overlays, ∃ b ∈ v.index.blocks.toList, overlay b = o
  apart : v.surface.highlights.overlays.Pairwise fun o o' => o.last < o'.first
  pending : ∀ q, v.pending = some q → q.block ∈ v.index.blocks.toList
  top : v.top ≤ v.surface.viewport.lineCount - v.surface.viewport.height

variable {v : ListingView} {bs : List Block}

/-- Highlights lie on lines of the text. -/
theorem Fits.bounds (hv : v.Fits) {o : Overlay} (ho : o ∈ v.surface.highlights.overlays) :
    o.first ≤ o.last ∧ o.last < v.surface.viewport.lineCount := by
  obtain ⟨b, hb, rfl⟩ := hv.marked o ho
  exact hv.bounds_of_mem_blocks hb

theorem Marks.mem_blocks (hm : v.Marks bs) {b : Block} (hb : b ∈ bs) :
    b ∈ v.index.blocks.toList := by
  rcases hm.query with rfl | ⟨r, rfl⟩
  · exact absurd hb List.not_mem_nil
  · exact Index.mem_blocks_of_mem_blocksFor hb

/-- Highlights of one query share no line. -/
theorem Marks.apart (hm : v.Marks bs) (hv : v.Coherent) :
    v.surface.highlights.overlays.Pairwise fun o o' => o.last < o'.first := by
  have hkeys : v.surface.highlights.keys.Pairwise KeyLt := by
    rw [hm.highlights]
    exact Highlights.pairwise_keys_foldl_insert List.Pairwise.nil
  have hsub : ∀ b ∈ bs, b ∈ Index.displayed v.surface.text.toList := fun b hb =>
    Index.mem_displayed_of_mem_blocks (hv.index ▸ hm.mem_blocks hb)
  refine (List.pairwise_map.mp hkeys).imp_of_mem fun {o o'} ho ho' hlt => ?_
  obtain ⟨b, hb, rfl⟩ := (hm.mem_overlays_iff hv).mp ho
  obtain ⟨b', hb', rfl⟩ := (hm.mem_overlays_iff hv).mp ho'
  have hle' := (hv.bounds_of_mem_blocks (hm.mem_blocks hb')).1
  -- were the first line of the later block in the earlier one, they would be one block
  by_contra hge
  have hd : b.contains b'.first = true := by
    simp only [overlay, Overlay.key, KeyLt] at hlt hge
    exact Block.contains_iff.mpr (by omega)
  have hd' : b'.contains b'.first = true := Block.contains_iff.mpr ⟨le_rfl, hle'⟩
  obtain rfl : b = b' := Index.eq_of_contains (hsub b hb) (hsub b' hb') hd hd'
  exact irrefl_of KeyLt _ hlt

theorem fits_blank (height : Nat) (color : Color) (on : Bool) : (blank height color on).Fits where
  toCoherent := ⟨rfl, rfl, rfl⟩
  marked := fun _ ho => absurd ho List.not_mem_nil
  apart := .nil
  pending := fun _ hq => absurd hq.symm (Option.some_ne_none _)
  top := Nat.zero_le _

theorem fits_follow (hv : v.Fits) (r : LineRange) : (v.follow r).Fits := by
  have hc : (v.follow r).Coherent := hv.toCoherent.act (.follow r)
  have hm : (v.follow r).Marks (v.index.blocksFor r) := .follow v r
  refine ⟨hc, fun o ho => ?_, hm.apart hc, fun q hq => ?_, ?_⟩
  · obtain ⟨b, hb, he⟩ := (hm.mem_overlays_iff hc).mp ho
    exact ⟨b, hm.mem_blocks hb, he⟩
  · rw [follow_index]
    rw [follow_eq] at hq
    dsimp only at hq
    split_ifs at hq
    obtain ⟨b, hb, rfl⟩ := Option.map_eq_some_iff.mp hq
    exact Index.mem_blocks_of_mem_blocksFor (List.mem_of_head? hb)
  · unfold ListingView.top
    rw [follow_viewport]
    exact hv.top

theorem fits_settle (hv : v.Fits) : v.settle.Fits := by
  have ho : v.settle.surface.highlights = v.surface.highlights := by rw [settle_eq]
  refine ⟨hv.toCoherent.settle, ?_, by rw [ho]; exact hv.apart, fun q hq => ?_,
    limited_settle hv.top⟩
  · rw [ho, settle_index]
    exact hv.marked
  · rw [settle_eq] at hq
    cases hq

/-- Whatever a panel does with its view, the parts keep fitting. -/
theorem Fits.act (hv : v.Fits) {a : Action} (ha : a.OfPanel) : (v.act a).Fits := by
  have hc : (v.act a).Coherent := hv.toCoherent.act a
  cases a with
  | setText t =>
    exact ⟨hc, fun _ ho => absurd ho List.not_mem_nil, .nil,
      fun _ hq => absurd hq.symm (Option.some_ne_none _), Nat.zero_le _⟩
  | clear =>
    exact ⟨hc, fun _ ho => absurd ho List.not_mem_nil, .nil,
      fun _ hq => absurd hq.symm (Option.some_ne_none _), hv.top⟩
  | follow r => exact fits_follow hv r
  | settle => exact fits_settle hv
  | resize n => exact ⟨hc, hv.marked, hv.apart, hv.pending, Viewport.limited_resize _ n⟩
  | highlight _ | requestScroll _ | autoScroll _ | scrollTo _ | place _ _ => exact ha.elim

end ListingView

theorem SyncedPanel.Reachable.fits {p : SyncedPanel} (hp : p.Reachable) : p.view.Fits :=
  hp.view_induction ListingView.fits_blank fun _ _ ha hv => hv.act ha

end ListingPanel
