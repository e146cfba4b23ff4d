import ListingPanel.ListingView
import ListingPanel.Proofs.View.Highlights

/-! What each operation does to a view, the views that operations reach, and how the parts of such
a view belong together. -/
namespace ListingPanel

namespace Viewport

@[simp] theorem lineCount_resize (v : Viewport) (n : Nat) : (v.resize n).lineCount = v.lineCount :=
  rfl

@[simp] theorem lineCount_scrollTo (v : Viewport) (n : Nat) :
    (v.scrollTo n).lineCount = v.lineCount := rfl

@[simp] theorem lineCount_reveal (v : Viewport) (b : Block) :
    (v.reveal b).lineCount = v.lineCount := rfl

end Viewport

namespace ListingView

/-! ### Operations -/

private theorem foldl_addOverlay (v : ListingView) (bs : List Block) :
    bs.foldl (fun v b => v.addOverlay (overlay b)) v =
      { v with surface := { v.surface with
          highlights := (bs.map overlay).foldl Highlights.insert v.surface.highlights } } := by
  induction bs generalizing v with
  | nil => rfl
  | cons b bs ih => rw [List.foldl_cons, ih]; rfl

theorem highlight_eq (v : ListingView) (r : LineRange) :
    v.highlight r = { v.clear with surface := { v.surface with
      highlights := ((v.index.blocksFor r).map overlay).foldl Highlights.insert {} } } :=
  foldl_addOverlay v.clear _

theorem follow_eq (v : ListingView) (r : LineRange) :
    v.follow r = { v.highlight r with
      pending := if v.autoScroll then
        (v.index.blocksFor r).head?.map fun b => ⟨v.generation + 1, b⟩ else none } := by
  unfold follow
  rw [highlight_eq]
  dsimp only [clear]
  cases v.index.blocksFor r with
  | nil => simp
  | cons b bs => cases v.autoScroll <;> simp [requestScroll]

/-- Settling leaves all but the request and the viewport. -/
theorem settle_eq (v : ListingView) :
    v.settle = { v with pending := none, surface.viewport := v.settle.surface.viewport } := by
  unfold settle
  cases v.pending with
  | none => rfl
  | some q => dsimp only; split_ifs <;> rfl

section Parts
variable (v : ListingView) (r : LineRange)

@[simp] theorem highlight_index : (v.highlight r).index = v.index := by rw [highlight_eq]; rfl

@[simp] theorem follow_index : (v.follow r).index = v.index := by
  rw [follow_eq, ← highlight_index v r]

@[simp] theorem settle_index : v.settle.index = v.index := by rw [settle_eq]

@[simp] theorem highlight_text : (v.highlight r).surface.text = v.surface.text := by
  rw [highlight_eq]

@[simp] theorem follow_text : (v.follow r).surface.text = v.surface.text := by
  rw [follow_eq, ← highlight_text v r]

@[simp] theorem settle_text : v.settle.surface.text = v.surface.text := by rw [settle_eq]

@[simp] theorem highlight_lines : (v.highlight r).surface.lines = v.surface.lines := by
  rw [highlight_eq]

@[simp] theorem follow_lines : (v.follow r).surface.lines = v.surface.lines := by
  rw [follow_eq, ← highlight_lines v r]

@[simp] theorem settle_lines : v.settle.surface.lines = v.surface.lines := by rw [settle_eq]

@[simp] theorem highlight_viewport : (v.highlight r).surface.viewport = v.surface.viewport := by
  rw [highlight_eq]

@[simp] theorem follow_viewport : (v.follow r).surface.viewport = v.surface.viewport := by
  rw [follow_eq, ← highlight_viewport v r]

@[simp] theorem follow_highlighted : (v.follow r).highlighted = (v.highlight r).highlighted := by
  rw [follow_eq]; rfl

@[simp] theorem settle_highlighted : v.settle.highlighted = v.highlighted := by
  rw [settle_eq]; rfl

@[simp] theorem follow_autoScroll : (v.follow r).autoScroll = v.autoScroll := by
  rw [follow_eq, highlight_eq]; rfl

@[simp] theorem settle_autoScroll : v.settle.autoScroll = v.autoScroll := by rw [settle_eq]

@[simp] theorem follow_highlightColor :
    (v.follow r).surface.highlightColor = v.surface.highlightColor := by
  rw [follow_eq, highlight_eq]

@[simp] theorem settle_highlightColor :
    v.settle.surface.highlightColor = v.surface.highlightColor := by
  rw [settle_eq]

/-- A selection asks for its first block. -/
theorem block_follow (ha : v.autoScroll = true) :
    (v.follow r).pending.map (·.block) = (v.index.blocksFor r).head? := by
  rw [follow_eq, ha, if_pos rfl, Option.map_map]
  exact congrFun Option.map_id _

@[simp] theorem clear_highlighted : v.clear.highlighted = [] := rfl

@[simp] theorem setText_highlighted (t : String) : (v.setText t).highlighted = [] := rfl

end Parts

/-! ### Reachable views -/

inductive Action where
  | setText (text : String)
  | clear
  | highlight (r : LineRange)
  | follow (r : LineRange)
  | requestScroll (b : Block)
  | settle
  | autoScroll (on : Bool)
  | resize (height : Nat)
  | scrollTo (line : Nat)
  /-- Sets the window as it stands, without a limit. -/
  | place (top height : Nat)
  deriving DecidableEq

def act (v : ListingView) : Action → ListingView
  | .setText t => v.setText t
  | .clear => v.clear
  | .highlight r => v.highlight r
  | .follow r => v.follow r
  | .requestScroll b => v.requestScroll b
  | .settle => v.settle
  | .autoScroll on => { v with autoScroll := on }
  | .resize n => v.resize n
  | .scrollTo n => v.scrollTo n
  | .place t n => { v with surface.viewport := { v.surface.viewport with top := t, height := n } }

inductive Reachable : ListingView → Prop where
  | blank (height : Nat) (color : Color) (on : Bool) : Reachable (.blank height color on)
  | act {v : ListingView} (h : Reachable v) (a : Action) : Reachable (v.act a)

/-- Index, lines and viewport are those of the text. -/
structure Coherent (v : ListingView) : Prop where
  index : v.index = .ofText v.surface.text.toList
  lines : v.surface.lines = ((Text.lines v.surface.text.toList).map String.ofList).toArray
  lineCount : v.surface.viewport.lineCount = v.surface.lines.size

theorem coherent_setText (v : ListingView) (t : String) : (v.setText t).Coherent :=
  ⟨rfl, rfl, rfl⟩

/-- Coherence depends on no other part of a view. -/
theorem Coherent.congr {v w : ListingView} (h : v.Coherent) (hi : w.index = v.index)
    (ht : w.surface.text = v.surface.text) (hl : w.surface.lines = v.surface.lines)
    (hc : w.surface.viewport.lineCount = v.surface.viewport.lineCount) : w.Coherent :=
  ⟨by rw [hi, ht, h.index], by rw [hl, ht, h.lines], by rw [hc, hl, h.lineCount]⟩

theorem Coherent.settle {v : ListingView} (h : v.Coherent) : v.settle.Coherent := by
  refine h.congr (settle_index v) (settle_text v) (settle_lines v) ?_
  unfold ListingView.settle
  cases v.pending with
  | none => rfl
  | some q => dsimp only; split_ifs <;> rfl

theorem Coherent.act {v : ListingView} (h : v.Coherent) (a : Action) : (v.act a).Coherent := by
  cases a with
  | setText t => exact coherent_setText v t
  | highlight r =>
    exact h.congr (highlight_index v r) (highlight_text v r) (highlight_lines v r)
      (congrArg Viewport.lineCount (highlight_viewport v r))
  | follow r =>
    exact h.congr (follow_index v r) (follow_text v r) (follow_lines v r)
      (congrArg Viewport.lineCount (follow_viewport v r))
  | settle => exact h.settle
  | clear | requestScroll _ | autoScroll _ | resize _ | scrollTo _ | place _ _ =>
    exact h.congr rfl rfl rfl rfl

theorem Reachable.coherent {v : ListingView} (h : v.Reachable) : v.Coherent := by
  induction h with
  | blank => exact ⟨rfl, rfl, rfl⟩
  | act h a ih => exact ih.act a

/-- Blocks of the index lie within the lines of the viewport. -/
theorem Coherent.bounds_of_mem_blocks {v : ListingView} (h : v.Coherent) {b : Block}
    (hb : b ∈ v.index.blocks.toList) :
    b.first ≤ b.last ∧ b.last < v.surface.viewport.lineCount := by
  rw [h.index] at hb
  rw [h.lineCount, h.lines, List.size_toArray, List.length_map]
  exact Index.bounds_of_mem_displayed (Index.mem_displayed_of_mem_blocks hb)

theorem Coherent.bounds {v : ListingView} (h : v.Coherent) {r : LineRange} {b : Block}
    (hb : b ∈ v.index.blocksFor r) : b.first ≤ b.last ∧ b.last < v.surface.viewport.lineCount :=
  h.bounds_of_mem_blocks (Index.mem_blocks_of_mem_blocksFor hb)

/-- Highlighting replaces all highlights by the display lines of the blocks. -/
theorem Coherent.highlighted_highlight {v : ListingView} (h : v.Coherent) (r : LineRange) :
    (v.highlight r).highlighted = Block.ranges (v.index.blocksFor r) := by
  have hk : ((v.index.blocksFor r).map overlay).map Overlay.key =
      (v.index.blocksFor r).map fun b => (b.first, b.last) := by
    rw [List.map_map]
    rfl
  have hn : ((v.index.blocksFor r).map fun b => (b.first, b.last)).Nodup := by
    rw [h.index]
    exact Index.nodup_blocksFor_ranges _ r
  rw [highlight_eq]
  unfold highlighted
  refine (Highlights.pairwise_keys_foldl_insert (h := {}) .nil).eq_of_mem_iff
    (Block.pairwise_ranges hn) fun k => ?_
  rw [Highlights.mem_keys_foldl_insert .nil, hk, Block.mem_ranges, List.mem_map]
  simp [Highlights.keys]

end ListingView

end ListingPanel
