import ListingPanel.Proofs.Listing.Position
import ListingPanel.Proofs.View.State

/-! Views after a run of operations. What is highlighted is what the last selection was answered
with, and settling carries out the last request to scroll, unless it has been called off since. -/
namespace ListingPanel.ListingView

def run (v : ListingView) (as : List Action) : ListingView := as.foldl act v

theorem Reachable.run {v : ListingView} (h : v.Reachable) (as : List Action) :
    (v.run as).Reachable := by
  induction as generalizing v with
  | nil => exact h
  | cons a as ih => exact ih (h.act a)

/-- What the last action of a run to decide about something has decided, `x` if none has. -/
def latest {α : Type} (decision? : ListingView → Action → Option α) (x : α) (v : ListingView) :
    List Action → α
  | [] => x
  | a :: as => latest decision? ((decision? v a).getD x) (v.act a) as

/-- What ties a view to the latest decision, and is kept by each action, is kept by a run. -/
theorem run_latest {α : Type} {decision? : ListingView → Action → Option α}
    {P : ListingView → α → Prop}
    (hstep : ∀ v x a, P v x → P (v.act a) ((decision? v a).getD x)) {v : ListingView} {x : α}
    (h : P v x) (as : List Action) : P (v.run as) (latest decision? x v as) := by
  induction as generalizing v x with
  | nil => exact h
  | cons a as ih => exact ih (hstep v x a h)

/-! ### Highlights -/

/-- The blocks to highlight that an action decides on. -/
def answer? (v : ListingView) : Action → Option (List Block)
  | .setText _ | .clear => some []
  | .highlight r | .follow r => some (v.index.blocksFor r)
  | .requestScroll _ | .settle | .autoScroll _ | .resize _ | .scrollTo _ | .place _ _ => none

/-- The highlights are those of `bs`, all of which one query answers. -/
structure Marks (v : ListingView) (bs : List Block) : Prop where
  highlights : v.surface.highlights = (bs.map overlay).foldl Highlights.insert {}
  query : bs = [] ∨ ∃ r, bs = v.index.blocksFor r

namespace Marks
variable {v : ListingView} {bs : List Block}

/-- This depends on no other part of a view. -/
theorem congr {w : ListingView} (h : v.Marks bs)
    (hh : w.surface.highlights = v.surface.highlights) (hi : w.index = v.index) : w.Marks bs :=
  ⟨by rw [hh, h.highlights], by rw [hi]; exact h.query⟩

theorem highlight (v : ListingView) (r : LineRange) :
    (v.highlight r).Marks (v.index.blocksFor r) :=
  ⟨by rw [highlight_eq], Or.inr ⟨r, by rw [highlight_index]⟩⟩

theorem follow (v : ListingView) (r : LineRange) : (v.follow r).Marks (v.index.blocksFor r) :=
  ⟨by rw [follow_eq, highlight_eq], Or.inr ⟨r, by rw [follow_index]⟩⟩

theorem act (h : v.Marks bs) (a : Action) : (v.act a).Marks ((v.answer? a).getD bs) := by
  cases a with
  | setText t => exact ⟨rfl, Or.inl rfl⟩
  | clear => exact ⟨rfl, Or.inl rfl⟩
  | highlight r => exact .highlight v r
  | follow r => exact .follow v r
  | settle => exact h.congr (by rw [ListingView.act, settle_eq]) (settle_index v)
  | requestScroll _ | autoScroll _ | resize _ | scrollTo _ | place _ _ => exact h.congr rfl rfl

/-- Each block has its display lines for itself. -/
theorem nodup (h : v.Marks bs) (hv : v.Coherent) :
    (bs.map fun b => (b.first, b.last)).Nodup := by
  rcases h.query with rfl | ⟨r, rfl⟩
  · exact List.nodup_nil
  · rw [hv.index]
    exact Index.nodup_blocksFor_ranges _ r

theorem highlighted_eq (h : v.Marks bs) (hv : v.Coherent) : v.highlighted = Block.ranges bs := by
  have hh := h.highlights
  rcases h.query with rfl | ⟨r, rfl⟩
  · unfold highlighted
    rw [hh, Block.ranges_nil]
    rfl
  · rw [← hv.highlighted_highlight r, highlight_eq]
    unfold highlighted
    rw [hh]

theorem mem_overlays_iff (h : v.Marks bs) (hv : v.Coherent) {o : Overlay} :
    o ∈ v.surface.highlights.overlays ↔ ∃ b ∈ bs, overlay b = o := by
  have hn : ((bs.map overlay).map Overlay.key).Nodup := by
    rw [List.map_map]
    exact h.nodup hv
  rw [h.highlights, Highlights.mem_foldl_insert_iff hn, List.mem_map]

theorem covers_iff (h : v.Marks bs) (hv : v.Coherent) {d : Nat} :
    v.surface.highlights.covers d = true ↔ ∃ b ∈ bs, b.contains d = true := by
  rw [Highlights.covers_iff]
  constructor
  · rintro ⟨o, ho, hd⟩
    obtain ⟨b, hb, rfl⟩ := (h.mem_overlays_iff hv).mp ho
    exact ⟨b, hb, hd⟩
  · rintro ⟨b, hb, hd⟩
    exact ⟨overlay b, (h.mem_overlays_iff hv).mpr ⟨b, hb, rfl⟩, hd⟩

/-- A highlight says which source line the display line under it shows. -/
theorem sourceLineAt (h : v.Marks bs) (hv : v.Coherent) {d : Nat} {o : Overlay}
    (ho : v.surface.highlights.at? d = some o) : v.index.sourceLineAt d = some o.sourceLine := by
  obtain ⟨hm, hd⟩ := Highlights.mem_of_at? ho
  obtain ⟨b, hb, rfl⟩ := (h.mem_overlays_iff hv).mp hm
  rcases h.query with rfl | ⟨r, rfl⟩
  · exact absurd hb List.not_mem_nil
  · rw [hv.index] at hb ⊢
    exact Index.sourceLineAt_of_mem_blocksFor hb hd

end Marks

theorem marks_run (height : Nat) (color : Color) (on : Bool) (as : List Action) :
    ((blank height color on).run as).Marks (latest answer? [] (blank height color on) as) :=
  have h : (blank height color on).Marks [] := ⟨rfl, Or.inl rfl⟩
  run_latest (fun _ _ a h => h.act a) h as

/-- After any run the highlights are those of the last selection since the text or the highlights
were last cleared, one for each block, in ascending order. Both outputs of the surface mark the
display lines of these blocks and no others, each for the source line that it shows. -/
theorem highlighted_run (height : Nat) (color : Color) (on : Bool) (as : List Action) :
    let v := (blank height color on).run as
    let bs := latest answer? [] (blank height color on) as
    let window := v.surface.viewport
    v.highlighted = Block.ranges bs ∧ v.highlighted.Pairwise KeyLt ∧
    (∀ d, v.surface.highlights.covers d = true ↔ ∃ b ∈ bs, b.contains d = true) ∧
    v.surface.plainLines.map Prod.fst =
      window.visible.map (fun d => bs.any (·.contains d)) ∧
    (∀ d ∈ window.visible,
      (v.surface.highlights.inWindow window.start window.stop).any (·.contains d) =
        bs.any (·.contains d)) ∧
    ∀ d o, v.surface.highlights.at? d = some o →
      o.contains d = true ∧ v.index.sourceLineAt d = some o.sourceLine := by
  intro v bs window
  have hv : v.Coherent := ((Reachable.blank height color on).run as).coherent
  have hm : v.Marks bs := marks_run height color on as
  have hc : ∀ d, v.surface.highlights.covers d = bs.any (·.contains d) := fun d => by
    rw [Bool.eq_iff_iff, hm.covers_iff hv, List.any_eq_true]
  refine ⟨hm.highlighted_eq hv, ?_, fun d => hm.covers_iff hv, ?_, fun d hd => ?_, fun d o ho => ?_⟩
  · rw [hm.highlighted_eq hv]
    exact Block.pairwise_ranges (hm.nodup hv)
  · unfold Surface.plainLines
    rw [List.map_map]
    exact List.map_congr_left fun d _ => hc d
  · obtain ⟨i, hi, rfl⟩ := List.mem_map.mp hd
    have hlt := List.mem_range.mp hi
    rw [Highlights.any_inWindow (by omega) (by omega)]
    exact hc _
  · exact ⟨(Highlights.mem_of_at? ho).2, hm.sourceLineAt hv ho⟩

/-- Line 2 is selected after line 1, and settling leaves its highlight. -/
theorem highlighted_run_reselected :
    let v := (blank 2 ⟨0, 0, 255⟩ true).run [.setText "  1 A\n  2 B\n    C\n",
      .follow (.single 1), .highlight (.single 2), .settle]
    v.surface.highlights.at? 2 = some ⟨1, 2, 2⟩ ∧ v.index.sourceLineAt 2 = some 2 := by
  intro v
  have hb : latest answer? [] (blank 2 ⟨0, 0, 255⟩ true) [.setText "  1 A\n  2 B\n    C\n",
      .follow (.single 1), .highlight (.single 2), .settle] = [⟨2, 1, 2⟩] := by
    change (((blank 2 ⟨0, 0, 255⟩ true).setText _).follow _).index.blocksFor (.single 2) = _
    rw [follow_index]
    change (Index.ofText "  1 A\n  2 B\n    C\n".toList).blocksFor (.single 2) = _
    rw [Index.blocksFor_of_ascending (by decide) (by decide)]
    decide
  have hh : v.surface.highlights = ⟨[⟨1, 2, 2⟩]⟩ := by
    rw [(marks_run 2 ⟨0, 0, 255⟩ true _).highlights, hb]
    decide +kernel
  have ha : v.surface.highlights.at? 2 = some ⟨1, 2, 2⟩ := by rw [hh]; rfl
  exact ⟨ha, ((highlighted_run 2 ⟨0, 0, 255⟩ true _).2.2.2.2.2 2 _ ha).2⟩

/-! ### Scrolling -/

/-- What an action decides about scrolling: the block to scroll to, or that there is none. -/
def goal? (v : ListingView) : Action → Option (Option Block)
  | .requestScroll b => some (some b)
  | .follow r => some (if v.autoScroll then (v.index.blocksFor r).head? else none)
  | .setText _ | .clear | .highlight _ | .settle => some none
  | .autoScroll _ | .resize _ | .scrollTo _ | .place _ _ => none

/-- The open request is for `b?`, and of the current generation. -/
def Awaits (v : ListingView) (b? : Option Block) : Prop :=
  v.pending = b?.map fun b => ⟨v.generation, b⟩

theorem Awaits.act {v : ListingView} {b? : Option Block} (h : v.Awaits b?) (a : Action) :
    (v.act a).Awaits ((v.goal? a).getD b?) := by
  unfold Awaits at *
  cases a with
  | setText t => rfl
  | clear => rfl
  | requestScroll b => rfl
  | highlight r => rw [ListingView.act, highlight_eq]; rfl
  | follow r =>
    rw [ListingView.act, follow_eq, highlight_eq]
    cases hs : v.autoScroll <;> simp [goal?, hs, clear]
  | settle => rw [ListingView.act, settle_eq]; rfl
  | autoScroll _ | resize _ | scrollTo _ | place _ _ => exact h

theorem awaits_run (height : Nat) (color : Color) (on : Bool) (as : List Action) :
    ((blank height color on).run as).Awaits (latest goal? none (blank height color on) as) :=
  have h : (blank height color on).Awaits none := rfl
  run_latest (fun _ _ a h => h.act a) h as

theorem Awaits.settle_some {v : ListingView} {b : Block} (h : v.Awaits (some b)) :
    v.settle = { v with pending := none, surface.viewport := v.surface.viewport.reveal b } := by
  unfold settle
  rw [h]
  simp

theorem Awaits.settle_none {v : ListingView} (h : v.Awaits none) : v.settle = v := by
  have hp : v.pending = none := h
  unfold settle
  rw [hp]
  cases v
  simp_all

/-- Settling reports whether it moves the window. -/
theorem moves_eq (v : ListingView) : v.moves = decide (v.settle.top ≠ v.top) := by
  unfold moves settle
  cases v.pending with
  | none => simp [top]
  | some q => by_cases hq : q.generation = v.generation <;> simp [hq, top]

/-- The actions that may move the window. -/
theorem top_act (v : ListingView) (a : Action) :
    (v.act a).top = v.top ∨ a = .settle ∨ (∃ t, a = .setText t) ∨
      (∃ n, a = .resize n ∨ a = .scrollTo n) ∨ ∃ t n, a = .place t n := by
  cases a with
  | setText t => exact Or.inr (Or.inr (Or.inl ⟨t, rfl⟩))
  | settle => exact Or.inr (Or.inl rfl)
  | resize n => exact Or.inr (Or.inr (Or.inr (Or.inl ⟨n, Or.inl rfl⟩)))
  | scrollTo n => exact Or.inr (Or.inr (Or.inr (Or.inl ⟨n, Or.inr rfl⟩)))
  | place t n => exact Or.inr (Or.inr (Or.inr (Or.inr ⟨t, n, rfl⟩)))
  | highlight r => exact Or.inl (congrArg Viewport.top (highlight_viewport v r))
  | follow r => exact Or.inl (congrArg Viewport.top (follow_viewport v r))
  | clear | requestScroll _ | autoScroll _ => exact Or.inl rfl

/-- After any run, settling scrolls to the block of the last request to scroll, as far as the text
goes, unless something has called it off since, and reports whether the window moves. Without such
a request it changes nothing. An open request is always of the current generation, and only new
text, settling and changes of the window itself move the window. -/
theorem settle_run (height : Nat) (color : Color) (on : Bool) (as : List Action) :
    let v := (blank height color on).run as
    let window := v.surface.viewport
    (∀ b, latest goal? none (blank height color on) as = some b →
      v.settle = { v with
        pending := none
        surface.viewport.top :=
          min (window.revealTarget b) (window.lineCount - window.height) } ∧
      v.moves = decide (v.settle.top ≠ v.top)) ∧
    (latest goal? none (blank height color on) as = none → v.settle = v ∧ v.moves = false) ∧
    (∀ q, v.pending = some q → q.generation = v.generation) ∧
    ∀ a, (v.act a).top = v.top ∨ a = .settle ∨ (∃ t, a = .setText t) ∨
      (∃ n, a = .resize n ∨ a = .scrollTo n) ∨ ∃ t n, a = .place t n := by
  intro v window
  have hw : v.Awaits (latest goal? none (blank height color on) as) := awaits_run height color on as
  refine ⟨fun b hb => ?_, fun hn => ?_, fun q hq => ?_, top_act v⟩
  · rw [hb] at hw
    exact ⟨hw.settle_some, moves_eq v⟩
  · rw [hn] at hw
    refine ⟨hw.settle_none, ?_⟩
    rw [moves_eq, hw.settle_none]
    simp
  · rw [hw] at hq
    obtain ⟨b, -, rfl⟩ := Option.map_eq_some_iff.mp hq
    rfl

/-- A request that comes after the highlights were cleared is carried out in the window as it has
become since, and one more selection calls it off. -/
theorem settle_run_renewed :
    let as : List Action := [.setText "  1 A\n  2 B\n    C\n", .follow (.single 1), .clear,
      .requestScroll ⟨2, 1, 2⟩, .resize 1]
    let v := (blank 2 ⟨0, 0, 255⟩ true).run as
    let w := (blank 2 ⟨0, 0, 255⟩ true).run (as ++ [.highlight (.single 9)])
    latest goal? none (blank 2 ⟨0, 0, 255⟩ true) as = some ⟨2, 1, 2⟩ ∧ v.settle.top = 1 ∧
      latest goal? none (blank 2 ⟨0, 0, 255⟩ true) (as ++ [.highlight (.single 9)]) = none ∧
      w.settle = w ∧ w.moves = false := by
  intro as v w
  have hv := (settle_run 2 ⟨0, 0, 255⟩ true as).1 ⟨2, 1, 2⟩ rfl
  have hw := (settle_run 2 ⟨0, 0, 255⟩ true (as ++ [.highlight (.single 9)])).2.1 rfl
  have hs : v.surface.viewport = { height := 1, lineCount := 3 } := by
    change (((blank 2 ⟨0, 0, 255⟩ true).setText _).follow _).surface.viewport.resize 1 = _
    rw [follow_viewport]
    rfl
  refine ⟨rfl, ?_, rfl, hw⟩
  rw [hv.1]
  change min (v.surface.viewport.revealTarget _) v.surface.viewport.maxTop = 1
  rw [hs]
  rfl

end ListingPanel.ListingView
