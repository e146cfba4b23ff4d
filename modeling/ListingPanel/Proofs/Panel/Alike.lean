import ListingPanel.Proofs.Panel.Documents
import ListingPanel.Proofs.View.Run

/-! Views and panels that nobody can tell apart. Refreshing makes panels of the same settings so, if
it finds the same at their hosts. -/
namespace ListingPanel

/-- Two views that differ at most in how often their highlights have been replaced. -/
structure ListingView.Alike (v w : ListingView) : Prop where
  surface : w.surface = v.surface
  index : w.index = v.index
  autoScroll : w.autoScroll = v.autoScroll
  awaits : ∃ b?, v.Awaits b? ∧ w.Awaits b?

namespace ListingView

variable {v w : ListingView}

theorem Alike.goal? (h : v.Alike w) (a : Action) : w.goal? a = v.goal? a := by
  cases a with
  | follow r => unfold ListingView.goal?; rw [h.autoScroll, h.index]
  | _ => rfl

/-- Settling, the one action that looks at the generation, finds the same request in both. -/
theorem Alike.settle (h : v.Alike w) : w.settle.surface = v.settle.surface := by
  obtain ⟨b?, hv, hw⟩ := h.awaits
  cases b? with
  | none => rw [hv.settle_none, hw.settle_none, h.surface]
  | some b => rw [hv.settle_some, hw.settle_some, h.surface]

theorem Alike.act (h : v.Alike w) (a : Action) : (v.act a).Alike (w.act a) := by
  have hawaits : ∃ b?, (v.act a).Awaits b? ∧ (w.act a).Awaits b? := by
    obtain ⟨b?, hv, hw⟩ := h.awaits
    have hwa := hw.act a
    rw [h.goal? a] at hwa
    exact ⟨_, hv.act a, hwa⟩
  have hhigh : ∀ r, (w.highlight r).surface = (v.highlight r).surface := fun r => by
    rw [highlight_eq, highlight_eq, h.surface, h.index]
  cases a with
  | setText t =>
    refine ⟨?_, rfl, h.autoScroll, hawaits⟩
    change w.clear.surface.setText t = v.clear.surface.setText t
    unfold clear
    rw [h.surface]
  | clear =>
    refine ⟨?_, h.index, h.autoScroll, hawaits⟩
    change w.clear.surface = v.clear.surface
    unfold clear
    rw [h.surface]
  | highlight r =>
    refine ⟨hhigh r, ?_, ?_, hawaits⟩
    · exact (highlight_index w r).trans (h.index.trans (highlight_index v r).symm)
    · change (w.highlight r).autoScroll = (v.highlight r).autoScroll
      rw [highlight_eq, highlight_eq]
      exact h.autoScroll
  | follow r =>
    refine ⟨?_, ?_, ?_, hawaits⟩
    · change (w.follow r).surface = (v.follow r).surface
      rw [follow_eq, follow_eq]
      exact hhigh r
    · exact (follow_index w r).trans (h.index.trans (follow_index v r).symm)
    · change (w.follow r).autoScroll = (v.follow r).autoScroll
      rw [follow_eq, follow_eq, highlight_eq, highlight_eq]
      exact h.autoScroll
  | settle =>
    refine ⟨h.settle, ?_, ?_, hawaits⟩
    · exact (settle_index w).trans (h.index.trans (settle_index v).symm)
    · change w.settle.autoScroll = v.settle.autoScroll
      rw [settle_eq w, settle_eq v, h.autoScroll]
  | requestScroll b => exact ⟨h.surface, h.index, h.autoScroll, hawaits⟩
  | autoScroll on => exact ⟨h.surface, h.index, rfl, hawaits⟩
  | resize n =>
    refine ⟨?_, h.index, h.autoScroll, hawaits⟩
    change (w.resize n).surface = (v.resize n).surface
    unfold resize
    rw [h.surface]
  | scrollTo n =>
    refine ⟨?_, h.index, h.autoScroll, hawaits⟩
    change (w.scrollTo n).surface = (v.scrollTo n).surface
    unfold scrollTo
    rw [h.surface]
  | place t n =>
    refine ⟨?_, h.index, h.autoScroll, hawaits⟩
    simp only [ListingView.act, h.surface]

/-- Views that are alike answer alike whether settling moves the window. -/
theorem Alike.moves (h : v.Alike w) : w.moves = v.moves := by
  have ht : w.top = v.top := by unfold top; rw [h.surface]
  have hs : w.settle.top = v.settle.top := by unfold top; rw [h.settle]
  rw [moves_eq, moves_eq, ht, hs]

end ListingView

/-- Two panels that differ at most in how often their highlights have been replaced, and in the
identifier of their subscription. -/
structure SyncedPanel.Alike (p q : SyncedPanel) : Prop where
  source : q.source = p.source
  view : p.view.Alike q.view
  shownFile : q.shownFile = p.shownFile
  editor : q.binding.map (·.editor) = p.binding.map (·.editor)
  disposed : q.disposed = p.disposed

/-- The panel has the settings that `c` and `d` give it, and is `height` rows high. -/
structure SyncedPanel.Configured (c : Config) (d : Disassembler) (height : Nat) (p : SyncedPanel) :
    Prop where
  source : p.source = ⟨c.python, d⟩
  autoScroll : p.view.autoScroll = c.panel.scrollToHighlight
  color : p.view.surface.highlightColor = c.panel.highlightColor
  height : p.view.surface.viewport.height = height

/-- Refreshing finds the same at two hosts: the same toolchain, file, document and active editor,
the same selection there, and a helper with the same output. -/
structure ListingSource.SameSight (s : ListingSource) (launch launch' : Launcher) (h h' : Host) :
    Prop where
  toolchain : h'.toolchain = h.toolchain
  file : h'.file = h.file
  document : ∀ f, h.file = some f → h'.document? f = h.document? f
  activeEditor : h'.activeEditor = h.activeEditor
  selection : ∀ e, h.activeEditor = some e → h'.selection? e = h.selection? e
  output : ∀ t f text, h.toolchain = some t → h.file = some f → h.document? f = some text →
    (s.disassembler.produce launch' h'.machine text (some t)).1 =
      (s.disassembler.produce launch h.machine text (some t)).1

theorem ListingSource.SameSight.listing {s : ListingSource} {launch launch' : Launcher}
    {h h' : Host} (hs : s.SameSight launch launch' h h') :
    (s.listing launch' h').1 = (s.listing launch h).1 := by
  rw [s.listing_eq launch h, s.listing_eq launch' h', hs.toolchain, hs.file]
  cases ht : h.toolchain with
  | none => rfl
  | some t =>
    cases hf : h.file with
    | none => rfl
    | some f =>
      dsimp only
      rw [hs.document f hf]
      cases hd : h.document? f with
      | none => rfl
      | some text =>
        dsimp only
        rw [hs.output t f text ht hf hd]

namespace SyncedPanel

variable {launch launch' : Launcher} {i j : PanelId} {p q : SyncedPanel} {h h' : Host}
  {c : Config} {d : Disassembler} {n : Nat}

/-- What a view has been through does not show in a new text. -/
theorem Configured.alike_setText (hp : p.Configured c d n) (hq : q.Configured c d n) (t : String) :
    (p.view.setText t).Alike (q.view.setText t) := by
  have hs : q.view.clear.surface.setText t = p.view.clear.surface.setText t := by
    unfold ListingView.clear Surface.setText Viewport.reset
    dsimp only
    rw [hp.color, hq.color, hp.height, hq.height]
  exact ⟨hs, rfl, hq.autoScroll.trans hp.autoScroll.symm, none, rfl, rfl⟩

theorem Configured.alike_reload (hp : p.Configured c d n) (hq : q.Configured c d n)
    (hd : q.disposed = p.disposed) (hs : p.source.SameSight launch launch' h h') :
    (p.reload launch h).1.Alike (q.reload launch' h').1 := by
  have hsource : q.source = p.source := hq.source.trans hp.source.symm
  have hlisting : (q.source.listing launch' (q.unbind h').2).1 =
      (p.source.listing launch (p.unbind h).2).1 := by
    rw [listing_unbind, listing_unbind, hsource, hs.listing]
  have hclear : ∀ {r : SyncedPanel}, r.Configured c d n →
      Configured c d n { r with view := r.view.clear } := fun hr =>
    ⟨hr.source, hr.autoScroll, hr.color, hr.height⟩
  have hview := (hclear hp).alike_setText (hclear hq) (p.source.listing launch (p.unbind h).2).1.1
  refine ⟨hsource, ?_, ?_, rfl, hd⟩
  · unfold reload
    dsimp only
    rw [hlisting]
    exact hview
  · unfold reload
    dsimp only
    rw [hlisting]

/-- Refreshing leaves panels of the same settings alike, whatever they have been through. -/
theorem Configured.alike_refresh (hp : p.Configured c d n) (hq : q.Configured c d n)
    (hpd : p.disposed = false) (hqd : q.disposed = false)
    (hs : p.source.SameSight launch launch' h h') :
    (p.refresh launch i h).1.Alike (q.refresh launch' j h').1 := by
  have hr := hp.alike_reload hq (hqd.trans hpd.symm) hs
  rw [refresh_eq launch i p h hpd, refresh_eq launch' j q h' hqd, hs.activeEditor]
  cases ha : h.activeEditor with
  | none => exact hr
  | some e =>
    have hsel : (q.reload launch' h').2.selection? e = (p.reload launch h).2.selection? e := by
      unfold Host.selection?
      rw [reload_selections, reload_selections]
      exact hs.selection e ha
    refine ⟨hr.source, ?_, hr.shownFile, rfl, hr.disposed⟩
    unfold bind
    dsimp only
    rw [hsel]
    cases (p.reload launch h).2.selection? e with
    | none => exact hr.view
    | some s => exact hr.view.act (.follow s.lines)

theorem Configured.refresh (hp : p.Configured c d n) (launch : Launcher) (i : PanelId) (h : Host) :
    (p.refresh launch i h).1.Configured c d n := by
  cases hd : p.disposed with
  | true => rwa [refresh_of_disposed launch i p h hd]
  | false =>
    have hr : (p.reload launch h).1.Configured c d n :=
      ⟨hp.source, hp.autoScroll, hp.color, hp.height⟩
    rw [refresh_eq launch i p h hd]
    cases h.activeEditor with
    | none => exact hr
    | some e =>
      unfold bind
      dsimp only
      cases (p.reload launch h).2.selection? e with
      | none => exact ⟨hr.source, hr.autoScroll, hr.color, hr.height⟩
      | some s =>
        dsimp only
        rw [ListingView.follow_eq, ListingView.highlight_eq]
        exact ⟨hr.source, hr.autoScroll, hr.color, hr.height⟩

/-- After a refresh, the text is shown from its start. -/
theorem top_refresh (launch : Launcher) (i : PanelId) (p : SyncedPanel) (h : Host)
    (hd : p.disposed = false) : (p.refresh launch i h).1.view.top = 0 := by
  rw [refresh_eq launch i p h hd]
  cases h.activeEditor with
  | none => rfl
  | some e =>
    unfold bind ListingView.top
    dsimp only
    cases (p.reload launch h).2.selection? e with
    | none => rfl
    | some s =>
      dsimp only
      rw [ListingView.follow_viewport]
      rfl

/-- Whether the panel refreshes on an event. -/
def heeds (p : SyncedPanel) : HostEvent → Bool
  | .fileSelected _ => !p.disposed
  | .documentChanged f => !p.disposed && p.shownFile.any (·.sameFile f)

theorem handle_eq (launch : Launcher) (i : PanelId) (p : SyncedPanel) (h : Host) (e : HostEvent) :
    p.handle launch i h e = if p.heeds e then p.refresh launch i h else (p, h) := by
  cases hd : p.disposed with
  | true =>
    rw [refresh_of_disposed launch i p h hd, ite_self]
    rcases p.handle_cases launch i h e with he | he
    · rw [he, refresh_of_disposed launch i p h hd]
    · exact he
  | false =>
    cases e with
    | fileSelected f => simp [handle, heeds, hd]
    | documentChanged f => simp [handle, heeds, hd]

theorem disposed_of_heeds {e : HostEvent} (he : p.heeds e = true) : p.disposed = false := by
  cases e with
  | fileSelected f => simpa [heeds] using he
  | documentChanged f =>
    simp only [heeds, Bool.and_eq_true, Bool.not_eq_true'] at he
    exact he.1

theorem Alike.heeds (ha : p.Alike q) (e : HostEvent) : q.heeds e = p.heeds e := by
  cases e with
  | fileSelected f => simp only [SyncedPanel.heeds, ha.disposed]
  | documentChanged f => simp only [SyncedPanel.heeds, ha.disposed, ha.shownFile]

theorem Alike.operate (ha : p.Alike q) (a : ListingView.Action) :
    Alike { p with view := p.view.act a } { q with view := q.view.act a } :=
  ⟨ha.source, ha.view.act a, ha.shownFile, ha.editor, ha.disposed⟩

theorem Alike.dispose (ha : p.Alike q) : (p.dispose h).1.Alike (q.dispose h').1 := by
  unfold SyncedPanel.dispose
  rw [ha.disposed]
  split_ifs
  · exact ha
  · exact ⟨ha.source, ha.view.act .clear, ha.shownFile, rfl, rfl⟩

/-- Panels that are alike have the same settings and height. -/
theorem Alike.configured (ha : p.Alike q) : ∃ c d n, p.Configured c d n ∧ q.Configured c d n := by
  let c : Config :=
    ⟨p.source.python, ⟨p.view.autoScroll, p.view.surface.highlightColor⟩⟩
  refine ⟨c, p.source.disassembler, p.view.surface.viewport.height, ⟨rfl, rfl, rfl, rfl⟩, ?_⟩
  refine ⟨ha.source, ha.view.autoScroll, ?_, ?_⟩
  · rw [ha.view.surface]
  · rw [ha.view.surface]

end SyncedPanel

end ListingPanel
