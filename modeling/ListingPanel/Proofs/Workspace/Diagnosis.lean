import ListingPanel.Proofs.Panel.Diagnosis
import ListingPanel.Proofs.View.Order
import ListingPanel.Proofs.Workspace.Turn

/-! Panels that show why there is no listing: which reason they give, and that they highlight
nothing until they are refreshed. -/
namespace ListingPanel

namespace ListingView

/-- Nothing is highlighted, there is nothing to scroll to, and no line shows a source line. -/
structure Still (v : ListingView) : Prop where
  highlighted : v.highlighted = []
  pending : v.pending = none
  settle : v.settle = v
  moves : v.moves = false
  sourceLineAt : ∀ d, v.index.sourceLineAt d = none

/-- Highlights and requests are for blocks, and a text that maps no source line has none. -/
theorem Fits.still {v : ListingView} (hv : v.Fits)
    (hu : isUnmapped v.surface.text.toList = true) : v.Still := by
  have hindex : v.index = .empty := hv.index.trans (Index.ofText_of_unmapped hu)
  have hblocks : ∀ b, b ∉ v.index.blocks.toList := fun b => by
    rw [hindex]
    exact List.not_mem_nil
  have hnone : v.surface.highlights.overlays = [] :=
    List.eq_nil_iff_forall_not_mem.mpr fun o ho => by
      obtain ⟨b, hb, -⟩ := hv.marked o ho
      exact hblocks b hb
  have hpending : v.pending = none :=
    Option.eq_none_iff_forall_ne_some.mpr fun q hq => hblocks q.block (hv.pending q hq)
  have hsettle : v.settle = v := Awaits.settle_none hpending
  refine ⟨?_, hpending, hsettle, ?_, fun d => ?_⟩
  · rw [highlighted, Highlights.keys, hnone, List.map_nil]
  · rw [moves_eq, hsettle]
    simp
  · rw [hindex, Index.sourceLineAt_empty]

end ListingView

namespace Workspace

/-- The action may give a panel another text, or take it away. -/
def Action.renews (id : PanelId) : Action → Bool
  | .refresh _ i | .handle _ i _ | .remove i _ => i == id
  | _ => false

variable {w : Workspace} {id : PanelId} {p : SyncedPanel}

/-- What else happens leaves a panel its text. -/
theorem text_step (hw : w.Reachable) (hp : w.panel? id = some (.synced p)) {a : Action}
    (ha : a.renews id = false) :
    ∃ q, (w.step a).panel? id = some (.synced q) ∧
      q.view.surface.text = p.view.surface.text := by
  by_cases hact : a.actor? = some id
  · cases a with
    | dispose i =>
      cases hact
      have ht : (p.dispose w.host).1.view.surface.text = p.view.surface.text := by
        unfold SyncedPanel.dispose
        split_ifs <;> rfl
      exact ⟨_, (act_synced hp rfl).1, ht⟩
    | settle i =>
      cases hact
      exact ⟨p.settle, (act_synced (r := (p.settle, w.host)) hp rfl).1, p.view.settle_text⟩
    | resize i n =>
      cases hact
      exact ⟨p.resize n, (act_synced (r := (p.resize n, w.host)) hp rfl).1, rfl⟩
    | refresh _ i | handle _ i _ | remove i _ =>
      cases hact
      rw [Action.renews, beq_self_eq_true] at ha
      cases ha
    | openSynced _ _ _ | openPlain _ _ _ | select _ _ | dispatch _ | subscribe _ _
    | unsubscribe _ | change _ => cases hact
  · rcases step_other hw hp hact with hs | ⟨-, r, hs⟩
    · exact ⟨p, hs, rfl⟩
    · exact ⟨_, hs, p.view.follow_text r⟩

theorem text_run (hw : w.Reachable) (hp : w.panel? id = some (.synced p)) {as : List Action}
    (has : ∀ a ∈ as, a.renews id = false) :
    ∃ q, (w.run as).panel? id = some (.synced q) ∧
      q.view.surface.text = p.view.surface.text := by
  induction as generalizing w p with
  | nil => exact ⟨p, hp, rfl⟩
  | cons a as ih =>
    obtain ⟨ha, has⟩ := List.forall_mem_cons.mp has
    obtain ⟨q, hq, ht⟩ := text_step hw hp ha
    obtain ⟨r, hr, hrt⟩ := ih (hw.step a) hq has
    exact ⟨r, hr, hrt.trans ht⟩

/-- A refresh shows the first diagnostic that applies to what the host has selected, or else the
listing, and a synced panel binds to the active editor in either case. While it shows a text that
maps no source line, nothing that happens highlights anything, until it is refreshed. -/
theorem diagnosed_refresh (launch : Launcher) (id : PanelId) :
    (∀ (p : SyncedPanel) (h : Host), p.disposed = false →
      let r := p.refresh launch id h
      (∀ d, p.source.diagnosis? launch h = some d →
        r.1.view.surface.text = d.text ∧ isUnmapped d.text.toList = true) ∧
      (p.source.diagnosis? launch h = none →
        p.source.output? launch h = some r.1.view.surface.text) ∧
      r.1.binding = h.activeEditor.map (⟨·, h.listeners.nextId⟩) ∧
      ∀ e, h.activeEditor = some e →
        ⟨h.listeners.nextId, h.misroute.getD e, .panel id e⟩ ∈ r.2.listeners.live) ∧
    (∀ (q : PlainPanel) (h : Host),
      (∀ d, q.source.diagnosis? launch h = some d →
        (q.refresh launch h).1.surface.text = d.text) ∧
      (q.source.diagnosis? launch h = none →
        q.source.output? launch h = some (q.refresh launch h).1.surface.text)) ∧
    ∀ (w : Workspace) (p : SyncedPanel), w.Reachable → w.panel? id = some (.synced p) →
      ((∀ c ∈ p.view.surface.text.toList, Text.isBlank c = true) ∨
        noPython.toList <+: p.view.surface.text.toList ∨
        ∃ d : Diagnostic, d.text.toList <+: p.view.surface.text.toList) →
      ∀ as : List Action, (∀ a ∈ as, a.renews id = false) →
        ∃ q, (w.run as).panel? id = some (.synced q) ∧
          q.view.surface.text = p.view.surface.text ∧ q.view.Still := by
  refine ⟨fun p h hd => ?_, fun q h => q.source.listing_text launch h,
    fun w p hw hp hu as has => ?_⟩
  · obtain ⟨-, htext, -, hbinding, hlisteners⟩ := p.renewed_refresh launch id h hd
    obtain ⟨hsome, hnone⟩ := p.source.listing_text launch h
    dsimp only
    rw [htext]
    refine ⟨fun d hd => ⟨hsome d hd, isUnmapped_text d⟩, hnone, hbinding, fun e he => ?_⟩
    rw [hlisteners, he]
    refine List.mem_append_right _ ?_
    rw [List.mem_singleton, Listeners.release_nextId]
  · obtain ⟨q, hq, ht⟩ := text_run hw hp has
    have hr : q.Reachable := (hw.run as).kept.reachable id _ hq
    exact ⟨q, hq, ht, hr.fits.still (by rw [ht]; exact isUnmapped_iff.mpr hu)⟩

/-- A remark with a line below it that looks like a head takes the place of a listing. With no
toolchain, it does not matter that the file is no source file, and the panel binds all the same. -/
theorem diagnosed_refresh_over_heads :
    let f : Path := ⟨"/x.py"⟩
    let remark := "No Python today\n  2 B\n"
    let h : Host := {
      activeEditor := some 1, file := some f, toolchain := some ⟨"/py"⟩
      selections := [(1, { caret := 2 })], documents := .held [(f, "b = 2\n")]
      machine := .bare }
    let v := run { host := h } [.openSynced {} (.ofConfig {}) 20,
      .refresh (printing "  1 A\n  2 B\n") 0, .change (.setMachine .bare)]
    let w := v.refresh (printing remark) 0
    let as : List Action := [.select 1 { caret := 2 }, .settle 0, .resize 0 1]
    (w.Reachable ∧ ∃ p q, w.panel? 0 = some (.synced p) ∧ p.view.surface.text = remark ∧
      p.binding.map (·.editor) = some 1 ∧ (w.run as).panel? 0 = some (.synced q) ∧
      q.view.surface.text = remark ∧ q.view.Still) ∧
    let g : Host := { activeEditor := some 4, file := some ⟨"/x.txt"⟩ }
    let r := (SyncedPanel.fresh {} (.ofConfig {}) 20).refresh (printing remark) 0 g
    r.1.view.surface.text = "No Python SDK" ∧ r.1.binding = some ⟨4, 1⟩ ∧
      ⟨1, 4, .panel 0 4⟩ ∈ r.2.listeners.live := by
  intro f remark h v w as
  obtain ⟨hrefresh, -, hstill⟩ := diagnosed_refresh (printing remark) 0
  refine ⟨?_, ?_⟩
  · have hw : w.Reachable := ((Reachable.start h rfl).run _).step (.refresh (printing remark) 0)
    let u := run { host := h } [.openSynced {} (.ofConfig {}) 20]
    let u₁ := (u.actSynced 0 fun p h => p.present "  1 A\n  2 B\n" f 0 h).step
      (.change (.setMachine .bare))
    have hv : v = u₁ := congrArg (step · (.change (.setMachine .bare)))
      (refresh_printing (w := u) rfl ⟨⟨_, _, rfl, unhindered_bare⟩, rfl, by decide +kernel⟩ rfl
        (by decide +kernel) "  1 A\n  2 B\n")
    have hu : w = u₁.actSynced 0 fun p h => p.present remark f 0 h := by
      dsimp only [w]
      rw [hv]
      exact refresh_printing rfl ⟨⟨_, _, rfl, unhindered_bare⟩, rfl, by decide +kernel⟩ rfl
        (by decide +kernel) remark
    obtain ⟨p, hpanel, htext, hactive⟩ : ∃ p, w.panel? 0 = some (.synced p) ∧
        p.view.surface.text = remark ∧ p.binding.map (·.editor) = some 1 := by
      let q := ((SyncedPanel.fresh {} (.ofConfig {}) 20).present "  1 A\n  2 B\n" f 0 h).1
      rw [hu]
      exact ⟨(q.present remark f 0 u₁.host).1, rfl, SyncedPanel.text_present .., rfl⟩
    have hremark : noPython.toList <+: p.view.surface.text.toList := by
      rw [htext]
      decide
    obtain ⟨q, hq, hqt, hqs⟩ :=
      hstill w p hw hpanel (Or.inr (Or.inl hremark)) as (by simp [as, Action.renews])
    exact ⟨hw, p, q, hpanel, htext, hactive, hq, hqt.trans htext, hqs⟩
  · intro g r
    obtain ⟨hsome, -, hbinding, hlive⟩ := hrefresh (.fresh {} (.ofConfig {}) 20) g rfl
    exact ⟨(hsome .noToolchain rfl).1, hbinding, hlive 4 rfl⟩

end Workspace

end ListingPanel
