import ListingPanel.Proofs.View.Run
import ListingPanel.Proofs.Workspace.Turn

/-! Panels that have been disposed of: they keep their text, highlight nothing, and never act on the
host again. -/
namespace ListingPanel

/-- A panel that has been disposed of, and that nothing is left to do for. -/
structure SyncedPanel.Inert (p : SyncedPanel) : Prop where
  disposed : p.disposed = true
  binding : p.binding = none
  highlighted : p.view.highlighted = []
  pending : p.view.pending = none

/-- `q` is inert and shows what `p` shows. -/
structure SyncedPanel.Retired (p q : SyncedPanel) : Prop extends q.Inert where
  text : q.view.surface.text = p.view.surface.text
  lines : q.view.surface.lines = p.view.surface.lines
  index : q.view.index = p.view.index

namespace SyncedPanel

variable {id : PanelId} {h : Host} {p q : SyncedPanel}

theorem settle_of_pending (hp : p.view.pending = none) : p.settle = p := by
  have hs : p.view.settle = p.view := ListingView.Awaits.settle_none hp
  unfold settle
  rw [hs]

theorem retired_dispose (hp : p.disposed = true → p.Inert) : p.Retired (p.dispose h).1 := by
  unfold dispose
  split_ifs with hd
  · exact { hp hd with text := rfl, lines := rfl, index := rfl }
  · exact ⟨⟨rfl, rfl, rfl, rfl⟩, rfl, rfl, rfl⟩

theorem resolutions_dispose (p : SyncedPanel) (h : Host) :
    (p.dispose h).2.resolutions = h.resolutions := by
  unfold dispose unbind
  split_ifs
  · rfl
  · cases p.binding <;> rfl

/-- An inert panel stays as it is, but for its height, and leaves the host alone. -/
theorem Inert.operation (hp : p.Inert) {r : SyncedPanel × Host} (hr : p.Operation id h r) :
    r.2 = h ∧ (r.1 = p ∨ ∃ n, r.1 = p.resize n) := by
  cases hr with
  | idle => exact ⟨rfl, Or.inl rfl⟩
  | refresh launch =>
    rw [refresh_of_disposed launch id p h hp.disposed]
    exact ⟨rfl, Or.inl rfl⟩
  | dispose =>
    unfold SyncedPanel.dispose
    rw [if_pos hp.disposed]
    exact ⟨rfl, Or.inl rfl⟩
  | settle => exact ⟨rfl, Or.inl (settle_of_pending hp.pending)⟩
  | resize n => exact ⟨rfl, Or.inr ⟨n, rfl⟩⟩

theorem Retired.operation (hq : p.Retired q) {r : SyncedPanel × Host} (hr : q.Operation id h r) :
    p.Retired r.1 := by
  obtain ⟨-, he | ⟨n, he⟩⟩ := hq.toInert.operation hr <;> rw [he]
  · exact hq
  · exact ⟨⟨hq.disposed, hq.binding, hq.highlighted, hq.pending⟩, hq.text, hq.lines, hq.index⟩

/-- Panels become inert when they are disposed of, and stay so. -/
theorem inert_of_operation (hp : p.disposed = true → p.Inert) {r : SyncedPanel × Host}
    (hr : p.Operation id h r) (hd : r.1.disposed = true) : r.1.Inert := by
  have hkeep : p.disposed = true → r.1.Inert := fun hpd =>
    (Retired.operation { hp hpd with text := rfl, lines := rfl, index := rfl } hr).toInert
  cases hr with
  | idle | settle | resize n => exact hkeep hd
  | refresh launch => exact hkeep ((disposed_refresh launch id p h).symm.trans hd)
  | dispose => exact (retired_dispose hp).toInert

end SyncedPanel

namespace Workspace

variable {w v : Workspace} {id : PanelId} {p : SyncedPanel}

theorem Reachable.inert (hw : w.Reachable) (hp : w.panel? id = some (.synced p))
    (hd : p.disposed = true) : p.Inert := by
  induction hw generalizing p with
  | start h hl => cases hp
  | step hw a ih =>
    rcases synced_step_cases hw hp with ⟨q, hq, -, hr⟩ | ⟨q, hq, -, rfl | ⟨hb, r, rfl⟩⟩ |
      ⟨-, c, d, n, rfl⟩
    · exact SyncedPanel.inert_of_operation (ih hq) hr hd
    · exact ih hq hd
    · -- only a bound panel follows, and a disposed one is not bound
      exact absurd (ih hq hd).binding hb
    · cases hd

/-! ### Two workspaces that differ in one panel -/

/-- All is the same but for one panel. -/
structure AgreeBut (id : PanelId) (w v : Workspace) : Prop where
  host : v.host = w.host
  nextPanel : v.nextPanel = w.nextPanel
  panel? : ∀ j, j ≠ id → v.panel? j = w.panel? j

namespace AgreeBut

variable (h : AgreeBut id w v)
include h

theorem act {i : PanelId} (hi : i ≠ id) (f : Panel → Host → Panel × Host) :
    AgreeBut id (w.act i f) (v.act i f) := by
  have hv : v.panel? i = w.panel? i := h.panel? i hi
  cases hp : w.panel? i with
  | none => rwa [act_of_none hp, act_of_none (hv.trans hp)]
  | some p =>
    constructor
    · rw [host_act hp, host_act (hv.trans hp), h.host]
    · rw [nextPanel_act, nextPanel_act, h.nextPanel]
    · intro j hj
      rw [panel?_act hp, panel?_act (hv.trans hp), h.host, h.panel? j hj]

theorem actSynced {i : PanelId} (hi : i ≠ id) (f : SyncedPanel → Host → SyncedPanel × Host) :
    AgreeBut id (w.actSynced i f) (v.actSynced i f) := h.act hi _

theorem remove {i : PanelId} (hi : i ≠ id) (busy : Bool) :
    AgreeBut id (w.remove i busy) (v.remove i busy) := by
  have hv : v.panel? i = w.panel? i := h.panel? i hi
  constructor
  · cases hp : w.panel? i with
    | none => rw [remove_of_none hp, remove_of_none (hv.trans hp), h.host]
    | some p => rw [host_remove hp, host_remove (hv.trans hp), h.host]
  · rw [nextPanel_remove, nextPanel_remove, h.nextPanel]
  · intro j hj
    rw [panel?_remove, panel?_remove, h.panel? j hj]

theorem setHost (f : Host → Host) : AgreeBut id (w.setHost f) (v.setHost f) :=
  ⟨congrArg f h.host, h.nextPanel, h.panel?⟩

theorem dispatch (e : EditorEvent) : AgreeBut id (w.dispatch e) (v.dispatch e) := by
  constructor
  · rw [host_dispatch, host_dispatch, h.host]
  · rw [nextPanel_dispatch, nextPanel_dispatch, h.nextPanel]
  · intro j hj
    rw [panel?_dispatch, panel?_dispatch, h.host, h.panel? j hj]

theorem insert (hw : w.panel? w.nextPanel = none) (hv : v.panel? v.nextPanel = none) (p : Panel) :
    AgreeBut id (w.insert p) (v.insert p) := by
  constructor
  · exact h.host
  · exact congrArg (· + 1) h.nextPanel
  · intro j hj
    rw [panel?_insert hw, panel?_insert hv, h.nextPanel, h.panel? j hj]

/-- What the panel does not do itself goes the same way in both. -/
theorem step (hw : w.Kept) (hv : v.Kept) {a : Action} (ha : a.actor? ≠ some id) :
    AgreeBut id (w.step a) (v.step a) := by
  have hne : ∀ {i}, a.actor? = some i → i ≠ id := fun hi he => ha (he ▸ hi)
  cases a with
  | openSynced c d n => exact h.insert (hw.absent _ le_rfl) (hv.absent _ le_rfl) _
  | openPlain c d n => exact h.insert (hw.absent _ le_rfl) (hv.absent _ le_rfl) _
  | refresh launch i => exact h.act (hne rfl) fun p h => p.refresh launch i h
  | handle launch i e => exact h.actSynced (hne rfl) fun p h => p.handle launch i h e
  | dispose i => exact h.actSynced (hne rfl) SyncedPanel.dispose
  | settle i => exact h.actSynced (hne rfl) fun p h => (p.settle, h)
  | resize i n => exact h.actSynced (hne rfl) fun p h => (p.resize n, h)
  | remove i busy => exact h.remove (hne rfl) busy
  | select e s => exact (h.setHost fun h => h.setSelection e s).dispatch (s.event e)
  | dispatch e => exact h.dispatch e
  | subscribe e tag => exact h.setHost (·.subscribe e (.other tag))
  | unsubscribe n => exact h.setHost (·.unsubscribe n)
  | change c => exact h.setHost (·.apply c)

end AgreeBut

/-! ### Runs after a panel has been disposed of -/

theorem retired_step {q : SyncedPanel} (hw : w.Reachable) (hq : w.panel? id = some (.synced q))
    (h : p.Retired q) {a : Action} (ha : ∀ busy, a ≠ .remove id busy) :
    ∃ r, (w.step a).panel? id = some (.synced r) ∧ p.Retired r := by
  by_cases hact : a.actor? = some id
  · rcases step_self hq hact with ⟨busy, he⟩ | ⟨r, hr, hs, -⟩
    · exact absurd he (ha busy)
    · exact ⟨r.1, hs, h.operation hr⟩
  · rcases step_other hw hq hact with hs | ⟨hb, -⟩
    · exact ⟨q, hs, h⟩
    · exact absurd h.binding hb

/-- The panel is gone without a registration, or what has been left of `p` is all of it. -/
inductive Dormant (id : PanelId) (p : SyncedPanel) (w : Workspace) : Prop where
  | gone (h : w.Gone id) (ho : w.host.listeners.owned id = [])
  | retired (q : SyncedPanel) (hq : w.panel? id = some (.synced q)) (h : p.Retired q)

namespace Dormant

/-- Nothing that the panel could do changes anything else. -/
theorem agreeBut_step (h : Dormant id p w) {a : Action} (ha : a.actor? = some id) :
    AgreeBut id w (w.step a) := by
  refine ⟨?_, nextPanel_step ha, fun j hj => panel?_step_of_ne ha hj⟩
  cases h with
  | gone h =>
    have hp : w.panel? id = none := by simpa [binding?] using h.absent
    rw [step_of_none hp ha]
  | retired q hq h =>
    rcases step_self hq ha with ⟨busy, rfl⟩ | ⟨r, hr, -, hs⟩
    · change (w.remove id busy).host = _
      rw [host_remove hq]
      dsimp only [Panel.leave, SyncedPanel.leave]
      rw [h.binding]
    · rw [hs]
      exact (h.toInert.operation hr).1

theorem owned (hw : w.Reachable) (h : Dormant id p w) : w.host.listeners.owned id = [] := by
  cases h with
  | gone h ho => exact ho
  | retired q hq h => exact hw.balanced.owned_of_unbound hq h.binding

theorem step (hw : w.Reachable) (h : Dormant id p w) (a : Action) : Dormant id p (w.step a) := by
  have ho : w.host.listeners.owned id = [] := h.owned hw
  cases h with
  | gone h =>
    have hsub := h.owned_step hw a
    rw [ho] at hsub
    exact .gone (h.step hw.kept a) (List.subset_nil.mp hsub)
  | retired q hq h =>
    by_cases ha : ∃ busy, a = .remove id busy
    · obtain ⟨busy, rfl⟩ := ha
      have hs : AgreeBut id w (w.step (.remove id busy)) := (retired q hq h).agreeBut_step rfl
      exact .gone (gone_remove hw hq busy) (by rw [hs.host, ho])
    · obtain ⟨r, hr, hpr⟩ := retired_step hw hq h fun busy he => ha ⟨busy, he⟩
      exact .retired r hr hpr

theorem run (hw : w.Reachable) (h : Dormant id p w) (as : List Action) :
    Dormant id p (w.run as) := by
  induction as generalizing w with
  | nil => exact h
  | cons a as ih => exact ih (hw.step a) (h.step hw a)

/-- To the rest of the workspace, a run is the same without what the panel does in it. -/
theorem agreeBut_run (hw : w.Reachable) (hv : v.Reachable) (h : Dormant id p w)
    (hwv : AgreeBut id v w) (as : List Action) :
    AgreeBut id (v.run (as.filter (·.actor? ≠ some id))) (w.run as) := by
  induction as generalizing w v with
  | nil => exact hwv
  | cons a as ih =>
    by_cases ha : a.actor? = some id
    · -- the run without the panel's own action stays where it is
      have hs : AgreeBut id w (w.step a) := h.agreeBut_step ha
      rw [List.filter_cons_of_neg (by simpa using ha)]
      exact ih (hw.step a) hv (h.step hw a) ⟨hs.host.trans hwv.host,
        hs.nextPanel.trans hwv.nextPanel, fun j hj => (hs.panel? j hj).trans (hwv.panel? j hj)⟩
    · rw [List.filter_cons_of_pos (by simpa using ha)]
      exact ih (hw.step a) (hv.step a) (h.step hw a) (hwv.step hv.kept hw.kept ha)

end Dormant

theorem retired_run {q : SyncedPanel} (hw : w.Reachable) (hq : w.panel? id = some (.synced q))
    (h : p.Retired q) {as : List Action} (has : ∀ busy, .remove id busy ∉ as) :
    ∃ r, (w.run as).panel? id = some (.synced r) ∧ p.Retired r := by
  induction as generalizing w q with
  | nil => exact ⟨q, hq, h⟩
  | cons a as ih =>
    have ha : ∀ busy, a ≠ .remove id busy := fun busy he => has busy (he ▸ List.mem_cons_self)
    obtain ⟨r, hr, hpr⟩ := retired_step hw hq h ha
    exact ih (hw.step a) hr hpr fun busy hm => has busy (List.mem_cons_of_mem a hm)

/-- Disposing of a panel takes its registration from the host and no other, and asks for no
toolchain. Whatever happens afterwards, the panel has no registration, the host is as if the panel
did nothing at all, and while the panel is there, it is unbound and keeps its text, has nothing
highlighted and nothing to scroll to. -/
theorem disposed_run (hw : w.Reachable) (hp : w.panel? id = some (.synced p)) (as : List Action) :
    let v := w.dispose id
    (v.host.resolutions = w.host.resolutions ∧
      v.host.listeners.foreign id = w.host.listeners.foreign id) ∧
    (v.run as).host.listeners.owned id = [] ∧
    (v.run as).host = (v.run (as.filter (·.actor? ≠ some id))).host ∧
    (∀ a : Action, a.actor? = some id → ((v.run as).step a).host = (v.run as).host) ∧
    ((∀ busy, .remove id busy ∉ as) →
      ∃ q, (v.run as).panel? id = some (.synced q) ∧ p.Retired q ∧ q.view.moves = false ∧
        q.settle = q ∧ ∀ d, q.view.index.sourceLineAt d = p.view.index.sourceLineAt d) := by
  intro v
  have hv : v.Reachable := hw.step (.dispose id)
  have hpv : v.panel? id = some (.synced (p.dispose w.host).1) := by
    change (w.act id _).panel? id = _
    rw [panel?_act hp, if_pos rfl]
  have hret : p.Retired (p.dispose w.host).1 := SyncedPanel.retired_dispose (hw.inert hp)
  have hdor : Dormant id p v := .retired _ hpv hret
  refine ⟨⟨?_, ?_⟩, ?_, ?_, fun a ha => ?_, fun has => ?_⟩
  · change (w.act id _).host.resolutions = _
    rw [host_act hp]
    exact p.resolutions_dispose w.host
  · exact hw.balanced.foreign_acted (acted_step (a := .dispose id) rfl)
  · exact (hdor.run hv as).owned (hv.run as)
  · exact (hdor.agreeBut_run hv hv ⟨rfl, rfl, fun _ _ => rfl⟩ as).host
  · exact ((hdor.run hv as).agreeBut_step ha).host
  · obtain ⟨q, hq, hr⟩ := retired_run hv hpv hret has
    have hs : q.settle = q := SyncedPanel.settle_of_pending hr.pending
    refine ⟨q, hq, hr, ?_, hs, fun d => by rw [hr.index]⟩
    have hview : q.view.settle = q.view := congrArg SyncedPanel.view hs
    rw [ListingView.moves_eq, hview]
    simp

/-- The panel highlights two blocks and still has to scroll to the first. Then all happens that
could bring it back, next to another listener. -/
theorem disposed_run_revived :
    let listing := "  1 A\n  2 B\n    C\n  2 D\n"
    let launch := printing listing
    let h : Host := { Host.bare with activeEditor := some 1, selections := [(1, { caret := 2 })] }
    let w := run { host := h }
      [.openSynced {} (.ofConfig {}) 20, .subscribe 1 7, .refresh launch 0]
    let as : List Action := [.refresh launch 0, .handle launch 0 (.fileSelected none),
      .select 1 { caret := 1 }, .settle 0, .resize 0 5, .dispose 0]
    w.Reachable ∧ ((w.dispose 0).run as).host.listeners.owned 0 = [] ∧
      ((w.dispose 0).run as).host.listeners.live = [⟨1, 1, .other 7⟩] ∧
      ((w.dispose 0).run as).host.resolutions = 1 ∧
      ∃ p q, w.panel? 0 = some (.synced p) ∧ p.binding = some ⟨1, 2⟩ ∧
        p.view.highlighted = [(1, 2), (3, 3)] ∧
        p.view.pending.map (·.block) = some ⟨2, 1, 2⟩ ∧
        ((w.dispose 0).run as).panel? 0 = some (.synced q) ∧ p.Retired q ∧
        q.view.surface.text = listing ∧ q.view.highlighted = [] ∧ q.view.pending = none ∧
        q.view.moves = false := by
  intro listing launch h w as
  have hw : w.Reachable := (Reachable.start h rfl).run _
  let p : SyncedPanel := .fresh {} (.ofConfig {}) 20
  let v := (p.view.clear.setText listing).follow (.single 2)
  let h₁ : Host := { h with
    listeners := ⟨2, [⟨1, 1, .other 7⟩, ⟨2, 1, .panel 0 1⟩]⟩
    resolutions := 1 }
  have hrefresh : (run { host := h } [.openSynced {} (.ofConfig {}) 20, .subscribe 1 7]).refresh
      launch 0 = ⟨h₁, [(0, .synced (.bare v (some ⟨1, 2⟩)))], 1⟩ :=
    (refresh_printing (p := p) rfl (Host.ready_bare.congr rfl rfl rfl rfl) rfl isSourceFile_bare
      listing).trans rfl
  have hone : w = ⟨h₁, [(0, .synced (.bare v (some ⟨1, 2⟩)))], 1⟩ := by
    rw [← hrefresh]
    simp only [w, run_cons, run_nil, step_refresh]
  have hp : w.panel? 0 = some (.synced (.bare v (some ⟨1, 2⟩))) := by
    rw [hone]
    rfl
  have hlight : v.highlighted = [(1, 2), (3, 3)] := by
    rw [(ListingView.coherent_setText _ _).highlighted_follow]
    exact (Index.ranges_blocksFor (by decide) _).trans (by decide)
  have hpending : v.pending.map (·.block) = some ⟨2, 1, 2⟩ := by
    have hblocks : (Index.ofText listing.toList).blocksFor (.single 2) =
        [⟨2, 1, 2⟩, ⟨2, 3, 3⟩] := by
      rw [Index.blocksFor_of_ascending (by decide) (by decide)]
      decide
    rw [ListingView.block_follow _ _ rfl]
    exact congrArg List.head? hblocks
  obtain ⟨-, howned, hhost, -, hthere⟩ := disposed_run hw hp as
  obtain ⟨q, hq, hr, hm, -⟩ := hthere (by simp [as])
  have hfilter : as.filter (·.actor? ≠ some 0) = [.select 1 { caret := 1 }] := rfl
  rw [hfilter] at hhost
  refine ⟨hw, howned, ?_, ?_, _, q, hp, rfl, hlight, hpending, hq, hr,
    hr.text.trans (ListingView.follow_text _ _), hr.highlighted, hr.pending, hm⟩
  · rw [hhost, hone]
    rfl
  · rw [hhost, hone]
    rfl

end Workspace

end ListingPanel
