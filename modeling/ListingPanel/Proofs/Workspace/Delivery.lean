import ListingPanel.Proofs.Workspace.Synchronization

/-! Which panels an event of an editor reaches, and what it does to them. -/
namespace ListingPanel

/-- The panel is bound to an editor, and the host has its registration under that editor. -/
def SyncedPanel.Hears (p : SyncedPanel) (l : Listeners Listener) (e : EditorId) : Prop :=
  ∃ b, p.binding = some b ∧ b.editor = e ∧ ∃ s ∈ l.live, s.id = b.subscription ∧ s.editor = e

namespace Workspace

variable {w : Workspace} {id : PanelId} {p : SyncedPanel}

/-- A synced panel follows the events that it hears, and no others. -/
theorem Balanced.panel?_dispatch_synced (h : w.Balanced) (hp : w.panel? id = some (.synced p))
    (e : EditorEvent) :
    (p.Hears w.host.listeners e.editor →
      (w.dispatch e).panel? id = some (.synced { p with view := p.view.follow e.lines })) ∧
    (¬ p.Hears w.host.listeners e.editor → (w.dispatch e).panel? id = some (.synced p)) := by
  have hb : w.binding? id = some p.binding := binding?_of_panel? hp
  rw [Workspace.panel?_dispatch, hp, Option.map_some]
  constructor
  · rintro ⟨b, hpb, hbe, s, hs, hsid, hse⟩
    have hl : s.listener = .panel id b.editor := Ledger.mine h id b (hpb ▸ hb) s hs hsid
    have hm : s ∈ w.host.listeners.owned id := Listeners.mem_owned.mpr ⟨hs, by rw [hl]; rfl⟩
    have hf : [s].filter (·.editor == e.editor) = [s] := by simp [hse]
    rw [Ledger.owned_eq_of_mem h hm, hf, List.foldl_cons, List.foldl_nil, hl]
    simp only [Listener.tell, Panel.receive, SyncedPanel.receive]
    rw [if_pos hbe.symm]
  · intro hn
    -- whatever is registered under the event's editor asks for another one
    have hq : ∀ s ∈ (w.host.listeners.owned id).filter (·.editor == e.editor),
        s.listener.tell e (.synced p) = .synced p := by
      intro s hs
      obtain ⟨hso, hse⟩ := List.mem_filter.mp hs
      rw [beq_iff_eq] at hse
      obtain ⟨hsl, ho⟩ := Listeners.mem_owned.mp hso
      obtain ⟨i, hl⟩ := Listener.eq_panel_of_owner? ho
      have hpb : p.binding = some ⟨i, s.id⟩ := Ledger.own h s hsl id i hl _ hb
      have hi : e.editor ≠ i := fun he => hn ⟨_, hpb, he.symm, s, hsl, rfl, hse⟩
      rw [hl]
      simp only [Listener.tell, Panel.receive, SyncedPanel.receive]
      rw [if_neg hi]
    generalize (w.host.listeners.owned id).filter (·.editor == e.editor) = ss at hq
    induction ss with
    | nil => rfl
    | cons s ss ih =>
      rw [List.foldl_cons, hq s List.mem_cons_self]
      exact ih fun t ht => hq t (List.mem_cons_of_mem s ht)

/-- Plain panels hear nothing. -/
theorem Balanced.panel?_dispatch_plain (h : w.Balanced) {q : PlainPanel}
    (hp : w.panel? id = some (.plain q)) (e : EditorEvent) :
    (w.dispatch e).panel? id = some (.plain q) := by
  rw [Workspace.panel?_dispatch, hp, h.owned_of_unbound hp rfl]
  rfl

/-! ### Actions that report -/

/-- The event that an action reports. -/
def Action.event? : Action → Option EditorEvent
  | .select e s => some (s.event e)
  | .dispatch e => some e
  | _ => none

/-- At most the selections change before an event is reported. -/
theorem step_of_event? (w : Workspace) {a : Action} {e : EditorEvent} (ha : a.event? = some e) :
    ∃ s, w.step a = (w.setHost fun h => { h with selections := s }).dispatch e := by
  cases a with
  | select i s =>
    obtain rfl := Option.some.inj ha
    exact ⟨_, rfl⟩
  | dispatch i =>
    obtain rfl := Option.some.inj ha
    exact ⟨w.host.selections, rfl⟩
  | openSynced _ _ _ | openPlain _ _ _ | refresh _ _ | handle _ _ _ | dispose _ | remove _ _
  | settle _ | resize _ _ | subscribe _ _ | unsubscribe _ | change _ => cases ha

/-- An event changes no panel but those that are bound to its editor and registered under it. They
are not disposed of, and highlight the blocks for the lines of the event. All that changes at the
host is what has been selected. -/
theorem step_event_isolated (hw : w.Reachable) {a : Action} {e : EditorEvent}
    (ha : a.event? = some e) :
    (w.step a).host = { w.host with selections := (w.step a).host.selections } ∧
    (∀ id p, w.panel? id = some (.synced p) → p.Hears w.host.listeners e.editor →
      p.disposed = false ∧
      ∃ q, (w.step a).panel? id = some (.synced q) ∧
        q = { p with view := p.view.follow e.lines } ∧
        q.view.highlighted =
          Block.ranges ((Index.ofText p.view.surface.text.toList).blocksFor e.lines)) ∧
    ∀ id, (∀ p, w.panel? id = some (.synced p) → ¬ p.Hears w.host.listeners e.editor) →
      (w.step a).panel? id = w.panel? id := by
  obtain ⟨s, hs⟩ := w.step_of_event? ha
  have hb : (w.setHost fun h => { h with selections := s }).Balanced := hw.balanced
  rw [hs]
  refine ⟨?_, fun id p hp hh => ?_, fun id hn => ?_⟩
  · rw [host_dispatch]
    rfl
  · have hr : p.Reachable := hw.kept.reachable id _ hp
    refine ⟨?_, _, (hb.panel?_dispatch_synced hp e).1 hh, rfl, ?_⟩
    · obtain ⟨b, hpb, -⟩ := hh
      rw [Bool.eq_false_iff]
      intro hd
      rw [hr.binding_of_disposed hd] at hpb
      cases hpb
    · exact hr.view.coherent.highlighted_follow e.lines
  · cases hp : w.panel? id with
    | none =>
      rw [panel?_dispatch]
      exact congrArg (Option.map _) hp
    | some p =>
      cases p with
      | plain q => exact hb.panel?_dispatch_plain hp e
      | synced p => exact (hb.panel?_dispatch_synced hp e).2 (hn p hp)

/-- Panel 0 is bound to editor 1, panel 1 to editor 2. Panel 2 asks for editor 1 too, but the host
has put it under editor 2. All three show a listing with highlights. -/
theorem step_event_misrouted :
    let listing := "  2 A\n  1 B\n    C\n  2 D\n"
    let launch := printing listing
    let h : Host := { Host.bare with
      activeEditor := some 1
      selections := [(1, { caret := 1 }), (2, { caret := 2 })] }
    let w := run { host := h }
      [.openSynced {} (.ofConfig {}) 20, .openSynced {} (.ofConfig {}) 20,
        .openSynced {} (.ofConfig {}) 20, .refresh launch 0, .change (.activate (some 2)),
        .refresh launch 1, .change (.activate (some 1)), .change (.misroute (some 2)),
        .refresh launch 2]
    let a : Action := .select 1 { caret := 2 }
    let b : Action := .dispatch (.caretMoved 2 1)
    let Highlights (w : Workspace) (id : PanelId) (rows : List (Nat × Nat)) :=
      ∃ p, w.panel? id = some (.synced p) ∧ p.view.highlighted = rows
    w.Reachable ∧
      (Highlights w 0 [(1, 2)] ∧ Highlights w 1 [(0, 0), (3, 3)] ∧ Highlights w 2 [(1, 2)]) ∧
      (Highlights (w.step a) 0 [(0, 0), (3, 3)] ∧ (w.step a).panel? 1 = w.panel? 1 ∧
        (w.step a).panel? 2 = w.panel? 2) ∧
      Highlights (w.step b) 1 [(1, 2)] ∧ (w.step b).panel? 0 = w.panel? 0 ∧
        (w.step b).panel? 2 = w.panel? 2 := by
  intro listing launch h w a b Highlights
  have hw : w.Reachable := (Reachable.start h rfl).run _
  have hrows := @Index.ranges_blocksFor listing.toList (by decide)
  -- a view that follows a line of the source
  let Shown (line : Nat) (v : ListingView) : Prop :=
    v.surface.text = listing ∧
      v.highlighted = Block.ranges ((Index.ofText listing.toList).blocksFor (.single line))
  have hshown : ∀ (v : ListingView) (line : Nat),
      Shown line ((v.clear.setText listing).follow (.single line)) := fun v line =>
    ⟨ListingView.follow_text _ _, (ListingView.coherent_setText _ _).highlighted_follow _⟩
  -- the three panels after each refresh
  let all (k : Host) (p q r : SyncedPanel) : Workspace :=
    ⟨k, [(0, .synced p), (1, .synced q), (2, .synced r)], 3⟩
  let p : SyncedPanel := .fresh {} (.ofConfig {}) 20
  let h₀ : Host := { h with listeners := ⟨1, [⟨1, 1, .panel 0 1⟩]⟩, resolutions := 1 }
  let h₁ : Host := { h₀ with
    activeEditor := some 2
    listeners := ⟨2, [⟨1, 1, .panel 0 1⟩, ⟨2, 2, .panel 1 2⟩]⟩
    resolutions := 2 }
  let h₂ : Host := { h₁ with
    activeEditor := some 1
    misroute := some 2
    listeners := ⟨3, [⟨1, 1, .panel 0 1⟩, ⟨2, 2, .panel 1 2⟩, ⟨3, 2, .panel 2 1⟩]⟩
    resolutions := 3 }
  obtain ⟨v₀, hv₀, hw₀⟩ : ∃ v, Shown 1 v ∧
      (all h p p p).refresh launch 0 = all h₀ (.bare v (some ⟨1, 1⟩)) p p :=
    ⟨_, hshown _ _, (refresh_printing (p := p) rfl
      (Host.ready_bare.congr rfl rfl rfl rfl) rfl isSourceFile_bare listing).trans rfl⟩
  obtain ⟨v₁, hv₁, hw₁⟩ : ∃ v, Shown 2 v ∧
      ((all h₀ (.bare v₀ (some ⟨1, 1⟩)) p p).run
        [.change (.activate (some 2))]).refresh launch 1 =
          all h₁ (.bare v₀ (some ⟨1, 1⟩)) (.bare v (some ⟨2, 2⟩)) p :=
    ⟨_, hshown _ _, (refresh_printing (p := p) rfl
      (Host.ready_bare.congr rfl rfl rfl rfl) rfl isSourceFile_bare listing).trans rfl⟩
  obtain ⟨v₂, hv₂, hw₂⟩ : ∃ v, Shown 1 v ∧
      ((all h₁ (.bare v₀ (some ⟨1, 1⟩)) (.bare v₁ (some ⟨2, 2⟩)) p).run
        [.change (.activate (some 1)), .change (.misroute (some 2))]).refresh launch 2 =
          all h₂ (.bare v₀ (some ⟨1, 1⟩)) (.bare v₁ (some ⟨2, 2⟩)) (.bare v (some ⟨1, 3⟩)) :=
    ⟨_, hshown _ _, (refresh_printing (p := p) rfl
      (Host.ready_bare.congr rfl rfl rfl rfl) rfl isSourceFile_bare listing).trans rfl⟩
  have hopen : run { host := h } [.openSynced {} (.ofConfig {}) 20,
      .openSynced {} (.ofConfig {}) 20, .openSynced {} (.ofConfig {}) 20] = all h p p p := rfl
  have hall : w = all h₂ (.bare v₀ (some ⟨1, 1⟩)) (.bare v₁ (some ⟨2, 2⟩))
      (.bare v₂ (some ⟨1, 3⟩)) := by
    rw [← hw₂, ← hw₁, ← hw₀, ← hopen]
    simp only [w, run_cons, run_nil, step_refresh]
  have hp₀ : w.panel? 0 = some (.synced (.bare v₀ (some ⟨1, 1⟩))) := by rw [hall]; rfl
  have hp₁ : w.panel? 1 = some (.synced (.bare v₁ (some ⟨2, 2⟩))) := by rw [hall]; rfl
  have hp₂ : w.panel? 2 = some (.synced (.bare v₂ (some ⟨1, 3⟩))) := by rw [hall]; rfl
  have hlive : w.host.listeners = h₂.listeners := by rw [hall]
  have hears₀ : (SyncedPanel.bare v₀ (some ⟨1, 1⟩)).Hears w.host.listeners 1 :=
    ⟨⟨1, 1⟩, rfl, rfl, ⟨1, 1, .panel 0 1⟩, by rw [hlive]; decide, rfl, rfl⟩
  have hears₁ : (SyncedPanel.bare v₁ (some ⟨2, 2⟩)).Hears w.host.listeners 2 :=
    ⟨⟨2, 2⟩, rfl, rfl, ⟨2, 2, .panel 1 2⟩, by rw [hlive]; decide, rfl, rfl⟩
  have hdeaf : ∀ {i v c} e, w.panel? i = some (.synced (.bare v (some c))) →
      (c.editor = e → ∀ s ∈ h₂.listeners.live, s.id = c.subscription → s.editor ≠ e) →
      ∀ p, w.panel? i = some (.synced p) → ¬ p.Hears w.host.listeners e := by
    rintro i v c e hi hc p hp ⟨b, hb, hbe, s, hs, hsid, hse⟩
    rw [hi] at hp
    obtain rfl : SyncedPanel.bare v (some c) = p := Panel.synced.inj (Option.some.inj hp)
    obtain rfl : c = b := Option.some.inj hb
    rw [hlive] at hs
    exact hc hbe s hs hsid hse
  obtain ⟨-, hhears, hothers⟩ := step_event_isolated hw (a := a) (e := .caretMoved 1 2) rfl
  obtain ⟨-, hhears', hothers'⟩ := step_event_isolated hw (a := b) (e := .caretMoved 2 1) rfl
  obtain ⟨-, q, hq, -, hqr⟩ := hhears 0 _ hp₀ hears₀
  obtain ⟨-, q', hq', -, hqr'⟩ := hhears' 1 _ hp₁ hears₁
  have hrows := @Index.ranges_blocksFor listing.toList (by decide)
  refine ⟨hw, ⟨⟨_, hp₀, ?_⟩, ⟨_, hp₁, ?_⟩, ⟨_, hp₂, ?_⟩⟩,
    ⟨⟨q, hq, ?_⟩, hothers 1 (hdeaf 1 hp₁ (by decide)), hothers 2 (hdeaf 1 hp₂ (by decide))⟩,
    ⟨q', hq', ?_⟩, hothers' 0 (hdeaf 2 hp₀ (by decide)), hothers' 2 (hdeaf 2 hp₂ (by decide))⟩
  · exact hv₀.2.trans ((hrows _).trans (by decide))
  · exact hv₁.2.trans ((hrows _).trans (by decide))
  · exact hv₂.2.trans ((hrows _).trans (by decide))
  · rw [hqr]
    dsimp only [SyncedPanel.bare]
    rw [hv₀.1]
    exact (hrows _).trans (by decide)
  · rw [hqr']
    dsimp only [SyncedPanel.bare]
    rw [hv₁.1]
    exact (hrows _).trans (by decide)

end Workspace

end ListingPanel
