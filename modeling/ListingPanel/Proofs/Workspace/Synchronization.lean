import ListingPanel.Proofs.Workspace.Subscriptions

/-! A bound panel highlights what is selected in its editor, whatever else happens at its host. -/
namespace ListingPanel

/-- The registration that a panel is bound with, as the host has it. -/
def Binding.registration (b : Binding) (id : PanelId) : Subscription Listener :=
  ⟨b.subscription, b.editor, .panel id b.editor⟩

/-- The display lines of the blocks for what is selected in the editor that a panel is bound to. -/
def SyncedPanel.wanted (p : SyncedPanel) (h : Host) : List (Nat × Nat) :=
  match p.binding with
  | none => []
  | some b =>
    match h.selection? b.editor with
    | none => []
    | some s => Block.ranges ((Index.ofText p.view.surface.text.toList).blocksFor s.lines)

theorem ListingView.Coherent.highlighted_follow {v : ListingView} (h : v.Coherent)
    (r : LineRange) :
    (v.follow r).highlighted = Block.ranges ((Index.ofText v.surface.text.toList).blocksFor r) := by
  rw [follow_highlighted, h.highlighted_highlight, h.index]

namespace Host

theorem selection?_setSelection (h : Host) (e i : EditorId) (s : Option Selection) :
    (h.setSelection e s).selection? i = if i = e then s else h.selection? i := by
  unfold setSelection selection?
  dsimp only
  rw [List.lookup_append, lookup_filter_ne]
  by_cases hi : i = e
  · subst hi
    cases s <;> simp
  · have hb : (i == e) = false := by simpa using hi
    cases s <;> simp [hi, hb, List.lookup_cons]

end Host

/-! ### Operations of panels -/

section Operations
variable (launch : Launcher) (id : PanelId) (p : SyncedPanel) (h : Host)

theorem SyncedPanel.highlighted_bind (e : EditorId) (hv : p.view.Coherent)
    (hn : p.view.highlighted = []) :
    (p.bind id h e).1.view.highlighted = (p.bind id h e).1.wanted (p.bind id h e).2 := by
  have hs : (p.bind id h e).2.selection? e = h.selection? e := rfl
  unfold wanted
  dsimp only [bind] at hs ⊢
  rw [hs]
  cases h.selection? e with
  | none => exact hn
  | some s =>
    dsimp only
    rw [hv.highlighted_follow, ListingView.follow_text]

/-- A refresh highlights what is selected in the editor that it binds to. -/
theorem SyncedPanel.highlighted_refresh (hd : p.disposed = false) :
    (p.refresh launch id h).1.view.highlighted =
      (p.refresh launch id h).1.wanted (p.refresh launch id h).2 := by
  rw [refresh_eq launch id p h hd]
  cases h.activeEditor with
  | none => rfl
  | some e =>
    have hv : (p.reload launch h).1.view.Coherent := ListingView.coherent_setText _ _
    exact (p.reload launch h).1.highlighted_bind id _ e hv rfl

/-- Where listeners are put under the editor that they ask for, a refresh leaves the panel
registered for the editor that it is bound to. -/
theorem SyncedPanel.registration_mem_refresh (hd : p.disposed = false) (hm : h.misroute = none)
    {b : Binding} (hb : (p.refresh launch id h).1.binding = some b) :
    b.registration id ∈ (p.refresh launch id h).2.listeners.live := by
  rw [refresh_eq launch id p h hd] at hb ⊢
  cases ha : h.activeEditor with
  | none => rw [ha] at hb; cases hb
  | some e =>
    rw [ha] at hb
    obtain rfl := Option.some.inj hb
    have hr : (p.reload launch h).2.misroute.getD e = e := by
      rw [reload_misroute, hm, Option.getD_none]
    dsimp only [bind, Host.subscribe]
    rw [hr]
    exact List.mem_append_right _ List.mem_cons_self

end Operations

/-! ### Panels in sync -/

theorem SyncedPanel.wanted_congr {p : SyncedPanel} {h h' : Host} (hs : ∀ b, p.binding = some b →
    h'.selection? b.editor = h.selection? b.editor) : p.wanted h' = p.wanted h := by
  unfold wanted
  cases hb : p.binding with
  | none => rfl
  | some b =>
    dsimp only
    rw [hs b hb]

/-- The host reaches the panel through what it is bound with, and the panel highlights what it
should. -/
structure SyncedPanel.InSync (id : PanelId) (h : Host) (p : SyncedPanel) : Prop where
  straight : h.misroute = none
  listens : ∀ b, p.binding = some b → b.registration id ∈ h.listeners.live
  shows : p.view.highlighted = p.wanted h

namespace SyncedPanel

variable {id : PanelId} {h : Host} {p : SyncedPanel}

theorem inSync_refresh (launch : Launcher) (hd : p.disposed = false) (hm : h.misroute = none) :
    (p.refresh launch id h).1.InSync id (p.refresh launch id h).2 where
  straight := (p.operated_refresh launch id h).akin.misroute.trans hm
  listens := fun _ hb => p.registration_mem_refresh launch id h hd hm hb
  shows := p.highlighted_refresh launch id h hd

namespace InSync

theorem refresh (hs : p.InSync id h) (launch : Launcher) :
    (p.refresh launch id h).1.InSync id (p.refresh launch id h).2 := by
  cases hd : p.disposed with
  | true => rwa [refresh_of_disposed launch id p h hd]
  | false => exact inSync_refresh launch hd hs.straight

theorem handle (hs : p.InSync id h) (launch : Launcher) (e : HostEvent) :
    (p.handle launch id h e).1.InSync id (p.handle launch id h e).2 := by
  rcases p.handle_cases launch id h e with he | he <;> rw [he]
  · exact hs.refresh launch
  · exact hs

theorem dispose (hs : p.InSync id h) : (p.dispose h).1.InSync id (p.dispose h).2 := by
  have hm := (p.operated_dispose id h).akin.misroute.trans hs.straight
  unfold SyncedPanel.dispose at hm ⊢
  split_ifs at hm ⊢ with hd
  · exact hs
  · exact ⟨hm, (fun b hb => by cases hb), rfl⟩

theorem settle (hs : p.InSync id h) : p.settle.InSync id h where
  straight := hs.straight
  listens := hs.listens
  shows := by
    have hw : p.settle.wanted h = p.wanted h := by
      unfold wanted SyncedPanel.settle
      rw [ListingView.settle_text]
    rw [hw, ← hs.shows]
    exact ListingView.settle_highlighted p.view

theorem resize (hs : p.InSync id h) (n : Nat) : (p.resize n).InSync id h :=
  ⟨hs.straight, hs.listens, hs.shows⟩

/-- A panel that hears what has been stored for an editor is in sync again. -/
theorem receive {h' : Host} (hs : p.InSync id h) (hv : p.view.Coherent) (e : EditorEvent)
    (hm : h'.misroute = h.misroute) (hl : h'.listeners = h.listeners) {s : Selection}
    (he : h'.selection? e.editor = some s) (hse : s.lines = e.lines)
    (ho : ∀ i, i ≠ e.editor → h'.selection? i = h.selection? i)
    {b : Binding} (hb : p.binding = some b) : (p.receive b.editor e).InSync id h' := by
  unfold SyncedPanel.receive
  split_ifs with hbe
  · refine ⟨hm.trans hs.straight, fun c hc => hl ▸ hs.listens c hc, ?_⟩
    unfold wanted
    dsimp only
    rw [hb]
    dsimp only
    rw [← hbe, he]
    dsimp only
    rw [hse, hv.highlighted_follow, ListingView.follow_text]
  · refine ⟨hm.trans hs.straight, fun c hc => hl ▸ hs.listens c hc, ?_⟩
    refine hs.shows.trans (wanted_congr fun c hc => ho c.editor ?_).symm
    obtain rfl := Option.some.inj (hb.symm.trans hc)
    exact Ne.symm hbe

end InSync

end SyncedPanel

/-! ### One action -/

namespace Workspace

/-- Nobody else takes the panel or its registration away, and what is reported is what is stored. -/
def Action.Fair (w : Workspace) (id : PanelId) : Action → Prop
  | .remove i _ => i ≠ id
  | .unsubscribe n => (w.binding? id).join.map (·.subscription) ≠ some n
  | .dispatch e => (w.host.selection? e.editor).map (·.lines) = some e.lines
  | .change (.setSelection _ _) | .change (.misroute _) => False
  | _ => True

instance Action.decidableFair (w : Workspace) (id : PanelId) :
    (a : Action) → Decidable (a.Fair w id)
  | .remove i _ => inferInstanceAs (Decidable (i ≠ id))
  | .unsubscribe n =>
    inferInstanceAs (Decidable ((w.binding? id).join.map (·.subscription) ≠ some n))
  | .dispatch e =>
    inferInstanceAs (Decidable ((w.host.selection? e.editor).map (·.lines) = some e.lines))
  | .change (.setSelection _ _) | .change (.misroute _) => .isFalse fun h => h
  | .change (.activate _) | .change (.chooseFile _) | .change (.chooseToolchain _)
  | .change (.setDocument _ _) | .change (.setMachine _) => .isTrue trivial
  | .openSynced _ _ _ | .openPlain _ _ _ | .refresh _ _ | .handle _ _ _ | .dispose _ | .settle _
  | .resize _ _ | .select _ _ | .subscribe _ _ => .isTrue trivial

structure InSync (w : Workspace) (id : PanelId) (p : SyncedPanel) : Prop where
  panel : w.panel? id = some (.synced p)
  sync : p.InSync id w.host

variable {w : Workspace} {id : PanelId} {p : SyncedPanel}

/-- What leaves the panel, its registration and the selections alone. -/
theorem InSync.carry {w' : Workspace} (h : w.InSync id p) (hp : w'.panel? id = w.panel? id)
    (ha : w.host.Akin w'.host)
    (hl : ∀ b, p.binding = some b → b.registration id ∈ w.host.listeners.live →
      b.registration id ∈ w'.host.listeners.live) : w'.InSync id p := by
  refine ⟨hp.trans h.panel, ha.misroute.trans h.sync.straight, ?_, ?_⟩
  · exact fun b hb => hl b hb (h.sync.listens b hb)
  · exact h.sync.shows.trans (SyncedPanel.wanted_congr fun b _ => ha.selection? b.editor).symm

theorem InSync.step_other (hw : w.Reachable) (h : w.InSync id p) {a : Action} {i : PanelId}
    (ha : a.actor? = some i) (hi : id ≠ i) : (w.step a).InSync id p := by
  refine h.carry (panel?_step_of_ne ha hi) (akin_step ha) fun b hb hm => ?_
  have hf : b.registration id ∈ w.host.listeners.foreign i := by
    refine List.mem_filter.mpr ⟨hm, ?_⟩
    simpa [Binding.registration, Listener.owner?] using hi
  rw [← hw.balanced.foreign_acted (acted_step ha)] at hf
  exact (List.mem_filter.mp hf).1

/-! #### The panel itself -/

private theorem inSync_act {f : Panel → Host → Panel × Host} {q : SyncedPanel} {h' : Host}
    (hp : w.panel? id = some (.synced p)) (hf : f (.synced p) w.host = (.synced q, h'))
    (hs : q.InSync id h') : (w.act id f).InSync id q := by
  constructor
  · rw [panel?_act hp, if_pos rfl, hf]
  · rw [host_act hp, hf]
    exact hs

theorem inSync_refresh (hp : w.panel? id = some (.synced p)) (hd : p.disposed = false)
    (hm : w.host.misroute = none) (launch : Launcher) :
    (w.refresh launch id).InSync id (p.refresh launch id w.host).1 :=
  inSync_act hp rfl (SyncedPanel.inSync_refresh launch hd hm)

private theorem inSync_actSynced {f : SyncedPanel → Host → SyncedPanel × Host}
    (hp : w.panel? id = some (.synced p)) (hs : (f p w.host).1.InSync id (f p w.host).2) :
    (w.actSynced id f).InSync id (f p w.host).1 := by
  unfold actSynced
  exact inSync_act hp rfl hs

theorem InSync.step_self (h : w.InSync id p) {a : Action} (ha : a.actor? = some id)
    (hf : a.Fair w id) : ∃ q, (w.step a).InSync id q := by
  cases a with
  | refresh launch i =>
    cases ha
    have hr : (w.refresh launch id).InSync id (p.refresh launch id w.host).1 :=
      inSync_act h.panel rfl (h.sync.refresh launch)
    exact ⟨_, hr⟩
  | handle launch i e =>
    cases ha
    exact ⟨_, inSync_actSynced (f := fun p h => p.handle launch id h e) h.panel
      (h.sync.handle launch e)⟩
  | dispose i =>
    cases ha
    exact ⟨_, inSync_actSynced h.panel h.sync.dispose⟩
  | settle i =>
    cases ha
    exact ⟨_, inSync_actSynced (f := fun p h => (p.settle, h)) h.panel h.sync.settle⟩
  | resize i n =>
    cases ha
    exact ⟨_, inSync_actSynced (f := fun p h => (p.resize n, h)) h.panel (h.sync.resize n)⟩
  | remove i busy =>
    cases ha
    exact absurd rfl hf
  | openSynced _ _ _ | openPlain _ _ _ | select _ _ | dispatch _ | subscribe _ _ | unsubscribe _
  | change _ => cases ha

/-! #### Events -/

/-- A panel that listens has no other registration. -/
theorem Balanced.owned_eq (h : w.Balanced) (hp : w.panel? id = some (.synced p))
    (hl : ∀ b, p.binding = some b → b.registration id ∈ w.host.listeners.live) :
    w.host.listeners.owned id = (p.binding.map (·.registration id)).toList := by
  cases hb : p.binding with
  | none => exact h.owned_of_unbound hp hb
  | some b =>
    have hm : b.registration id ∈ w.host.listeners.owned id :=
      Listeners.mem_owned.mpr ⟨hl b hb, rfl⟩
    rw [Ledger.owned_eq_of_mem h hm]
    rfl

/-- Of an event, a panel that listens hears once, if it is bound. -/
theorem Balanced.panel?_dispatch (h : w.Balanced) (hp : w.panel? id = some (.synced p))
    (hl : ∀ b, p.binding = some b → b.registration id ∈ w.host.listeners.live) (e : EditorEvent) :
    (w.dispatch e).panel? id =
      some (.synced (p.binding.elim p fun b => p.receive b.editor e)) := by
  rw [Workspace.panel?_dispatch, hp, h.owned_eq hp hl, Option.map_some]
  cases p.binding with
  | none => rfl
  | some b =>
    by_cases he : e.editor = b.editor
    · have hb : (b.editor == e.editor) = true := by simpa using he.symm
      simp [Binding.registration, hb, Listener.tell, Panel.receive]
    · have hb : (b.editor == e.editor) = false := by simpa using Ne.symm he
      simp [Binding.registration, hb, SyncedPanel.receive, he]

/-- The host reports a selection that it has stored before or stores now. -/
theorem InSync.dispatch (hw : w.Reachable) (h : w.InSync id p) {h' : Host} (e : EditorEvent)
    (hm : h'.misroute = w.host.misroute) (hl : h'.listeners = w.host.listeners) {s : Selection}
    (he : h'.selection? e.editor = some s) (hse : s.lines = e.lines)
    (ho : ∀ i, i ≠ e.editor → h'.selection? i = w.host.selection? i) :
    ∃ q, ({ w with host := h' }.dispatch e).InSync id q := by
  have hb : Balanced { w with host := h' } := by
    unfold Balanced
    rw [hl]
    exact hw.balanced
  have hv : p.view.Coherent := by
    have hp : p.Reachable := hw.kept.reachable id _ h.panel
    exact hp.view.coherent
  -- between storing and reporting, the panel listens, but it need not show what is stored
  have hp := hb.panel?_dispatch h.panel (fun b hb => hl ▸ h.sync.listens b hb) e
  refine ⟨_, hp, ?_⟩
  rw [host_dispatch]
  cases hpb : p.binding with
  | some b => exact h.sync.receive hv e hm hl he hse ho hpb
  | none =>
    refine ⟨hm.trans h.sync.straight, fun b hb => hl ▸ h.sync.listens b hb, ?_⟩
    refine h.sync.shows.trans (SyncedPanel.wanted_congr fun b hb => ?_).symm
    rw [hpb] at hb
    cases hb

/-! #### The rest -/

private theorem akin_apply (h : Host) {c : Host.Change} (hf : Action.Fair w id (.change c)) :
    h.Akin (h.apply c) := by
  cases c with
  | setSelection e s => exact hf.elim
  | misroute e => exact hf.elim
  | setDocument f t =>
    unfold Host.apply Host.setDocument
    cases h.documents <;> exact ⟨rfl, rfl⟩
  | activate _ | chooseFile _ | chooseToolchain _ | setMachine _ => exact ⟨rfl, rfl⟩

theorem InSync.step_outside (hw : w.Reachable) (h : w.InSync id p) {a : Action}
    (ha : a.actor? = none) (hf : a.Fair w id) : ∃ q, (w.step a).InSync id q := by
  have hn := hw.kept.absent w.nextPanel le_rfl
  have hid : id ≠ w.nextPanel := by
    rintro rfl
    rw [h.panel] at hn
    cases hn
  cases a with
  | openSynced c d n =>
    exact ⟨p, h.carry ((panel?_insert hn _).trans (if_neg hid)) ⟨rfl, rfl⟩ fun _ _ hm => hm⟩
  | openPlain c d n =>
    exact ⟨p, h.carry ((panel?_insert hn _).trans (if_neg hid)) ⟨rfl, rfl⟩ fun _ _ hm => hm⟩
  | select e s =>
    refine h.dispatch hw (s.event e) rfl rfl (s := s) ?_ (Selection.event_lines s e).symm ?_
    · rw [Selection.event_editor, Host.selection?_setSelection, if_pos rfl]
    · intro i hi
      rw [Selection.event_editor] at hi
      rw [Host.selection?_setSelection, if_neg hi]
  | dispatch e =>
    obtain ⟨s, hs, hse⟩ := Option.map_eq_some_iff.mp hf
    exact h.dispatch hw e rfl rfl hs hse fun _ _ => rfl
  | subscribe e tag =>
    exact ⟨p, h.carry rfl ⟨rfl, rfl⟩ fun _ _ hm => List.mem_append_left _ hm⟩
  | unsubscribe n =>
    refine ⟨p, h.carry rfl ⟨rfl, rfl⟩ fun b hb hm => List.mem_filter.mpr ⟨hm, ?_⟩⟩
    have hne : (w.binding? id).join.map (·.subscription) ≠ some n := hf
    rw [binding?_of_panel? h.panel, show Panel.binding? (.synced p) = some b from hb] at hne
    simpa [Binding.registration] using hne
  | change c =>
    refine ⟨p, h.carry rfl (akin_apply w.host hf) fun b _ hm => ?_⟩
    change b.registration id ∈ (w.host.apply c).listeners.live
    rwa [Host.apply_listeners]
  | refresh _ _ | handle _ _ _ | dispose _ | remove _ _ | settle _ | resize _ _ => cases ha

theorem InSync.step (hw : w.Reachable) (h : w.InSync id p) {a : Action} (hf : a.Fair w id) :
    ∃ q, (w.step a).InSync id q := by
  cases ha : a.actor? with
  | none => exact h.step_outside hw ha hf
  | some i =>
    by_cases hi : id = i
    · subst hi
      exact h.step_self ha hf
    · exact ⟨p, h.step_other hw ha hi⟩

/-! ### Runs -/

/-- Each action of a run is fair where it happens. -/
def FairRun (id : PanelId) : Workspace → List Action → Prop
  | _, [] => True
  | w, a :: as => a.Fair w id ∧ FairRun id (w.step a) as

instance decidableFairRun (id : PanelId) :
    (w : Workspace) → (as : List Action) → Decidable (FairRun id w as)
  | _, [] => .isTrue trivial
  | w, a :: as =>
    have := decidableFairRun id (w.step a) as
    inferInstanceAs (Decidable (a.Fair w id ∧ FairRun id (w.step a) as))

theorem fairRun_append {as bs : List Action} :
    FairRun id w (as ++ bs) ↔ FairRun id w as ∧ FairRun id (w.run as) bs := by
  induction as generalizing w with
  | nil => simp [FairRun, run]
  | cons a as ih =>
    simp only [List.cons_append, FairRun, ih, and_assoc]
    rfl

theorem InSync.run (hw : w.Reachable) (h : w.InSync id p) {as : List Action}
    (hf : FairRun id w as) : ∃ q, (w.run as).InSync id q := by
  induction as generalizing w p with
  | nil => exact ⟨p, h⟩
  | cons a as ih =>
    obtain ⟨q, hq⟩ := h.step hw hf.1
    exact ih (hw.step a) hq hf.2

/-- A refresh binds a panel to the active editor. From then on, the panel highlights the blocks for
what is selected in the editor that it is bound to, and nothing else. -/
theorem highlighted_of_fairRun (hw : w.Reachable) (hm : w.host.misroute = none)
    (hp : w.panel? id = some (.synced p)) (hd : p.disposed = false) (launch : Launcher)
    (as : List Action) (hf : FairRun id (w.refresh launch id) as) :
    (∃ q, (w.refresh launch id).panel? id = some (.synced q) ∧
      q.binding.map (·.editor) = w.host.activeEditor) ∧
    ∃ q, ((w.refresh launch id).run as).panel? id = some (.synced q) ∧
      q.view.highlighted = q.wanted ((w.refresh launch id).run as).host := by
  have hr := inSync_refresh hp hd hm launch
  refine ⟨⟨_, hr.panel, p.editor_refresh launch id w.host hd⟩, ?_⟩
  obtain ⟨q, hq⟩ := hr.run (hw.step (.refresh launch id)) hf
  exact ⟨q, hq.panel, hq.sync.shows⟩

/-- The panel binds to another editor and gets another text, while selections change in both editors
and a listener comes and goes. The last selection is above all that the second text has. -/
theorem highlighted_after_rebinding :
    let first := "  2 A\n  1 B\n    C\n  2 D\n"
    let second := "  3 A\n    B\n  5 C\n"
    let h : Host := { Host.bare with activeEditor := some 1, selections := [(1, { caret := 1 })] }
    let w := run { host := h } [.openSynced {} (.ofConfig {}) 20]
    let v := w.refresh (printing first) 0
    let moved : List Action := [.select 1 { caret := 2 }, .subscribe 1 7,
      .change (.activate (some 2)), .select 2 { caret := 5, ends := some (3, 5) }]
    let rebound := moved ++ [.refresh (printing second) 0]
    let missed := rebound ++ [.unsubscribe 2, .settle 0, .select 2 { caret := 2 }]
    let Follows (as : List Action) (text : String) (e : EditorId) (rows : List (Nat × Nat)) :=
      FairRun 0 v as ∧ ∃ q, (v.run as).panel? 0 = some (.synced q) ∧ q.view.surface.text = text ∧
        q.binding.map (·.editor) = some e ∧ q.view.highlighted = q.wanted (v.run as).host ∧
        q.view.highlighted = rows
    w.Reachable ∧ Follows [] first 1 [(1, 2)] ∧ Follows moved first 1 [(0, 0), (3, 3)] ∧
      Follows rebound second 2 [(0, 1), (2, 2)] ∧ Follows missed second 2 [] := by
  intro first second h w v moved rebound missed Follows
  have hw : w.Reachable := (Reachable.start h rfl).run _
  -- the workspace with one panel, whatever its view is, at each of the four times
  let one (k : Host) (v : ListingView) (b : Binding) : Workspace :=
    ⟨k, [(0, .synced (.bare v (some b)))], 1⟩
  have hfollows : ∀ {as k u b text rows} (s : Selection), FairRun 0 v as → v.run as = one k u b →
      u.surface.text = text → k.selection? b.editor = some s →
      Block.ranges ((Index.ofText text.toList).blocksFor s.lines) = rows →
      Follows as text b.editor rows := by
    rintro as k u b text rows s hf hrun rfl hs rfl
    obtain ⟨-, q, hq, hshows⟩ := highlighted_of_fairRun hw rfl rfl rfl (printing first) as hf
    refine ⟨hf, q, hq, ?_⟩
    rw [hrun] at hq hshows ⊢
    obtain rfl : _ = q := Panel.synced.inj (Option.some.inj hq)
    refine ⟨rfl, rfl, hshows, hshows.trans ?_⟩
    dsimp only [SyncedPanel.wanted, SyncedPanel.bare]
    rw [hs]
  let h₀ : Host := { h with listeners := ⟨1, [⟨1, 1, .panel 0 1⟩]⟩, resolutions := 1 }
  let h₁ : Host := { h₀ with
    activeEditor := some 2
    selections := [(2, { caret := 5, ends := some (3, 5) }), (1, { caret := 2 })]
    listeners := ⟨2, [⟨1, 1, .panel 0 1⟩, ⟨2, 1, .other 7⟩]⟩ }
  let h₂ : Host := { h₁ with
    listeners := ⟨3, [⟨2, 1, .other 7⟩, ⟨3, 2, .panel 0 2⟩]⟩
    resolutions := 2 }
  let h₃ : Host := { h₂ with
    selections := [(2, { caret := 2 }), (1, { caret := 2 })]
    listeners := ⟨3, [⟨3, 2, .panel 0 2⟩]⟩ }
  obtain ⟨v₀, ht₀, hv₀⟩ : ∃ v₀ : ListingView, v₀.surface.text = first ∧ v = one h₀ v₀ ⟨1, 1⟩ :=
    ⟨_, ListingView.follow_text _ _, (refresh_printing (p := .fresh {} (.ofConfig {}) 20) rfl
      (Host.ready_bare.congr rfl rfl rfl rfl) rfl isSourceFile_bare first).trans rfl⟩
  obtain ⟨v₂, ht₂, hv₂⟩ : ∃ v₂ : ListingView, v₂.surface.text = second ∧
      (one h₁ (v₀.follow (.single 2)) ⟨1, 1⟩).refresh (printing second) 0 = one h₂ v₂ ⟨2, 3⟩ :=
    ⟨_, ListingView.follow_text _ _, (refresh_printing rfl
      (Host.ready_bare.congr rfl rfl rfl rfl) rfl isSourceFile_bare second).trans rfl⟩
  have ht₃ : (v₂.settle.follow (.single 2)).surface.text = second := by
    rw [ListingView.follow_text, ListingView.settle_text, ht₂]
  have hmoved : v.run moved = one h₁ (v₀.follow (.single 2)) ⟨1, 1⟩ := by
    rw [hv₀]
    rfl
  have hrebound : v.run rebound = one h₂ v₂ ⟨2, 3⟩ := by
    dsimp only [rebound]
    rw [run_append, hmoved]
    exact hv₂
  have hmissed : v.run missed = one h₃ (v₂.settle.follow (.single 2)) ⟨2, 3⟩ := by
    dsimp only [missed]
    rw [run_append, hrebound]
    rfl
  have hfair₁ : FairRun 0 v moved := by
    rw [hv₀]
    exact of_decide_eq_true rfl
  have hfair₂ : FairRun 0 v rebound := fairRun_append.mpr ⟨hfair₁, trivial, trivial⟩
  have hfair₃ : FairRun 0 v missed := by
    refine fairRun_append.mpr ⟨hfair₂, ?_⟩
    rw [hrebound]
    exact of_decide_eq_true rfl
  have hrows := @Index.ranges_blocksFor first.toList (by decide)
  have hrows₂ := @Index.ranges_blocksFor second.toList (by decide)
  exact ⟨hw,
    @hfollows [] _ _ _ _ _ { caret := 1 } trivial ((run_nil v).trans hv₀) ht₀ rfl
      ((hrows _).trans (by decide)),
    hfollows { caret := 2 } hfair₁ hmoved ((v₀.follow_text _).trans ht₀) rfl
      ((hrows _).trans (by decide)),
    hfollows { caret := 5, ends := some (3, 5) } hfair₂ hrebound ht₂ rfl
      ((hrows₂ _).trans (by decide)),
    hfollows { caret := 2 } hfair₃ hmissed ht₃ rfl ((hrows₂ _).trans (by decide))⟩

end Workspace

end ListingPanel
