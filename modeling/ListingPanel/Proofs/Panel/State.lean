import ListingPanel.Panel
import ListingPanel.Proofs.View.State

/-! What each operation does to a synced panel and to its host, and the panels that operations
reach. -/
namespace ListingPanel

/-- The listeners after a binding has been given up. -/
def Listeners.release {α : Type} (l : Listeners α) : Option Binding → Listeners α
  | some b => l.unsubscribe b.subscription
  | none => l

/-- Making a listing changes the machine, and counts how often the toolchain was asked for. -/
theorem ListingSource.listing_host (launch : Launcher) (s : ListingSource) (h : Host) :
    ∃ m, (s.listing launch h).2 = { h with machine := m, resolutions := h.resolutions + 1 } := by
  unfold listing Host.resolve
  dsimp only
  cases h.toolchain with
  | none => exact ⟨h.machine, rfl⟩
  | some t =>
    cases hf : h.file with
    | none => exact ⟨h.machine, rfl⟩
    | some f =>
      dsimp only
      split_ifs with hs
      · exact ⟨h.machine, rfl⟩
      · split
        · exact ⟨h.machine, rfl⟩
        · exact ⟨_, rfl⟩

/-- The text of a listing and its file, without the host after it. -/
theorem ListingSource.listing_eq (launch : Launcher) (s : ListingSource) (h : Host) :
    (s.listing launch h).1 = match h.toolchain, h.file with
      | none, _ => (Diagnostic.noToolchain.text, none)
      | some _, none => (Diagnostic.noFile.text, none)
      | some t, some f =>
        if s.python.isSourceFile f then
          match h.document? f with
          | none => (Diagnostic.noDocument.text, some f)
          | some text => ((s.disassembler.produce launch h.machine text (some t)).1, some f)
        else (Diagnostic.notSourceFile.text, some f) := by
  have hresolve : h.resolve = (h.toolchain, h.resolve.2) := rfl
  have hfile : h.resolve.2.file = h.file := rfl
  have hdoc : ∀ f, h.resolve.2.document? f = h.document? f := fun _ => rfl
  have hmachine : h.resolve.2.machine = h.machine := rfl
  unfold listing
  rw [hresolve]
  generalize h.resolve.2 = g at hfile hdoc hmachine
  dsimp only
  rw [hfile]
  cases h.toolchain with
  | none => rfl
  | some t =>
    cases h.file with
    | none => rfl
    | some f =>
      dsimp only
      rw [hdoc, hmachine]
      cases s.python.isSourceFile f with
      | false => rfl
      | true => cases h.document? f <;> rfl

/-- The operations of views that panels use. -/
def ListingView.Action.OfPanel : ListingView.Action → Prop
  | .setText _ | .clear | .follow _ | .settle | .resize _ => True
  | .highlight _ | .requestScroll _ | .autoScroll _ | .scrollTo _ | .place _ _ => False

namespace SyncedPanel

/-- A panel just made, with a disassembler of its own. -/
def fresh (c : Config) (d : Disassembler) (height : Nat) : SyncedPanel :=
  { ofConfig c height with source.disassembler := d }

section Refresh
variable (launch : Launcher) (id : PanelId) (p : SyncedPanel) (h : Host)

/-- The first half of a refresh: the binding is given up, and the new text is shown. -/
def reload : SyncedPanel × Host :=
  let listing := p.source.listing launch (p.unbind h).2
  ({ p with
      binding := none
      view := p.view.clear.setText listing.1.1
      shownFile := listing.1.2 }, listing.2)

theorem refresh_of_disposed (hd : p.disposed = true) : p.refresh launch id h = (p, h) := by
  simp [refresh, hd]

@[simp] theorem unbind_listeners :
    (p.unbind h).2.listeners = h.listeners.release p.binding := by
  unfold unbind Listeners.release
  cases p.binding <;> rfl

theorem unbind_host :
    (p.unbind h).2 = { h with listeners := h.listeners.release p.binding } := by
  unfold unbind Listeners.release
  cases p.binding <;> rfl

/-- Reloading changes no more of the host than its listeners, its machine and the count. -/
theorem reload_host : ∃ m, (p.reload launch h).2 = { h with
    listeners := h.listeners.release p.binding
    machine := m
    resolutions := h.resolutions + 1 } := by
  obtain ⟨m, hm⟩ := p.source.listing_host launch (p.unbind h).2
  refine ⟨m, ?_⟩
  unfold reload
  rw [hm, unbind_host]

@[simp] theorem reload_listeners :
    (p.reload launch h).2.listeners = h.listeners.release p.binding := by
  obtain ⟨m, hm⟩ := p.reload_host launch h
  rw [hm]

@[simp] theorem reload_activeEditor :
    (p.reload launch h).2.activeEditor = h.activeEditor := by
  obtain ⟨m, hm⟩ := p.reload_host launch h
  rw [hm]

@[simp] theorem reload_misroute : (p.reload launch h).2.misroute = h.misroute := by
  obtain ⟨m, hm⟩ := p.reload_host launch h
  rw [hm]

@[simp] theorem reload_selections : (p.reload launch h).2.selections = h.selections := by
  obtain ⟨m, hm⟩ := p.reload_host launch h
  rw [hm]

/-- The second half of a refresh: the panel binds to the active editor, if there is one. -/
theorem refresh_eq (hd : p.disposed = false) :
    p.refresh launch id h =
      match h.activeEditor with
      | some e => (p.reload launch h).1.bind id (p.reload launch h).2 e
      | none => p.reload launch h := by
  rw [← reload_activeEditor launch p h]
  unfold refresh
  rw [if_neg (by simp [hd])]
  rfl

theorem editor_refresh (hd : p.disposed = false) :
    (p.refresh launch id h).1.binding.map (·.editor) = h.activeEditor := by
  rw [refresh_eq launch id p h hd]
  cases h.activeEditor <;> rfl

theorem disposed_refresh : (p.refresh launch id h).1.disposed = p.disposed := by
  cases hd : p.disposed with
  | true => rw [refresh_of_disposed launch id p h hd, hd]
  | false =>
    rw [refresh_eq launch id p h hd, ← hd]
    cases h.activeEditor <;> rfl

theorem source_refresh : (p.refresh launch id h).1.source = p.source := by
  cases hd : p.disposed with
  | true => rw [refresh_of_disposed launch id p h hd]
  | false =>
    rw [refresh_eq launch id p h hd]
    cases h.activeEditor <;> rfl

/-- A refresh leaves all of the host but its listeners, its machine and the count of resolutions. -/
theorem refresh_host : ∃ l m k, (p.refresh launch id h).2 =
    { h with listeners := l, machine := m, resolutions := k } := by
  cases hd : p.disposed with
  | true =>
    rw [refresh_of_disposed launch id p h hd]
    exact ⟨h.listeners, h.machine, h.resolutions, rfl⟩
  | false =>
    obtain ⟨m, hm⟩ := p.reload_host launch h
    rw [refresh_eq launch id p h hd]
    split
    · rename_i e _
      refine ⟨((p.reload launch h).1.bind id (p.reload launch h).2 e).2.listeners, m,
        h.resolutions + 1, ?_⟩
      unfold bind Host.subscribe
      dsimp only
      rw [hm]
    · exact ⟨_, m, _, hm⟩

end Refresh

theorem handle_cases (launch : Launcher) (id : PanelId) (p : SyncedPanel) (h : Host)
    (e : HostEvent) :
    p.handle launch id h e = p.refresh launch id h ∨ p.handle launch id h e = (p, h) := by
  unfold handle
  cases e with
  | fileSelected f => exact Or.inl rfl
  | documentChanged f => dsimp only; split_ifs <;> simp

/-! ### Reachable panels -/

/-- The panels that operations make of fresh ones, whatever the hosts they act on. -/
inductive Reachable : SyncedPanel → Prop where
  | fresh (c : Config) (d : Disassembler) (height : Nat) : Reachable (fresh c d height)
  | refresh {p : SyncedPanel} (hp : Reachable p) (launch : Launcher) (id : PanelId) (h : Host) :
    Reachable (p.refresh launch id h).1
  | dispose {p : SyncedPanel} (hp : Reachable p) (h : Host) : Reachable (p.dispose h).1
  | settle {p : SyncedPanel} (hp : Reachable p) : Reachable p.settle
  | resize {p : SyncedPanel} (hp : Reachable p) (height : Nat) : Reachable (p.resize height)
  | receive {p : SyncedPanel} (hp : Reachable p) (editor : EditorId) (e : EditorEvent) :
    Reachable (p.receive editor e)

theorem Reachable.handle {p : SyncedPanel} (hp : p.Reachable) (launch : Launcher) (id : PanelId)
    (h : Host) (e : HostEvent) : (p.handle launch id h e).1.Reachable := by
  rcases p.handle_cases launch id h e with he | he <;> rw [he]
  · exact hp.refresh launch id h
  · exact hp

/-- What views of panels start with, and keep in the operations of views that panels use, holds of
the views of all panels that operations reach. -/
theorem Reachable.view_induction {P : ListingView → Prop}
    (hblank : ∀ n color on, P (.blank n color on))
    (hact : ∀ v a, a.OfPanel → P v → P (v.act a)) {p : SyncedPanel} (hp : p.Reachable) :
    P p.view := by
  have hreload : ∀ launch (p : SyncedPanel) h, P p.view → P (p.reload launch h).1.view :=
    fun _ _ _ hv => hact _ (.setText _) trivial (hact _ .clear trivial hv)
  have hbind : ∀ id (p : SyncedPanel) h e, P p.view → P (p.bind id h e).1.view := by
    intro id p h e hv
    unfold bind
    cases h.selection? e with
    | none => exact hv
    | some s => exact hact _ (.follow s.lines) trivial hv
  induction hp with
  | fresh c d n => exact hblank n c.panel.highlightColor c.panel.scrollToHighlight
  | @refresh p hp launch id h ih =>
    cases hd : p.disposed with
    | true => rwa [refresh_of_disposed launch id p h hd]
    | false =>
      rw [refresh_eq launch id p h hd]
      cases h.activeEditor with
      | none => exact hreload launch p h ih
      | some e => exact hbind id _ _ e (hreload launch p h ih)
  | @dispose p hp h ih =>
    unfold SyncedPanel.dispose
    split_ifs
    · exact ih
    · exact hact _ .clear trivial ih
  | settle hp ih => exact hact _ .settle trivial ih
  | resize hp n ih => exact hact _ (.resize n) trivial ih
  | receive hp ed e ih =>
    unfold SyncedPanel.receive
    split_ifs
    · exact hact _ (.follow e.lines) trivial ih
    · exact ih

/-- A panel leads its view only through operations of views. -/
theorem Reachable.view {p : SyncedPanel} (hp : p.Reachable) : p.view.Reachable :=
  hp.view_induction .blank fun _ a _ hv => hv.act a

/-- A disposed panel has no binding. -/
theorem Reachable.binding_of_disposed {p : SyncedPanel} (hp : p.Reachable)
    (hd : p.disposed = true) : p.binding = none := by
  induction hp with
  | fresh c d n => rfl
  | @refresh p hp launch id h ih =>
    cases hp' : p.disposed with
    | true =>
      rw [refresh_of_disposed launch id p h hp'] at hd ⊢
      exact ih hd
    | false =>
      rw [refresh_eq launch id p h hp'] at hd
      cases ha : h.activeEditor with
      | none => rw [ha] at hd; exact absurd (hp'.symm.trans hd) (by simp)
      | some e => rw [ha] at hd; exact absurd (hp'.symm.trans hd) (by simp)
  | @dispose p hp h ih =>
    unfold SyncedPanel.dispose at hd ⊢
    split_ifs at hd ⊢ with hp'
    · exact ih hp'
    · rfl
  | settle hp ih => exact ih hd
  | resize hp n ih => exact ih hd
  | receive hp ed e ih =>
    unfold SyncedPanel.receive at hd ⊢
    split_ifs at hd ⊢ <;> exact ih hd

end SyncedPanel

/-- A plain panel just made, with a disassembler of its own. -/
def PlainPanel.fresh (c : Config) (d : Disassembler) (height : Nat) : PlainPanel :=
  { ofConfig c height with source.disassembler := d }

end ListingPanel
