import ListingPanel.Proofs.Panel.State

/-! How the operations of a panel change its binding and the listeners of its host, and what they
leave alone. -/
namespace ListingPanel

/-- The panel that a listener belongs to. -/
def Listener.owner? : Listener → Option PanelId
  | panel id _ => some id
  | other _ => none

theorem Listener.eq_panel_of_owner? {k : Listener} {id : PanelId} (h : k.owner? = some id) :
    ∃ e, k = .panel id e := by
  cases k with
  | other tag => cases h
  | panel i e => exact ⟨e, by rw [Option.some.inj h]⟩

/-- The binding of a panel. A plain one never has any. -/
def Panel.binding? : Panel → Option Binding
  | synced p => p.binding
  | plain _ => none

@[simp] theorem Listeners.release_nextId {α : Type} (l : Listeners α) (b : Option Binding) :
    (l.release b).nextId = l.nextId := by
  cases b <;> rfl

/-- All that an operation of a panel can do to its binding and to the listeners. -/
inductive Move (id : PanelId) (l : Listeners Listener) (b : Option Binding) :
    Listeners Listener → Option Binding → Prop where
  | quiet : Move id l b l b
  | release : Move id l b (l.release b) none
  /-- The listener may be put under another editor than the one that the panel asked for. -/
  | rebind (e e' : EditorId) :
    Move id l b ((l.release b).subscribe e' (.panel id e)) (some ⟨e, l.nextId⟩)

/-- Two hosts with the same selections that put listeners under the same editors. -/
structure Host.Akin (h h' : Host) : Prop where
  selections : h'.selections = h.selections
  misroute : h'.misroute = h.misroute

theorem Host.Akin.selection? {h h' : Host} (ha : h.Akin h') (e : EditorId) :
    h'.selection? e = h.selection? e := by
  unfold Host.selection?
  rw [ha.selections]

def Panel.Reachable : Panel → Prop
  | synced p => p.Reachable
  | plain _ => True

theorem Panel.Reachable.receive {p : Panel} (hp : p.Reachable) (editor : EditorId)
    (e : EditorEvent) : (p.receive editor e).Reachable := by
  cases p with
  | synced p => exact SyncedPanel.Reachable.receive hp editor e
  | plain p => trivial

/-- What every operation of a panel keeps to. -/
structure Panel.Operated (id : PanelId) (p : Panel) (h : Host) (r : Panel × Host) : Prop where
  reachable : p.Reachable → r.1.Reachable
  move : Move id h.listeners p.binding? r.2.listeners r.1.binding?
  akin : h.Akin r.2

theorem Panel.Operated.refl (id : PanelId) (p : Panel) (h : Host) : Operated id p h (p, h) :=
  ⟨fun hp => hp, .quiet, rfl, rfl⟩

/-! ### Operations -/

section Operations
variable (launch : Launcher) (id : PanelId) (h : Host)

namespace SyncedPanel

variable (p : SyncedPanel)

private theorem move_refresh :
    Move id h.listeners p.binding (p.refresh launch id h).2.listeners
      (p.refresh launch id h).1.binding := by
  cases hd : p.disposed with
  | true =>
    rw [refresh_of_disposed launch id p h hd]
    exact .quiet
  | false =>
    rw [refresh_eq launch id p h hd]
    cases h.activeEditor with
    | none =>
      have hl : (p.reload launch h).2.listeners = h.listeners.release p.binding :=
        reload_listeners launch p h
      dsimp only
      rw [hl]
      exact .release
    | some e =>
      have hn : (p.reload launch h).2.listeners.nextId = h.listeners.nextId := by
        rw [reload_listeners, Listeners.release_nextId]
      dsimp only [bind, Host.subscribe]
      rw [hn, reload_listeners]
      exact .rebind e _

private theorem akin_refresh : h.Akin (p.refresh launch id h).2 := by
  obtain ⟨l, m, k, hr⟩ := p.refresh_host launch id h
  rw [hr]
  exact ⟨rfl, rfl⟩

theorem operated_refresh :
    Panel.Operated id (.synced p) h
      (.synced (p.refresh launch id h).1, (p.refresh launch id h).2) :=
  ⟨fun hp => Reachable.refresh hp launch id h, p.move_refresh launch id h,
    p.akin_refresh launch id h⟩

theorem operated_handle (e : HostEvent) :
    Panel.Operated id (.synced p) h
      (.synced (p.handle launch id h e).1, (p.handle launch id h e).2) := by
  rcases p.handle_cases launch id h e with he | he <;> rw [he]
  · exact p.operated_refresh launch id h
  · exact .refl id _ h

theorem operated_dispose :
    Panel.Operated id (.synced p) h (.synced (p.dispose h).1, (p.dispose h).2) := by
  refine ⟨fun hp => Reachable.dispose hp h, ?_, ?_⟩
  · unfold dispose
    split_ifs
    · exact .quiet
    · have hl := p.unbind_listeners h
      dsimp only
      rw [hl]
      exact .release
  · unfold dispose unbind
    split_ifs
    · exact ⟨rfl, rfl⟩
    · cases p.binding <;> exact ⟨rfl, rfl⟩

end SyncedPanel

namespace Panel

variable (p : Panel)

theorem operated_refresh : p.Operated id h (p.refresh launch id h) := by
  cases p with
  | synced p => exact p.operated_refresh launch id h
  | plain p =>
    obtain ⟨m, hm⟩ := p.source.listing_host launch h
    have hr : (p.refresh launch h).2 = { h with machine := m, resolutions := h.resolutions + 1 } :=
      hm
    refine ⟨fun hp => hp, ?_, ?_⟩
    · dsimp only [refresh, binding?]
      rw [hr]
      exact .quiet
    · dsimp only [refresh]
      rw [hr]
      exact ⟨rfl, rfl⟩

/-- A busy host keeps the registration of a panel that goes. -/
theorem leave_listeners (busy : Bool) :
    (p.leave busy h).listeners =
      if busy then h.listeners else h.listeners.release p.binding? := by
  cases p with
  | plain p => cases busy <;> rfl
  | synced p =>
    dsimp only [leave, binding?, SyncedPanel.leave]
    cases p.binding <;> cases busy <;> rfl

theorem akin_leave (busy : Bool) : h.Akin (p.leave busy h) := by
  cases p with
  | plain p => exact ⟨rfl, rfl⟩
  | synced p =>
    dsimp only [leave, SyncedPanel.leave]
    cases p.binding <;> cases busy <;> exact ⟨rfl, rfl⟩

theorem activeEditor_refresh : (p.refresh launch id h).2.activeEditor = h.activeEditor := by
  cases p with
  | synced p =>
    obtain ⟨l, m, k, hr⟩ := p.refresh_host launch id h
    dsimp only [refresh]
    rw [hr]
  | plain p =>
    obtain ⟨m, hm⟩ := p.source.listing_host launch h
    have hr : (p.refresh launch h).2 = { h with machine := m, resolutions := h.resolutions + 1 } :=
      hm
    dsimp only [refresh]
    rw [hr]

theorem activeEditor_leave (busy : Bool) : (p.leave busy h).activeEditor = h.activeEditor := by
  cases p with
  | plain p => rfl
  | synced p =>
    dsimp only [leave, SyncedPanel.leave]
    cases p.binding <;> cases busy <;> rfl

end Panel

end Operations

end ListingPanel
