import ListingPanel.Proofs.Workspace.Action

/-! Which registrations the panels of a reachable workspace have with its host. -/
namespace ListingPanel

@[simp] theorem Panel.receive_binding? (p : Panel) (editor : EditorId) (e : EditorEvent) :
    (p.receive editor e).binding? = p.binding? := by
  cases p with
  | plain p => rfl
  | synced p =>
    dsimp only [receive, binding?, SyncedPanel.receive]
    split_ifs <;> rfl

@[simp] theorem Panel.tell_binding? (p : Panel) (e : EditorEvent) (l : Listener) :
    (l.tell e p).binding? = p.binding? := by
  cases l with
  | panel id editor => exact p.receive_binding? editor e
  | other tag => rfl

namespace Workspace

/-- The binding of a panel, if there is such a panel. -/
def binding? (w : Workspace) (id : PanelId) : Option (Option Binding) :=
  (w.panel? id).map Panel.binding?

section Bindings
variable {w : Workspace} {id : PanelId} {f : Panel → Host → Panel × Host}

theorem binding?_of_panel? {p : Panel} (hp : w.panel? id = some p) :
    w.binding? id = some p.binding? := by
  unfold binding?
  rw [hp, Option.map_some]

private theorem binding?_update {w' : Workspace} {q : Option Panel}
    (h : ∀ j, w'.panel? j = if j = id then q else w.panel? j) :
    w'.binding? = Function.update w.binding? id (q.map Panel.binding?) := by
  funext j
  unfold binding?
  rw [h j]
  by_cases hj : j = id
  · rw [hj, if_pos rfl, Function.update_self]
  · rw [if_neg hj, Function.update_of_ne hj]

theorem binding?_insert (hn : w.panel? w.nextPanel = none) (p : Panel) :
    (w.insert p).binding? = Function.update w.binding? w.nextPanel (some p.binding?) :=
  binding?_update fun _ => panel?_insert hn p

theorem binding?_act {p : Panel} (hp : w.panel? id = some p) :
    (w.act id f).binding? = Function.update w.binding? id (some (f p w.host).1.binding?) :=
  binding?_update fun _ => panel?_act hp

theorem binding?_remove (busy : Bool) :
    (w.remove id busy).binding? = Function.update w.binding? id none :=
  binding?_update fun _ => panel?_remove busy

@[simp] theorem binding?_dispatch (e : EditorEvent) : (w.dispatch e).binding? = w.binding? := by
  have hb : ∀ (ss : List (Subscription Listener)) (p : Panel),
      (ss.foldl (fun p s => s.listener.tell e p) p).binding? = p.binding? := by
    intro ss
    induction ss with
    | nil => exact fun p => rfl
    | cons s ss ih =>
      intro p
      rw [List.foldl_cons, ih, Panel.tell_binding?]
  funext j
  unfold binding?
  rw [panel?_dispatch, Option.map_map]
  exact congrArg (Option.map · _) (funext (hb _))

end Bindings

/-! ### Operations of panels -/

/-- What the operation of a panel does to its binding and to the listeners, if there is such a
panel: it moves, or it is gone and leaves its registration only to a busy host. -/
inductive Acted (id : PanelId) (w w' : Workspace) : Prop where
  | idle (h : w' = w)
  | moved (b b' : Option Binding) (hb : w.binding? id = some b)
    (hm : Move id w.host.listeners b w'.host.listeners b')
    (hw : w'.binding? = Function.update w.binding? id (some b'))
  | gone (b : Option Binding) (hb : w.binding? id = some b) (busy : Bool)
    (hl : w'.host.listeners =
      if busy then w.host.listeners else w.host.listeners.release b)
    (hw : w'.binding? = Function.update w.binding? id none)

variable {w : Workspace} {id : PanelId}

theorem acted_step {a : Action} (ha : a.actor? = some id) : Acted id w (w.step a) := by
  rcases w.step_actor ha with ⟨f, hf, hw⟩ | ⟨busy, hw⟩
  · cases hp : w.panel? id with
    | none => exact .idle (hw.trans (act_of_none hp))
    | some p =>
      have hm := (hf p w.host).move
      rw [← host_act hp] at hm
      rw [hw]
      exact .moved _ _ (binding?_of_panel? hp) hm (binding?_act hp)
  · cases hp : w.panel? id with
    | none => exact .idle (hw.trans (remove_of_none hp busy))
    | some p =>
      have hl := p.leave_listeners w.host busy
      rw [← host_remove hp] at hl
      rw [hw]
      exact .gone _ (binding?_of_panel? hp) busy hl (binding?_remove busy)

/-- What happens without the operation of a panel: one is opened, or bindings stay as they are. -/
inductive Happened (w w' : Workspace) : Prop where
  | opened (hl : w'.host.listeners = w.host.listeners)
    (hw : w'.binding? = Function.update w.binding? w.nextPanel (some none))
    (hn : w'.nextPanel = w.nextPanel + 1)
  | stayed (hl : ForeignMove w.host.listeners w'.host.listeners) (hw : w'.binding? = w.binding?)
    (hn : w'.nextPanel = w.nextPanel)

theorem happened_step (hk : w.Kept) {a : Action} (ha : a.actor? = none) :
    Happened w (w.step a) := by
  have hn := hk.absent w.nextPanel le_rfl
  cases a with
  | openSynced c d n => exact .opened rfl (binding?_insert hn (.synced (.fresh c d n))) rfl
  | openPlain c d n => exact .opened rfl (binding?_insert hn (.plain (.fresh c d n))) rfl
  | select e s =>
    refine .stayed ?_ (binding?_dispatch _) nextPanel_dispatch
    change ForeignMove _ (Workspace.dispatch _ _).host.listeners
    rw [host_dispatch]
    exact .quiet
  | dispatch e =>
    refine .stayed ?_ (binding?_dispatch _) nextPanel_dispatch
    change ForeignMove _ (w.dispatch e).host.listeners
    rw [host_dispatch]
    exact .quiet
  | subscribe e tag => exact .stayed (.subscribe _ tag) rfl rfl
  | unsubscribe n => exact .stayed (.unsubscribe n) rfl rfl
  | change c =>
    refine .stayed ?_ rfl rfl
    change ForeignMove _ (w.host.apply c).listeners
    rw [Host.apply_listeners]
    exact .quiet
  | refresh _ _ | handle _ _ _ | dispose _ | remove _ _ | settle _ | resize _ _ => cases ha

/-! ### The ledger of a reachable workspace -/

/-- The listeners of the host and the bindings of the panels make a ledger. -/
def Balanced (w : Workspace) : Prop := Ledger w.host.listeners w.binding? w.nextPanel

theorem Balanced.acted {w' : Workspace} (h : w.Balanced) (ha : Acted id w w')
    (hn : w'.nextPanel = w.nextPanel) : w'.Balanced := by
  unfold Balanced at h ⊢
  cases ha with
  | idle he => rwa [he]
  | moved b b' hb hm hw =>
    rw [hw, hn]
    exact h.move hb hm
  | gone b hb busy hl hw =>
    rw [hw, hn, hl]
    cases busy with
    | true => exact h.forget id
    | false =>
      exact (h.shrink_release b).forget id

theorem Balanced.happened {w' : Workspace} (h : w.Balanced) (ha : Happened w w') :
    w'.Balanced := by
  unfold Balanced at h ⊢
  cases ha with
  | opened hl hw hn =>
    rw [hl, hw, hn]
    exact h.opened
  | stayed hl hw hn =>
    rw [hw, hn]
    exact h.foreignMove hl

theorem Balanced.step (h : w.Balanced) (hk : w.Kept) (a : Action) : (w.step a).Balanced := by
  cases ha : a.actor? with
  | some id => exact h.acted (acted_step ha) (nextPanel_step ha)
  | none => exact h.happened (happened_step hk ha)

theorem Reachable.balanced (hw : w.Reachable) : w.Balanced := by
  induction hw with
  | start h hl =>
    unfold Balanced
    rw [hl]
    exact Ledger.start
  | step hw a ih => exact ih.step hw.kept a

/-- Operations of a panel leave the registrations that it did not make, in their order. -/
theorem Balanced.foreign_acted (h : w.Balanced) {w' : Workspace} (ha : Acted id w w') :
    w'.host.listeners.foreign id = w.host.listeners.foreign id := by
  cases ha with
  | idle he => rw [he]
  | moved b b' hb hm hw => exact Ledger.foreign_move h hb hm
  | gone b hb busy hl hw =>
    rw [hl]
    cases busy with
    | true => rfl
    | false => exact Ledger.foreign_release h hb

/-! ### Panels that are gone -/

/-- The identifier has been given, and its panel is no longer there. -/
structure Gone (w : Workspace) (id : PanelId) : Prop where
  given : id < w.nextPanel
  absent : w.binding? id = none

theorem Gone.acted {i : PanelId} {w' : Workspace} (h : w.Gone id) (ha : Acted i w w')
    (hn : w'.nextPanel = w.nextPanel) : w'.Gone id := by
  refine ⟨hn ▸ h.given, ?_⟩
  cases ha with
  | idle he => rw [he, h.absent]
  | moved b b' hb hm hw =>
    have hi : id ≠ i := by
      rintro rfl
      rw [h.absent] at hb
      cases hb
    rw [hw, Function.update_of_ne hi, h.absent]
  | gone b hb busy hl hw =>
    by_cases hi : id = i
    · rw [hw, hi, Function.update_self]
    · rw [hw, Function.update_of_ne hi, h.absent]

theorem Gone.happened {w' : Workspace} (h : w.Gone id) (ha : Happened w w') : w'.Gone id := by
  cases ha with
  | opened hl hw hn =>
    refine ⟨hn ▸ h.given.trans (Nat.lt_succ_self _), ?_⟩
    rw [hw, Function.update_of_ne h.given.ne, h.absent]
  | stayed hl hw hn => exact ⟨hn ▸ h.given, by rw [hw, h.absent]⟩

theorem Gone.step (h : w.Gone id) (hk : w.Kept) (a : Action) : (w.step a).Gone id := by
  cases ha : a.actor? with
  | some i => exact h.acted (acted_step ha) (nextPanel_step ha)
  | none => exact h.happened (happened_step hk ha)

/-- A panel that is gone makes no registration anymore. -/
theorem Gone.owned_step (h : w.Gone id) (hw : w.Reachable) (a : Action) :
    (w.step a).host.listeners.owned id ⊆ w.host.listeners.owned id := by
  cases hact : a.actor? with
  | none =>
    cases happened_step hw.kept hact with
    | opened hl _ _ => rw [hl]; exact List.Subset.refl _
    | stayed hl _ _ => exact hl.owned_subset id
  | some i =>
    have ha : Acted i w (w.step a) := acted_step hact
    by_cases hi : i = id
    · subst hi
      cases ha with
      | idle he => rw [he]; exact List.Subset.refl _
      | moved b b' hb hm _ => rw [h.absent] at hb; cases hb
      | gone b hb busy hl _ => rw [h.absent] at hb; cases hb
    · rw [Listeners.owned_congr (hw.balanced.foreign_acted ha) hi]
      exact List.Subset.refl _

theorem Gone.owned_run (h : w.Gone id) (hw : w.Reachable) (as : List Action) :
    (w.run as).host.listeners.owned id ⊆ w.host.listeners.owned id := by
  induction as generalizing w with
  | nil => exact List.Subset.refl _
  | cons a as ih =>
    exact List.Subset.trans (ih (h.step hw.kept a) (hw.step a)) (h.owned_step hw a)

theorem gone_remove (hw : w.Reachable) {p : Panel} (hp : w.panel? id = some p) (busy : Bool) :
    (w.remove id busy).Gone id := by
  constructor
  · rw [nextPanel_remove]
    by_contra hge
    rw [hw.kept.absent id (Nat.le_of_not_lt hge)] at hp
    cases hp
  · rw [binding?_remove, Function.update_self]

/-! ### Registrations and bindings -/

/-- What a panel has registered is what it is bound with. -/
theorem Balanced.mem_owned (h : w.Balanced) {p : Panel} (hp : w.panel? id = some p)
    {s : Subscription Listener} (hs : s ∈ w.host.listeners.owned id) :
    ∃ e, p.binding? = some ⟨e, s.id⟩ := by
  obtain ⟨hm, ho⟩ := Listeners.mem_owned.mp hs
  obtain ⟨e, hl⟩ := Listener.eq_panel_of_owner? ho
  exact ⟨e, h.own s hm id e hl _ (binding?_of_panel? hp)⟩

theorem Balanced.owned_of_unbound (h : w.Balanced) {p : Panel} (hp : w.panel? id = some p)
    (hb : p.binding? = none) : w.host.listeners.owned id = [] := by
  refine List.eq_nil_iff_forall_not_mem.mpr fun s hs => ?_
  obtain ⟨e, he⟩ := h.mem_owned hp hs
  rw [hb] at he
  cases he

/-- A panel that goes gives up its binding, unless the host is busy. -/
theorem listeners_remove {p : Panel} (hp : w.panel? id = some p) :
    (w.remove id false).host.listeners = w.host.listeners.release p.binding? := by
  rw [host_remove hp, p.leave_listeners w.host false]
  rfl

theorem Balanced.owned_remove (h : w.Balanced) {p : Panel} (hp : w.panel? id = some p) :
    (w.remove id false).host.listeners.owned id = [] := by
  rw [listeners_remove hp]
  refine List.eq_nil_iff_forall_not_mem.mpr fun s hs => ?_
  obtain ⟨hs, ho⟩ := Listeners.mem_owned.mp hs
  exact Ledger.owner_release h (binding?_of_panel? hp) s hs ho

theorem owned_remove_busy {p : Panel} (hp : w.panel? id = some p) :
    (w.remove id true).host.listeners.owned id = w.host.listeners.owned id := by
  rw [host_remove hp]
  exact congrArg (Listeners.owned · id) (p.leave_listeners w.host true)

theorem exists_owned_refresh {p : SyncedPanel} (hp : w.panel? id = some (.synced p))
    (hd : p.disposed = false) {e : EditorId} (he : w.host.activeEditor = some e)
    (launch : Launcher) : ∃ s, s ∈ (w.refresh launch id).host.listeners.owned id := by
  have hh : (w.refresh launch id).host = (p.refresh launch id w.host).2 := host_act hp
  rw [hh, SyncedPanel.refresh_eq launch id p w.host hd, he]
  exact ⟨_, Listeners.mem_owned.mpr ⟨List.mem_append_right _ List.mem_cons_self, rfl⟩⟩

/-- At no time has a panel more than the one registration that it is bound with. When it is gone,
it leaves that one to a host that was busy, else none. It never touches those of others, and with an
editor to bind to, a refresh leaves it with one. -/
theorem registrations_of_reachable (hw : w.Reachable) (id : PanelId) :
    (w.host.listeners.owned id).length ≤ 1 ∧
    (∀ p, w.panel? id = some p →
      ∀ s ∈ w.host.listeners.owned id, ∃ e, p.binding? = some ⟨e, s.id⟩) ∧
    (∀ p, w.panel? id = some (.synced p) → p.binding = none ∨ p.disposed = true →
      w.host.listeners.owned id = []) ∧
    (∀ p, w.panel? id = some (.plain p) → w.host.listeners.owned id = []) ∧
    (∀ p, w.panel? id = some p → ∀ as,
      ((w.remove id false).run as).host.listeners.owned id = []) ∧
    (∀ p, w.panel? id = some p → ∀ as,
      (((w.remove id true).run as).host.listeners.owned id).length ≤ 1 ∧
      ∀ s ∈ ((w.remove id true).run as).host.listeners.owned id,
        s ∈ w.host.listeners.owned id ∧ ∃ e, p.binding? = some ⟨e, s.id⟩) ∧
    (∀ a : Action, a.actor? = some id →
      (w.step a).host.listeners.foreign id = w.host.listeners.foreign id) ∧
    ∀ p launch, w.panel? id = some (.synced p) → p.disposed = false →
      w.host.activeEditor ≠ none → ((w.refresh launch id).host.listeners.owned id).length = 1 := by
  have hb : w.Balanced := hw.balanced
  refine ⟨Ledger.length_owned_le hb id, fun p hp s hs => hb.mem_owned hp hs,
    fun p hp hu => ?_, fun p hp => hb.owned_of_unbound hp rfl, fun p hp as => ?_,
    fun p hp as => ?_, fun a ha => hb.foreign_acted (acted_step ha), fun p launch hp hd he => ?_⟩
  · refine hb.owned_of_unbound hp ?_
    rcases hu with hu | hd
    · exact hu
    · have hr : p.Reachable := hw.kept.reachable id _ hp
      exact hr.binding_of_disposed hd
  · have hrun := (gone_remove hw hp false).owned_run (hw.step (.remove id false)) as
    rw [hb.owned_remove hp] at hrun
    exact List.subset_nil.mp hrun
  · have hr : (w.remove id true).Reachable := hw.step (.remove id true)
    have hrun := (gone_remove hw hp true).owned_run hr as
    rw [owned_remove_busy hp] at hrun
    refine ⟨Ledger.length_owned_le (hr.run as).balanced id, fun s hs => ?_⟩
    exact ⟨hrun hs, hb.mem_owned hp (hrun hs)⟩
  · obtain ⟨e, he⟩ := Option.ne_none_iff_exists'.mp he
    obtain ⟨s, hs⟩ := exists_owned_refresh hp hd he launch
    have hle := Ledger.length_owned_le (hw.step (.refresh launch id)).balanced id
    exact Nat.le_antisymm hle (List.length_pos_of_mem hs)

/-- The host takes the registration of a bound panel away, and the panel binds again next to another
listener. -/
theorem registrations_after_rebinding :
    let launch := refusing
    let w := Workspace.run { host := { activeEditor := some 1 } }
      [.openSynced {} (.ofConfig {}) 20, .refresh launch 0, .subscribe 1 7, .unsubscribe 1,
        .refresh launch 0]
    w.Reachable ∧ w.host.listeners.live = [⟨2, 1, .other 7⟩, ⟨3, 1, .panel 0 1⟩] ∧
      (w.host.listeners.owned 0).length ≤ 1 ∧
      (∃ p, w.panel? 0 = some (.synced p) ∧ p.binding = some ⟨1, 3⟩ ∧
        (∀ as, ((w.remove 0 false).run as).host.listeners.owned 0 = []) ∧
        ((w.refresh launch 0).host.listeners.owned 0).length = 1) := by
  intro launch w
  have hw : w.Reachable := (Reachable.start { activeEditor := some 1 } rfl).run _
  have h := registrations_of_reachable hw 0
  refine ⟨hw, rfl, h.1, _, rfl, rfl, h.2.2.2.2.1 _ rfl, ?_⟩
  exact h.2.2.2.2.2.2.2 _ launch rfl rfl (by decide)

end Workspace

end ListingPanel
