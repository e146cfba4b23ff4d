import ListingPanel.Proofs.Workspace.Delivery

/-! What one action makes of one panel. -/
namespace ListingPanel

/-- What a synced panel and its host can become when the panel operates. -/
inductive SyncedPanel.Operation (id : PanelId) (p : SyncedPanel) (h : Host) :
    SyncedPanel × Host → Prop where
  | idle : Operation id p h (p, h)
  | refresh (launch : Launcher) : Operation id p h (p.refresh launch id h)
  | dispose : Operation id p h (p.dispose h)
  | settle : Operation id p h (p.settle, h)
  | resize (height : Nat) : Operation id p h (p.resize height, h)

theorem SyncedPanel.operation_handle (launch : Launcher) (id : PanelId) (p : SyncedPanel) (h : Host)
    (e : HostEvent) : p.Operation id h (p.handle launch id h e) := by
  rcases p.handle_cases launch id h e with he | he <;> rw [he]
  · exact .refresh launch
  · exact .idle

namespace Workspace

/-- The panel that has an identifier, if it is a synced one. -/
def synced? (w : Workspace) (id : PanelId) : Option SyncedPanel :=
  match w.panel? id with
  | some (.synced p) => some p
  | _ => none

variable {w : Workspace} {id : PanelId}

theorem synced?_eq_some {p : SyncedPanel} :
    w.synced? id = some p ↔ w.panel? id = some (.synced p) := by
  unfold synced?
  cases w.panel? id with
  | none => simp
  | some q => cases q <;> simp

/-- A synced panel acts, and stays a synced panel. -/
theorem act_synced {p : SyncedPanel} (hp : w.panel? id = some (.synced p))
    {f : Panel → Host → Panel × Host} {r : SyncedPanel × Host}
    (hf : f (.synced p) w.host = (.synced r.1, r.2)) :
    (w.act id f).panel? id = some (.synced r.1) ∧ (w.act id f).host = r.2 := by
  rw [panel?_act hp, host_act hp, hf, if_pos rfl]
  exact ⟨rfl, rfl⟩

theorem refresh_synced {p : SyncedPanel} (hp : w.panel? id = some (.synced p))
    (launch : Launcher) :
    (w.refresh launch id).panel? id = some (.synced (p.refresh launch id w.host).1) ∧
      (w.refresh launch id).host = (p.refresh launch id w.host).2 :=
  act_synced hp rfl

/-- An action of a synced panel itself. -/
theorem step_self {p : SyncedPanel} (hp : w.panel? id = some (.synced p)) {a : Action}
    (ha : a.actor? = some id) : (∃ busy, a = .remove id busy) ∨
      ∃ r, p.Operation id w.host r ∧ (w.step a).panel? id = some (.synced r.1) ∧
        (w.step a).host = r.2 := by
  cases a with
  | refresh launch i => cases ha; exact Or.inr ⟨_, .refresh launch, refresh_synced hp launch⟩
  | handle launch i e =>
    cases ha
    exact Or.inr ⟨_, p.operation_handle launch id _ e, act_synced hp rfl⟩
  | dispose i => cases ha; exact Or.inr ⟨_, .dispose, act_synced hp rfl⟩
  | settle i => cases ha; exact Or.inr ⟨_, .settle, act_synced hp rfl⟩
  | resize i n => cases ha; exact Or.inr ⟨_, .resize n, act_synced hp rfl⟩
  | remove i busy => cases ha; exact Or.inl ⟨busy, rfl⟩
  | openSynced _ _ _ | openPlain _ _ _ | select _ _ | dispatch _ | subscribe _ _ | unsubscribe _
  | change _ => cases ha

theorem panel?_step_remove (w : Workspace) (id : PanelId) (busy : Bool) :
    (w.step (.remove id busy)).panel? id = none := by
  change (w.remove id busy).panel? id = none
  rw [panel?_remove, if_pos rfl]

/-- Without a panel, there is nothing to operate. -/
theorem step_of_none (hp : w.panel? id = none) {a : Action} (ha : a.actor? = some id) :
    w.step a = w := by
  rcases w.step_actor ha with ⟨f, -, hw⟩ | ⟨busy, hw⟩ <;> rw [hw]
  · exact act_of_none hp
  · exact remove_of_none hp busy

/-- Without an event, whoever else acts, a panel stays as it is, or it has just been opened. -/
theorem panel?_step_quiet (hw : w.Reachable) {a : Action} (ha : a.actor? ≠ some id)
    (he : a.event? = none) :
    (w.step a).panel? id = w.panel? id ∨
    (w.panel? id = none ∧ id = w.nextPanel ∧
      ((∃ c d n, (w.step a).panel? id = some (.synced (.fresh c d n))) ∨
        ∃ q, (w.step a).panel? id = some (.plain q))) := by
  have hn : w.panel? w.nextPanel = none := hw.kept.absent _ le_rfl
  cases ha' : a.actor? with
  | some i =>
    have hi : id ≠ i := fun hi => ha (hi.symm ▸ ha')
    exact Or.inl (panel?_step_of_ne ha' hi)
  | none =>
    cases a with
    | openSynced c d n =>
      have hp := panel?_insert hn (.synced (.fresh c d n)) (j := id)
      by_cases hid : id = w.nextPanel
      · rw [if_pos hid] at hp
        exact Or.inr ⟨hid ▸ hn, hid, Or.inl ⟨c, d, n, hp⟩⟩
      · rw [if_neg hid] at hp
        exact Or.inl hp
    | openPlain c d n =>
      have hp := panel?_insert hn (.plain (.fresh c d n)) (j := id)
      by_cases hid : id = w.nextPanel
      · rw [if_pos hid] at hp
        exact Or.inr ⟨hid ▸ hn, hid, Or.inr ⟨_, hp⟩⟩
      · rw [if_neg hid] at hp
        exact Or.inl hp
    | subscribe _ _ | unsubscribe _ | change _ => exact Or.inl rfl
    | select _ _ | dispatch _ => cases he
    | refresh _ _ | handle _ _ _ | dispose _ | remove _ _ | settle _ | resize _ _ => cases ha'

/-- Whoever else acts, a panel stays as it is, or it has just been opened, or it is bound and
follows its editor. -/
theorem panel?_step_other (hw : w.Reachable) {a : Action} (ha : a.actor? ≠ some id) :
    (w.step a).panel? id = w.panel? id ∨
    (w.panel? id = none ∧ id = w.nextPanel ∧
      ((∃ c d n, (w.step a).panel? id = some (.synced (.fresh c d n))) ∨
        ∃ q, (w.step a).panel? id = some (.plain q))) ∨
    ∃ p r, w.panel? id = some (.synced p) ∧ p.binding ≠ none ∧
      (w.step a).panel? id = some (.synced { p with view := p.view.follow r }) := by
  cases he : a.event? with
  | some e =>
    obtain ⟨-, hears, deaf⟩ := step_event_isolated hw he
    by_cases hh : ∃ p, w.panel? id = some (.synced p) ∧ p.Hears w.host.listeners e.editor
    · obtain ⟨p, hp, hh⟩ := hh
      obtain ⟨-, q, hq, hview, -⟩ := hears id p hp hh
      obtain ⟨b, hb, -⟩ := hh
      refine Or.inr (Or.inr ⟨p, e.lines, hp, by rw [hb]; exact Option.some_ne_none b, ?_⟩)
      rw [hq, hview]
    · exact Or.inl (deaf id fun p hp h => hh ⟨p, hp, h⟩)
  | none => exact (panel?_step_quiet hw ha he).imp_right Or.inl

theorem step_other {p : SyncedPanel} (hw : w.Reachable) (hp : w.panel? id = some (.synced p))
    {a : Action} (ha : a.actor? ≠ some id) :
    (w.step a).panel? id = some (.synced p) ∨ p.binding ≠ none ∧
      ∃ r, (w.step a).panel? id = some (.synced { p with view := p.view.follow r }) := by
  rcases panel?_step_other hw ha with hs | ⟨hn, -⟩ | ⟨q, r, hq, hb, hs⟩
  · exact Or.inl (hs.trans hp)
  · rw [hp] at hn
    cases hn
  · rw [hp] at hq
    cases hq
    exact Or.inr ⟨hb, r, hs⟩

/-- A plain panel never operates as a synced one. -/
theorem step_plain {p : PlainPanel} (hp : w.panel? id = some (.plain p)) {a : Action}
    (ha : a.actor? = some id) (q : SyncedPanel) : (w.step a).panel? id ≠ some (.synced q) := by
  have hact : ∀ {f : Panel → Host → Panel × Host},
      (∃ r, (f (.plain p) w.host).1 = .plain r) → (w.act id f).panel? id ≠ some (.synced q) := by
    rintro f ⟨r, hf⟩
    rw [panel?_act hp, if_pos rfl, hf]
    simp
  cases a with
  | refresh launch i => cases ha; exact hact ⟨_, rfl⟩
  | handle launch i e => cases ha; exact hact ⟨p, rfl⟩
  | dispose i | settle i | resize i n => cases ha; exact hact ⟨p, rfl⟩
  | remove i busy =>
    cases ha
    rw [panel?_step_remove]
    simp
  | openSynced _ _ _ | openPlain _ _ _ | select _ _ | dispatch _ | subscribe _ _ | unsubscribe _
  | change _ => cases ha

/-- Where a synced panel comes from: it has operated, or it was there and at most followed its
editor, or it has just been opened. -/
theorem synced_step_cases (hw : w.Reachable) {a : Action} {q : SyncedPanel}
    (hq : (w.step a).panel? id = some (.synced q)) :
    (∃ p, w.panel? id = some (.synced p) ∧ a.actor? = some id ∧
      p.Operation id w.host (q, (w.step a).host)) ∨
    (∃ p, w.panel? id = some (.synced p) ∧ a.actor? ≠ some id ∧
      (q = p ∨ p.binding ≠ none ∧ ∃ r, q = { p with view := p.view.follow r })) ∨
    (id = w.nextPanel ∧ ∃ c d n, q = .fresh c d n) := by
  by_cases ha : a.actor? = some id
  · left
    cases hp : w.panel? id with
    | none =>
      rw [step_of_none hp ha, hp] at hq
      cases hq
    | some p =>
      cases p with
      | plain p => exact absurd hq (step_plain hp ha q)
      | synced p =>
        rcases step_self hp ha with ⟨busy, rfl⟩ | ⟨r, hr, hs, hh⟩
        · rw [panel?_step_remove] at hq
          cases hq
        · rw [hs] at hq
          cases hq
          exact ⟨p, rfl, ha, by rwa [hh]⟩
  · right
    rcases panel?_step_other hw ha with hs | ⟨-, hid, ⟨c, d, n, hs⟩ | ⟨p, hs⟩⟩ | ⟨p, r, hp, hb, hs⟩
    · exact Or.inl ⟨q, hs.symm.trans hq, ha, Or.inl rfl⟩
    · rw [hs] at hq
      cases hq
      exact Or.inr ⟨hid, c, d, n, rfl⟩
    · rw [hs] at hq
      cases hq
    · rw [hs] at hq
      cases hq
      exact Or.inl ⟨p, hp, ha, Or.inr ⟨hb, r, rfl⟩⟩

end Workspace

end ListingPanel
