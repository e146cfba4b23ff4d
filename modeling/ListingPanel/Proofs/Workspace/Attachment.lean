import ListingPanel.Proofs.Workspace.Subscriptions
import Mathlib.Data.List.Perm.Basic

/-! As long as nobody else subscribes or unsubscribes, a host has one registration of each bound
panel, and no others. -/
namespace ListingPanel

/-- Whose the live registrations are, in order. -/
def Listeners.owners (l : Listeners Listener) : List (Option PanelId) :=
  l.live.map (·.listener.owner?)

/-- The owners of live registrations are the panels that are bound. -/
def Attached (l : Listeners Listener) (B : PanelId → Option (Option Binding)) : Prop :=
  ∀ o, o ∈ l.owners ↔ ∃ id, o = some id ∧ (B id).join ≠ none

section Attached
variable {l l' : Listeners Listener} {B : PanelId → Option (Option Binding)} {n id : PanelId}

/-- Giving up a binding takes away all that the panel has registered, and nothing else. -/
theorem Ledger.mem_owners_release (h : Ledger l B n) {b : Option Binding} (hb : B id = some b)
    (o : Option PanelId) : o ∈ (l.release b).owners ↔ o ∈ l.owners ∧ o ≠ some id := by
  have hf : ∀ s, s ∈ (l.release b).live ∧ s.listener.owner? ≠ some id ↔
      s ∈ l.live ∧ s.listener.owner? ≠ some id := fun s => by
    have he : s ∈ (l.release b).foreign id ↔ s ∈ l.foreign id := by rw [h.foreign_release hb]
    simpa [Listeners.foreign] using he
  simp only [Listeners.owners, List.mem_map]
  constructor
  · rintro ⟨s, hs, rfl⟩
    have ho := h.owner_release hb s hs
    exact ⟨⟨s, ((hf s).mp ⟨hs, ho⟩).1, rfl⟩, ho⟩
  · rintro ⟨⟨s, hs, rfl⟩, ho⟩
    exact ⟨s, ((hf s).mpr ⟨hs, ho⟩).1, rfl⟩

theorem Attached.update (ha : Attached l B) {c : Option (Option Binding)}
    (hl : ∀ o, o ∈ l'.owners ↔ o ∈ l.owners ∧ o ≠ some id ∨ o = some id ∧ c.join ≠ none) :
    Attached l' (Function.update B id c) := by
  intro o
  rw [hl, ha]
  constructor
  · rintro (⟨⟨i, rfl, hi⟩, ho⟩ | ⟨rfl, hc⟩)
    · have hne : i ≠ id := fun he => ho (congrArg some he)
      exact ⟨i, rfl, by rwa [Function.update_of_ne hne]⟩
    · exact ⟨id, rfl, by rwa [Function.update_self]⟩
  · rintro ⟨i, rfl, hi⟩
    by_cases hid : i = id
    · subst hid
      rw [Function.update_self] at hi
      exact Or.inr ⟨rfl, hi⟩
    · rw [Function.update_of_ne hid] at hi
      exact Or.inl ⟨⟨i, rfl, hi⟩, fun he => hid (Option.some.inj he)⟩

theorem Attached.release (ha : Attached l B) (h : Ledger l B n) {b : Option Binding}
    (hb : B id = some b) {c : Option (Option Binding)} (hc : c.join = none) :
    Attached (l.release b) (Function.update B id c) :=
  ha.update fun o => by simp [h.mem_owners_release hb o, hc]

theorem Attached.move (ha : Attached l B) (h : Ledger l B n) {b b' : Option Binding}
    (hb : B id = some b) (hm : Move id l b l' b') :
    Attached l' (Function.update B id (some b')) := by
  cases hm with
  | quiet => rwa [← hb, Function.update_eq_self]
  | release => exact ha.release h hb rfl
  | rebind e e' =>
    refine ha.update fun o => ?_
    have hs : ((l.release b).subscribe e' (.panel id e)).owners =
        (l.release b).owners ++ [some id] := List.map_append
    rw [hs, List.mem_append, List.mem_singleton, h.mem_owners_release hb o]
    simp

/-- If the owners of live registrations are panels, no two have the same. -/
theorem Ledger.nodup_owners (h : Ledger l B n) (ha : Attached l B) : l.owners.Nodup := by
  have hd : l.live.Nodup := h.ascending.imp fun hlt he => absurd (congrArg _ he) hlt.ne
  refine hd.map_on fun s hs t ht he => ?_
  obtain ⟨id, ho, -⟩ := (ha _).mp (List.mem_map_of_mem hs)
  exact h.single s hs t ht id ho (he ▸ ho)

end Attached

namespace Workspace

/-- The host has a registration of each panel that is bound, and no others. -/
def Attached (w : Workspace) : Prop := ListingPanel.Attached w.host.listeners w.binding?

/-- Nobody but a panel subscribes or unsubscribes, and no panel goes while the host is busy. -/
def Action.Tidy : Action → Prop
  | .remove _ busy => busy = false
  | .subscribe _ _ | .unsubscribe _ => False
  | _ => True

variable {w : Workspace} {id : PanelId}

theorem attached_start {h : Host} (hl : h.listeners = {}) : Attached { host := h } := by
  intro o
  dsimp only
  rw [hl]
  simp [Listeners.owners, binding?, panel?]

theorem Attached.actsAs {w' : Workspace} (h : w.Attached) (hw : w.Reachable)
    (ha : ActsAs w w' id) : w'.Attached := by
  obtain ⟨f, hf, rfl⟩ := ha
  cases hp : w.panel? id with
  | none => rwa [act_of_none hp]
  | some p =>
    have hm := (hf p w.host).move
    rw [← host_act hp] at hm
    unfold Attached
    rw [binding?_act hp]
    exact ListingPanel.Attached.move h hw.balanced (binding?_of_panel? hp) hm

theorem Attached.remove (h : w.Attached) (hw : w.Reachable) : (w.remove id false).Attached := by
  cases hp : w.panel? id with
  | none => rwa [remove_of_none hp]
  | some p =>
    unfold Attached
    rw [listeners_remove hp, binding?_remove]
    exact ListingPanel.Attached.release h hw.balanced (binding?_of_panel? hp) rfl

theorem Attached.stayed {w' : Workspace} (h : w.Attached)
    (hl : w'.host.listeners = w.host.listeners) (hb : w'.binding? = w.binding?) : w'.Attached := by
  unfold Attached
  rwa [hl, hb]

theorem Attached.insert (h : w.Attached) (hw : w.Reachable) {p : Panel} (hp : p.binding? = none) :
    (w.insert p).Attached := by
  have hn : w.panel? w.nextPanel = none := hw.kept.absent _ le_rfl
  have ho : ∀ o ∈ w.host.listeners.owners, o ≠ some w.nextPanel := by
    rintro o ho rfl
    obtain ⟨i, hi, hb⟩ := (h _).mp ho
    obtain rfl := Option.some.inj hi
    unfold binding? at hb
    rw [hn] at hb
    exact hb rfl
  unfold Attached
  rw [binding?_insert hn, hp]
  refine ListingPanel.Attached.update h fun o => ?_
  simpa [Workspace.insert] using ho o

theorem Attached.step (h : w.Attached) (hw : w.Reachable) {a : Action} (ht : a.Tidy) :
    (w.step a).Attached := by
  cases a with
  | remove i busy =>
    cases ht
    exact h.remove hw
  | refresh _ _ | handle _ _ _ | dispose _ | settle _ | resize _ _ =>
    exact h.actsAs hw (w.actsAs_step rfl fun busy hr => by cases hr)
  | openSynced c d n => exact h.insert hw rfl
  | openPlain c d n => exact h.insert hw rfl
  | select e s =>
    refine h.stayed ?_ (binding?_dispatch _)
    change (Workspace.dispatch _ _).host.listeners = _
    rw [host_dispatch]
    rfl
  | dispatch e => exact h.stayed (congrArg Host.listeners host_dispatch) (binding?_dispatch _)
  | change c => exact h.stayed (Host.apply_listeners _ c) rfl
  | subscribe _ _ | unsubscribe _ => exact ht.elim

/-- So many registrations are live as panels are bound. -/
theorem Attached.length_live (h : w.Attached) (hw : w.Reachable) {ids : List PanelId}
    (hn : ids.Nodup) (hids : ∀ id p, w.panel? id = some p → id ∈ ids) :
    w.host.listeners.live.length = ids.countP fun id => (w.binding? id).join.isSome := by
  have hp : w.host.listeners.owners.Perm
      ((ids.filter fun id => (w.binding? id).join.isSome).map some) := by
    refine (List.perm_ext_iff_of_nodup (hw.balanced.nodup_owners h) ?_).mpr fun o => ?_
    · exact (hn.filter _).map (Option.some_injective _)
    · rw [h o, List.mem_map]
      constructor
      · rintro ⟨id, rfl, hb⟩
        have hid : id ∈ ids := by
          cases hp : w.panel? id with
          | none =>
            unfold binding? at hb
            rw [hp] at hb
            exact absurd rfl hb
          | some p => exact hids id p hp
        exact ⟨id, List.mem_filter.mpr ⟨hid, Option.isSome_iff_ne_none.mpr hb⟩, rfl⟩
      · rintro ⟨id, hid, rfl⟩
        have hb := (List.mem_filter.mp hid).2
        exact ⟨id, rfl, Option.isSome_iff_ne_none.mp hb⟩
  have hl := hp.length_eq
  rwa [Listeners.owners, List.length_map, List.length_map, ← List.countP_eq_length_filter] at hl

end Workspace

end ListingPanel
