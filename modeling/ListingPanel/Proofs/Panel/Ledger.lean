import ListingPanel.Proofs.Panel.Operation
import Mathlib.Logic.Function.Basic

/-! What holds between the bindings of panels and the listeners of their host, whoever changes
them. -/
namespace ListingPanel

namespace Listeners

/-- The registrations that a panel made, in order. -/
def owned (l : Listeners Listener) (id : PanelId) : List (Subscription Listener) :=
  l.live.filter (·.listener.owner? == some id)

/-- The registrations that a panel did not make, in order. -/
def foreign (l : Listeners Listener) (id : PanelId) : List (Subscription Listener) :=
  l.live.filter (·.listener.owner? != some id)

theorem mem_owned {l : Listeners Listener} {id : PanelId} {s : Subscription Listener} :
    s ∈ l.owned id ↔ s ∈ l.live ∧ s.listener.owner? = some id := by
  simp [owned]

/-- What others did not make includes all that one of them made. -/
theorem owned_congr {l l' : Listeners Listener} {id i : PanelId}
    (hf : l'.foreign i = l.foreign i) (hi : i ≠ id) : l'.owned id = l.owned id := by
  have hof : ∀ k : Listeners Listener,
      k.owned id = (k.foreign i).filter (·.listener.owner? == some id) := by
    intro k
    unfold owned foreign
    rw [List.filter_filter]
    refine List.filter_congr fun s _ => ?_
    cases ho : s.listener.owner? == some id with
    | false => rfl
    | true =>
      rw [beq_iff_eq] at ho
      simpa [ho] using hi.symm
  rw [hof l', hof l, hf]

/-- Taking away what has just been registered leaves what was live before. -/
theorem unsubscribe_subscribe {α : Type} {l : Listeners α} (h : ∀ s ∈ l.live, s.id < l.nextId)
    (e : EditorId) (k : α) : ((l.subscribe e k).unsubscribe l.nextId).live = l.live := by
  have hkeep : l.live.filter (·.id != l.nextId) = l.live :=
    List.filter_eq_self.mpr fun s hs => by simpa using (h s hs).ne
  unfold subscribe unsubscribe
  dsimp only
  rw [List.filter_append, hkeep]
  simp

end Listeners

/-- What others can do to the listeners. -/
inductive ForeignMove (l : Listeners Listener) : Listeners Listener → Prop where
  | quiet : ForeignMove l l
  | subscribe (e : EditorId) (tag : Nat) : ForeignMove l (l.subscribe e (.other tag))
  | unsubscribe (n : SubscriptionId) : ForeignMove l (l.unsubscribe n)

theorem ForeignMove.owned_subset {l l' : Listeners Listener} (h : ForeignMove l l') (id : PanelId) :
    l'.owned id ⊆ l.owned id := by
  intro s hs
  cases h with
  | quiet => exact hs
  | subscribe e tag =>
    obtain ⟨hs, ho⟩ := Listeners.mem_owned.mp hs
    rcases List.mem_append.mp hs with hs | hs
    · exact Listeners.mem_owned.mpr ⟨hs, ho⟩
    · rw [List.mem_singleton.mp hs] at ho
      cases ho
  | unsubscribe n =>
    obtain ⟨hs, ho⟩ := Listeners.mem_owned.mp hs
    exact Listeners.mem_owned.mpr ⟨(List.mem_filter.mp hs).1, ho⟩

/-! ### The ledger -/

/-- The listeners of a host and the bindings of its panels. To an identifier without a panel
belongs no binding, not even an empty one. Identifiers from `n` on are still to be given. -/
structure Ledger (l : Listeners Listener) (B : PanelId → Option (Option Binding)) (n : PanelId) :
    Prop where
  ascending : l.live.Pairwise (·.id < ·.id)
  given : ∀ s ∈ l.live, s.id ≤ l.lastId
  known : ∀ s ∈ l.live, ∀ id, s.listener.owner? = some id → id < n
  absent : ∀ id, n ≤ id → B id = none
  held : ∀ id b, B id = some (some b) → b.subscription ≤ l.lastId
  /-- A registration of a panel that is still there is the one that the panel is bound with. -/
  own : ∀ s ∈ l.live, ∀ id e, s.listener = .panel id e → ∀ b, B id = some b → b = some ⟨e, s.id⟩
  /-- What a panel is bound with, if it is live, is a registration of that panel. -/
  mine : ∀ id b, B id = some (some b) → ∀ s ∈ l.live, s.id = b.subscription →
    s.listener = .panel id b.editor
  single : ∀ s ∈ l.live, ∀ t ∈ l.live, ∀ id, s.listener.owner? = some id →
    t.listener.owner? = some id → s = t

namespace Ledger

variable {l l' : Listeners Listener} {B : PanelId → Option (Option Binding)} {n id : PanelId}

theorem start : Ledger {} (fun _ => none) 0 where
  ascending := List.Pairwise.nil
  given := fun s hs => by cases hs
  known := fun s hs => by cases hs
  absent := fun _ _ => rfl
  held := fun _ _ hb => by cases hb
  own := fun s hs => by cases hs
  mine := fun _ _ hb => by cases hb
  single := fun s hs => by cases hs

variable (h : Ledger l B n)
include h

theorem shrink (hs : l'.live.Sublist l.live) (hl : l'.lastId = l.lastId) : Ledger l' B n where
  ascending := h.ascending.sublist hs
  given := fun s hm => hl ▸ h.given s (hs.subset hm)
  known := fun s hm => h.known s (hs.subset hm)
  absent := h.absent
  held := fun id b hb => hl ▸ h.held id b hb
  own := fun s hm => h.own s (hs.subset hm)
  mine := fun id b hb s hm => h.mine id b hb s (hs.subset hm)
  single := fun s hm t ht => h.single s (hs.subset hm) t (hs.subset ht)

theorem shrink_release (b : Option Binding) : Ledger (l.release b) B n := by
  cases b with
  | none => exact h
  | some b => exact h.shrink List.filter_sublist rfl

theorem lt_nextId {s : Subscription Listener} (hs : s ∈ l.live) : s.id < l.nextId :=
  Nat.lt_succ_of_le (h.given s hs)

/-- A new registration is of no panel, or of one that is there without a binding, and that `B'` says
is bound with it. -/
private theorem subscribe {B' : PanelId → Option (Option Binding)} {e : EditorId} {k : Listener}
    (hk : ∀ id a, k = .panel id a → id < n ∧ B id = some none ∧
      B' id = some (some ⟨a, l.nextId⟩))
    (hB : ∀ id, k.owner? ≠ some id → B' id = B id) : Ledger (l.subscribe e k) B' n := by
  have hmem : ∀ s ∈ (l.subscribe e k).live, s ∈ l.live ∨ s = ⟨l.nextId, e, k⟩ := fun s hs =>
    (List.mem_append.mp hs).imp_right List.mem_singleton.mp
  have hfree : ∀ s ∈ l.live, ∀ id, k.owner? = some id → s.listener.owner? ≠ some id := by
    intro s hs id ho hso
    obtain ⟨a, rfl⟩ := Listener.eq_panel_of_owner? ho
    obtain ⟨c, hl⟩ := Listener.eq_panel_of_owner? hso
    cases h.own s hs id c hl none (hk id a rfl).2.1
  constructor
  case ascending =>
    refine List.pairwise_append.mpr ⟨h.ascending, List.pairwise_singleton _ _, ?_⟩
    intro s hs t ht
    rw [List.mem_singleton.mp ht]
    exact h.lt_nextId hs
  case given =>
    intro s hs
    rcases hmem s hs with hs | rfl
    · exact (h.lt_nextId hs).le
    · exact le_rfl
  case known =>
    intro s hs id ho
    rcases hmem s hs with hs | rfl
    · exact h.known s hs id ho
    · obtain ⟨a, ha⟩ := Listener.eq_panel_of_owner? ho
      exact (hk id a ha).1
  case absent =>
    intro id hid
    have hne : k.owner? ≠ some id := by
      intro ho
      obtain ⟨a, ha⟩ := Listener.eq_panel_of_owner? ho
      exact absurd (hk id a ha).1 (Nat.not_lt_of_le hid)
    rw [hB id hne, h.absent id hid]
  case held =>
    intro id b hb
    by_cases ho : k.owner? = some id
    · obtain ⟨a, ha⟩ := Listener.eq_panel_of_owner? ho
      rw [(hk id a ha).2.2] at hb
      cases hb
      exact le_rfl
    · rw [hB id ho] at hb
      exact (h.held id b hb).trans (Nat.le_succ _)
  case own =>
    intro s hs id c hl b hb
    rcases hmem s hs with hs | rfl
    · have ho : k.owner? ≠ some id := fun ho => hfree s hs id ho (by rw [hl]; rfl)
      rw [hB id ho] at hb
      exact h.own s hs id c hl b hb
    · rw [(hk id c hl).2.2] at hb
      exact (Option.some.inj hb).symm
  case mine =>
    intro id b hb s hs hid
    by_cases ho : k.owner? = some id
    · obtain ⟨a, ha⟩ := Listener.eq_panel_of_owner? ho
      rw [(hk id a ha).2.2] at hb
      cases hb
      rcases hmem s hs with hs | rfl
      · exact absurd hid (h.lt_nextId hs).ne
      · exact ha
    · rw [hB id ho] at hb
      -- no older binding holds the new identifier
      rcases hmem s hs with hs | rfl
      · exact h.mine id b hb s hs hid
      · exact absurd hid (Nat.lt_succ_of_le (h.held id b hb)).ne'
  case single =>
    intro s hs t ht id hso hto
    rcases hmem s hs with hs | rfl <;> rcases hmem t ht with ht | rfl
    · exact h.single s hs t ht id hso hto
    · exact absurd hso (hfree s hs id hto)
    · exact absurd hto (hfree t ht id hso)
    · rfl

theorem foreignMove (hm : ForeignMove l l') : Ledger l' B n := by
  cases hm with
  | quiet => exact h
  | subscribe e tag => exact h.subscribe (fun _ _ hk => by cases hk) fun _ _ => rfl
  | unsubscribe k => exact h.shrink List.filter_sublist rfl

theorem attach (hb : B id = some none) (e e' : EditorId) :
    Ledger (l.subscribe e' (.panel id e)) (Function.update B id (some (some ⟨e, l.nextId⟩))) n := by
  have hn : id < n := by
    by_contra hge
    rw [h.absent id (Nat.le_of_not_lt hge)] at hb
    cases hb
  refine h.subscribe (fun i a hk => ?_) fun i ho => ?_
  · cases hk
    exact ⟨hn, hb, Function.update_self ..⟩
  · exact Function.update_of_ne (fun hi => ho (by rw [hi]; rfl)) ..

/-- Bindings that are new are empty, of panels that have no registration. -/
private theorem rebook {B' : PanelId → Option (Option Binding)} {m : PanelId} (hn : n ≤ m)
    (ha : ∀ i, m ≤ i → B' i = none)
    (hB : ∀ i b, B' i = some b →
      B i = some b ∨ b = none ∧ ∀ s ∈ l.live, s.listener.owner? ≠ some i) : Ledger l B' m := by
  have hB' : ∀ i b, B' i = some (some b) → B i = some (some b) := fun i b hb =>
    (hB i _ hb).resolve_right fun hr => by cases hr.1
  refine { h with known := ?_, absent := ha, held := ?_, own := ?_, mine := ?_ }
  · exact fun s hs i ho => (h.known s hs i ho).trans_le hn
  · exact fun i b hb => h.held i b (hB' i b hb)
  · intro s hs i e hl b hb
    rcases hB i b hb with hb | ⟨-, ho⟩
    · exact h.own s hs i e hl b hb
    · exact absurd (by rw [hl]; rfl) (ho s hs)
  · exact fun i b hb => h.mine i b (hB' i b hb)

theorem owner_release {b : Option Binding} (hb : B id = some b) :
    ∀ s ∈ (l.release b).live, s.listener.owner? ≠ some id := by
  intro s hs ho
  obtain ⟨e, hl⟩ := Listener.eq_panel_of_owner? ho
  obtain rfl : b = some ⟨e, s.id⟩ := (h.shrink_release b).own s hs id e hl b hb
  have hne := (List.mem_filter.mp hs).2
  simp at hne

theorem release {b : Option Binding} (hb : B id = some b) :
    Ledger (l.release b) (Function.update B id (some none)) n := by
  refine (h.shrink_release b).rebook le_rfl (fun i hi => ?_) fun i c hc => ?_
  · have hne : i ≠ id := by
      rintro rfl
      rw [h.absent i hi] at hb
      cases hb
    rw [Function.update_of_ne hne, h.absent i hi]
  · by_cases hi : i = id
    · subst hi
      rw [Function.update_self] at hc
      exact Or.inr ⟨(Option.some.inj hc).symm, h.owner_release hb⟩
    · rw [Function.update_of_ne hi] at hc
      exact Or.inl hc

theorem forget (id : PanelId) : Ledger l (Function.update B id none) n := by
  refine h.rebook le_rfl (fun i hi => ?_) fun i b hb => Or.inl ?_
  · by_cases hid : i = id
    · rw [hid, Function.update_self]
    · rw [Function.update_of_ne hid, h.absent i hi]
  · by_cases hid : i = id
    · rw [hid, Function.update_self] at hb
      cases hb
    · rwa [Function.update_of_ne hid] at hb

theorem opened : Ledger l (Function.update B n (some none)) (n + 1) := by
  refine h.rebook (Nat.le_succ n) (fun i hi => ?_) fun i b hb => ?_
  · have hlt : n < i := hi
    rw [Function.update_of_ne hlt.ne', h.absent i hlt.le]
  · by_cases hi : i = n
    · subst hi
      rw [Function.update_self] at hb
      exact Or.inr ⟨(Option.some.inj hb).symm, fun s hs ho => lt_irrefl _ (h.known s hs i ho)⟩
    · rw [Function.update_of_ne hi] at hb
      exact Or.inl hb

theorem move {b b' : Option Binding} (hb : B id = some b) (hm : Move id l b l' b') :
    Ledger l' (Function.update B id (some b')) n := by
  cases hm with
  | quiet => rwa [← hb, Function.update_eq_self]
  | release => exact h.release hb
  | rebind e e' =>
    have hr := (h.release hb).attach (Function.update_self ..) e e'
    rwa [Function.update_idem, Listeners.release_nextId] at hr

/-! ### Whose registrations an operation touches -/

theorem length_owned_le (id : PanelId) : (l.owned id).length ≤ 1 := by
  have ha : (l.owned id).Pairwise (·.id < ·.id) := h.ascending.sublist List.filter_sublist
  have hs : ∀ s ∈ l.owned id, ∀ t ∈ l.owned id, s = t := fun s hs t ht =>
    h.single s (Listeners.mem_owned.mp hs).1 t (Listeners.mem_owned.mp ht).1 id
      (Listeners.mem_owned.mp hs).2 (Listeners.mem_owned.mp ht).2
  match ho : l.owned id with
  | [] => exact Nat.zero_le 1
  | [s] => exact le_rfl
  | s :: t :: r =>
    rw [ho] at ha hs
    have hst : s = t := hs s List.mem_cons_self t (List.mem_cons_of_mem s List.mem_cons_self)
    have hlt := (List.pairwise_cons.mp ha).1 t List.mem_cons_self
    rw [hst] at hlt
    exact absurd hlt (lt_irrefl _)

theorem owned_eq_of_mem {s : Subscription Listener} (hs : s ∈ l.owned id) : l.owned id = [s] := by
  obtain ⟨t, ht⟩ :=
    List.length_eq_one_iff.mp (Nat.le_antisymm (h.length_owned_le id) (List.length_pos_of_mem hs))
  rw [ht, List.mem_singleton] at hs
  rw [ht, hs]

/-- Giving up a binding leaves the registrations that the panel did not make. -/
theorem foreign_release {b : Option Binding} (hb : B id = some b) :
    (l.release b).foreign id = l.foreign id := by
  cases b with
  | none => rfl
  | some b =>
    unfold Listeners.foreign Listeners.release Listeners.unsubscribe
    rw [List.filter_filter]
    refine List.filter_congr fun s hs => ?_
    by_cases hi : s.id = b.subscription
    · rw [h.mine id b hb s hs hi]
      simp [Listener.owner?]
    · have hi' : (s.id != b.subscription) = true := by simpa using hi
      rw [hi', Bool.and_true]

theorem foreign_move {b b' : Option Binding} (hb : B id = some b) (hm : Move id l b l' b') :
    l'.foreign id = l.foreign id := by
  cases hm with
  | quiet => rfl
  | release => exact h.foreign_release hb
  | rebind e e' =>
    rw [← h.foreign_release hb]
    unfold Listeners.foreign Listeners.subscribe
    rw [List.filter_append]
    simp [Listener.owner?]

end Ledger

end ListingPanel
