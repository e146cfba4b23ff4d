import ListingPanel.Proofs.Panel.Alike
import ListingPanel.Proofs.View.Reveal
import ListingPanel.Proofs.Workspace.Turn

/-! Two runs side by side, of panels that have been refreshed after whatever histories. What the
panels show from then on is the same. -/
namespace ListingPanel.Workspace

variable {w v : Workspace} {i j : PanelId} {p q : SyncedPanel} {launch launch' : Launcher}

/-! ### Hearing -/

/-- A panel hears of an editor through the registration that it is bound with. -/
theorem Balanced.hears_iff (h : w.Balanced) (hp : w.panel? i = some (.synced p)) {e : EditorId} :
    p.Hears w.host.listeners e ↔
      ∃ s ∈ w.host.listeners.owned i, s.editor = e ∧ p.binding = some ⟨e, s.id⟩ := by
  have hb : w.binding? i = some p.binding := binding?_of_panel? hp
  constructor
  · rintro ⟨b, hpb, rfl, s, hs, hsid, hse⟩
    have hl : s.listener = .panel i b.editor := Ledger.mine h i b (hpb ▸ hb) s hs hsid
    refine ⟨s, Listeners.mem_owned.mpr ⟨hs, by rw [hl]; rfl⟩, hse, ?_⟩
    rw [hsid]
    exact hpb
  · rintro ⟨s, hs, hse, hpb⟩
    exact ⟨_, hpb, rfl, s, (Listeners.mem_owned.mp hs).1, rfl, hse⟩

theorem Balanced.not_hears_of_unbound {l : Listeners Listener} (hp : p.binding = none)
    (e : EditorId) : ¬ p.Hears l e := by
  rintro ⟨b, hb, -⟩
  rw [hp] at hb
  cases hb

/-- A refreshed panel hears of the active editor, unless its listener was put elsewhere. -/
theorem Balanced.hears_refresh (h : w.Balanced) (hd : p.disposed = false) (e : EditorId) :
    (p.refresh launch i w.host).1.Hears (p.refresh launch i w.host).2.listeners e ↔
      w.host.activeEditor = some e ∧ w.host.misroute.getD e = e := by
  have hr := p.renewed_refresh launch i w.host hd
  have hb := hr.binding
  have hl := hr.listeners
  cases ha : w.host.activeEditor with
  | none =>
    rw [ha] at hb
    refine iff_of_false (not_hears_of_unbound hb e) ?_
    rintro ⟨he, -⟩
    cases he
  | some a =>
    rw [ha] at hb hl
    have hlive : (p.refresh launch i w.host).2.listeners.live =
        (w.host.listeners.release p.binding).live ++
          [⟨w.host.listeners.nextId, w.host.misroute.getD a, .panel i a⟩] := by
      rw [hl]
      dsimp only [Listeners.subscribe]
      rw [Listeners.release_nextId]
    unfold SyncedPanel.Hears
    rw [hb, hlive]
    constructor
    · rintro ⟨b, hb, rfl, s, hs, hsid, hse⟩
      cases hb
      refine ⟨rfl, ?_⟩
      rcases List.mem_append.mp hs with hs | hs
      · -- older registrations have smaller identifiers
        have hlt := (h.shrink_release p.binding).lt_nextId hs
        rw [Listeners.release_nextId] at hlt
        exact absurd hsid hlt.ne
      · rw [List.mem_singleton.mp hs] at hse
        exact hse
    · rintro ⟨he, hm⟩
      cases he
      exact ⟨_, rfl, rfl, _, List.mem_append_right _ (List.mem_singleton_self _), rfl, hm⟩

/-! ### What happens to both panels, and what to neither -/

/-- Panel `i` of one workspace and panel `j` of another are alike, and hear of the same editor. -/
structure Twins (i j : PanelId) (w v : Workspace) (p q : SyncedPanel) : Prop where
  left : w.panel? i = some (.synced p)
  right : v.panel? j = some (.synced q)
  alike : p.Alike q
  hears : ∀ e, p.Hears w.host.listeners e ↔ q.Hears v.host.listeners e

/-- The subscription that a panel is bound with. -/
def subscription? (w : Workspace) (id : PanelId) : Option SubscriptionId :=
  (w.binding? id).join.map (·.subscription)

/-- The panels refresh from the same sight, and their listeners are put under the same editors. -/
def SameFind (launch launch' : Launcher) (w v : Workspace) (p : SyncedPanel) : Prop :=
  p.source.SameSight launch launch' w.host v.host ∧ v.host.misroute = w.host.misroute

/-- The same happens to two panels. -/
inductive SameTurn (i j : PanelId) (w v : Workspace) : Action → Action → Prop where
  | refresh (launch launch' : Launcher)
    (hs : ∀ p, w.panel? i = some (.synced p) → p.disposed = false →
      SameFind launch launch' w v p) :
    SameTurn i j w v (.refresh launch i) (.refresh launch' j)
  | handle (launch launch' : Launcher) (e : HostEvent)
    (hs : ∀ p, w.panel? i = some (.synced p) → p.heeds e = true →
      SameFind launch launch' w v p) :
    SameTurn i j w v (.handle launch i e) (.handle launch' j e)
  | dispose : SameTurn i j w v (.dispose i) (.dispose j)
  | settle : SameTurn i j w v (.settle i) (.settle j)
  | resize (height : Nat) : SameTurn i j w v (.resize i height) (.resize j height)
  /-- An event is reported, of whatever editor. -/
  | report (a b : Action) (e : EditorEvent) (ha : a.event? = some e) (hb : b.event? = some e) :
    SameTurn i j w v a b
  /-- The hosts take the panels' registrations away. -/
  | detach (m n : SubscriptionId) (hm : w.subscription? i = some m)
    (hn : v.subscription? j = some n) : SameTurn i j w v (.unsubscribe m) (.unsubscribe n)

/-- An action that does not concern a panel: no act of its own, no event, and nothing that takes its
registration away. -/
structure Apart (w : Workspace) (id : PanelId) (a : Action) : Prop where
  actor : a.actor? ≠ some id
  event : a.event? = none
  registration : ∀ n, a = .unsubscribe n → w.subscription? id ≠ some n

/-- Two runs in which the same happens to panel `i` of the one and panel `j` of the other. -/
inductive Alongside (i j : PanelId) :
    Workspace → List Action → Workspace → List Action → Prop where
  | nil (w v : Workspace) : Alongside i j w [] v []
  | both {w v : Workspace} {a b : Action} {as bs : List Action} (h : SameTurn i j w v a b)
    (hr : Alongside i j (w.step a) as (v.step b) bs) : Alongside i j w (a :: as) v (b :: bs)
  | left {w v : Workspace} {a : Action} {as bs : List Action} (h : w.Apart i a)
    (hr : Alongside i j (w.step a) as v bs) : Alongside i j w (a :: as) v bs
  | right {w v : Workspace} {b : Action} {as bs : List Action} (h : v.Apart j b)
    (hr : Alongside i j w as (v.step b) bs) : Alongside i j w as v (b :: bs)

/-! ### One turn -/

/-- What does not concern a panel leaves its registrations. -/
theorem Apart.owned (hw : w.Reachable) (hp : w.panel? i = some (.synced p)) {a : Action}
    (ha : w.Apart i a) : (w.step a).host.listeners.owned i = w.host.listeners.owned i := by
  cases hact : a.actor? with
  | some k =>
    have hk : k ≠ i := fun hk => ha.actor (hk ▸ hact)
    exact Listeners.owned_congr (hw.balanced.foreign_acted (acted_step hact)) hk
  | none =>
    cases a with
    | openSynced _ _ _ | openPlain _ _ _ => rfl
    | subscribe e tag =>
      change (w.host.listeners.subscribe _ (.other tag)).owned i = _
      unfold Listeners.owned Listeners.subscribe
      rw [List.filter_append]
      simp [Listener.owner?]
    | unsubscribe n =>
      change (w.host.listeners.unsubscribe n).owned i = _
      unfold Listeners.owned Listeners.unsubscribe
      rw [List.filter_filter]
      refine List.filter_congr fun s hs => ?_
      by_cases ho : s.listener.owner? = some i
      · -- the registration of the panel is the one that it is bound with
        obtain ⟨e, hb⟩ := hw.balanced.mem_owned hp (Listeners.mem_owned.mpr ⟨hs, ho⟩)
        have hne : s.id ≠ n := by
          rintro rfl
          refine ha.registration s.id rfl ?_
          unfold subscription?
          rw [binding?_of_panel? hp, hb]
          rfl
        simp [hne]
      · simp [ho]
    | change c =>
      change (w.host.apply c).listeners.owned i = _
      rw [Host.apply_listeners]
    | select _ _ | dispatch _ => cases ha.event
    | refresh _ _ | handle _ _ _ | dispose _ | remove _ _ | settle _ | resize _ _ => cases hact

/-- What does not concern a panel leaves it, and what it hears of. -/
theorem Apart.keeps (hw : w.Reachable) (hp : w.panel? i = some (.synced p)) {a : Action}
    (ha : w.Apart i a) : (w.step a).panel? i = some (.synced p) ∧
      ∀ e, p.Hears (w.step a).host.listeners e ↔ p.Hears w.host.listeners e := by
  have hpanel : (w.step a).panel? i = some (.synced p) := by
    rcases panel?_step_quiet hw ha.actor ha.event with hs | ⟨hn, -⟩
    · exact hs.trans hp
    · rw [hn] at hp
      cases hp
  refine ⟨hpanel, fun e => ?_⟩
  rw [(hw.step a).balanced.hears_iff hpanel, hw.balanced.hears_iff hp, ha.owned hw hp]

/-- The panel has become `r.1`, and its host `r.2`. -/
private def Became (i : PanelId) (w' : Workspace) (r : SyncedPanel × Host) : Prop :=
  w'.panel? i = some (.synced r.1) ∧ w'.host = r.2

private theorem Became.twins {w' v' : Workspace} {r s : SyncedPanel × Host} (hl : Became i w' r)
    (hr : Became j v' s) (ha : r.1.Alike s.1)
    (hh : ∀ e, r.1.Hears r.2.listeners e ↔ s.1.Hears s.2.listeners e) :
    ∃ p' q', Twins i j w' v' p' q' :=
  ⟨r.1, s.1, hl.1, hr.1, ha, by rw [hl.2, hr.2]; exact hh⟩

section Turn
variable (hw : w.Reachable) (hv : v.Reachable) (h : Twins i j w v p q)

section Refresh
include hw hv

/-- Refreshed panels hear the same. -/
private theorem hears_refresh_iff (hpd : p.disposed = false) (hqd : q.disposed = false)
    (he : v.host.activeEditor = w.host.activeEditor) (hm : v.host.misroute = w.host.misroute)
    (e : EditorId) :
    (p.refresh launch i w.host).1.Hears (p.refresh launch i w.host).2.listeners e ↔
      (q.refresh launch' j v.host).1.Hears (q.refresh launch' j v.host).2.listeners e := by
  rw [hw.balanced.hears_refresh hpd, hv.balanced.hears_refresh hqd, he, hm]

include h in
private theorem Twins.refreshed {w' v' : Workspace} (hd : p.disposed = false)
    (hs : SameFind launch launch' w v p) (hl : Became i w' (p.refresh launch i w.host))
    (hr : Became j v' (q.refresh launch' j v.host)) : ∃ p' q', Twins i j w' v' p' q' := by
  obtain ⟨c, d, n, hp, hq⟩ := h.alike.configured
  have hqd : q.disposed = false := h.alike.disposed.trans hd
  exact hl.twins hr (hp.alike_refresh hq hd hqd hs.1)
    (hears_refresh_iff hw hv hd hqd hs.1.activeEditor hs.2)

include h in
private theorem Twins.report {a b : Action} {e : EditorEvent} (ha : a.event? = some e)
    (hb : b.event? = some e) : ∃ p' q', Twins i j (w.step a) (v.step b) p' q' := by
  obtain ⟨hwh, hears, deaf⟩ := step_event_isolated hw ha
  obtain ⟨hvh, hears', deaf'⟩ := step_event_isolated hv hb
  by_cases hh : p.Hears w.host.listeners e.editor
  · obtain ⟨-, p', hp', rfl, -⟩ := hears i p h.left hh
    obtain ⟨-, q', hq', rfl, -⟩ := hears' j q h.right ((h.hears _).mp hh)
    refine ⟨_, _, hp', hq', h.alike.operate (.follow e.lines), ?_⟩
    rw [hwh, hvh]
    exact h.hears
  · have hp' := deaf i fun r hr => by
      rw [h.left] at hr
      cases hr
      exact hh
    have hq' := deaf' j fun r hr => by
      rw [h.right] at hr
      cases hr
      exact (not_congr (h.hears _)).mp hh
    refine ⟨p, q, hp'.trans h.left, hq'.trans h.right, h.alike, ?_⟩
    rw [hwh, hvh]
    exact h.hears

end Refresh

/-- Without its registration, a panel hears of nothing. -/
private theorem not_hears_unsubscribe {l : Listeners Listener} {n : SubscriptionId}
    (hp : w.panel? i = some (.synced p)) (hn : w.subscription? i = some n) (e : EditorId) :
    ¬ p.Hears (l.unsubscribe n) e := by
  rintro ⟨b, hb, -, s, hs, hsid, -⟩
  have hpb : Panel.binding? (.synced p) = some b := hb
  unfold subscription? at hn
  rw [binding?_of_panel? hp, hpb] at hn
  obtain rfl : b.subscription = n := Option.some.inj hn
  have hne := (List.mem_filter.mp hs).2
  simp [hsid] at hne

private theorem hears_dispose (hd : p.disposed = false) {l : Listeners Listener} {h : Host}
    (e : EditorId) : ¬ (p.dispose h).1.Hears l e := by
  refine Balanced.not_hears_of_unbound ?_ e
  unfold SyncedPanel.dispose
  rw [if_neg (by simp [hd])]
  rfl

include hw hv h in
theorem Twins.turn {a b : Action} (ht : SameTurn i j w v a b) :
    ∃ p' q', Twins i j (w.step a) (v.step b) p' q' := by
  cases ht with
  | refresh launch launch' hs =>
    have hl : Became i (w.step (.refresh launch i)) (p.refresh launch i w.host) :=
      act_synced h.left rfl
    have hr : Became j (v.step (.refresh launch' j)) (q.refresh launch' j v.host) :=
      act_synced h.right rfl
    cases hd : p.disposed with
    | false => exact h.refreshed hw hv hd (hs p h.left hd) hl hr
    | true =>
      rw [SyncedPanel.refresh_of_disposed launch i p w.host hd] at hl
      rw [SyncedPanel.refresh_of_disposed launch' j q v.host (h.alike.disposed.trans hd)] at hr
      exact hl.twins hr h.alike h.hears
  | handle launch launch' e hs =>
    have hl : Became i (w.step (.handle launch i e)) (p.handle launch i w.host e) :=
      act_synced h.left rfl
    have hr : Became j (v.step (.handle launch' j e)) (q.handle launch' j v.host e) :=
      act_synced h.right rfl
    rw [SyncedPanel.handle_eq] at hl hr
    rw [h.alike.heeds e] at hr
    cases he : p.heeds e with
    | true =>
      rw [he, if_pos rfl] at hl hr
      exact h.refreshed hw hv (SyncedPanel.disposed_of_heeds he) (hs p h.left he) hl hr
    | false =>
      rw [he, if_neg (by simp)] at hl hr
      exact hl.twins hr h.alike h.hears
  | dispose =>
    have hl : Became i (w.step (.dispose i)) (p.dispose w.host) := act_synced h.left rfl
    have hr : Became j (v.step (.dispose j)) (q.dispose v.host) := act_synced h.right rfl
    refine hl.twins hr h.alike.dispose fun e => ?_
    cases hd : p.disposed with
    | true =>
      have hqd : q.disposed = true := h.alike.disposed.trans hd
      simp only [SyncedPanel.dispose, hd, hqd, if_true]
      exact h.hears e
    | false =>
      have hqd : q.disposed = false := h.alike.disposed.trans hd
      exact iff_of_false (hears_dispose hd e) (hears_dispose hqd e)
  | settle =>
    have hl : Became i (w.step (.settle i)) (p.settle, w.host) := act_synced h.left rfl
    have hr : Became j (v.step (.settle j)) (q.settle, v.host) := act_synced h.right rfl
    exact hl.twins hr (h.alike.operate .settle) h.hears
  | resize n =>
    have hl : Became i (w.step (.resize i n)) (p.resize n, w.host) := act_synced h.left rfl
    have hr : Became j (v.step (.resize j n)) (q.resize n, v.host) := act_synced h.right rfl
    exact hl.twins hr (h.alike.operate (.resize n)) h.hears
  | report _ _ e ha hb => exact h.report hw hv ha hb
  | detach m n hm hn =>
    exact ⟨p, q, h.left, h.right, h.alike, fun e =>
      iff_of_false (not_hears_unsubscribe h.left hm e) (not_hears_unsubscribe h.right hn e)⟩

end Turn

/-! ### Runs -/

theorem Twins.alongside (hw : w.Reachable) (hv : v.Reachable) (h : Twins i j w v p q)
    {as bs : List Action} (hr : Alongside i j w as v bs) :
    ∃ p' q', Twins i j (w.run as) (v.run bs) p' q' := by
  induction hr generalizing p q with
  | nil w v => exact ⟨p, q, h⟩
  | both ht _ ih =>
    obtain ⟨p', q', h'⟩ := h.turn hw hv ht
    exact ih (hw.step _) (hv.step _) h'
  | left ha _ ih =>
    obtain ⟨hp, hh⟩ := ha.keeps hw h.left
    exact ih (hw.step _) hv ⟨hp, h.right, h.alike, fun e => (hh e).trans (h.hears e)⟩
  | right hb _ ih =>
    obtain ⟨hq, hh⟩ := hb.keeps hv h.right
    exact ih hw (hv.step _) ⟨h.left, hq, h.alike, fun e => (h.hears e).trans (hh e).symm⟩

/-- A registration of the panel with the next identifier. -/
def renumber (i : PanelId) (s : Subscription Listener) : Subscription Listener :=
  if s.listener.owner? = some i then { s with id := s.id + 1 } else s

/-- A second refresh puts the panel's registration where it was, under the next identifier. -/
theorem refresh_refresh_host (hw : w.Reachable) (hp : w.panel? i = some (.synced p))
    (hd : p.disposed = false) (launch launch' : Launcher) :
    let r := p.refresh launch i w.host
    let s := r.1.refresh launch' i r.2
    s.1.binding = r.1.binding.map (fun b => { b with subscription := b.subscription + 1 }) ∧
      s.2.listeners.live = r.2.listeners.live.map (renumber i) := by
  intro r s
  have hb : w.binding? i = some p.binding := binding?_of_panel? hp
  have hother : (w.host.listeners.release p.binding).live.map (renumber i) =
      (w.host.listeners.release p.binding).live :=
    (List.map_congr_left fun s hs => if_neg (Ledger.owner_release hw.balanced hb s hs)).trans
      (List.map_id _)
  have hr : p.Renewed launch i w.host r := p.renewed_refresh launch i w.host hd
  have hs : r.1.Renewed launch' i r.2 s :=
    r.1.renewed_refresh launch' i r.2 ((p.disposed_refresh launch i w.host).trans hd)
  have hrb := hr.binding
  have hrl := hr.listeners
  have hsb := hs.binding
  have hsl := hs.listeners
  obtain ⟨l, m, k, hhost⟩ := p.refresh_host launch i w.host
  have hactive : r.2.activeEditor = w.host.activeEditor := by
    change (p.refresh launch i w.host).2.activeEditor = _
    rw [hhost]
  have hroute : r.2.misroute = w.host.misroute := by
    change (p.refresh launch i w.host).2.misroute = _
    rw [hhost]
  rw [hactive] at hsb hsl
  cases ha : w.host.activeEditor with
  | none =>
    rw [ha] at hrb hrl hsb hsl
    rw [hsb, hrb, hsl, hrb, hrl]
    exact ⟨rfl, hother.symm⟩
  | some e =>
    rw [ha] at hrb hrl hsb hsl
    have hnext : r.2.listeners.nextId = w.host.listeners.nextId + 1 := by
      rw [hrl, ← w.host.listeners.release_nextId p.binding]
      rfl
    refine ⟨by rw [hsb, hrb, hnext]; rfl, ?_⟩
    have hlt : ∀ s ∈ (w.host.listeners.release p.binding).live,
        s.id < (w.host.listeners.release p.binding).nextId := fun s hs =>
      (Ledger.shrink_release hw.balanced p.binding).lt_nextId hs
    rw [← w.host.listeners.release_nextId p.binding] at hrb
    rw [hsl, hrb, hroute, hrl]
    generalize w.host.listeners.release p.binding = l at hother hlt
    have hgone : ((l.subscribe (w.host.misroute.getD e) (.panel i e)).unsubscribe l.nextId).live =
        l.live := Listeners.unsubscribe_subscribe hlt _ _
    change ((l.subscribe _ _).unsubscribe l.nextId).live ++ _ = (l.live ++ _).map (renumber i)
    rw [hgone, List.map_append, hother]
    simp [renumber, Listener.owner?, Listeners.nextId, Listeners.subscribe, Listeners.release,
      Listeners.unsubscribe]

theorem Twins.of_refresh (hw : w.Reachable) (hv : v.Reachable)
    (hp : w.panel? i = some (.synced p)) (hq : v.panel? j = some (.synced q))
    (hpd : p.disposed = false) (hqd : q.disposed = false)
    (ha : (p.refresh launch i w.host).1.Alike (q.refresh launch' j v.host).1)
    (he : v.host.activeEditor = w.host.activeEditor) (hm : v.host.misroute = w.host.misroute) :
    Twins i j (w.refresh launch i) (v.refresh launch' j) (p.refresh launch i w.host).1
      (q.refresh launch' j v.host).1 := by
  have hl : Became i (w.refresh launch i) (p.refresh launch i w.host) := act_synced hp rfl
  have hr : Became j (v.refresh launch' j) (q.refresh launch' j v.host) := act_synced hq rfl
  refine ⟨hl.1, hr.1, ha, ?_⟩
  rw [hl.2, hr.2]
  exact hears_refresh_iff hw hv hpd hqd he hm

/-- The panels show the same, and settling answers the same, after all runs side by side. -/
def StayAlike (i j : PanelId) (w v : Workspace) : Prop :=
  ∀ as bs, Alongside i j w as v bs → ∃ p q, (w.run as).panel? i = some (.synced p) ∧
    (v.run bs).panel? j = some (.synced q) ∧ p.Alike q ∧ q.view.moves = p.view.moves

theorem Twins.stayAlike (hw : w.Reachable) (hv : v.Reachable) (h : Twins i j w v p q) :
    StayAlike i j w v := by
  intro as bs hr
  obtain ⟨p', q', h'⟩ := h.alongside hw hv hr
  exact ⟨p', q', h'.left, h'.right, h'.alike, h'.alike.view.moves⟩

/-- All that distinguishes `v` from `w` is the identifier of the subscription of panel `i`, which is
the next one. -/
structure Renumbered (i : PanelId) (w v : Workspace) (p q : SyncedPanel) : Prop where
  panel : v.panel? i = some (.synced q)
  alike : p.Alike q
  binding : q.binding = p.binding.map fun b => { b with subscription := b.subscription + 1 }
  live : v.host.listeners.live = w.host.listeners.live.map (renumber i)
  others : ∀ k, k ≠ i → v.panel? k = w.panel? k
  stayAlike : StayAlike i i w v

/-- A second refresh in a row finds what the first has found. -/
theorem renumbered_refresh {c : Config} {d : Disassembler} {height : Nat} (hw : w.Reachable)
    (hp : w.panel? i = some (.synced p)) (hd : p.disposed = false)
    (hc : p.Configured c d height)
    (hs : p.source.SameSight launch launch' w.host (w.refresh launch i).host) :
    ∃ q, Renumbered i (w.refresh launch i) ((w.refresh launch i).refresh launch' i)
      (p.refresh launch i w.host).1 q := by
  have hwr : (w.refresh launch i).Reachable := hw.step (.refresh launch i)
  have hd' : (p.refresh launch i w.host).1.disposed = false :=
    (p.disposed_refresh launch i w.host).trans hd
  obtain ⟨hl, hlh⟩ : Became i (w.refresh launch i) (p.refresh launch i w.host) :=
    act_synced hp rfl
  obtain ⟨hr, hrh⟩ : Became i ((w.refresh launch i).refresh launch' i)
      ((p.refresh launch i w.host).1.refresh launch' i (w.refresh launch i).host) :=
    act_synced hl rfl
  have ha : (p.refresh launch i w.host).1.Alike
      ((p.refresh launch i w.host).1.refresh launch' i (w.refresh launch i).host).1 :=
    hc.alike_refresh (hc.refresh launch i w.host) hd hd' hs
  have hm : (w.refresh launch i).host.misroute = w.host.misroute :=
    (akin_step (a := .refresh launch i) rfl).misroute
  have htwins := Twins.of_refresh hw hwr hp hl hd hd' ha hs.activeEditor hm
  obtain ⟨hb, hlive⟩ := refresh_refresh_host hw hp hd launch launch'
  rw [← hlh] at hb hlive
  rw [← hrh] at hlive
  exact ⟨_, hr, ha, hb, hlive, fun k hk => panel?_step_of_ne (a := .refresh launch' i) rfl hk,
    htwins.stayAlike hwr (hwr.step (.refresh launch' i))⟩

/-- Two panels of the same settings and height that refresh at hosts where they find the same show
the same, each from the start of its text, whatever they have been through, and go on showing the
same in all runs side by side. A second refresh in a row changes nothing but the identifier of the
panel's subscription. -/
theorem alike_of_refresh {c : Config} {d : Disassembler} {height : Nat} (hw : w.Reachable)
    (hv : v.Reachable) (hp : w.panel? i = some (.synced p)) (hq : v.panel? j = some (.synced q))
    (hpd : p.disposed = false) (hqd : q.disposed = false) (hpc : p.Configured c d height)
    (hqc : q.Configured c d height) (hs : p.source.SameSight launch launch' w.host v.host) :
    ∃ p' q', (w.refresh launch i).panel? i = some (.synced p') ∧
      (v.refresh launch' j).panel? j = some (.synced q') ∧ p'.Alike q' ∧
      p'.view.top = 0 ∧ q'.view.top = 0 ∧
      (v.host.misroute = w.host.misroute →
        StayAlike i j (w.refresh launch i) (v.refresh launch' j)) ∧
      ∀ again, p.source.SameSight launch again w.host (w.refresh launch i).host →
        ∃ p'', Renumbered i (w.refresh launch i) ((w.refresh launch i).refresh again i) p' p'' := by
  have hl : Became i (w.refresh launch i) (p.refresh launch i w.host) := act_synced hp rfl
  have hr : Became j (v.refresh launch' j) (q.refresh launch' j v.host) := act_synced hq rfl
  have ha : (p.refresh launch i w.host).1.Alike (q.refresh launch' j v.host).1 :=
    hpc.alike_refresh hqc hpd hqd hs
  refine ⟨_, _, hl.1, hr.1, ha, p.top_refresh launch i w.host hpd,
    q.top_refresh launch' j v.host hqd, fun hm => ?_, fun again hs' => ?_⟩
  · have htwins := Twins.of_refresh hw hv hp hq hpd hqd ha hs.activeEditor hm
    exact htwins.stayAlike (hw.step (.refresh launch i)) (hv.step (.refresh launch' j))
  · exact renumbered_refresh hw hp hpd hpc hs'

/-- One panel is new. The other has shown another text in another size, has been scrolled and still
highlights something of it that it has to scroll to, bound to another editor, next to a plain panel.
After a refresh of both, an event and a listener that comes to one of the hosts, they still show the
same. -/
theorem alike_of_refresh_histories :
    let listing := "  1 A\n    B\n  2 C\n    D\n"
    let other := "  1 A\n  2 B\n    C\n  3 D\n  4 E\n  5 F\n  6 G\n  7 H\n  8 I\n  9 J\n"
    let launch := printing listing
    let d : Disassembler := .ofConfig {}
    let h : Host := { Host.bare with activeEditor := some 1, selections := [(1, { caret := 2 })] }
    let k : Host := { h with
      activeEditor := some 3, selections := [(3, { caret := 1 }), (1, { caret := 2 })] }
    let w := run { host := h } [.openSynced {} d 4]
    let v := run { host := k } [.openPlain {} d 4, .openSynced {} d 2, .refresh (printing other) 1,
      .resize 1 4, .select 3 { caret := 9 }, .settle 1, .select 3 { caret := 2 },
      .change (.activate (some 1))]
    ∃ p q, (w.panel? 0 = some (.synced p) ∧ p.binding = none ∧ p.view.highlighted = []) ∧
      (v.panel? 1 = some (.synced q) ∧ q.binding = some ⟨3, 1⟩ ∧ q.view.highlighted = [(1, 2)] ∧
        q.view.pending.map (·.block) = some ⟨2, 1, 2⟩ ∧ q.view.top = 6) ∧
      p.source.SameSight launch launch w.host v.host ∧
      ∃ p' q', (w.refresh launch 0).panel? 0 = some (.synced p') ∧
        (v.refresh launch 1).panel? 1 = some (.synced q') ∧
        p'.view.highlighted = [(2, 3)] ∧ p'.Alike q' ∧
        (∃ p₂ q₂, ((w.refresh launch 0).run [.select 1 { caret := 3 }, .settle 0]).panel? 0 =
            some (.synced p₂) ∧
          ((v.refresh launch 1).run
            [.subscribe 1 7, .select 1 { caret := 3 }, .settle 1]).panel? 1 =
              some (.synced q₂) ∧ p₂.Alike q₂) ∧
        ∃ p'', Renumbered 0 (w.refresh launch 0) ((w.refresh launch 0).refresh launch 0)
          p' p'' := by
  intro listing other launch d h k w v
  have hw : w.Reachable := (Reachable.start h rfl).run _
  have hv : v.Reachable := (Reachable.start k rfl).run _
  let p : SyncedPanel := .fresh {} d 4
  let plain : PlainPanel := .fresh {} d 4
  -- the second panel once it has the other text, and after its scrolling
  let u₀ := ((SyncedPanel.fresh {} d 2).view.clear.setText other).follow (.single 1)
  let u := ((u₀.resize 4).follow (.single 9)).settle.follow (.single 2)
  let k₀ : Host := { k with listeners := ⟨1, [⟨1, 3, .panel 1 3⟩]⟩, resolutions := 1 }
  let k₁ : Host := { k₀ with
    activeEditor := some 1, selections := [(3, { caret := 2 }), (1, { caret := 2 })] }
  have hother : (run { host := k } [.openPlain {} d 4, .openSynced {} d 2]).refresh
      (printing other) 1 = ⟨k₀, [(0, .plain plain), (1, .synced (.bare u₀ (some ⟨3, 1⟩)))], 2⟩ :=
    (refresh_printing (p := .fresh {} d 2) rfl (Host.ready_bare.congr rfl rfl rfl rfl) rfl
      isSourceFile_bare other).trans rfl
  have htwo : v = ⟨k₁, [(0, .plain plain), (1, .synced (.bare u (some ⟨3, 1⟩)))], 2⟩ := by
    have hrun : v = (((run { host := k } [.openPlain {} d 4, .openSynced {} d 2]).refresh
        (printing other) 1).run [.resize 1 4, .select 3 { caret := 9 }, .settle 1,
          .select 3 { caret := 2 }, .change (.activate (some 1))]) := by
      simp only [v, run_cons, run_nil, step_refresh]
    rw [hrun, hother]
    rfl
  have hq : v.panel? 1 = some (.synced (.bare u (some ⟨3, 1⟩))) := by
    rw [htwo]
    rfl
  -- what the other text has left behind
  let u₁ := (u₀.resize 4).follow (.single 9)
  have hblocks : ∀ r, (Index.ofText other.toList).blocksFor r =
      (Index.displayed other.toList).filter (Index.Covering (Index.displayed other.toList) r ·) :=
    Index.blocksFor_of_ascending (by decide) (by decide)
  have hindex : (u₀.resize 4).index = .ofText other.toList := ListingView.follow_index _ _
  have hauto : (u₀.resize 4).autoScroll = true := ListingView.follow_autoScroll _ _
  have hcoherent : u₁.settle.Coherent :=
    ((((ListingView.coherent_setText _ other).act (.follow (.single 1))).act (.resize 4)).act
      (.follow (.single 9))).settle
  have hlight : u.highlighted = [(1, 2)] := by
    have ht : u₁.settle.surface.text = other := by
      rw [ListingView.settle_text]
      exact (ListingView.follow_text _ _).trans (ListingView.follow_text _ _)
    rw [hcoherent.highlighted_follow, ht]
    exact (Index.ranges_blocksFor (by decide) _).trans (by decide)
  have hpending : u.pending.map (·.block) = some ⟨2, 1, 2⟩ := by
    have ha : u₁.settle.autoScroll = true := by
      rw [ListingView.settle_autoScroll, ListingView.follow_autoScroll, hauto]
    rw [ListingView.block_follow _ _ ha, ListingView.settle_index, ListingView.follow_index, hindex,
      hblocks]
    decide
  have hviewport : u.surface.viewport = { top := 6, height := 4, lineCount := 10 } := by
    have hblock : ((u₀.resize 4).index.blocksFor (.single 9)).head? = some ⟨9, 9, 9⟩ := by
      rw [hindex, hblocks]
      decide
    rw [ListingView.follow_viewport, ListingView.viewport_settle_follow hauto hblock]
    change (u₀.surface.viewport.resize 4).reveal _ = _
    rw [ListingView.follow_viewport]
    decide +kernel
  have hconfigured : (SyncedPanel.bare u (some ⟨3, 1⟩)).Configured {} d 4 := by
    refine ⟨rfl, ?_, ?_, congrArg Viewport.height hviewport⟩
    · change u.autoScroll = true
      rw [ListingView.follow_autoScroll, ListingView.settle_autoScroll,
        ListingView.follow_autoScroll, hauto]
    · change u.surface.highlightColor = _
      rw [ListingView.follow_highlightColor, ListingView.settle_highlightColor,
        ListingView.follow_highlightColor]
      exact ListingView.follow_highlightColor _ _
  -- the first panel once it is refreshed
  let v₀ := (p.view.clear.setText listing).follow (.single 2)
  let h₀ : Host := { h with listeners := ⟨1, [⟨1, 1, .panel 0 1⟩]⟩, resolutions := 1 }
  have hone : w.refresh launch 0 = ⟨h₀, [(0, .synced (.bare v₀ (some ⟨1, 1⟩)))], 1⟩ :=
    (refresh_printing (p := p) rfl (Host.ready_bare.congr rfl rfl rfl rfl) rfl isSourceFile_bare
      listing).trans rfl
  have hs : p.source.SameSight launch launch w.host v.host := by
    rw [htwo]
    exact ⟨rfl, rfl, fun _ _ => rfl, rfl, fun e he => by cases he; rfl, fun _ _ _ _ _ _ => rfl⟩
  have hs' : p.source.SameSight launch launch w.host (w.refresh launch 0).host := by
    rw [hone]
    exact ⟨rfl, rfl, fun _ _ => rfl, rfl, fun _ _ => rfl, fun _ _ _ _ _ _ => rfl⟩
  obtain ⟨p', q', hp', hq', ha, -, -, hrun, htwice⟩ :=
    @alike_of_refresh w v 0 1 p _ launch launch {} d 4 hw hv rfl hq rfl rfl ⟨rfl, rfl, rfl, rfl⟩
      hconfigured hs
  have hlight' : p'.view.highlighted = [(2, 3)] := by
    rw [hone] at hp'
    obtain rfl : SyncedPanel.bare v₀ (some ⟨1, 1⟩) = p' := Panel.synced.inj (Option.some.inj hp')
    change v₀.highlighted = _
    rw [(ListingView.coherent_setText _ _).highlighted_follow]
    exact (Index.ranges_blocksFor (by decide) _).trans (by decide)
  refine ⟨p, _, ⟨rfl, rfl, rfl⟩, ⟨hq, rfl, hlight, hpending, congrArg Viewport.top hviewport⟩, hs,
    p', q', hp', hq', hlight', ha, ?_, htwice launch hs'⟩
  have hroute : v.host.misroute = w.host.misroute := by
    rw [htwo]
    rfl
  obtain ⟨p₂, q₂, hp₂, hq₂, ha₂, -⟩ := hrun hroute [.select 1 { caret := 3 }, .settle 0]
    [.subscribe 1 7, .select 1 { caret := 3 }, .settle 1]
    (.right ⟨by simp [Action.actor?], rfl, fun n hn => by cases hn⟩
      (.both (.report _ _ (.caretMoved 1 3) rfl rfl) (.both .settle (.nil _ _))))
  exact ⟨p₂, q₂, hp₂, hq₂, ha₂⟩

end ListingPanel.Workspace
