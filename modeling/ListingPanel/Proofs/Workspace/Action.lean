import ListingPanel.Proofs.Association
import ListingPanel.Proofs.Listeners
import ListingPanel.Proofs.Panel.Ledger
import ListingPanel.Proofs.Panel.Printed
import ListingPanel.Workspace

/-! What can happen to a host and its panels, one action after another, and what each action does to
the panels. -/
namespace ListingPanel

/-- Changes of a host that no listener hears of. -/
inductive Host.Change where
  | activate (editor : Option EditorId)
  | chooseFile (file : Option Path)
  | chooseToolchain (toolchain : Option Path)
  | setDocument (file : Path) (text : Option String)
  | setSelection (editor : EditorId) (s : Option Selection)
  | misroute (editor : Option EditorId)
  | setMachine (m : Machine)

def Host.apply (h : Host) : Host.Change → Host
  | .activate e => { h with activeEditor := e }
  | .chooseFile f => { h with file := f }
  | .chooseToolchain t => { h with toolchain := t }
  | .setDocument f t => h.setDocument f t
  | .setSelection e s => h.setSelection e s
  | .misroute e => { h with misroute := e }
  | .setMachine m => { h with machine := m }

@[simp] theorem Host.setSelection_listeners (h : Host) (e : EditorId) (s : Option Selection) :
    (h.setSelection e s).listeners = h.listeners := rfl

@[simp] theorem Host.apply_listeners (h : Host) (c : Host.Change) :
    (h.apply c).listeners = h.listeners := by
  cases c with
  | setDocument f t => unfold apply Host.setDocument; cases h.documents <;> rfl
  | _ => rfl

/-- What a panel becomes when its listener hears of an event. -/
def Listener.tell (e : EditorEvent) (p : Panel) : Listener → Panel
  | panel _ editor => p.receive editor e
  | other _ => p

theorem Panel.Reachable.tell {p : Panel} (hp : p.Reachable) (e : EditorEvent) (l : Listener) :
    (l.tell e p).Reachable := by
  cases l with
  | panel id editor => exact hp.receive editor e
  | other tag => exact hp

namespace Workspace

/-- One thing that happens. A refresh names what starts programs at that time, so that each may get
other listings. -/
inductive Action where
  | openSynced (c : Config) (d : Disassembler) (height : Nat)
  | openPlain (c : Config) (d : Disassembler) (height : Nat)
  | refresh (launch : Launcher) (id : PanelId)
  | handle (launch : Launcher) (id : PanelId) (e : HostEvent)
  | dispose (id : PanelId)
  | remove (id : PanelId) (busy : Bool)
  | settle (id : PanelId)
  | resize (id : PanelId) (height : Nat)
  /-- Stores a selection and reports it. -/
  | select (editor : EditorId) (s : Selection)
  /-- Reports an event, whatever is stored. -/
  | dispatch (e : EditorEvent)
  | subscribe (editor : EditorId) (tag : Nat)
  | unsubscribe (id : SubscriptionId)
  | change (c : Host.Change)

def step (w : Workspace) : Action → Workspace
  | .openSynced c d n => w.insert (.synced (.fresh c d n))
  | .openPlain c d n => w.insert (.plain (.fresh c d n))
  | .refresh launch id => w.refresh launch id
  | .handle launch id e => w.handle launch id e
  | .dispose id => w.dispose id
  | .remove id busy => w.remove id busy
  | .settle id => w.settle id
  | .resize id n => w.resize id n
  | .select e s => w.select e s
  | .dispatch e => w.dispatch e
  | .subscribe e tag => w.setHost (·.subscribe e (.other tag))
  | .unsubscribe n => w.setHost (·.unsubscribe n)
  | .change c => w.setHost (·.apply c)

def run (w : Workspace) (as : List Action) : Workspace := as.foldl step w

theorem step_refresh (w : Workspace) (launch : Launcher) (id : PanelId) :
    w.step (.refresh launch id) = w.refresh launch id := rfl

@[simp] theorem run_nil (w : Workspace) : w.run [] = w := rfl

theorem run_cons (w : Workspace) (a : Action) (as : List Action) :
    w.run (a :: as) = (w.step a).run as := rfl

theorem run_append (w : Workspace) (as bs : List Action) :
    w.run (as ++ bs) = (w.run as).run bs :=
  List.foldl_append ..

/-- The workspaces that actions lead to from a host without listeners and panels. -/
inductive Reachable : Workspace → Prop where
  | start (h : Host) (hl : h.listeners = {}) : Reachable { host := h }
  | step {w : Workspace} (hw : Reachable w) (a : Action) : Reachable (w.step a)

theorem Reachable.run {w : Workspace} (hw : w.Reachable) (as : List Action) :
    (w.run as).Reachable := by
  induction as generalizing w with
  | nil => exact hw
  | cons a as ih => exact ih (hw.step a)

/-! ### Panels by identifier -/

section Panels
variable {w : Workspace} {id j : PanelId}

private theorem lookup_map (l : List (PanelId × Panel)) (f : Panel → Panel) :
    (l.map fun (i, p) => (i, if i = id then f p else p)).lookup j =
      if j = id then (l.lookup j).map f else l.lookup j := by
  induction l with
  | nil => simp
  | cons x l ih =>
    obtain ⟨i, p⟩ := x
    rw [List.map_cons, List.lookup_cons, List.lookup_cons, ih]
    cases h : j == i with
    | false => rfl
    | true =>
      rw [beq_iff_eq] at h
      subst h
      dsimp only
      split_ifs <;> rfl

theorem panel?_modify (f : Panel → Panel) :
    (w.modify id f).panel? j = if j = id then (w.panel? j).map f else w.panel? j :=
  lookup_map w.panels f

theorem panel?_insert (hn : w.panel? w.nextPanel = none) (p : Panel) :
    (w.insert p).panel? j = if j = w.nextPanel then some p else w.panel? j := by
  unfold insert panel?
  rw [List.lookup_append]
  by_cases hj : j = w.nextPanel
  · subst hj
    rw [show w.panels.lookup w.nextPanel = none from hn, if_pos rfl]
    simp
  · have hb : (j == w.nextPanel) = false := by simpa using hj
    rw [if_neg hj]
    simp [List.lookup_cons, hb]

theorem panel?_remove (busy : Bool) :
    (w.remove id busy).panel? j = if j = id then none else w.panel? j := by
  unfold remove
  cases hp : w.panel? id with
  | none =>
    dsimp only
    split_ifs with hj
    · rw [hj, hp]
    · rfl
  | some p => exact lookup_filter_ne w.panels id j

theorem host_remove {p : Panel} (hp : w.panel? id = some p) (busy : Bool) :
    (w.remove id busy).host = p.leave busy w.host := by
  unfold remove
  rw [hp]

theorem remove_of_none (hp : w.panel? id = none) (busy : Bool) : w.remove id busy = w := by
  unfold remove
  rw [hp]

variable {f : Panel → Host → Panel × Host}

theorem act_of_none (hp : w.panel? id = none) : w.act id f = w := by
  unfold act
  rw [hp]

theorem panel?_act {p : Panel} (hp : w.panel? id = some p) :
    (w.act id f).panel? j = if j = id then some (f p w.host).1 else w.panel? j := by
  have hm : (w.act id f).panel? j = (w.modify id fun _ => (f p w.host).1).panel? j := by
    unfold act
    rw [hp]
    rfl
  rw [hm, panel?_modify]
  split_ifs with hj
  · rw [hj, hp, Option.map_some]
  · rfl

theorem host_act {p : Panel} (hp : w.panel? id = some p) :
    (w.act id f).host = (f p w.host).2 := by
  unfold act
  rw [hp]

@[simp] theorem nextPanel_act : (w.act id f).nextPanel = w.nextPanel := by
  unfold act
  cases w.panel? id <;> rfl

@[simp] theorem nextPanel_remove (busy : Bool) : (w.remove id busy).nextPanel = w.nextPanel := by
  unfold remove
  cases w.panel? id <;> rfl

theorem refresh_printing {p : SyncedPanel} {f : Path} (hp : w.panel? id = some (.synced p))
    (hr : w.host.Ready f) (hd : p.disposed = false) (hs : p.source.python.isSourceFile f = true)
    (text : String) :
    w.refresh (printing text) id = w.actSynced id fun p h => p.present text f id h := by
  unfold refresh actSynced act
  rw [hp]
  dsimp only [Panel.refresh]
  rw [SyncedPanel.refresh_printing hr hd hs]

/-! ### Events -/

variable {e : EditorEvent}

theorem dispatch_eq (w : Workspace) (e : EditorEvent) :
    w.dispatch e = (w.reached e).foldl (notify · e) w :=
  congrArg Prod.fst (w.host.listeners.dispatch_eq _ e w)

private theorem foldl_notify (id : PanelId) (ls : List Listener) (w : Workspace) :
    (ls.foldl (notify · e) w).host = w.host ∧
      (ls.foldl (notify · e) w).nextPanel = w.nextPanel ∧
      (ls.foldl (notify · e) w).panel? id = (w.panel? id).map fun p =>
        (ls.filter (·.owner? == some id)).foldl (fun p l => l.tell e p) p := by
  induction ls generalizing w with
  | nil => simp
  | cons l ls ih =>
    obtain ⟨hh, hn, hp⟩ := ih (w.notify e l)
    rw [List.foldl_cons, hh, hn, hp]
    cases l with
    | other tag => exact ⟨rfl, rfl, rfl⟩
    | panel i editor =>
      refine ⟨rfl, rfl, ?_⟩
      change ((w.modify i (·.receive editor e)).panel? id).map _ = _
      rw [panel?_modify]
      by_cases hi : id = i
      · subst hi
        cases w.panel? id <;> simp [Listener.owner?, Listener.tell]
      · have hb : (Listener.panel i editor).owner? ≠ some id := by
          simpa [Listener.owner?] using Ne.symm hi
        rw [if_neg hi, List.filter_cons_of_neg (by simpa using hb)]

@[simp] theorem host_dispatch : (w.dispatch e).host = w.host := by
  rw [dispatch_eq]
  exact (foldl_notify 0 _ w).1

@[simp] theorem nextPanel_dispatch : (w.dispatch e).nextPanel = w.nextPanel := by
  rw [dispatch_eq]
  exact (foldl_notify 0 _ w).2.1

/-- Of an event, a panel hears through its registrations for the event's editor. -/
theorem panel?_dispatch :
    (w.dispatch e).panel? id = (w.panel? id).map fun p =>
      ((w.host.listeners.owned id).filter (·.editor == e.editor)).foldl
        (fun p s => s.listener.tell e p) p := by
  have hl : ((w.reached e).filter (·.owner? == some id)) =
      ((w.host.listeners.owned id).filter (·.editor == e.editor)).map (·.listener) := by
    unfold reached Listeners.listening Listeners.owned
    rw [List.filter_map, List.filter_filter, List.filter_filter]
    exact congrArg _ (List.filter_congr fun s _ => Bool.and_comm _ _)
  rw [dispatch_eq, (foldl_notify id _ w).2.2, hl]
  simp only [List.foldl_map]

end Panels

/-! ### Operations of panels -/

/-- The panel whose own operation an action is. -/
def Action.actor? : Action → Option PanelId
  | .refresh _ id | .handle _ id _ | .dispose id | .remove id _ | .settle id | .resize id _ =>
    some id
  | _ => none

/-- One panel operates, if there is one. -/
def ActsAs (w w' : Workspace) (id : PanelId) : Prop :=
  ∃ f, (∀ p h, Panel.Operated id p h (f p h)) ∧ w' = w.act id f

private theorem actsAs_actSynced (w : Workspace) (id : PanelId)
    {f : SyncedPanel → Host → SyncedPanel × Host}
    (hf : ∀ p h, Panel.Operated id (.synced p) h (.synced (f p h).1, (f p h).2)) :
    ActsAs w (w.actSynced id f) id := by
  refine ⟨_, fun p h => ?_, rfl⟩
  cases p with
  | synced p => exact hf p h
  | plain p => exact .refl id _ h

/-- What a panel does itself, other than to go, it does as a panel operates. -/
theorem actsAs_step (w : Workspace) {a : Action} {id : PanelId} (ha : a.actor? = some id)
    (hr : ∀ busy, a ≠ .remove id busy) : ActsAs w (w.step a) id := by
  cases a with
  | refresh launch i =>
    cases ha
    exact ⟨_, fun p h => p.operated_refresh launch id h, rfl⟩
  | handle launch i e =>
    cases ha
    exact w.actsAs_actSynced id fun p h => p.operated_handle launch id h e
  | dispose i =>
    cases ha
    exact w.actsAs_actSynced id fun p h => p.operated_dispose id h
  | remove i busy =>
    cases ha
    exact absurd rfl (hr busy)
  | settle i =>
    cases ha
    exact w.actsAs_actSynced id (f := fun p h => (p.settle, h)) fun p h =>
      ⟨fun hp => .settle hp, .quiet, rfl, rfl⟩
  | resize i n =>
    cases ha
    exact w.actsAs_actSynced id (f := fun p h => (p.resize n, h)) fun p h =>
      ⟨fun hp => .resize hp n, .quiet, rfl, rfl⟩
  | openSynced _ _ _ | openPlain _ _ _ | select _ _ | dispatch _ | subscribe _ _ | unsubscribe _
  | change _ => cases ha

/-- A panel operates, or it goes. -/
theorem step_actor (w : Workspace) {a : Action} {id : PanelId} (ha : a.actor? = some id) :
    ActsAs w (w.step a) id ∨ ∃ busy, w.step a = w.remove id busy := by
  by_cases hr : ∃ busy, a = .remove id busy
  · obtain ⟨busy, rfl⟩ := hr
    exact Or.inr ⟨busy, rfl⟩
  · exact Or.inl (w.actsAs_step ha fun busy he => hr ⟨busy, he⟩)

section Actor
variable {w : Workspace} {id : PanelId} {a : Action}

theorem nextPanel_step (ha : a.actor? = some id) : (w.step a).nextPanel = w.nextPanel := by
  rcases w.step_actor ha with ⟨f, -, hw⟩ | ⟨busy, hw⟩ <;> rw [hw]
  · exact nextPanel_act
  · exact nextPanel_remove busy

theorem panel?_step_of_ne {i : PanelId} (ha : a.actor? = some i) (hi : id ≠ i) :
    (w.step a).panel? id = w.panel? id := by
  rcases w.step_actor ha with ⟨f, -, hw⟩ | ⟨busy, hw⟩ <;> rw [hw]
  · cases hp : w.panel? i with
    | none => rw [act_of_none hp]
    | some q => rw [panel?_act hp, if_neg hi]
  · rw [panel?_remove, if_neg hi]

theorem akin_step (ha : a.actor? = some id) : w.host.Akin (w.step a).host := by
  rcases w.step_actor ha with ⟨f, hf, hw⟩ | ⟨busy, hw⟩ <;> rw [hw]
  · cases hp : w.panel? id with
    | none => rw [act_of_none hp]; exact ⟨rfl, rfl⟩
    | some p => rw [host_act hp]; exact (hf p w.host).akin
  · cases hp : w.panel? id with
    | none => rw [remove_of_none hp]; exact ⟨rfl, rfl⟩
    | some p => rw [host_remove hp]; exact p.akin_leave w.host busy

end Actor

/-! ### Panels of reachable workspaces -/

/-- Identifiers still to be given have no panel, and the panels that there are can be reached. -/
structure Kept (w : Workspace) : Prop where
  absent : ∀ id, w.nextPanel ≤ id → w.panel? id = none
  reachable : ∀ id p, w.panel? id = some p → p.Reachable

section Kept
variable {w : Workspace} (hk : w.Kept)
include hk

private theorem Kept.insert {p : Panel} (hp : p.Reachable) : (w.insert p).Kept := by
  have hn := hk.absent w.nextPanel le_rfl
  constructor
  · intro id hid
    have hlt : w.nextPanel < id := hid
    rw [panel?_insert hn, if_neg hlt.ne']
    exact hk.absent id hlt.le
  · intro id q hq
    rw [panel?_insert hn] at hq
    split_ifs at hq with hj
    · exact Option.some.inj hq ▸ hp
    · exact hk.reachable id q hq

private theorem Kept.act {id : PanelId} {f : Panel → Host → Panel × Host}
    (hf : ∀ p h, p.Reachable → (f p h).1.Reachable) : (w.act id f).Kept := by
  cases hp : w.panel? id with
  | none => rwa [act_of_none hp]
  | some p =>
    constructor
    · intro j hj
      rw [nextPanel_act] at hj
      have hne : j ≠ id := by
        rintro rfl
        rw [hk.absent j hj] at hp
        cases hp
      rw [panel?_act hp, if_neg hne]
      exact hk.absent j hj
    · intro j q hq
      rw [panel?_act hp] at hq
      split_ifs at hq with hj
      · exact Option.some.inj hq ▸ hf p w.host (hk.reachable id p hp)
      · exact hk.reachable j q hq

private theorem Kept.remove (id : PanelId) (busy : Bool) : (w.remove id busy).Kept := by
  constructor
  · intro j hj
    rw [nextPanel_remove] at hj
    rw [panel?_remove, hk.absent j hj, ite_self]
  · intro j q hq
    rw [panel?_remove] at hq
    split_ifs at hq
    exact hk.reachable j q hq

private theorem Kept.dispatch (e : EditorEvent) : (w.dispatch e).Kept := by
  have ht : ∀ (ss : List (Subscription Listener)) (p : Panel), p.Reachable →
      (ss.foldl (fun p s => s.listener.tell e p) p).Reachable := by
    intro ss
    induction ss with
    | nil => exact fun p hp => hp
    | cons s ss ih => exact fun p hp => ih _ (hp.tell e s.listener)
  constructor
  · intro j hj
    rw [nextPanel_dispatch] at hj
    rw [panel?_dispatch, hk.absent j hj, Option.map_none]
  · intro j q hq
    rw [panel?_dispatch] at hq
    obtain ⟨p, hp, rfl⟩ := Option.map_eq_some_iff.mp hq
    exact ht _ p (hk.reachable j p hp)

private theorem Kept.setHost (f : Host → Host) : (w.setHost f).Kept := ⟨hk.absent, hk.reachable⟩

theorem Kept.step (a : Action) : (w.step a).Kept := by
  cases ha : a.actor? with
  | some id =>
    rcases w.step_actor ha with ⟨f, hf, hw⟩ | ⟨busy, hw⟩ <;> rw [hw]
    · exact hk.act fun p h => (hf p h).reachable
    · exact hk.remove id busy
  | none =>
    cases a with
    | openSynced c d n => exact hk.insert (.fresh c d n)
    | openPlain c d n => exact hk.insert (p := .plain _) trivial
    | select e s => exact (hk.setHost fun h => h.setSelection e s).dispatch (s.event e)
    | dispatch e => exact hk.dispatch e
    | subscribe e tag => exact hk.setHost fun h => h.subscribe e (.other tag)
    | unsubscribe n => exact hk.setHost fun h => h.unsubscribe n
    | change c => exact hk.setHost fun h => h.apply c
    | refresh _ _ | handle _ _ _ | dispose _ | remove _ _ | settle _ | resize _ _ => cases ha

end Kept

theorem Reachable.kept {w : Workspace} (hw : w.Reachable) : w.Kept := by
  induction hw with
  | start h hl => exact ⟨fun _ _ => rfl, fun id p hp => by cases hp⟩
  | step hw a ih => exact ih.step a

end Workspace

end ListingPanel
