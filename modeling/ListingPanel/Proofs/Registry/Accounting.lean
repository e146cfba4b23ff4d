import ListingPanel.Proofs.Registry.Action
import ListingPanel.Proofs.Workspace.Turn
import Mathlib.Data.List.Induction

/-! What the actions on a registry say of its panels, and of their registrations with the host. -/
namespace ListingPanel.Registry

/-- What the actions say of the panel that a project has. -/
structure Holding where
  /-- So many panels have been inserted before it. -/
  id : PanelId
  synced : Bool
  source : ListingSource
  /-- The editor that a synced panel found at its last refresh. -/
  found : Option EditorId := none

/-- A panel is what the actions say. -/
def Holding.Describes (x : Holding) : Panel → Prop
  | .synced p => x.synced = true ∧ p.source = x.source ∧ p.disposed = false ∧
      p.binding.map (·.editor) = x.found
  | .plain p => x.synced = false ∧ p.source = x.source ∧ x.found = none

/-- What the actions say of all projects. -/
structure Account where
  active : Option EditorId
  inserted : Nat := 0
  holding? : String → Option Holding := fun _ => none

namespace Account

def step (k : Account) : Action → Account
  | .insert project synced c d _ =>
    { k with
      inserted := k.inserted + 1
      holding? := Function.update k.holding? project
        (some { id := k.inserted, synced, source := ⟨c.python, d⟩ }) }
  | .refresh _ project =>
    { k with
      holding? := Function.update k.holding? project ((k.holding? project).map fun x =>
        { x with found := if x.synced then k.active else none }) }
  | .dispose project => { k with holding? := Function.update k.holding? project none }
  | .change (.activate e) => { k with active := e }
  | .change _ | .select _ _ | .dispatch _ => k

def run (k : Account) (as : List Action) : Account := as.foldl step k

/-- The editor that the panel of a project found at its last refresh. -/
def found? (k : Account) (project : String) : Option EditorId :=
  (k.holding? project).bind (·.found)

end Account

/-! ### Histories of projects -/

/-- The action gives the project a panel. -/
def Action.Inserts (project : String) (a : Action) : Prop :=
  ∃ synced c d n, a = .insert project synced c d n

/-- The project has been given a panel, and its panel has not been disposed of since. -/
def Given (project : String) (as : List Action) : Prop :=
  ∃ before a after, as = before ++ a :: after ∧ a.Inserts project ∧ .dispose project ∉ after

theorem given_concat {project : String} {as : List Action} {b : Action} :
    Given project (as ++ [b]) ↔ b.Inserts project ∨ b ≠ .dispose project ∧ Given project as := by
  constructor
  · rintro ⟨before, a, after, he, ha, hd⟩
    rcases List.eq_nil_or_concat after with rfl | ⟨after, c, rfl⟩
    · have hb : [b] = [a] := List.append_inj_right' he rfl
      rw [List.singleton_inj.mp hb]
      exact Or.inl ha
    · rw [List.concat_eq_append] at he hd
      rw [← List.cons_append, ← List.append_assoc] at he
      obtain ⟨rfl, hc⟩ := List.append_inj' he rfl
      rw [List.singleton_inj.mp hc]
      refine Or.inr ⟨?_, before, a, after, rfl, ha, fun hm => hd (List.mem_append_left _ hm)⟩
      rintro rfl
      exact hd (List.mem_append_right _ List.mem_cons_self)
  · rintro (hb | ⟨hb, before, a, after, rfl, ha, hd⟩)
    · exact ⟨as, b, [], rfl, hb, List.not_mem_nil⟩
    · refine ⟨before, a, after ++ [b], by simp, ha, fun hm => ?_⟩
      rcases List.mem_append.mp hm with hm | hm
      · exact hd hm
      · exact hb (List.mem_singleton.mp hm).symm

theorem Account.isSome_step (k : Account) (project : String) (b : Action) :
    ((k.step b).holding? project).isSome ↔
      b.Inserts project ∨ b ≠ .dispose project ∧ (k.holding? project).isSome := by
  cases b with
  | insert q synced c d n =>
    dsimp only [step]
    rw [Function.update_apply]
    split_ifs with hq
    · exact iff_of_true rfl (Or.inl ⟨synced, c, d, n, by rw [hq]⟩)
    · simp [Action.Inserts, Ne.symm hq]
  | dispose q =>
    dsimp only [step]
    rw [Function.update_apply]
    split_ifs with hq
    · simp [Action.Inserts, hq]
    · simp [Action.Inserts, Ne.symm hq]
  | refresh launch q =>
    dsimp only [step]
    rw [Function.update_apply]
    split_ifs with hq <;> simp [Action.Inserts, hq]
  | change c => cases c <;> simp [step, Action.Inserts]
  | select e s | dispatch e => simp [step, Action.Inserts]

theorem Account.isSome_run {k : Account} {project : String} (hk : k.holding? project = none)
    (as : List Action) : ((k.run as).holding? project).isSome ↔ Given project as := by
  induction as using List.reverseRecOn with
  | nil =>
    refine iff_of_false (by simp [run, hk]) ?_
    rintro ⟨before, a, after, he, -⟩
    simp at he
  | append_singleton as b ih =>
    have hr : k.run (as ++ [b]) = (k.run as).step b := List.foldl_append
    rw [hr, isSome_step, ih, given_concat]

/-! ### Panels -/

namespace Holding.Describes

variable {x : Holding} {p : Panel}

theorem binding? (h : x.Describes p) : p.binding?.map (·.editor) = x.found := by
  cases p with
  | synced p => exact h.2.2.2
  | plain p => exact h.2.2.symm

theorem fresh (i : PanelId) (synced : Bool) (c : Config) (d : Disassembler) (height : Nat) :
    Describes { id := i, synced, source := ⟨c.python, d⟩ } (.fresh synced c d height) := by
  cases synced with
  | true => exact ⟨rfl, rfl, rfl, rfl⟩
  | false => exact ⟨rfl, rfl, rfl⟩

theorem refresh (h : x.Describes p) (launch : Launcher) (id : PanelId) (host : Host) :
    Describes { x with found := if x.synced then host.activeEditor else none }
      (p.refresh launch id host).1 := by
  cases p with
  | plain p =>
    obtain ⟨hs, hsource, -⟩ := h
    exact ⟨hs, hsource, if_neg (by simp [hs])⟩
  | synced p =>
    obtain ⟨hs, hsource, hd, -⟩ := h
    exact ⟨hs, (p.source_refresh launch id host).trans hsource,
      (p.disposed_refresh launch id host).trans hd,
      (p.editor_refresh launch id host hd).trans (if_pos hs).symm⟩

/-- Whoever else acts, the panel remains what the actions say. -/
theorem step_other {w : Workspace} {id : PanelId} (h : x.Describes p) (hw : w.Reachable)
    (hp : w.panel? id = some p) {a : Workspace.Action} (ha : a.actor? ≠ some id) :
    ∃ q, (w.step a).panel? id = some q ∧ x.Describes q := by
  rcases Workspace.panel?_step_other hw ha with hs | ⟨hn, -⟩ | ⟨q, r, hq, -, hs⟩
  · exact ⟨p, hs.trans hp, h⟩
  · rw [hp] at hn
    cases hn
  · rw [hp] at hq
    cases hq
    exact ⟨_, hs, h⟩

end Holding.Describes

/-! ### The account of a registry -/

section Agrees
variable {r : Registry} {k : Account} {project : String}

theorem activeEditor_dispose :
    (r.dispose project).workspace.host.activeEditor = r.workspace.host.activeEditor := by
  cases hp : r.id? project with
  | none => rw [dispose_of_none hp]
  | some id =>
    rw [dispose_of_some hp]
    dsimp only
    cases hw : r.workspace.panel? id with
    | none => rw [Workspace.remove_of_none hw]
    | some p =>
      rw [Workspace.host_remove hw]
      exact p.activeEditor_leave r.workspace.host false

theorem activeEditor_refresh (launch : Launcher) :
    (r.refresh launch project).workspace.host.activeEditor = r.workspace.host.activeEditor := by
  cases hp : r.id? project with
  | none => rw [refresh_of_none hp]
  | some id =>
    rw [refresh_of_some hp]
    dsimp only [Workspace.refresh]
    cases hw : r.workspace.panel? id with
    | none => rw [Workspace.act_of_none hw]
    | some p =>
      rw [Workspace.host_act hw]
      exact p.activeEditor_refresh launch id r.workspace.host

theorem nextPanel_refresh (launch : Launcher) :
    (r.refresh launch project).workspace.nextPanel = r.workspace.nextPanel := by
  cases hp : r.id? project with
  | none => rw [refresh_of_none hp]
  | some id =>
    rw [refresh_of_some hp]
    exact Workspace.nextPanel_act

theorem panel?_refresh_self {p : Panel} (hp : r.panel? project = some p) (launch : Launcher) :
    ∃ id, (r.refresh launch project).panel? project =
      some (p.refresh launch id r.workspace.host).1 := by
  obtain ⟨id, hid, hw⟩ := Option.bind_eq_some_iff.mp hp
  refine ⟨id, ?_⟩
  unfold panel?
  rw [id?_refresh, hid, refresh_of_some hid]
  exact (Workspace.panel?_act hw).trans (if_pos rfl)

/-- A registry is as the actions say. -/
structure Agrees (k : Account) (r : Registry) : Prop where
  active : r.workspace.host.activeEditor = k.active
  inserted : r.workspace.nextPanel = k.inserted
  ids : ∀ project, r.id? project = (k.holding? project).map (·.id)
  panels : ∀ project x, k.holding? project = some x →
    ∃ p, r.panel? project = some p ∧ x.Describes p

namespace Agrees

theorem start (h : Host) : Agrees { active := h.activeEditor } { workspace := { host := h } } :=
  ⟨rfl, rfl, fun _ => rfl, fun _ _ hx => by cases hx⟩

variable (h : Agrees k r) (ho : r.Orderly)
include h ho

/-- What is not done to panels leaves them as the actions say. -/
theorem quiet {a : Workspace.Action} (ha : a.actor? = none)
    (hn : (r.workspace.step a).nextPanel = r.workspace.nextPanel) :
    Agrees { k with active := (r.workspace.step a).host.activeEditor }
      { r with workspace := r.workspace.step a } := by
  refine ⟨rfl, hn.trans h.inserted, h.ids, fun project x hx => ?_⟩
  obtain ⟨p, hp, hd⟩ := h.panels project x hx
  obtain ⟨id, hid, hw⟩ := Option.bind_eq_some_iff.mp hp
  obtain ⟨q, hq, hd⟩ := hd.step_other ho.workspace hw (a := a) (by rw [ha]; exact nofun)
  exact ⟨q, Option.bind_eq_some_iff.mpr ⟨id, hid, hq⟩, hd⟩

theorem insert (project : String) (synced : Bool) (c : Config) (d : Disassembler) (height : Nat) :
    Agrees (k.step (.insert project synced c d height))
      (r.insert project (.fresh synced c d height)) := by
  refine ⟨activeEditor_dispose.trans h.active, ?_, fun q => ?_, fun q x hx => ?_⟩
  · exact congrArg (· + 1) (nextPanel_dispose.trans h.inserted)
  · rw [id?_insert, h.ids, h.inserted]
    dsimp only [Account.step]
    rw [Function.update_apply]
    split_ifs <;> rfl
  · dsimp only [Account.step] at hx
    rw [Function.update_apply] at hx
    rw [ho.panel?_insert]
    split_ifs at hx ⊢ with hq
    · cases hx
      exact ⟨_, rfl, .fresh _ synced c d height⟩
    · exact h.panels q x hx

theorem refresh (launch : Launcher) (project : String) :
    Agrees (k.step (.refresh launch project)) (r.refresh launch project) := by
  refine ⟨(activeEditor_refresh launch).trans h.active, (nextPanel_refresh launch).trans h.inserted,
    fun q => ?_, fun q x hx => ?_⟩
  · rw [id?_refresh, h.ids]
    dsimp only [Account.step]
    rw [Function.update_apply]
    split_ifs with hq
    · rw [hq, Option.map_map]
      rfl
    · rfl
  · dsimp only [Account.step] at hx
    rw [Function.update_apply] at hx
    split_ifs at hx with hq
    · obtain ⟨y, hy, rfl⟩ := Option.map_eq_some_iff.mp hx
      obtain ⟨p, hp, hd⟩ := h.panels project y hy
      obtain ⟨id, hr⟩ := panel?_refresh_self hp launch
      rw [← h.active, hq]
      exact ⟨_, hr, hd.refresh launch id _⟩
    · rw [ho.panel?_refresh launch hq]
      exact h.panels q x hx

theorem dispose (project : String) : Agrees (k.step (.dispose project)) (r.dispose project) := by
  refine ⟨activeEditor_dispose.trans h.active, nextPanel_dispose.trans h.inserted, fun q => ?_,
    fun q x hx => ?_⟩
  · rw [id?_dispose, h.ids]
    dsimp only [Account.step]
    rw [Function.update_apply]
    split_ifs <;> rfl
  · dsimp only [Account.step] at hx
    rw [Function.update_apply] at hx
    split_ifs at hx with hq
    rw [ho.panel?_dispose hq]
    exact h.panels q x hx

theorem step (a : Action) : Agrees (k.step a) (r.step a) := by
  have hk : { k with active := r.workspace.host.activeEditor } = k := by rw [h.active]
  cases a with
  | insert project synced c d n => exact h.insert ho project synced c d n
  | refresh launch project => exact h.refresh ho launch project
  | dispose project => exact h.dispose ho project
  | select e s =>
    have hs := h.quiet ho (a := .select e s) rfl Workspace.nextPanel_dispatch
    change Agrees { k with active := (Workspace.dispatch _ _).host.activeEditor } _ at hs
    rw [Workspace.host_dispatch] at hs
    exact hk ▸ hs
  | dispatch e =>
    have hs := h.quiet ho (a := .dispatch e) rfl Workspace.nextPanel_dispatch
    change Agrees { k with active := (Workspace.dispatch _ _).host.activeEditor } _ at hs
    rw [Workspace.host_dispatch] at hs
    exact hk ▸ hs
  | change c =>
    have hs := h.quiet ho (a := .change c) rfl rfl
    have hc : k.step (.change c) =
        { k with active := (r.workspace.host.apply c).activeEditor } := by
      cases c with
      | activate e => rfl
      | setDocument f t =>
        unfold Host.apply Host.setDocument
        cases r.workspace.host.documents <;> exact hk.symm
      | _ => exact hk.symm
    rw [hc]
    exact hs

end Agrees

theorem agrees_run {r : Registry} {k : Account} (h : Agrees k r) (ho : r.Orderly)
    (as : List Action) : Agrees (k.run as) (r.run as) ∧ (r.run as).Orderly := by
  induction as generalizing r k with
  | nil => exact ⟨h, ho⟩
  | cons a as ih => exact ih (h.step ho a) (ho.step a)

/-- The panels that found an editor at their last refresh are those that are bound. -/
theorem Agrees.isSome_binding? (h : Agrees k r) (ho : r.Orderly) {x : String × PanelId}
    (hx : x ∈ r.entries) :
    (r.workspace.binding? x.2).join.isSome = (k.found? x.1).isSome := by
  obtain ⟨project, id⟩ := x
  have hid : r.id? project = some id := ho.mem_entries.mp hx
  obtain ⟨y, hy, rfl⟩ := Option.map_eq_some_iff.mp ((h.ids project).symm.trans hid)
  obtain ⟨p, hp, hd⟩ := h.panels project y hy
  have hw : r.workspace.panel? y.id = some p := by
    unfold panel? at hp
    rwa [hid] at hp
  have hfound : k.found? project = y.found := by
    unfold Account.found?
    rw [hy, Option.bind_some]
  rw [Workspace.binding?_of_panel? hw, hfound, ← hd.binding?, Option.join_some, Option.isSome_map]

end Agrees

/-- The projects that have a panel are those that have been given one, and have not had it disposed
of since; each has its latest. The host has one registration for each synced panel that found an
editor at its last refresh, and no others. What is done to the panel of one project leaves those of
the others as they are, and updating or removing tells whether there was one. -/
theorem accounts_of_run {h : Host} (hl : h.listeners = {}) (as : List Action) :
    let r := run { workspace := { host := h } } as
    let k := Account.run { active := h.activeEditor } as
    let projects := r.entries.map (·.1)
    (∀ project, r.contains project = true ↔ Given project as) ∧
    (∀ project, r.id? project = (k.holding? project).map (·.id)) ∧
    (∀ project x, k.holding? project = some x → ∃ p, r.panel? project = some p ∧ x.Describes p) ∧
    projects.Nodup ∧ (∀ project, project ∈ projects ↔ r.contains project = true) ∧
    r.workspace.host.listeners.live.length = projects.countP (fun q => (k.found? q).isSome) ∧
    (∀ a project other, a.project? = some project → other ≠ project →
      (r.step a).id? other = r.id? other ∧ (r.step a).panel? other = r.panel? other) ∧
    ∀ project launch, (r.update launch project).1 = r.contains project ∧
      (r.remove project).1 = r.contains project := by
  intro r k projects
  obtain ⟨hk, ho⟩ : Agrees k r ∧ r.Orderly := agrees_run (.start h) (.start hl) as
  have hcontains : ∀ project, r.contains project = (k.holding? project).isSome := fun project => by
    unfold contains
    rw [hk.ids, Option.isSome_map]
  refine ⟨fun project => ?_, hk.ids, hk.panels, ho.projects, fun project => ?_, ?_,
    fun a project other ha hne => ho.panel?_step_of_ne ha hne, fun project launch => ?_⟩
  · rw [hcontains]
    exact Account.isSome_run rfl as
  · unfold contains
    rw [Option.isSome_iff_exists, List.mem_map]
    constructor
    · rintro ⟨⟨q, i⟩, hm, rfl⟩
      exact ⟨i, ho.mem_entries.mp hm⟩
    · rintro ⟨i, hi⟩
      exact ⟨(project, i), ho.mem_entries.mpr hi, rfl⟩
  · have hids : ∀ id p, r.workspace.panel? id = some p → id ∈ r.entries.map (·.2) :=
      fun id p hp => (ho.panels id).mp (by rw [hp]; rfl)
    rw [ho.attached.length_live ho.workspace ho.ids hids, List.countP_map, List.countP_map]
    exact List.countP_congr fun x hx => by
      dsimp only [Function.comp]
      rw [hk.isSome_binding? ho hx]
  · unfold update remove contains
    cases r.id? project <;> exact ⟨rfl, rfl⟩

/-- Three projects have panels. The first is given a second one while the first one is bound. The
second has found an editor, but none later. The third has a plain panel, which is disposed of. An
event that reaches the first leaves the second with its text and without highlights. -/
theorem accounts_of_run_replaced :
    let listing := "  1 A\n  2 B\n    C\n  2 D\n"
    let launch := printing listing
    let d : Disassembler := .ofConfig {}
    let h : Host := { Host.bare with
      activeEditor := some 1
      selections := [(1, { caret := 2 }), (2, { caret := 1 })] }
    let as : List Action := [.insert "a" true {} d 20, .refresh launch "a",
      .insert "b" true {} d 20, .refresh launch "b", .insert "a" true {} d 20,
      .insert "c" false {} d 20, .change (.activate none), .refresh launch "b",
      .change (.activate (some 2)), .refresh launch "a", .dispose "c",
      .dispatch (.caretMoved 2 5)]
    let r := run { workspace := { host := h } } as
    r.workspace.host.listeners.live.length = 1 ∧
      r.contains "a" = true ∧ r.contains "c" = false ∧ r.id? "a" = some 2 ∧
      (∃ p, r.panel? "a" = some (.synced p) ∧ p.binding.map (·.editor) = some 2 ∧
        p.view.surface.text = listing ∧ p.view.highlighted = [(1, 2), (3, 3)]) ∧
      (∃ q, r.panel? "b" = some (.synced q) ∧ q.view.surface.text = listing ∧
        q.view.highlighted = []) ∧
      (r.step (.refresh launch "b")).panel? "a" = r.panel? "a" ∧
      (r.step (.dispose "a")).panel? "b" = r.panel? "b" ∧ (r.remove "a").1 = true := by
  intro listing launch d h as r
  let p : SyncedPanel := .fresh {} d 20
  let plain : PlainPanel := .fresh {} d 20
  let bound (v : ListingView) (e n : Nat) : Panel := .synced (.bare v (some ⟨e, n⟩))
  -- the registry after each refresh
  let h₁ : Host := { h with listeners := ⟨1, [⟨1, 1, .panel 0 1⟩]⟩, resolutions := 1 }
  let r₁ (u : ListingView) : Registry := ⟨⟨h₁, [(0, bound u 1 1)], 1⟩, [("a", 0)]⟩
  let h₂ : Host := { h₁ with
    listeners := ⟨2, [⟨1, 1, .panel 0 1⟩, ⟨2, 1, .panel 1 1⟩]⟩, resolutions := 2 }
  let r₂ (t u : ListingView) : Registry :=
    ⟨⟨h₂, [(0, bound t 1 1), (1, bound u 1 2)], 2⟩, [("a", 0), ("b", 1)]⟩
  let h₃ : Host := { h₂ with activeEditor := none, listeners := ⟨2, []⟩, resolutions := 3 }
  let r₃ (u : ListingView) : Registry :=
    ⟨⟨h₃, [(1, .synced (.bare u none)), (2, .synced p), (3, .plain plain)], 4⟩,
      [("b", 1), ("a", 2), ("c", 3)]⟩
  let h₄ : Host := { h₃ with
    activeEditor := some 2, listeners := ⟨3, [⟨3, 2, .panel 2 2⟩]⟩, resolutions := 4 }
  let r₄ (t u : ListingView) : Registry :=
    ⟨⟨h₄, [(1, .synced (.bare t none)), (2, bound u 2 3), (3, .plain plain)], 4⟩,
      [("b", 1), ("a", 2), ("c", 3)]⟩
  obtain ⟨t₁, hr₁⟩ : ∃ t, (run { workspace := { host := h } } [.insert "a" true {} d 20]).refresh
      launch "a" = r₁ t :=
    ⟨_, (refresh_printing (i := 0) (q := p) rfl rfl (Host.ready_bare.congr rfl rfl rfl rfl) rfl
      isSourceFile_bare listing).trans rfl⟩
  obtain ⟨t₂, hr₂⟩ : ∃ t, ((r₁ t₁).run [.insert "b" true {} d 20]).refresh launch "b" = r₂ t₁ t :=
    ⟨_, (refresh_printing (i := 1) (q := p) rfl rfl (Host.ready_bare.congr rfl rfl rfl rfl) rfl
      isSourceFile_bare listing).trans rfl⟩
  let t₃ := t₂.clear.setText listing
  have hr₃ : ((r₂ t₁ t₂).run [.insert "a" true {} d 20, .insert "c" false {} d 20,
      .change (.activate none)]).refresh launch "b" = r₃ t₃ :=
    (refresh_printing (i := 1) (q := .bare t₂ (some ⟨1, 2⟩)) rfl rfl
      (Host.ready_bare.congr rfl rfl rfl rfl) rfl isSourceFile_bare listing).trans rfl
  let t₄ := (p.view.clear.setText listing).follow (.single 1)
  have hr₄ : ((r₃ t₃).run [.change (.activate (some 2))]).refresh launch "a" = r₄ t₃ t₄ :=
    (refresh_printing (i := 2) (q := p) rfl rfl (Host.ready_bare.congr rfl rfl rfl rfl) rfl
      isSourceFile_bare listing).trans rfl
  let last := t₄.follow (.single 5)
  have hr : r = ⟨⟨h₄, [(1, .synced (.bare t₃ none)), (2, bound last 2 3)], 4⟩,
      [("b", 1), ("a", 2)]⟩ := by
    have hrun : r = (r₄ t₃ t₄).run [.dispose "c", .dispatch (.caretMoved 2 5)] := by
      rw [← hr₄, ← hr₃, ← hr₂, ← hr₁]
      simp only [r, as, run_cons, run_nil, step_refresh]
    rw [hrun]
    rfl
  obtain ⟨hgiven, hids, -, -, -, hlive, hothers, hanswers⟩ := accounts_of_run (h := h) rfl as
  have ha : r.contains "a" = true := by
    refine (hgiven "a").mpr
      ⟨as.take 4, _, as.drop 5, rfl, ⟨true, {}, d, 20, rfl⟩, ?_⟩
    simp [as]
  have hlight : last.highlighted = [(1, 2), (3, 3)] := by
    have hc : t₄.Coherent := (ListingView.coherent_setText _ listing).act (.follow (.single 1))
    rw [hc.highlighted_follow, ListingView.follow_text]
    exact (@Index.ranges_blocksFor listing.toList (by decide) _).trans (by decide)
  refine ⟨?_, ha, ?_, hids "a", ⟨.bare last (some ⟨2, 3⟩), ?_, rfl, ?_, hlight⟩,
    ⟨.bare t₃ none, ?_, rfl, rfl⟩, (hothers _ _ "a" rfl (by decide)).2,
    (hothers _ _ "b" rfl (by decide)).2, (hanswers "a" launch).2.trans ha⟩
  · rw [hlive]
    change (r.entries.map (·.1)).countP _ = 1
    rw [hr]
    rfl
  · rw [hr]
    rfl
  · rw [hr]
    rfl
  · exact (ListingView.follow_text _ _).trans (ListingView.follow_text _ _)
  · rw [hr]
    rfl

end ListingPanel.Registry
