import ListingPanel.Proofs.Workspace.Attachment
import ListingPanel.Registry

/-! What can happen to the panels of projects, one action after another. What is done to the panel
of one project leaves the panels of the others as they are. -/
namespace ListingPanel

/-- A panel just made, with a disassembler of its own. -/
def Panel.fresh (synced : Bool) (c : Config) (d : Disassembler) (height : Nat) : Panel :=
  if synced then .synced (.fresh c d height) else .plain (.fresh c d height)

theorem Workspace.exists_step_insert (w : Workspace) (synced : Bool) (c : Config) (d : Disassembler)
    (height : Nat) : ∃ a : Action, a.Tidy ∧ a.actor? = none ∧
      w.insert (.fresh synced c d height) = w.step a := by
  cases synced with
  | true => exact ⟨.openSynced c d height, trivial, rfl, rfl⟩
  | false => exact ⟨.openPlain c d height, trivial, rfl, rfl⟩

namespace Registry

/-- One thing that happens. A panel refreshes on behalf of its project, whether the registry is
asked to refresh it or to hand it out. -/
inductive Action where
  | insert (project : String) (synced : Bool) (c : Config) (d : Disassembler) (height : Nat)
  | refresh (launch : Launcher) (project : String)
  | dispose (project : String)
  /-- Stores a selection and reports it. -/
  | select (editor : EditorId) (s : Selection)
  /-- Reports an event, whatever is stored. -/
  | dispatch (e : EditorEvent)
  | change (c : Host.Change)

/-- The project whose panel an action is about. -/
def Action.project? : Action → Option String
  | .insert project _ _ _ _ | .refresh _ project | .dispose project => some project
  | _ => none

def step (r : Registry) : Action → Registry
  | .insert project synced c d n => r.insert project (.fresh synced c d n)
  | .refresh launch project => r.refresh launch project
  | .dispose project => r.dispose project
  | .select e s => { r with workspace := r.workspace.select e s }
  | .dispatch e => { r with workspace := r.workspace.dispatch e }
  | .change c => { r with workspace := r.workspace.setHost (·.apply c) }

def run (r : Registry) (as : List Action) : Registry := as.foldl step r

theorem run_nil (r : Registry) : r.run [] = r := rfl

theorem run_cons (r : Registry) (a : Action) (as : List Action) :
    r.run (a :: as) = (r.step a).run as := rfl

theorem step_refresh (r : Registry) (launch : Launcher) (project : String) :
    r.step (.refresh launch project) = r.refresh launch project := rfl

variable {launch : Launcher} {r : Registry} {project other : String} {id : PanelId} {p : Panel}

/-! ### Projects and identifiers -/

theorem dispose_of_none (h : r.id? project = none) : r.dispose project = r := by
  unfold dispose remove
  rw [h]

theorem dispose_of_some (h : r.id? project = some id) : r.dispose project =
    { workspace := r.workspace.remove id false
      entries := r.entries.filter (·.1 != project) } := by
  unfold dispose remove
  rw [h]

theorem refresh_of_none (h : r.id? project = none) : r.refresh launch project = r := by
  unfold refresh update
  rw [h]

theorem refresh_of_some (h : r.id? project = some id) :
    r.refresh launch project = { r with workspace := r.workspace.refresh launch id } := by
  unfold refresh update
  rw [h]

theorem refresh_printing {i : PanelId} {q : SyncedPanel} {f : Path}
    (hid : r.id? project = some i) (hp : r.workspace.panel? i = some (.synced q))
    (hr : r.workspace.host.Ready f) (hd : q.disposed = false)
    (hs : q.source.python.isSourceFile f = true) (text : String) :
    r.refresh (printing text) project =
      { r with workspace := r.workspace.actSynced i fun p h => p.present text f i h } := by
  rw [refresh_of_some hid, Workspace.refresh_printing hp hr hd hs]

theorem id?_dispose :
    (r.dispose project).id? other = if other = project then none else r.id? other := by
  cases h : r.id? project with
  | none =>
    rw [dispose_of_none h]
    split_ifs with ho
    · rw [ho, h]
    · rfl
  | some id =>
    rw [dispose_of_some h]
    exact lookup_filter_ne r.entries project other

theorem nextPanel_dispose : (r.dispose project).workspace.nextPanel = r.workspace.nextPanel := by
  cases h : r.id? project with
  | none => rw [dispose_of_none h]
  | some id =>
    rw [dispose_of_some h]
    exact Workspace.nextPanel_remove false

theorem id?_insert : (r.insert project p).id? other =
    if other = project then some r.workspace.nextPanel else r.id? other := by
  have hd : (r.dispose project).entries.lookup other =
      if other = project then none else r.id? other := id?_dispose
  unfold insert id?
  rw [List.lookup_append, hd, nextPanel_dispose]
  by_cases ho : other = project
  · simp [ho]
  · have hb : (other == project) = false := by simpa using ho
    simp [ho, hb, List.lookup_cons, id?]

theorem id?_refresh : (r.refresh launch project).id? other = r.id? other := by
  cases h : r.id? project with
  | none => rw [refresh_of_none h]
  | some id => rw [refresh_of_some h]; rfl

/-! ### Registries in order -/

/-- Each project has at most one panel, no two have the same, and there are no others. -/
structure Orderly (r : Registry) : Prop where
  workspace : r.workspace.Reachable
  attached : r.workspace.Attached
  projects : (r.entries.map (·.1)).Nodup
  ids : (r.entries.map (·.2)).Nodup
  panels : ∀ id, (r.workspace.panel? id).isSome ↔ id ∈ r.entries.map (·.2)

namespace Orderly

theorem start {h : Host} (hl : h.listeners = {}) : Orderly { workspace := { host := h } } where
  workspace := .start h hl
  attached := Workspace.attached_start hl
  projects := List.nodup_nil
  ids := List.nodup_nil
  panels := fun id => by simp [Workspace.panel?]

variable (h : r.Orderly)
include h

theorem mem_entries : (project, id) ∈ r.entries ↔ r.id? project = some id :=
  (lookup_eq_some_iff_mem h.projects).symm

theorem id?_injective (hp : r.id? project = some id) (ho : r.id? other = some id) :
    other = project := by
  have he := List.inj_on_of_nodup_map h.ids (h.mem_entries.mpr ho) (h.mem_entries.mpr hp) rfl
  exact congrArg Prod.fst he

theorem exists_panel? (hp : r.id? project = some id) : ∃ p, r.workspace.panel? id = some p :=
  Option.isSome_iff_exists.mp ((h.panels id).mpr (List.mem_map_of_mem (h.mem_entries.mpr hp)))

theorem absent (hid : r.workspace.nextPanel ≤ id) (project : String) : r.id? project ≠ some id := by
  intro hp
  obtain ⟨p, hp⟩ := h.exists_panel? hp
  rw [h.workspace.kept.absent id hid] at hp
  cases hp

/-- What happens to the host or to panels that stay. -/
theorem quiet {a : Workspace.Action} (ht : a.Tidy)
    (hp : ∀ id, ((r.workspace.step a).panel? id).isSome = (r.workspace.panel? id).isSome) :
    Orderly { r with workspace := r.workspace.step a } where
  workspace := h.workspace.step a
  attached := h.attached.step h.workspace ht
  projects := h.projects
  ids := h.ids
  panels := fun id => by rw [hp]; exact h.panels id

theorem dispose (project : String) : (r.dispose project).Orderly := by
  cases hp : r.id? project with
  | none => rwa [dispose_of_none hp]
  | some id =>
    rw [dispose_of_some hp]
    refine ⟨h.workspace.step (.remove id false), h.attached.remove h.workspace,
      h.projects.sublist (List.filter_sublist.map _), h.ids.sublist (List.filter_sublist.map _), ?_⟩
    intro j
    have hm : j ∈ (r.entries.filter (·.1 != project)).map (·.2) ↔
        j ∈ r.entries.map (·.2) ∧ j ≠ id := by
      simp only [List.mem_map, List.mem_filter, bne_iff_ne]
      constructor
      · rintro ⟨⟨q, i⟩, ⟨hm, hq⟩, rfl⟩
        refine ⟨⟨(q, i), hm, rfl⟩, fun hi => hq ?_⟩
        exact h.id?_injective hp (hi ▸ h.mem_entries.mp hm)
      · rintro ⟨⟨⟨q, i⟩, hm, rfl⟩, hj⟩
        refine ⟨(q, i), ⟨hm, fun hq => hj ?_⟩, rfl⟩
        have hi : r.id? project = some i := hq ▸ h.mem_entries.mp hm
        exact Option.some.inj (hi.symm.trans hp)
    rw [hm, ← h.panels j, Workspace.panel?_remove]
    split_ifs with hj <;> simp [hj]

theorem insert (project : String) (synced : Bool) (c : Config) (d : Disassembler) (height : Nat) :
    (r.insert project (.fresh synced c d height)).Orderly := by
  have hd := h.dispose project
  have hfree : (r.dispose project).id? project = none := id?_dispose.trans (if_pos rfl)
  have hn := hd.workspace.kept.absent _ le_rfl
  obtain ⟨a, ht, -, hw⟩ := (r.dispose project).workspace.exists_step_insert synced c d height
  unfold Registry.insert
  generalize r.dispose project = r at hd hfree hn hw ⊢
  refine ⟨?_, ?_, ?_, ?_, fun id => ?_⟩
  · dsimp only
    rw [hw]
    exact hd.workspace.step a
  · dsimp only
    rw [hw]
    exact hd.attached.step hd.workspace ht
  · rw [List.map_append]
    refine List.nodup_append.mpr ⟨hd.projects, List.nodup_singleton _, ?_⟩
    rintro a ha b hb rfl
    obtain ⟨⟨q, i⟩, hm, rfl⟩ := List.mem_map.mp ha
    obtain rfl : q = project := List.mem_singleton.mp hb
    rw [hd.mem_entries, hfree] at hm
    cases hm
  · rw [List.map_append]
    refine List.nodup_append.mpr ⟨hd.ids, List.nodup_singleton _, ?_⟩
    rintro a ha b hb rfl
    rw [← hd.panels a, List.mem_singleton.mp hb, hn] at ha
    cases ha
  · dsimp only
    rw [Workspace.panel?_insert hn, List.map_append, List.mem_append, ← hd.panels id]
    split_ifs with hid <;> simp [hid]

theorem refresh (launch : Launcher) (project : String) : (r.refresh launch project).Orderly := by
  cases hp : r.id? project with
  | none => rwa [refresh_of_none hp]
  | some id =>
    rw [refresh_of_some hp]
    obtain ⟨p, hq⟩ := h.exists_panel? hp
    refine h.quiet (a := .refresh launch id) trivial fun j => ?_
    change ((r.workspace.refresh launch id).panel? j).isSome = _
    unfold Workspace.refresh
    rw [Workspace.panel?_act hq]
    split_ifs with hj
    · rw [hj, hq]
      rfl
    · rfl

theorem step (a : Action) : (r.step a).Orderly := by
  cases a with
  | insert project synced c d n => exact h.insert project synced c d n
  | refresh launch project => exact h.refresh launch project
  | dispose project => exact h.dispose project
  | select e s =>
    refine h.quiet (a := .select e s) trivial fun id => ?_
    change ((Workspace.dispatch _ _).panel? id).isSome = _
    rw [Workspace.panel?_dispatch, Option.isSome_map]
    rfl
  | dispatch e =>
    refine h.quiet (a := .dispatch e) trivial fun id => ?_
    change ((r.workspace.dispatch e).panel? id).isSome = _
    rw [Workspace.panel?_dispatch, Option.isSome_map]
  | change c => exact h.quiet (a := .change c) trivial fun id => rfl

/-! ### The panels of other projects -/

theorem panel?_dispose (ho : other ≠ project) :
    (r.dispose project).panel? other = r.panel? other := by
  have hid : (r.dispose project).id? other = r.id? other := id?_dispose.trans (if_neg ho)
  unfold panel?
  rw [hid]
  cases hp : r.id? project with
  | none => rw [dispose_of_none hp]
  | some id =>
    rw [dispose_of_some hp]
    refine Option.bind_congr fun j hj => ?_
    have hne : j ≠ id := by
      rintro rfl
      exact ho (h.id?_injective hp hj)
    rw [Workspace.panel?_remove, if_neg hne]

theorem panel?_insert (p : Panel) : (r.insert project p).panel? other =
    if other = project then some p else r.panel? other := by
  have hd := h.dispose project
  have hn := hd.workspace.kept.absent _ le_rfl
  unfold panel?
  rw [id?_insert, ← nextPanel_dispose]
  unfold Registry.insert
  dsimp only
  split_ifs with ho
  · rw [Option.bind_some, Workspace.panel?_insert hn, if_pos rfl]
  · have hpanel := h.panel?_dispose ho
    unfold panel? at hpanel
    rw [id?_dispose, if_neg ho] at hpanel
    rw [← hpanel]
    refine Option.bind_congr fun j hj => ?_
    have hne : j ≠ (r.dispose project).workspace.nextPanel := by
      rintro rfl
      exact hd.absent le_rfl other (id?_dispose.trans ((if_neg ho).trans hj))
    rw [Workspace.panel?_insert hn, if_neg hne]

theorem panel?_refresh (launch : Launcher) (ho : other ≠ project) :
    (r.refresh launch project).panel? other = r.panel? other := by
  unfold panel?
  rw [id?_refresh]
  cases hp : r.id? project with
  | none => rw [refresh_of_none hp]
  | some id =>
    rw [refresh_of_some hp]
    refine Option.bind_congr fun j hj => ?_
    have hne : j ≠ id := by
      rintro rfl
      exact ho (h.id?_injective hp hj)
    exact Workspace.panel?_step_of_ne (a := .refresh launch id) rfl hne

/-- What is done to the panel of one project leaves those of the others as they are. -/
theorem panel?_step_of_ne {a : Action} (ha : a.project? = some project) (ho : other ≠ project) :
    (r.step a).id? other = r.id? other ∧ (r.step a).panel? other = r.panel? other := by
  cases a with
  | insert q synced c d n =>
    cases ha
    exact ⟨id?_insert.trans (if_neg ho), (h.panel?_insert _).trans (if_neg ho)⟩
  | refresh launch q =>
    cases ha
    exact ⟨id?_refresh, h.panel?_refresh launch ho⟩
  | dispose q =>
    cases ha
    exact ⟨id?_dispose.trans (if_neg ho), h.panel?_dispose ho⟩
  | select _ _ | dispatch _ | change _ => cases ha

end Orderly

end Registry

end ListingPanel
