import ListingPanel.Proofs.Association
import ListingPanel.Proofs.Panel.Alike
import ListingPanel.Proofs.Workspace.Turn

/-! Changes of documents that no panel shows. They leave a workspace as it is, so a run goes the
same way with them and without them. -/
namespace ListingPanel.Workspace

variable {w : Workspace} {id : PanelId}

/-! ### Identifiers in use -/

@[simp] theorem keys_modify (f : Panel → Panel) :
    (w.modify id f).panels.map (·.1) = w.panels.map (·.1) := by
  unfold modify
  rw [List.map_map]
  rfl

@[simp] theorem keys_act (f : Panel → Host → Panel × Host) :
    (w.act id f).panels.map (·.1) = w.panels.map (·.1) := by
  cases hp : w.panel? id with
  | none => rw [act_of_none hp]
  | some p =>
    have ha : (w.act id f).panels = (w.modify id fun _ => (f p w.host).1).panels := by
      unfold act
      rw [hp]
    rw [ha, keys_modify]

@[simp] theorem keys_dispatch (e : EditorEvent) :
    (w.dispatch e).panels.map (·.1) = w.panels.map (·.1) := by
  rw [dispatch_eq]
  generalize w.reached e = ls
  induction ls generalizing w with
  | nil => rfl
  | cons l ls ih =>
    rw [List.foldl_cons, ih]
    cases l with
    | other tag => rfl
    | panel i editor => exact keys_modify _

/-- No two panels have the same identifier. -/
theorem Reachable.nodup_keys (hw : w.Reachable) : (w.panels.map (·.1)).Nodup := by
  induction hw with
  | start h hl => exact List.nodup_nil
  | @step w hw a ih =>
    have hinsert : ∀ p, ((w.insert p).panels.map (·.1)).Nodup := fun p => by
      have hnew := List.lookup_eq_none_iff.mp (hw.kept.absent w.nextPanel le_rfl)
      unfold insert
      rw [List.map_append]
      refine ih.append (List.nodup_singleton _) (List.disjoint_singleton.mpr fun hm => ?_)
      obtain ⟨x, hx, hn⟩ := List.mem_map.mp hm
      simpa [hn] using hnew x hx
    cases ha : a.actor? with
    | some id =>
      rcases w.step_actor ha with ⟨f, -, hs⟩ | ⟨busy, hs⟩ <;> rw [hs]
      · rwa [keys_act]
      · unfold remove
        split
        · exact ih.sublist (List.filter_sublist.map _)
        · exact ih
    | none =>
      cases a with
      | openSynced c d n => exact hinsert _
      | openPlain c d n => exact hinsert _
      | select e s => exact (keys_dispatch (s.event e)).symm ▸ ih
      | dispatch e => exact (keys_dispatch e).symm ▸ ih
      | subscribe _ _ | unsubscribe _ | change _ => exact ih
      | refresh _ _ | handle _ _ _ | dispose _ | remove _ _ | settle _ | resize _ _ => cases ha

/-- A panel that does nothing leaves all as it is. -/
theorem Reachable.act_eq_self (hw : w.Reachable) {f : Panel → Host → Panel × Host}
    (hf : ∀ p, w.panel? id = some p → f p w.host = (p, w.host)) : w.act id f = w := by
  cases hp : w.panel? id with
  | none => exact act_of_none hp
  | some p =>
    have hpanels : (w.modify id fun _ => p).panels = w.panels := by
      refine (List.map_congr_left fun x hx => ?_).trans (List.map_id _)
      dsimp only
      split_ifs with hi
      · have hx' : w.panel? id = some x.2 :=
          (lookup_eq_some_iff_mem hw.nodup_keys).mpr (hi ▸ hx)
        rw [Option.some.inj (hp.symm.trans hx')]
        rfl
      · rfl
    unfold act
    rw [hp]
    dsimp only
    rw [hf p hp, hpanels]
    rfl

/-! ### Changes of documents -/

/-- A synced panel that has not been disposed of shows the file, by whatever path. -/
def Concerns (w : Workspace) (id : PanelId) (f : Path) : Prop :=
  ∃ p g, w.panel? id = some (.synced p) ∧ p.disposed = false ∧ p.shownFile = some g ∧
    g.normalize.same f.normalize = true

theorem concerns_iff {f : Path} : w.Concerns id f ↔
    ∃ p, w.panel? id = some (.synced p) ∧ p.heeds (.documentChanged f) = true := by
  refine exists_congr fun p => ?_
  simp [SyncedPanel.heeds, Path.sameFile, Option.any_eq_true]

instance (w : Workspace) (id : PanelId) (f : Path) : Decidable (w.Concerns id f) :=
  decidable_of_iff ((w.synced? id).any (·.heeds (.documentChanged f)) = true) <| by
    simp [concerns_iff, Option.any_eq_true, synced?_eq_some]

/-- A change of a document leaves all as it is if and only if it does not concern the panel that is
told. -/
theorem handle_eq_self_iff (hw : w.Reachable) (launch : Launcher) (f : Path) :
    w.handle launch id (.documentChanged f) = w ↔ ¬ w.Concerns id f := by
  constructor
  · intro hs hc
    -- a refresh asks for the toolchain once more
    obtain ⟨p, hp, hh⟩ := concerns_iff.mp hc
    have hr := p.renewed_refresh launch id w.host (p.disposed_of_heeds hh)
    have hhost : (w.handle launch id (.documentChanged f)).host =
        (p.refresh launch id w.host).2 := by
      unfold handle actSynced
      rw [host_act hp]
      dsimp only
      rw [p.handle_eq, if_pos hh]
    have hn := hr.resolutions
    rw [← hhost, hs] at hn
    exact Nat.succ_ne_self _ hn.symm
  · intro hc
    unfold handle actSynced
    refine hw.act_eq_self fun p hp => ?_
    cases p with
    | plain p => rfl
    | synced p =>
      have hh : ¬ p.heeds (.documentChanged f) = true := fun hh => hc (concerns_iff.mpr ⟨p, hp, hh⟩)
      dsimp only
      rw [p.handle_eq, if_neg hh]

/-! ### Runs with such changes and without -/

/-- `bs` is `as` with changes of documents put in, each told to a panel that it does not concern at
that time. -/
inductive Interspersed : Workspace → List Action → List Action → Prop where
  | nil (w : Workspace) : Interspersed w [] []
  | action {w : Workspace} {as bs : List Action} (a : Action)
    (h : Interspersed (w.step a) as bs) : Interspersed w (a :: as) (a :: bs)
  | foreign {w : Workspace} {as bs : List Action} (launch : Launcher) (id : PanelId) (f : Path)
    (hf : ¬ w.Concerns id f)
    (h : Interspersed (w.step (.handle launch id (.documentChanged f))) as bs) :
    Interspersed w as (.handle launch id (.documentChanged f) :: bs)

namespace Interspersed
variable {as bs : List Action}

theorem run_eq (hw : w.Reachable) (h : Interspersed w as bs) : w.run bs = w.run as := by
  induction h with
  | nil => rfl
  | action a h ih => exact ih (hw.step a)
  | @foreign w as bs launch id f hf h ih =>
    have hs : w.step (.handle launch id (.documentChanged f)) = w :=
      (handle_eq_self_iff hw launch f).mpr hf
    exact (ih (hw.step _)).trans (congrArg (run · as) hs)

/-- Up to any moment, the run with the changes has gone as one without them. -/
theorem up_to (h : Interspersed w as bs) {bs' : List Action} (hb : bs' <+: bs) :
    ∃ as', as' <+: as ∧ Interspersed w as' bs' := by
  induction h generalizing bs' with
  | nil w =>
    obtain rfl := List.prefix_nil.mp hb
    exact ⟨[], List.prefix_rfl, .nil w⟩
  | @action w as bs a h ih =>
    rcases List.prefix_cons_iff.mp hb with rfl | ⟨bs', rfl, ht⟩
    · exact ⟨[], List.nil_prefix, .nil w⟩
    · obtain ⟨as', ha, h'⟩ := ih ht
      exact ⟨a :: as', List.cons_prefix_cons.mpr ⟨rfl, ha⟩, h'.action a⟩
  | @foreign w as bs launch id f hf h ih =>
    rcases List.prefix_cons_iff.mp hb with rfl | ⟨bs', rfl, ht⟩
    · exact ⟨[], List.nil_prefix, .nil w⟩
    · obtain ⟨as', ha, h'⟩ := ih ht
      exact ⟨as', ha, h'.foreign launch id f hf⟩

end Interspersed

/-- Told to a panel that shows another file, no file, or none any more, a change of a document
leaves host and panels as they are, and told to any other panel it does not. Put into a run
anywhere, such changes make no difference: at each moment, all is as it is at that moment of the run
without them. -/
theorem undisturbed_run (hw : w.Reachable) :
    (∀ launch id f, w.step (.handle launch id (.documentChanged f)) = w ↔ ¬ w.Concerns id f) ∧
    ∀ as bs, Interspersed w as bs → w.run bs = w.run as ∧
      ∀ bs', bs' <+: bs → ∃ as', as' <+: as ∧ Interspersed w as' bs' ∧ w.run bs' = w.run as' := by
  refine ⟨fun launch id f => handle_eq_self_iff hw launch f, fun as bs h =>
    ⟨h.run_eq hw, fun bs' hb => ?_⟩⟩
  obtain ⟨as', ha, h'⟩ := h.up_to hb
  exact ⟨as', ha, h', h'.run_eq hw⟩

/-- The document changes before the panel shows it and after the panel has been disposed of, and
another one in between. -/
theorem undisturbed_run_around :
    let launch := refusing
    let f : Path := ⟨"/proj/main.py"⟩
    let h : Host :=
      { activeEditor := some 1, file := some f, toolchain := some ⟨"/nonexistent/python"⟩ }
    let w := run { host := h } [.openSynced {} (.ofConfig {}) 5]
    let as : List Action := [.refresh launch 0, .subscribe 1 7, .dispose 0]
    let bs : List Action := [.handle launch 0 (.documentChanged f), .refresh launch 0,
      .handle launch 0 (.documentChanged ⟨"/proj/main.py/../lib.py"⟩), .subscribe 1 7, .dispose 0,
      .handle launch 0 (.documentChanged f)]
    w.Reachable ∧ Interspersed w as bs ∧ w.run bs = w.run as ∧
      (w.run bs).host.resolutions = 1 ∧ (w.run bs).host.listeners.live = [⟨2, 1, .other 7⟩] := by
  intro launch f h w as bs
  have hw : w.Reachable := (Reachable.start h rfl).run _
  have hbs : Interspersed w as bs :=
    .foreign launch 0 f (by decide +kernel) <| .action _ <|
      .foreign launch 0 _ (by decide +kernel) <| .action _ <| .action _ <|
      .foreign launch 0 f (by decide +kernel) <| .nil _
  obtain ⟨hrun, -⟩ := (undisturbed_run hw).2 as bs hbs
  refine ⟨hw, hbs, hrun, ?_, ?_⟩
  · rw [hrun]
    decide +kernel
  · rw [hrun]
    decide +kernel

end ListingPanel.Workspace
