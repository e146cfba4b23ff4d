import ListingPanel.Proofs.Panel.Documents
import ListingPanel.Proofs.Workspace.Turn

/-! What a panel has seen of its host when it last refreshed, and which changes it notices since. -/
namespace ListingPanel

/-- An operation leaves the shown file and asks for no toolchain, or it asks for one and shows the
file that it found. -/
theorem SyncedPanel.Operation.sees {id : PanelId} {p : SyncedPanel} {h : Host}
    {r : SyncedPanel × Host} (hr : p.Operation id h r) :
    r.2.resolutions = h.resolutions ∧ r.1.shownFile = p.shownFile ∨
      r.2.resolutions ≠ h.resolutions ∧ r.1.shownFile = h.listed? := by
  cases hr with
  | idle | settle | resize n => exact Or.inl ⟨rfl, rfl⟩
  | refresh launch =>
    cases hd : p.disposed with
    | true => rw [refresh_of_disposed launch id p h hd]; exact Or.inl ⟨rfl, rfl⟩
    | false =>
      have hn := p.renewed_refresh launch id h hd
      exact Or.inr ⟨by rw [hn.resolutions]; omega, hn.shownFile⟩
  | dispose =>
    left
    unfold SyncedPanel.dispose unbind
    split_ifs
    · exact ⟨rfl, rfl⟩
    · cases p.binding <;> exact ⟨rfl, rfl⟩

namespace Workspace

/-- The host as a panel finds it in an action of its own that asks for the toolchain. -/
def sighting? (id : PanelId) (w : Workspace) (a : Action) : Option Host :=
  if a.actor? = some id ∧ (w.step a).host.resolutions ≠ w.host.resolutions then some w.host
  else none

/-- The host as a panel found it when it last asked for the toolchain in a run. -/
def lastSighting (id : PanelId) (w : Workspace) : List Action → Option Host
  | [] => none
  | a :: as => (lastSighting id (w.step a) as).or (sighting? id w a)

section Sightings
variable {w : Workspace} {id : PanelId} {a : Action}

theorem sighting?_of_ne (ha : a.actor? ≠ some id) : sighting? id w a = none :=
  if_neg fun h => ha h.1

theorem sighting?_of_none (hp : w.panel? id = none) : sighting? id w a = none :=
  if_neg fun h => h.2 (by rw [step_of_none hp h.1])

theorem nextPanel_le_step (hk : w.Kept) (a : Action) : w.nextPanel ≤ (w.step a).nextPanel := by
  cases ha : a.actor? with
  | some i => exact (nextPanel_step ha).ge
  | none =>
    cases happened_step hk ha with
    | opened _ _ hn => rw [hn]; exact Nat.le_succ _
    | stayed _ _ hn => exact hn.ge

/-- The panel shows the file that it found when it last looked. A panel that is still to be opened
has not looked yet. -/
structure Shows (id : PanelId) (w : Workspace) (seen : Option Host) : Prop where
  unopened : w.nextPanel ≤ id → seen = none
  shown : ∀ p, w.panel? id = some (.synced p) → p.shownFile = seen.bind Host.listed?

theorem Shows.step (hw : w.Reachable) {seen : Option Host} (h : Shows id w seen) (a : Action) :
    Shows id (w.step a) ((sighting? id w a).or seen) := by
  constructor
  · intro hle
    have hle' : w.nextPanel ≤ id := (nextPanel_le_step hw.kept a).trans hle
    rw [h.unopened hle', sighting?_of_none (hw.kept.absent id hle')]
    rfl
  · intro q hq
    rcases synced_step_cases hw hq with ⟨p, hp, ha, hr⟩ | ⟨p, hp, ha, hqp⟩ | ⟨hid, c, d, n, rfl⟩
    · -- an action of its own is a sighting if and only if it sets the shown file
      rcases hr.sees with ⟨hn, hf⟩ | ⟨hn, hf⟩
      · have hnone : sighting? id w a = none := if_neg fun h => h.2 hn
        rw [hnone, Option.none_or, ← h.shown p hp]
        exact hf
      · have hsome : sighting? id w a = some w.host := if_pos ⟨ha, hn⟩
        rw [hsome]
        exact hf
    · rw [sighting?_of_ne ha]
      rcases hqp with rfl | ⟨-, r, rfl⟩
      · exact h.shown q hp
      · exact h.shown p hp
    · have hp : w.panel? id = none := hw.kept.absent id hid.ge
      rw [sighting?_of_none hp, h.unopened hid.ge]
      rfl

theorem Shows.run (hw : w.Reachable) {seen : Option Host} (h : Shows id w seen)
    (as : List Action) : Shows id (w.run as) ((lastSighting id w as).or seen) := by
  induction as generalizing w seen with
  | nil => exact h
  | cons a as ih =>
    have hrun := ih (hw.step a) (h.step hw a)
    rwa [← Option.or_assoc] at hrun

end Sightings

/-- The panel answers to a changed document if and only if the toolchain was there when it last
looked for the file. -/
theorem handle_documentChanged_run (h : Host) (hl : h.listeners = {}) (as : List Action)
    (launch : Launcher) {id : PanelId} {p : SyncedPanel} {seen : Host} {f q : Path}
    (hp : (run { host := h } as).panel? id = some (.synced p)) (hd : p.disposed = false)
    (hs : lastSighting id { host := h } as = some seen) (hf : seen.file = some f)
    (hq : f.sameFile q = true) :
    let w := run { host := h } as
    let w' := w.handle launch id (.documentChanged q)
    (seen.toolchain ≠ none → ∃ r, w'.panel? id = some (.synced r) ∧
      p.Renewed launch id w.host (r, w'.host) ∧ r.view.highlighted = r.wanted w'.host) ∧
    (seen.toolchain = none → w'.panel? id = some (.synced p) ∧ w'.host = w.host) := by
  intro w w'
  have hw : w.Reachable := (Reachable.start h hl).run as
  have hstart : Shows id { host := h } none := ⟨fun _ => rfl, fun p hp => by cases hp⟩
  have hshows := (hstart.run (.start h hl) as).shown p hp
  have hpanel :
      w'.panel? id = some (.synced (p.handle launch id w.host (.documentChanged q)).1) := by
    change (w.act id _).panel? id = _
    rw [panel?_act hp, if_pos rfl]
  have hhost : w'.host = (p.handle launch id w.host (.documentChanged q)).2 := by
    change (w.act id _).host = _
    rw [host_act hp]
  have hshown : p.shownFile = seen.toolchain.bind fun _ => some f := by
    rw [hshows, hs, ← hf]
    rfl
  obtain ⟨hyes, hno⟩ := p.handle_documentChanged launch id w.host q
  constructor
  · intro ht
    obtain ⟨t, ht⟩ := Option.ne_none_iff_exists'.mp ht
    have he := hyes (by rw [hshown, ht, Option.bind_some, Option.any_some, hq])
    rw [he] at hpanel hhost
    refine ⟨_, hpanel, ?_, ?_⟩
    · rw [hhost]
      exact p.renewed_refresh launch id w.host hd
    · rw [hhost]
      exact p.highlighted_refresh launch id w.host hd
  · intro ht
    have he := hno (by rw [hshown, ht, Option.bind_none, Option.any_none])
    rw [he] at hpanel hhost
    exact ⟨hpanel, hhost⟩

/-- The document was not to be had at the first refresh. It is now, and another editor is active. -/
theorem handle_documentChanged_repaired :
    let launch := refusing
    let f : Path := ⟨"/proj/main.py"⟩
    let q : Path := ⟨"/proj/./lib/../main.py"⟩
    let h : Host :=
      { activeEditor := some 1, file := some f, toolchain := some ⟨"/nonexistent/python"⟩ }
    let as : List Action := [.openSynced {} (.ofConfig {}) 5, .refresh launch 0,
      .change (.setDocument f (some "a = 1\n")), .change (.activate (some 2))]
    let w := run { host := h } as
    lastSighting 0 { host := h } as = some h ∧ f.sameFile q = true ∧
      ∃ p, w.panel? 0 = some (.synced p) ∧ p.disposed = false ∧
        p.view.surface.text = Diagnostic.noDocument.text ∧
        ∃ r, (w.handle launch 0 (.documentChanged q)).panel? 0 = some (.synced r) ∧
          p.Renewed launch 0 w.host (r, (w.handle launch 0 (.documentChanged q)).host) := by
  intro launch f q h as w
  have hs : lastSighting 0 { host := h } as = some h := by decide +kernel
  have hq : f.sameFile q = true := by decide +kernel
  have hany : (w.synced? 0).any (fun p =>
      !p.disposed && p.view.surface.text == Diagnostic.noDocument.text) = true := by
    decide +kernel
  obtain ⟨p, hp, hshown⟩ := (Option.any_eq_true _ _).mp hany
  rw [synced?_eq_some] at hp
  simp only [Bool.and_eq_true, Bool.not_eq_true', beq_iff_eq] at hshown
  obtain ⟨hd, ht⟩ := hshown
  obtain ⟨r, hr, hn, -⟩ :=
    (handle_documentChanged_run h rfl as launch hp hd hs rfl hq).1 (Option.some_ne_none _)
  exact ⟨hs, hq, p, hp, hd, ht, r, hr, hn⟩

/-- The file was selected and could be read, but there was no toolchain. There is one now, and the
panel still says that there is none after the file has been edited. -/
theorem handle_documentChanged_unnoticed :
    let launch := refusing
    let f : Path := ⟨"/proj/main.py"⟩
    let h : Host := { activeEditor := some 1, file := some f, documents := .held [(f, "a = 1\n")] }
    let as : List Action := [.openSynced {} (.ofConfig {}) 5, .refresh launch 0,
      .change (.chooseToolchain (some ⟨"/nonexistent/python"⟩))]
    let w := run { host := h } as
    lastSighting 0 { host := h } as = some h ∧ f.sameFile f = true ∧ w.host.toolchain ≠ none ∧
      ∃ p, w.panel? 0 = some (.synced p) ∧ p.disposed = false ∧
        p.view.surface.text = Diagnostic.noToolchain.text ∧
        p.handle launch 0 w.host (.documentChanged f) = (p, w.host) ∧
        ¬ p.Renewed launch 0 w.host (p.handle launch 0 w.host (.documentChanged f)) := by
  intro launch f h as w
  have hs : lastSighting 0 { host := h } as = some h := by decide +kernel
  have hf : f.sameFile f = true := by decide +kernel
  have ht : w.host.toolchain ≠ none := by decide +kernel
  have hany : (w.synced? 0).any (fun p =>
      !p.disposed && p.view.surface.text == Diagnostic.noToolchain.text && p.shownFile == none) =
        true := by
    decide +kernel
  obtain ⟨p, hp, hshown⟩ := (Option.any_eq_true _ _).mp hany
  rw [synced?_eq_some] at hp
  simp only [Bool.and_eq_true, Bool.not_eq_true', beq_iff_eq] at hshown
  obtain ⟨⟨hd, htext⟩, hnone⟩ := hshown
  have hstay : p.handle launch 0 w.host (.documentChanged f) = (p, w.host) :=
    (p.handle_documentChanged launch 0 w.host f).2 (by rw [hnone]; rfl)
  refine ⟨hs, hf, ht, p, hp, hd, htext, hstay, fun hr => ?_⟩
  have hn := hr.resolutions
  rw [hstay] at hn
  exact Nat.succ_ne_self _ hn.symm

end Workspace

end ListingPanel
