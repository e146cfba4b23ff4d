import ListingPanel.Proofs.Disassembler
import ListingPanel.Proofs.Panel.Operation
import ListingPanel.Proofs.Path.NormalForm

/-! Which changed documents make a panel refresh, and what a refresh brings about. -/
namespace ListingPanel

/-- The file that a listing is made for. Without a toolchain, none is. -/
def Host.listed? (h : Host) : Option Path := h.toolchain.bind fun _ => h.file

namespace ListingSource
variable (launch : Launcher) (s : ListingSource) (h : Host)

theorem listing_file : (s.listing launch h).1.2 = h.listed? := by
  rw [listing_eq]
  unfold Host.listed?
  cases h.toolchain with
  | none => rfl
  | some t =>
    cases h.file with
    | none => rfl
    | some f =>
      dsimp only [Option.bind_some]
      split_ifs
      · split <;> rfl
      · rfl

/-- A listing depends on no more of the host than its toolchain, its file, its documents and its
machine. -/
theorem listing_congr {h h' : Host} (ht : h'.toolchain = h.toolchain) (hf : h'.file = h.file)
    (hd : h'.documents = h.documents) (hm : h'.machine = h.machine) :
    (s.listing launch h').1 = (s.listing launch h).1 := by
  simp only [listing_eq, Host.document?, ht, hf, hd, hm]

end ListingSource

namespace SyncedPanel

/-- What a refresh brings about: the toolchain is asked for once, the text is the one for what the
host has now, and the panel gives up its binding for one to the editor that is active now. -/
structure Renewed (launch : Launcher) (id : PanelId) (p : SyncedPanel) (h : Host)
    (r : SyncedPanel × Host) : Prop where
  resolutions : r.2.resolutions = h.resolutions + 1
  text : r.1.view.surface.text = (p.source.listing launch h).1.1
  shownFile : r.1.shownFile = h.listed?
  binding : r.1.binding = h.activeEditor.map fun e => ⟨e, h.listeners.nextId⟩
  listeners : r.2.listeners = match h.activeEditor with
    | some e => (h.listeners.release p.binding).subscribe (h.misroute.getD e) (.panel id e)
    | none => h.listeners.release p.binding

variable (launch : Launcher) (id : PanelId) (p : SyncedPanel) (h : Host)

/-- The listing is made once the binding has been given up, which makes no difference to it. -/
theorem listing_unbind :
    (p.source.listing launch (p.unbind h).2).1 = (p.source.listing launch h).1 := by
  unfold unbind
  cases p.binding with
  | none => rfl
  | some b => exact p.source.listing_congr launch rfl rfl rfl rfl

theorem reload_listing :
    (p.reload launch h).1.view.surface.text = (p.source.listing launch h).1.1 ∧
      (p.reload launch h).1.shownFile = h.listed? := by
  have hu := p.listing_unbind launch h
  constructor
  · exact congrArg Prod.fst hu
  · rw [← p.source.listing_file launch h]
    exact congrArg Prod.snd hu

@[simp] theorem reload_resolutions : (p.reload launch h).2.resolutions = h.resolutions + 1 := by
  obtain ⟨m, hm⟩ := p.reload_host launch h
  rw [hm]

theorem renewed_refresh (hd : p.disposed = false) :
    p.Renewed launch id h (p.refresh launch id h) := by
  obtain ⟨ht, hf⟩ := p.reload_listing launch h
  have hn : (p.reload launch h).2.resolutions = h.resolutions + 1 := reload_resolutions launch p h
  have hl := reload_listeners launch p h
  rw [refresh_eq launch id p h hd]
  cases ha : h.activeEditor with
  | none => exact ⟨hn, ht, hf, by rw [ha]; rfl, by rw [ha]; exact hl⟩
  | some e =>
    have hid : (p.reload launch h).2.listeners.nextId = h.listeners.nextId := by
      rw [hl, Listeners.release_nextId]
    refine ⟨hn, ?_, hf, ?_, ?_⟩
    · rw [← ht]
      dsimp only [bind]
      cases (p.reload launch h).2.selection? e with
      | none => rfl
      | some s => exact ListingView.follow_text _ _
    · rw [ha]
      dsimp only [bind]
      rw [hid]
      rfl
    · rw [ha]
      dsimp only [bind, Host.subscribe]
      rw [hl, reload_misroute]

/-- A refreshed view shows the new text, and follows what is selected in the active editor. -/
theorem view_refresh (hd : p.disposed = false) {e : EditorId} (ha : h.activeEditor = some e)
    {s : Selection} (hs : h.selection? e = some s) :
    (p.refresh launch id h).1.view =
      (p.view.clear.setText (p.source.listing launch h).1.1).follow s.lines := by
  have hsel : (p.reload launch h).2.selection? e = some s := by
    unfold Host.selection? at hs ⊢
    rw [reload_selections, hs]
  rw [refresh_eq launch id p h hd, ha, ← listing_unbind]
  unfold bind
  dsimp only
  rw [hsel]
  rfl

/-- A panel refreshes when the document changes that it shows, and on no other. -/
theorem handle_documentChanged (q : Path) :
    (p.shownFile.any (·.sameFile q) = true →
      p.handle launch id h (.documentChanged q) = p.refresh launch id h) ∧
    (p.shownFile.any (·.sameFile q) = false →
      p.handle launch id h (.documentChanged q) = (p, h)) := by
  unfold handle
  dsimp only
  constructor <;> intro hs <;> rw [hs]
  · rfl
  · rfl

end SyncedPanel

/-- Paths name the same file if they lead to the same place, wherever they start, and step up from
the root equally often. For a path that does not start at the root, the place alone decides. A panel
refreshes on changes of the document that it shows under any of these paths, and on no others. -/
theorem documentChanged_iff_samePlace (p q : Path) :
    (p.sameFile q = true ↔ p.SamePlace q ∧ p.climbs = q.climbs) ∧
    (p.isAbsolute = false → (p.sameFile q = true ↔ p.SamePlace q)) ∧
    ∀ (launch : Launcher) (id : PanelId) (s : SyncedPanel) (h : Host),
      s.disposed = false → s.shownFile = some p →
      (p.SamePlace q ∧ p.climbs = q.climbs →
        s.Renewed launch id h (s.handle launch id h (.documentChanged q))) ∧
      (¬ (p.SamePlace q ∧ p.climbs = q.climbs) →
        s.handle launch id h (.documentChanged q) = (s, h)) := by
  have hsame := p.sameFile_iff_samePlace q
  refine ⟨hsame, fun ha => ?_, fun launch id s h hd hs => ?_⟩
  · rw [hsame]
    exact ⟨fun h => h.1, fun h => ⟨h, h.climbs_eq ha⟩⟩
  · have hshown : s.shownFile.any (·.sameFile q) = p.sameFile q := by
      rw [hs, Option.any_some]
    obtain ⟨hyes, hno⟩ := s.handle_documentChanged launch id h q
    rw [hshown] at hyes hno
    rw [← hsame]
    refine ⟨fun hpq => ?_, fun hpq => hno (Bool.eq_false_iff.mpr hpq)⟩
    rw [hyes hpq]
    exact s.renewed_refresh launch id h hd

/-- The file is reported by a roundabout way, which does not start at the root either. -/
theorem documentChanged_round_about :
    let launch := refusing
    let p : Path := ⟨"../src/main.py"⟩
    let q : Path := ⟨"./.././src/x/..//main.py"⟩
    let s : SyncedPanel := { SyncedPanel.fresh {} (.ofConfig {}) 20 with shownFile := some p }
    p.isAbsolute = false ∧ p.SamePlace q ∧ p.sameFile q = true ∧
      s.Renewed launch 0 {} (s.handle launch 0 {} (.documentChanged q)) := by
  intro launch p q s
  have ha : p.isAbsolute = false := by decide
  have hp : p.components = [.up, .name "src", .name "main.py"] := by
    simp [p, Path.components, Path.pieces, Path.laterComponent?]
  have hq : q.components = [.here, .up, .name "src", .name "x", .up, .name "main.py"] := by
    simp [q, Path.components, Path.pieces, Path.laterComponent?]
  have hpq : p.SamePlace q := by
    intro d
    rw [hp, hq]
    rfl
  obtain ⟨-, hrel, hshown⟩ := documentChanged_iff_samePlace p q
  exact ⟨ha, hpq, (hrel ha).mpr hpq, (hshown launch 0 s {} rfl rfl).1 ⟨hpq, hpq.climbs_eq ha⟩⟩

/-- The root is its own parent, but a path that steps up from it does not name the same file, and a
panel that shows it misses the change. -/
theorem samePlace_above_root :
    let launch := refusing
    let p : Path := ⟨"/../a.py"⟩
    let q : Path := ⟨"/a.py"⟩
    let s : SyncedPanel := { SyncedPanel.fresh {} (.ofConfig {}) 20 with shownFile := some p }
    p.SamePlace q ∧ p.sameFile q = false ∧
      s.handle launch 0 {} (.documentChanged q) = (s, {}) := by
  intro launch p q s
  have hp : p.components = [.root, .up, .name "a.py"] := by
    simp [p, Path.components, Path.pieces, Path.laterComponent?]
  have hq : q.components = [.root, .name "a.py"] := by
    simp [q, Path.components, Path.pieces, Path.laterComponent?]
  have hn : p.sameFile q = false := by
    rw [Bool.eq_false_iff, ne_eq, Path.sameFile_iff_place, Path.place, Path.place, hp, hq]
    decide
  have hs : s.shownFile.any (·.sameFile q) = false := Option.any_some.trans hn
  refine ⟨fun d => ?_, hn, (s.handle_documentChanged launch 0 {} q).2 hs⟩
  rw [hp, hq]
  rfl

end ListingPanel
