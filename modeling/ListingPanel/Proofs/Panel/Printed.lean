import ListingPanel.Proofs.Disassembler
import ListingPanel.Proofs.Panel.State

/-! Refreshes that find a listing, where nothing is in the way of the helper. -/
namespace ListingPanel

/-- A file is selected, and nothing is in the way of printing it. -/
structure Host.Ready (h : Host) (f : Path) : Prop where
  toolchain : ∃ t interpreter, h.toolchain = some t ∧
    Disassembler.Unhindered h.machine t interpreter
  file : h.file = some f
  document : (h.document? f).isSome = true

variable {h k : Host} {f : Path}

theorem Host.Ready.congr (hr : h.Ready f) (ht : k.toolchain = h.toolchain) (hf : k.file = h.file)
    (hd : k.documents = h.documents) (hm : k.machine = h.machine) : k.Ready f where
  toolchain := by
    rw [ht, hm]
    exact hr.toolchain
  file := hf.trans hr.file
  document := by
    unfold document?
    rw [hd, hm]
    exact hr.document

/-- A host with nothing but a file that can be printed. -/
def Host.bare : Host where
  file := some ⟨"/x.py"⟩
  toolchain := some ⟨"/py"⟩
  documents := .held [(⟨"/x.py"⟩, "a = 1\n")]
  machine := .bare

theorem Host.ready_bare : bare.Ready ⟨"/x.py"⟩ where
  toolchain := ⟨_, _, rfl, unhindered_bare⟩
  file := rfl
  document := by decide +kernel

/-- The listing is the text that the helper prints, and all that is left of this is that the
toolchain has been asked for. -/
theorem ListingSource.listing_printing {s : ListingSource} (hr : h.Ready f)
    (hs : s.python.isSourceFile f = true) (text : String) :
    s.listing (printing text) h =
      ((text, some f), { h with resolutions := h.resolutions + 1 }) := by
  obtain ⟨⟨t, interpreter, ht, hm⟩, hf, hd⟩ := hr
  obtain ⟨source, hsource⟩ := Option.isSome_iff_exists.mp hd
  have hresolve : h.resolve = (some t, h.resolve.2) := Prod.ext ht rfl
  have hk : h.resolve.2 = { h with resolutions := h.resolutions + 1 } := rfl
  have hkf : h.resolve.2.file = some f := hf
  have hkd : h.resolve.2.document? f = some source := hsource
  have hkm : Disassembler.Unhindered h.resolve.2.machine t interpreter := hm
  rw [← hk]
  unfold listing
  rw [hresolve]
  generalize h.resolve.2 = k at hkf hkd hkm
  dsimp only
  rw [hkf]
  dsimp only
  rw [hs, if_neg (by decide), hkd]
  dsimp only
  rw [hkm.produce_printing, ← hkf]

theorem isSourceFile_bare :
    (ListingSource.ofConfig {}).python.isSourceFile ⟨"/x.py"⟩ = true := by
  decide +kernel

namespace SyncedPanel

/-- A panel for that file with all settings as they are without a configuration. -/
def bare (v : ListingView) (b : Option Binding) : SyncedPanel :=
  ⟨.ofConfig {}, v, some ⟨"/x.py"⟩, b, false⟩

/-- What a panel shows of a text for `f`, and what it binds to. -/
def present (text : String) (f : Path) (id : PanelId) (p : SyncedPanel) (h : Host) :
    SyncedPanel × Host :=
  let q : SyncedPanel :=
    { p with binding := none, view := p.view.clear.setText text, shownFile := some f }
  let k : Host :=
    { h with listeners := h.listeners.release p.binding, resolutions := h.resolutions + 1 }
  match h.activeEditor with
  | some e => q.bind id k e
  | none => (q, k)

variable {p : SyncedPanel}

theorem refresh_printing (hr : h.Ready f) (hd : p.disposed = false)
    (hs : p.source.python.isSourceFile f = true) (text : String) (id : PanelId) :
    p.refresh (printing text) id h = p.present text f id h := by
  have hready : Host.Ready { h with listeners := h.listeners.release p.binding } f :=
    hr.congr rfl rfl rfl rfl
  have hreload : p.reload (printing text) h =
      ({ p with binding := none, view := p.view.clear.setText text, shownFile := some f },
        { h with
          listeners := h.listeners.release p.binding
          resolutions := h.resolutions + 1 }) := by
    unfold reload
    rw [unbind_host, ListingSource.listing_printing hready hs]
  rw [refresh_eq _ id p h hd, hreload]
  rfl

/-- The text is what is shown, whatever is highlighted of it. -/
theorem text_present (text : String) (f : Path) (id : PanelId) (p : SyncedPanel) (h : Host) :
    (p.present text f id h).1.view.surface.text = text := by
  unfold present bind
  cases h.activeEditor with
  | none => rfl
  | some e =>
    dsimp only
    split
    · rw [ListingView.follow_text]
      rfl
    · rfl

end SyncedPanel

end ListingPanel
