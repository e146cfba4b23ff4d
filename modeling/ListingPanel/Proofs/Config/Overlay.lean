import ListingPanel.Proofs.Config.Meaning
import ListingPanel.Proofs.Json.Variation
import Mathlib.Logic.Relation

/-!
A configuration overlays the defaults, in whatever order and notation a text gives its fields.
-/
namespace ListingPanel

open Json

/-- Documents of the record put one thing in another way; their fields hold no records. -/
def PythonConfig.Change : Document → Document → Prop :=
  Record.Change documentFields {} fun _ _ _ => False

def PanelConfig.Change : Document → Document → Prop :=
  Record.Change documentFields {} fun _ _ _ => False

theorem PythonConfig.Means.change {d d' : Document} {c : PythonConfig} (h : Means d c)
    (hc : Change d d') : Means d' c :=
  Record.Means.change (by decide) (fun _ _ _ _ _ hx => hx.elim) h hc

theorem PanelConfig.Means.change {d d' : Document} {c : PanelConfig} (h : Means d c)
    (hc : Change d d') : Means d' c :=
  Record.Means.change (by decide) (fun _ _ _ _ _ hx => hx.elim) h hc

namespace Config

/-- In the document of a configuration, or in one of the records in it, one thing is put another
way. -/
def Change : Document → Document → Prop :=
  Record.Change documentFields {} fun name x x' =>
    name = pythonField.name ∧ PythonConfig.Change x x' ∨
      name = panelField.name ∧ PanelConfig.Change x x'

/-- The two documents differ in the order of members, in members of unknown names and in records
that are objects in one and arrays in the other. -/
def Varies : Document → Document → Prop := Relation.ReflTransGen Change

theorem Means.change {d d' : Document} {c : Config} (h : Means d c) (hc : Change d d') :
    Means d' c := by
  refine Record.Means.change (by decide) ?_ h hc
  simp only [documentFields, List.forall_mem_cons]
  refine ⟨?_, ?_, List.forall_mem_nil _⟩
  · rintro x x' v (⟨-, hx⟩ | ⟨hname, -⟩) hv
    · exact PythonConfig.Means.change hv hx
    · exact absurd hname (by decide)
  · rintro x x' v (⟨hname, -⟩ | ⟨-, hx⟩) hv
    · exact absurd hname (by decide)
    · exact PanelConfig.Means.change hv hx

theorem Means.varies {d d' : Document} {c : Config} (h : Means d c) (hv : Varies d d') :
    Means d' c := by
  induction hv with
  | refl => exact h
  | tail _ hc ih => exact ih.change hc

/-- A field is given twice: in the object of the configuration, or in that of a record in it. -/
def Repeats (d : Document) : Prop :=
  d.Repeats (documentFields.map (·.name)) ∨
    (∃ x, d.Gives (documentFields.map (·.name)) pythonField.name x ∧
      x.Repeats (PythonConfig.documentFields.map (·.name))) ∨
    ∃ x, d.Gives (documentFields.map (·.name)) panelField.name x ∧
      x.Repeats (PanelConfig.documentFields.map (·.name))

theorem Means.not_repeats {d : Document} {c : Config} (h : Means d c) : ¬ Repeats d := by
  rintro (hrepeats | ⟨x, hx, hrepeats⟩ | ⟨x, hx, hrepeats⟩)
  · exact h.1.not_repeats hrepeats
  · have hpython := (h.2 pythonField (by simp [documentFields])).1 x hx
    exact hpython.1.not_repeats hrepeats
  · have hpanel := (h.2 panelField (by simp [documentFields])).1 x hx
    exact hpanel.1.not_repeats hrepeats

/-- A text that loads is the layout of one document; each field that the document gives has the
value given, and each other one its default. Every text of every document that varies this one
loads the same. A text that gives a field twice does not load. -/
theorem overlays_defaults :
    (∀ {t : FileTree} {here : Location} {p : Path} {text : String},
      t.read here p = .ok (Text.Utf8.encode text) → load t here p = ofText text) ∧
    (∀ {text : String} {c : Config}, ofText text = .ok c →
      ∃ d : Document, d.Laid text.toList ∧ (∀ d' : Document, d'.Laid text.toList → d' = d) ∧
        Means d c ∧ ∀ {d' : Document} {text' : String}, Varies d d' → d'.Laid text'.toList →
          ofText text' = .ok c) ∧
    ∀ {d : Document} {text : String}, d.Laid text.toList → Repeats d →
      ∀ c, ofText text ≠ .ok c := by
  refine ⟨load_of_read, ?_, ?_⟩
  · intro text c h
    obtain ⟨hvalid, d, hd, hmeans⟩ := ofText_eq_ok_iff.mp h
    refine ⟨d, hd, fun d' hd' => hd'.unique hd, hmeans, fun hv hd' => ?_⟩
    exact ofText_eq_ok_iff.mpr ⟨hvalid, _, hd', hmeans.varies hv⟩
  · intro d text hd hrepeats c h
    obtain ⟨-, d', hd', hmeans⟩ := ofText_eq_ok_iff.mp h
    rw [hd.unique hd'] at hrepeats
    exact hmeans.not_repeats hrepeats

/-- What a file gives in objects, another text gives in arrays and beside a member of an unknown
name. A text that gives the panel twice does not load. -/
theorem overlays_defaults_arrays :
    let python : Value := .object [("timeout_ms", .natural 7)]
    let color : Value := .array [.natural 1, .natural 2, .natural 3]
    let panel : Value := .object [("highlight_color", color)]
    let v : Value := .object [("panel", panel), ("x", .array [.null]), ("python", python)]
    let v' : Value := .array [
      .object [("z", .object []), ("timeout_ms", .natural 7)], .array [.bool true, color]]
    let w : Value := .object [("python", python), ("panel", panel), ("panel", panel)]
    let c : Config := { python := { timeoutMs := 7 }, panel := { highlightColor := ⟨1, 2, 3⟩ } }
    load (FileTree.put {} ["c"] (.file (Text.Utf8.encode v.text) false)) [] ⟨"/c"⟩ = .ok c ∧
      ofText v'.text = .ok c ∧ ∀ c, ofText w.text ≠ .ok c := by
  intro python color panel v v' w c
  obtain ⟨hload, hoverlay, hrepeats⟩ := overlays_defaults
  have hlaid : ∀ v : Value, v.document.Laid v.text.toList := fun v => by
    simpa using v.laid_text blank_nil
  -- the text means the configuration
  have hpython : PythonConfig.Means python.document c.python := by
    refine Record.means_object (by simp) ?_
    simp only [PythonConfig.documentFields, List.forall_mem_cons]
    have htimeout : 7 ≤ Text.maxWord := by decide
    exact ⟨Or.inr ⟨by decide, rfl⟩, Or.inl ⟨_, List.mem_singleton_self _, rfl, htimeout⟩,
      Or.inr ⟨by decide, rfl⟩, Or.inr ⟨by decide, rfl⟩, List.forall_mem_nil _⟩
  have hpanel : PanelConfig.Means panel.document c.panel := by
    refine Record.means_object (by simp) ?_
    simp only [PanelConfig.documentFields, List.forall_mem_cons]
    exact ⟨Or.inr ⟨by decide, rfl⟩,
      Or.inl ⟨_, List.mem_singleton_self _, PanelConfig.means_color c.panel.highlightColor⟩,
      List.forall_mem_nil _⟩
  have hmeans : Means v.document c := by
    refine Record.means_object (by simp) ?_
    simp only [documentFields, List.forall_mem_cons]
    exact ⟨Or.inl ⟨python, by simp [pythonField], hpython⟩,
      Or.inl ⟨panel, by simp [panelField], hpanel⟩, List.forall_mem_nil _⟩
  have htext : ofText v.text = .ok c :=
    ofText_eq_ok_iff.mpr ⟨rfl, _, hlaid v, hmeans⟩
  obtain ⟨d, -, hunique, -, hvaries⟩ := hoverlay htext
  obtain rfl := hunique _ (hlaid v)
  refine ⟨(hload ?_).trans htext, hvaries ?_ (hlaid v'), fun c => hrepeats (hlaid w) ?_ c⟩
  · have hc : FileTree.steps ⟨"/c"⟩ = (true, ["c"], false) := by decide +kernel
    rw [FileTree.read, FileTree.follow_eq_walk hc (by decide), FileTree.walk_file (by decide) rfl]
    rfl
  · -- the color in an array of the panel, then the timeout beside an unknown member, then both
    let panel' : Value := .array [.bool true, color]
    let python' : Value := .object [("z", .object []), ("timeout_ms", .natural 7)]
    have hpanel : PanelConfig.Change panel.document panel'.document := by
      refine .asArray (by decide) (List.forall_mem_nil _) ?_
      intro f x hx
      rcases List.mem_pair.mp hx with heq | heq <;> cases heq
      · refine Or.inr ⟨fun y hy => ?_, rfl⟩
        exact absurd (gives_object.mp hy) (by simp [PanelConfig.scrollField])
      · exact Or.inl (gives_object.mpr ⟨color, List.mem_singleton_self _, rfl⟩)
    have hpython : PythonConfig.Change python.document python'.document :=
      .insert _ (spells_flatMap_escape "z".toList) (by decide)
    let v₁ : Value := .object [("panel", panel'), ("x", .array [.null]), ("python", python)]
    let v₂ : Value := .object [("python", python), ("panel", panel'), ("x", .array [.null])]
    let v₃ : Value := .object [("python", python'), ("panel", panel'), ("x", .array [.null])]
    have h₁ : Change v.document v₁.document :=
      .member (spells_flatMap_escape "panel".toList) (Or.inr ⟨rfl, hpanel⟩)
    have h₂ : Change v₁.document v₂.document :=
      .permute (List.perm_append_comm : ([_, _] ++ [_]).Perm _)
    have h₃ : Change v₂.document v₃.document :=
      .member (spells_flatMap_escape "python".toList) (Or.inl ⟨rfl, hpython⟩)
    have h₄ : Change v₃.document v'.document := by
      refine .asArray (by decide) (List.forall_mem_nil _) ?_
      intro f x hx
      refine Or.inl (gives_object.mpr ?_)
      rcases List.mem_pair.mp hx with heq | heq <;> cases heq
      · exact ⟨python', by simp [pythonField], rfl⟩
      · exact ⟨panel', by simp [panelField], rfl⟩
    exact .tail (.tail (.tail (.single h₁) h₂) h₃) h₄
  · exact Or.inl ⟨"panel", by decide, _, _, List.sublist_cons_self _ _,
      spells_flatMap_escape "panel".toList, spells_flatMap_escape "panel".toList⟩

end Config

end ListingPanel
