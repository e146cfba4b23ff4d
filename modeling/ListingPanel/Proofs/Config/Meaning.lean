import ListingPanel.Config.File
import ListingPanel.Proofs.FileTree
import ListingPanel.Proofs.Json.Printing

/-!
What documents mean as a configuration, and that reading takes them for it.
-/
namespace ListingPanel

open Json

namespace PythonConfig

def IsPath (d : Document) (p : Path) : Prop := IsString d p.text

def interpreterField : DocumentField PythonConfig where
  name := "interpreter"
  Value := Option Path
  get := (·.interpreter)
  Means := Optional IsPath

def timeoutField : DocumentField PythonConfig where
  name := "timeout_ms"
  Value := Nat
  get := (·.timeoutMs)
  Means := IsNatural Text.maxWord

def helperField : DocumentField PythonConfig where
  name := "helper_script"
  Value := Option Path
  get := (·.helperScript)
  Means := Optional IsPath

def extensionsField : DocumentField PythonConfig where
  name := "source_extensions"
  Value := List String
  get := (·.sourceExtensions)
  Means d es := ∃ ds, d = .array ds ∧ List.Forall₂ IsString ds es

/-- The fields of a document, in order of declaration. -/
def documentFields : List (DocumentField PythonConfig) :=
  [interpreterField, timeoutField, helperField, extensionsField]

def Means : Document → PythonConfig → Prop := Record.Means documentFields {}

theorem takes_readPath : Takes readPath IsPath :=
  ((takes_string "path string").bind (g := Path.mk) fun _ => rfl).congr fun d p => by
    constructor
    · rintro ⟨s, hs, rfl⟩
      exact hs
    · exact fun hp => ⟨p.text, hp, rfl⟩

theorem takes_path? : Takes (optional readPath) (Optional IsPath) :=
  takes_readPath.optional fun p => by
    rintro ⟨t, -, h⟩
    cases h

def slots : List (Slot Given PythonConfig) := [
  { toDocumentField := interpreterField
    given := (·.interpreter)
    give := fun g v => { g with interpreter := some v }
    read := optional readPath
    takes := takes_path? },
  { toDocumentField := timeoutField
    given := (·.timeoutMs)
    give := fun g v => { g with timeoutMs := some v }
    read := natural Text.maxWord "u64"
    takes := takes_natural (Nat.le_refl _) "u64" },
  { toDocumentField := helperField
    given := (·.helperScript)
    give := fun g v => { g with helperScript := some v }
    read := optional readPath
    takes := takes_path? },
  { toDocumentField := extensionsField
    given := (·.sourceExtensions)
    give := fun g v => { g with sourceExtensions := some v }
    read := array (string "a string")
    takes := (takes_string "a string").array }]

def plan : Plan Given PythonConfig where
  slots := slots
  start := {}
  default := {}
  build := ofGiven
  nodup := by decide
  given_start := by simp [slots, interpreterField, timeoutField, helperField, extensionsField]
  given_give := by simp [slots, interpreterField, timeoutField, helperField, extensionsField]
  given_give_of_ne := by
    simp [slots, interpreterField, timeoutField, helperField, extensionsField]
  get_build := by
    simp [slots, ofGiven, interpreterField, timeoutField, helperField, extensionsField]
  ext := by
    rintro ⟨i, n, h, e⟩ ⟨i', n', h', e'⟩ heq
    simpa [slots, interpreterField, timeoutField, helperField, extensionsField] using heq

theorem takes_reader : Takes reader Means := plan.takes "struct PythonConfig"

end PythonConfig

namespace PanelConfig

def scrollField : DocumentField PanelConfig where
  name := "scroll_to_highlight"
  Value := Bool
  get := (·.scrollToHighlight)
  Means := IsBoolean

/-- A color is an array of red, green and blue. -/
def IsColor (d : Document) (c : Color) : Prop :=
  ∃ ds, d = .array ds ∧
    List.Forall₂ (IsNatural 255) ds [c.red.toNat, c.green.toNat, c.blue.toNat]

def colorField : DocumentField PanelConfig where
  name := "highlight_color"
  Value := Color
  get := (·.highlightColor)
  Means := IsColor

def documentFields : List (DocumentField PanelConfig) := [scrollField, colorField]

def Means : Document → PanelConfig → Prop := Record.Means documentFields {}

/-- The color of three numbers. -/
def colorOf : List Nat → Color
  | [r, g, b] => ⟨r.toUInt8, g.toUInt8, b.toUInt8⟩
  | _ => ⟨0, 0, 0⟩

theorem toNat_toUInt8 {n : Nat} (h : n ≤ 255) : n.toUInt8.toNat = n :=
  UInt8.toNat_ofNat_of_lt (Nat.lt_succ_of_le h)

theorem takes_readColor : Takes readColor IsColor := by
  have hword : 255 ≤ Text.maxWord := by decide
  have hthree := (takes_natural hword "u8").exactly 3
  refine (hthree.bind (g := colorOf) ?_).congr fun d c => ⟨?_, ?_⟩
  · rintro d as ⟨ds, -, hlen, -⟩
    obtain ⟨r, g, b, rfl⟩ := List.length_eq_three.mp hlen
    rfl
  · rintro ⟨as, ⟨ds, rfl, hlen, has⟩, rfl⟩
    obtain ⟨r, g, b, rfl⟩ := List.length_eq_three.mp hlen
    refine ⟨ds, rfl, ?_⟩
    have hback := has
    cases has with
    | cons hr has => cases has with
      | cons hg has => cases has with
        | cons hb _ =>
          rwa [colorOf, toNat_toUInt8 hr.2, toNat_toUInt8 hg.2, toNat_toUInt8 hb.2]
  · rintro ⟨ds, rfl, has⟩
    refine ⟨_, ⟨ds, rfl, rfl, has⟩, ?_⟩
    simp [colorOf]

def slots : List (Slot Given PanelConfig) := [
  { toDocumentField := scrollField
    given := (·.scrollToHighlight)
    give := fun g v => { g with scrollToHighlight := some v }
    read := boolean
    takes := takes_boolean },
  { toDocumentField := colorField
    given := (·.highlightColor)
    give := fun g v => { g with highlightColor := some v }
    read := readColor
    takes := takes_readColor }]

def plan : Plan Given PanelConfig where
  slots := slots
  start := {}
  default := {}
  build := ofGiven
  nodup := by decide
  given_start := by simp [slots, scrollField, colorField]
  given_give := by simp [slots, scrollField, colorField]
  given_give_of_ne := by simp [slots, scrollField, colorField]
  get_build := by simp [slots, ofGiven, scrollField, colorField]
  ext := by
    rintro ⟨s, h⟩ ⟨s', h'⟩ heq
    simpa [slots, scrollField, colorField] using heq

theorem takes_reader : Takes reader Means := plan.takes "struct PanelConfig"

end PanelConfig

namespace Config

def pythonField : DocumentField Config where
  name := "python"
  Value := PythonConfig
  get := (·.python)
  Means := PythonConfig.Means

def panelField : DocumentField Config where
  name := "panel"
  Value := PanelConfig
  get := (·.panel)
  Means := PanelConfig.Means

def documentFields : List (DocumentField Config) := [pythonField, panelField]

def Means : Document → Config → Prop := Record.Means documentFields {}

def slots : List (Slot Given Config) := [
  { toDocumentField := pythonField
    given := (·.python)
    give := fun g v => { g with python := some v }
    read := PythonConfig.reader
    takes := PythonConfig.takes_reader },
  { toDocumentField := panelField
    given := (·.panel)
    give := fun g v => { g with panel := some v }
    read := PanelConfig.reader
    takes := PanelConfig.takes_reader }]

def plan : Plan Given Config where
  slots := slots
  start := {}
  default := {}
  build := ofGiven
  nodup := by decide
  given_start := by simp [slots, pythonField, panelField]
  given_give := by simp [slots, pythonField, panelField]
  given_give_of_ne := by simp [slots, pythonField, panelField]
  get_build := by simp [slots, ofGiven, pythonField, panelField]
  ext := by
    rintro ⟨p, b⟩ ⟨p', b'⟩ heq
    simpa [slots, pythonField, panelField] using heq

theorem takes_reader : Takes reader Means := plan.takes "struct Config"

/-- A configuration is read from the texts of the documents that mean it. -/
theorem ofText_eq_ok_iff {text : String} {c : Config} :
    ofText text = .ok c ↔ c.isValid = true ∧ ∃ d : Document, d.Laid text.toList ∧ Means d c := by
  rw [← takes_reader.readText_eq_ok_iff, ofText]
  cases readText reader text.toList with
  | error f => simp
  | ok c' =>
    dsimp only
    split_ifs with hv
    · constructor
      · intro h
        cases h
        exact ⟨hv, rfl⟩
      · rintro ⟨-, h⟩
        cases h
        rfl
    · refine iff_of_false nofun ?_
      rintro ⟨hvalid, h⟩
      cases h
      exact hv hvalid

theorem load_of_read {t : FileTree} {here : Location} {p : Path} {s : String}
    (h : t.read here p = .ok (Text.Utf8.encode s)) : load t here p = ofText s := by
  rw [load, FileTree.readText_of_read h]

end Config

/-! ### Printed configurations -/

namespace PythonConfig

theorem isString_string (s : String) : IsString (Value.string s).document s :=
  ⟨s.toList.flatMap escape, spells_flatMap_escape _, rfl⟩

theorem isPath_path? : ∀ p : Option Path, Optional IsPath (path? p).document p
  | none => rfl
  | some p => isString_string p.text

theorem means_strings (ss : List String) :
    extensionsField.Means (Value.strings ss).document ss := by
  refine ⟨_, rfl, ?_⟩
  rw [documents_eq, List.map_map, List.forall₂_map_left_iff, List.forall₂_same]
  exact fun s _ => isString_string s

theorem means_toValue {c : PythonConfig} (h : c.timeoutMs ≤ Text.maxWord) :
    Means c.toValue.document c := by
  refine Record.means_object_of_forall (by simp) ?_
  simp only [documentFields, List.forall_mem_cons]
  refine ⟨⟨_, ?_, isPath_path? c.interpreter⟩, ⟨.natural c.timeoutMs, ?_, rfl, h⟩,
    ⟨_, ?_, isPath_path? c.helperScript⟩, ⟨_, ?_, means_strings c.sourceExtensions⟩,
    List.forall_mem_nil _⟩ <;> simp [interpreterField, timeoutField, helperField, extensionsField]

end PythonConfig

namespace PanelConfig

theorem means_color (c : Color) :
    IsColor (Value.array ([c.red, c.green, c.blue].map fun x => .natural x.toNat)).document c := by
  have hpart : ∀ x : UInt8, IsNatural 255 (Value.natural x.toNat).document x.toNat :=
    fun x => ⟨rfl, Nat.le_of_lt_succ x.toNat_lt⟩
  exact ⟨_, rfl, .cons (hpart c.red) (.cons (hpart c.green) (.cons (hpart c.blue) .nil))⟩

theorem means_toValue (c : PanelConfig) : Means c.toValue.document c := by
  refine Record.means_object_of_forall (by simp) ?_
  simp only [documentFields, List.forall_mem_cons]
  refine ⟨⟨.bool c.scrollToHighlight, ?_, rfl⟩, ⟨_, ?_, means_color c.highlightColor⟩,
    List.forall_mem_nil _⟩ <;> simp [scrollField, colorField]

end PanelConfig

namespace Config

theorem means_toValue {c : Config} (h : c.python.timeoutMs ≤ Text.maxWord) :
    Means c.toValue.document c := by
  refine Record.means_object_of_forall (by simp) ?_
  simp only [documentFields, List.forall_mem_cons]
  refine ⟨⟨_, ?_, PythonConfig.means_toValue h⟩, ⟨_, ?_, c.panel.means_toValue⟩,
    List.forall_mem_nil _⟩ <;> simp [pythonField, panelField]

end Config

end ListingPanel
