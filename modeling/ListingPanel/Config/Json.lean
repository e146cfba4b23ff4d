import ListingPanel.Config
import ListingPanel.Json.Typed
import ListingPanel.Json.Value

/-!
The JSON form of a configuration. Reading fills what a text leaves out from the defaults; writing
gives every field, in order of declaration.
-/
namespace ListingPanel

open Json

namespace PythonConfig

structure Given where
  interpreter : Option (Option Path) := none
  timeoutMs : Option Nat := none
  helperScript : Option (Option Path) := none
  sourceExtensions : Option (List String) := none

def readPath : Reader Path := return ⟨← string "path string"⟩

def fields : List (RecordField Given) := [
  { name := "interpreter"
    isSet := (·.interpreter.isSome)
    read := fun g => return { g with interpreter := some (← optional readPath) } },
  { name := "timeout_ms"
    isSet := (·.timeoutMs.isSome)
    read := fun g => return { g with timeoutMs := some (← natural Text.maxWord "u64") } },
  { name := "helper_script"
    isSet := (·.helperScript.isSome)
    read := fun g => return { g with helperScript := some (← optional readPath) } },
  { name := "source_extensions"
    isSet := (·.sourceExtensions.isSome)
    read := fun g => return { g with sourceExtensions := some (← array (string "a string")) } }]

def ofGiven (g : Given) : PythonConfig :=
  let d : PythonConfig := {}
  { interpreter := g.interpreter.getD d.interpreter
    timeoutMs := g.timeoutMs.getD d.timeoutMs
    helperScript := g.helperScript.getD d.helperScript
    sourceExtensions := g.sourceExtensions.getD d.sourceExtensions }

def reader : Reader PythonConfig := ofGiven <$> record "struct PythonConfig" fields {}

def path? : Option Path → Value
  | some p => .string p.text
  | none => .null

def toValue (c : PythonConfig) : Value :=
  .object [
    ("interpreter", path? c.interpreter),
    ("timeout_ms", .natural c.timeoutMs),
    ("helper_script", path? c.helperScript),
    ("source_extensions", .strings c.sourceExtensions)]

end PythonConfig

namespace PanelConfig

structure Given where
  scrollToHighlight : Option Bool := none
  highlightColor : Option Color := none

/-- A color as an array of red, green and blue. -/
def readColor : Reader Color := do
  match ← exactly 3 (natural 255 "u8") with
  | [r, g, b] => return ⟨r.toUInt8, g.toUInt8, b.toUInt8⟩
  | cs => throw (.wrongLength cs.length "an array of length 3")

def fields : List (RecordField Given) := [
  { name := "scroll_to_highlight"
    isSet := (·.scrollToHighlight.isSome)
    read := fun g => return { g with scrollToHighlight := some (← boolean) } },
  { name := "highlight_color"
    isSet := (·.highlightColor.isSome)
    read := fun g => return { g with highlightColor := some (← readColor) } }]

def ofGiven (g : Given) : PanelConfig :=
  let d : PanelConfig := {}
  { scrollToHighlight := g.scrollToHighlight.getD d.scrollToHighlight
    highlightColor := g.highlightColor.getD d.highlightColor }

def reader : Reader PanelConfig := ofGiven <$> record "struct PanelConfig" fields {}

def toValue (c : PanelConfig) : Value :=
  let ⟨r, g, b⟩ := c.highlightColor
  .object [
    ("scroll_to_highlight", .bool c.scrollToHighlight),
    ("highlight_color", .array ([r, g, b].map fun x => .natural x.toNat))]

end PanelConfig

namespace Config

structure Given where
  python : Option PythonConfig := none
  panel : Option PanelConfig := none

def fields : List (RecordField Given) := [
  { name := "python"
    isSet := (·.python.isSome)
    read := fun g => return { g with python := some (← PythonConfig.reader) } },
  { name := "panel"
    isSet := (·.panel.isSome)
    read := fun g => return { g with panel := some (← PanelConfig.reader) } }]

def ofGiven (g : Given) : Config :=
  let d : Config := {}
  { python := g.python.getD d.python, panel := g.panel.getD d.panel }

def reader : Reader Config := ofGiven <$> record "struct Config" fields {}

def toValue (c : Config) : Value :=
  .object [("python", c.python.toValue), ("panel", c.panel.toValue)]

def text (c : Config) : String := c.toValue.text

end Config

end ListingPanel
