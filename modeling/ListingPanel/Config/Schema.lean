import ListingPanel.Config.Json

/-!
The JSON schema of configuration files.
-/
namespace ListingPanel.Config

open Json

/-- The schema of a field: what it is for, what it holds, and its default. -/
def fieldSchema (description : String) (holds : List (String × Value)) (default : Value) : Value :=
  .object (("description", .string description) :: holds ++ [("default", default)])

def typeOnly (name : String) : List (String × Value) := [("type", .string name)]

def optionalPath : List (String × Value) := [("type", .strings ["string", "null"])]

/-- Unsigned numbers of a format, up to a maximum if one is given. -/
def unsigned (format : String) (maximum : Option Nat) : List (String × Value) :=
  [("type", .string "integer"), ("format", .string format), ("minimum", .natural 0)] ++
    (maximum.map fun n => ("maximum", Value.natural n)).toList

def member (v : Value) (name : String) : Value :=
  match v with
  | .object ms => (ms.lookup name).getD .null
  | _ => .null

def recordSchema (description : String) (fields : List (String × Value)) : Value :=
  .object [
    ("description", .string description),
    ("type", .string "object"),
    ("properties", .object fields)]

def pythonPurpose : String := "Interpreter and disassembler settings"

def panelPurpose : String := "Bytecode panel behaviour"

def pythonSchema : Value :=
  let default := member (PythonConfig.toValue {})
  recordSchema pythonPurpose [
    ("interpreter", fieldSchema
      ("Interpreter executable, or the root of a Python installation.\n" ++
        "When unset, `python3` and then `python` are looked up on PATH.")
      optionalPath (default "interpreter")),
    ("timeout_ms", fieldSchema
      "Maximum time in milliseconds to wait for the disassembler"
      (unsigned "uint64" none) (default "timeout_ms")),
    ("helper_script", fieldSchema
      ("Script to run instead of the bundled disassembler helper.\n" ++
        "It is invoked as `<interpreter> <script> <source file>`.")
      optionalPath (default "helper_script")),
    ("source_extensions", fieldSchema
      "File extensions treated as Python source"
      (typeOnly "array" ++ [("items", .object (typeOnly "string"))])
      (default "source_extensions"))]

def panelSchema : Value :=
  let default := member (PanelConfig.toValue {})
  recordSchema panelPurpose [
    ("scroll_to_highlight", fieldSchema
      "Scroll the panel to reveal the highlighted block after each cursor move"
      (typeOnly "boolean") (default "scroll_to_highlight")),
    ("highlight_color", fieldSchema
      "Background color of highlighted blocks as [r, g, b]"
      (typeOnly "array" ++ [("items", .object (unsigned "uint8" (some 255))),
        ("minItems", .natural 3), ("maxItems", .natural 3)])
      (default "highlight_color"))]

/-- A field with a schema of its own. -/
def reference (description name : String) (default : Value) : Value :=
  .object [
    ("description", .string description),
    ("$ref", .string ("#/$defs/" ++ name)),
    ("default", default)]

def schema : Value :=
  let default := member (Config.toValue {})
  .object [
    ("$schema", .string "https://json-schema.org/draft/2020-12/schema"),
    ("title", .string "Config"),
    ("description", .string "Main configuration structure"),
    ("type", .string "object"),
    ("properties", .object [
      ("python", reference pythonPurpose "PythonConfig" (default "python")),
      ("panel", reference panelPurpose "PanelConfig" (default "panel"))]),
    ("$defs", .object [("PythonConfig", pythonSchema), ("PanelConfig", panelSchema)])]

end ListingPanel.Config
