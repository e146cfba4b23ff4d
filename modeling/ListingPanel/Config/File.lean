import ListingPanel.Config.Json
import ListingPanel.FileTree

/-!
Configuration files: where they are, how they are loaded and saved.
-/
namespace ListingPanel

inductive ConfigFault where
  | file (f : FileFault)
  | text (f : Json.Fault)
  | invalid
  deriving DecidableEq, Repr

def ConfigFault.message : ConfigFault → String
  | .file f => "IO error: " ++ f.message
  | .text f => "Parse error: " ++ f.message
  | .invalid => "Validation error: python.timeout_ms must be greater than zero"

namespace Config

def ofText (text : String) : Except ConfigFault Config :=
  match Json.readText reader text.toList with
  | .error f => .error (.text f)
  | .ok c => if c.isValid then .ok c else .error .invalid

def load (t : FileTree) (here : Location) (p : Path) : Except ConfigFault Config :=
  match t.readText here p with
  | .error f => .error (.file f)
  | .ok text => ofText text

def save (c : Config) (t : FileTree) (here : Location) (p : Path) : Except ConfigFault FileTree :=
  (t.write here p (Text.Utf8.encode c.text)).mapError .file

end Config

/-- The configuration of a file; the default one if the file cannot be used. -/
def Config.loadOrDefault (t : FileTree) (here : Location) (p : Path) : Config :=
  match Config.load t here p with
  | .ok c => c
  | .error _ => {}

end ListingPanel
