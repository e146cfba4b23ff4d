import ListingPanel.Path

/-!
Variables of a process, and the places that they name.
-/
namespace ListingPanel

/-- Variables by name. -/
abbrev Environment := List (String × String)

namespace Environment

def get? (e : Environment) (name : String) : Option String := e.lookup name

/-- The user's home directory; `accountHome` where no variable names it. -/
def home (e : Environment) (accountHome : Path) : Path :=
  match e.get? "HOME" with
  | some h => if h.isEmpty then accountHome else ⟨h⟩
  | none => accountHome

/-- Where configurations are kept. A relative directory in the variable does not count. -/
def configDirectory (e : Environment) (accountHome : Path) : Path :=
  match e.get? "XDG_CONFIG_HOME" with
  | some d => if (Path.mk d).isAbsolute then ⟨d⟩ else (e.home accountHome).join ".config"
  | none => (e.home accountHome).join ".config"

def configFile (e : Environment) (accountHome : Path) : Path :=
  ((e.configDirectory accountHome).join "bytesight").join "config.json"

def temporaryDirectory (e : Environment) : Path := ⟨(e.get? "TMPDIR").getD "/tmp"⟩

end Environment

end ListingPanel
