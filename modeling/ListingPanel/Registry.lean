import ListingPanel.Workspace

/-!
The panels of projects. Each project has at most one.
-/
namespace ListingPanel

structure Registry where
  workspace : Workspace
  entries : List (String × PanelId) := []
  deriving DecidableEq

namespace Registry

variable (launch : Launcher) (r : Registry) (project : String)

def id? : Option PanelId := r.entries.lookup project

def contains : Bool := (r.id? project).isSome

def panel? : Option Panel := (r.id? project).bind r.workspace.panel?

/-- Takes the panel of a project away, and tells whether it had one. -/
def remove : Bool × Registry :=
  match r.id? project with
  | some id =>
    (true, { workspace := r.workspace.remove id false
             entries := r.entries.filter (·.1 != project) })
  | none => (false, r)

def dispose : Registry := (r.remove project).2

/-- Gives a project a panel in place of the one it has. -/
def insert (p : Panel) : Registry :=
  let r := r.dispose project
  { workspace := r.workspace.insert p
    entries := r.entries ++ [(project, r.workspace.nextPanel)] }

/-- Refreshes the panel of a project, and tells whether it has one. -/
def update : Bool × Registry :=
  match r.id? project with
  | some id => (true, { r with workspace := r.workspace.refresh launch id })
  | none => (false, r)

def refresh : Registry := (r.update launch project).2

end Registry

end ListingPanel
