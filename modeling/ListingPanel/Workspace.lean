import ListingPanel.Panel

/-!
A host and its panels.
-/
namespace ListingPanel

structure Workspace where
  host : Host
  panels : List (PanelId × Panel) := []
  /-- The identifier that the next panel gets. -/
  nextPanel : PanelId := 0
  deriving DecidableEq

namespace Workspace

variable (launch : Launcher) (w : Workspace)

def panel? (id : PanelId) : Option Panel := w.panels.lookup id

def insert (p : Panel) : Workspace :=
  { w with panels := w.panels ++ [(w.nextPanel, p)], nextPanel := w.nextPanel + 1 }

/-- Changes one panel. -/
def modify (id : PanelId) (f : Panel → Panel) : Workspace :=
  { w with panels := w.panels.map fun (i, p) => (i, if i = id then f p else p) }

/-- Lets one panel act on the host. -/
def act (id : PanelId) (f : Panel → Host → Panel × Host) : Workspace :=
  match w.panel? id with
  | some p =>
    let (q, host) := f p w.host
    { (w.modify id fun _ => q) with host }
  | none => w

/-- Lets one synced panel act on the host. -/
def actSynced (id : PanelId) (f : SyncedPanel → Host → SyncedPanel × Host) : Workspace :=
  w.act id fun p h =>
    match p with
    | .synced p =>
      let (p, h) := f p h
      (.synced p, h)
    | .plain p => (.plain p, h)

def refresh (id : PanelId) : Workspace := w.act id fun p h => p.refresh launch id h

def handle (id : PanelId) (e : HostEvent) : Workspace :=
  w.actSynced id fun p h => p.handle launch id h e

def dispose (id : PanelId) : Workspace := w.actSynced id SyncedPanel.dispose

def settle (id : PanelId) : Workspace := w.actSynced id fun p h => (p.settle, h)

def resize (id : PanelId) (height : Nat) : Workspace :=
  w.actSynced id fun p h => (p.resize height, h)

/-- Takes a panel away. A panel that goes while the host is busy leaves its subscription behind. -/
def remove (id : PanelId) (busy : Bool) : Workspace :=
  match w.panel? id with
  | some p =>
    { w with host := p.leave busy w.host, panels := w.panels.filter (·.1 != id) }
  | none => w

/-- Tells a listener about an event. -/
def notify (e : EditorEvent) : Listener → Workspace
  | .panel id editor => w.modify id (·.receive editor e)
  | .other _ => w

/-- The listeners that an event reaches, in order. -/
def reached (e : EditorEvent) : List Listener := w.host.listeners.listening e.editor

/-- Tells all listeners of an editor about an event. -/
def dispatch (e : EditorEvent) : Workspace :=
  (w.host.listeners.dispatch (fun e k w => w.notify e k) e w).1

/-- Stores a new selection and reports it. -/
def select (editor : EditorId) (s : Selection) : Workspace :=
  { w with host := w.host.setSelection editor s }.dispatch (s.event editor)

def setHost (f : Host → Host) : Workspace := { w with host := f w.host }

end Workspace

end ListingPanel
