import ListingPanel.Disassembler
import ListingPanel.Host
import ListingPanel.ListingView

/-!
Panels that show the listing of the selected file. A synced panel also binds to the active editor
and highlights what is selected there. Each refresh gives up the old binding before it makes a new
one.
-/
namespace ListingPanel

structure ListingSource where
  python : PythonConfig
  disassembler : Disassembler
  deriving DecidableEq

namespace ListingSource

def ofConfig (c : Config) : ListingSource := ⟨c.python, .ofConfig c.python⟩

/-- The text for what the host has selected, and the file that it belongs to. -/
def listing (launch : Launcher) (s : ListingSource) (h : Host) : (String × Option Path) × Host :=
  let (toolchain, h) := h.resolve
  match toolchain, h.file with
  | none, _ => ((Diagnostic.noToolchain.text, none), h)
  | some _, none => ((Diagnostic.noFile.text, none), h)
  | some toolchain, some file =>
    if !s.python.isSourceFile file then ((Diagnostic.notSourceFile.text, some file), h)
    else
      match h.document? file with
      | none => ((Diagnostic.noDocument.text, some file), h)
      | some source =>
        let (text, machine) := s.disassembler.produce launch h.machine source (some toolchain)
        ((text, some file), { h with machine })

end ListingSource

structure Binding where
  editor : EditorId
  subscription : SubscriptionId
  deriving DecidableEq, Repr

structure SyncedPanel where
  source : ListingSource
  view : ListingView
  /-- The file that the text belongs to. -/
  shownFile : Option Path := none
  binding : Option Binding := none
  disposed : Bool := false
  deriving DecidableEq

namespace SyncedPanel

def ofConfig (c : Config) (height : Nat) : SyncedPanel where
  source := .ofConfig c
  view := .blank height c.panel.highlightColor c.panel.scrollToHighlight

variable (launch : Launcher) (id : PanelId) (p : SyncedPanel) (h : Host)

def unbind : SyncedPanel × Host :=
  ({ p with binding := none, view := p.view.clear },
    match p.binding with
    | some b => h.unsubscribe b.subscription
    | none => h)

/-- Binds to an editor and follows its selection. -/
def bind (editor : EditorId) : SyncedPanel × Host :=
  let view := match h.selection? editor with
    | some s => p.view.follow s.lines
    | none => p.view
  ({ p with view, binding := some ⟨editor, h.listeners.nextId⟩ },
    h.subscribe editor (.panel id editor))

/-- Shows the listing of the selected file, and binds to the active editor. -/
def refresh : SyncedPanel × Host :=
  if p.disposed then (p, h)
  else
    let (p, h) := p.unbind h
    let ((text, shownFile), h) := p.source.listing launch h
    let p := { p with view := p.view.setText text, shownFile }
    match h.activeEditor with
    | some editor => p.bind id h editor
    | none => (p, h)

/-- Refreshes if the event concerns what is shown. -/
def handle (e : HostEvent) : SyncedPanel × Host :=
  match e with
  | .fileSelected _ => p.refresh launch id h
  | .documentChanged file =>
    if p.shownFile.any (·.sameFile file) then p.refresh launch id h else (p, h)

def dispose : SyncedPanel × Host :=
  if p.disposed then (p, h)
  else
    let (p, h) := p.unbind h
    ({ p with disposed := true }, h)

/-- The host after the panel is gone. A busy host cannot be reached. -/
def leave (busy : Bool) : Host :=
  match p.binding with
  | some b => if busy then h else h.unsubscribe b.subscription
  | none => h

/-- What an event of an editor does, for a listener bound to `editor`. -/
def receive (editor : EditorId) (e : EditorEvent) : SyncedPanel :=
  if e.editor = editor then { p with view := p.view.follow e.lines } else p

def settle : SyncedPanel := { p with view := p.view.settle }

def resize (height : Nat) : SyncedPanel := { p with view := p.view.resize height }

end SyncedPanel

/-- A panel without a binding. -/
structure PlainPanel where
  source : ListingSource
  surface : Surface
  deriving DecidableEq

namespace PlainPanel

def ofConfig (c : Config) (height : Nat) : PlainPanel where
  source := .ofConfig c
  surface := .blank height c.panel.highlightColor

def refresh (launch : Launcher) (p : PlainPanel) (h : Host) : PlainPanel × Host :=
  let ((text, _), h) := p.source.listing launch h
  ({ p with surface := p.surface.setText text }, h)

end PlainPanel

inductive Panel where
  | synced (p : SyncedPanel)
  | plain (p : PlainPanel)
  deriving DecidableEq

namespace Panel

def surface : Panel → Surface
  | synced p => p.view.surface
  | plain p => p.surface

def refresh (launch : Launcher) (id : PanelId) (h : Host) : Panel → Panel × Host
  | synced p =>
    let (p, h) := p.refresh launch id h
    (synced p, h)
  | plain p =>
    let (p, h) := p.refresh launch h
    (plain p, h)

def leave (busy : Bool) (h : Host) : Panel → Host
  | synced p => p.leave h busy
  | plain _ => h

def receive (editor : EditorId) (e : EditorEvent) : Panel → Panel
  | synced p => synced (p.receive editor e)
  | plain p => plain p

end Panel

end ListingPanel
