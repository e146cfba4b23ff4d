import ListingPanel.Event
import ListingPanel.Listeners
import ListingPanel.Machine

/-!
The host of panels: it knows the active editor and the selected file, and takes listeners to its
editors.
-/
namespace ListingPanel

abbrev PanelId := Nat

inductive Listener where
  | panel (id : PanelId) (editor : EditorId)
  | other (tag : Nat)
  deriving DecidableEq, Repr

inductive Documents where
  | held (texts : List (Path × String))
  | onDisk
  deriving DecidableEq

structure Host where
  activeEditor : Option EditorId := none
  file : Option Path := none
  toolchain : Option Path := none
  selections : List (EditorId × Selection) := []
  documents : Documents := .held []
  listeners : Listeners Listener := {}
  /-- The editor under which listeners are put in place of the one they ask for. -/
  misroute : Option EditorId := none
  machine : Machine := {}
  /-- How often the toolchain has been asked for. -/
  resolutions : Nat := 0
  deriving DecidableEq

namespace Host

def selection? (h : Host) (e : EditorId) : Option Selection := h.selections.lookup e

/-- The text of a document. A document that is held is found by the components of its path. -/
def document? (h : Host) (p : Path) : Option String :=
  match h.documents with
  | .held texts => (texts.find? fun d => d.1.same p).map (·.2)
  | .onDisk => (h.machine.readText p).toOption

def setSelection (h : Host) (e : EditorId) (s : Option Selection) : Host :=
  let others := h.selections.filter (·.1 != e)
  { h with selections := (s.map fun s => (e, s)).toList ++ others }

def setDocument (h : Host) (p : Path) (text : Option String) : Host :=
  match h.documents with
  | .held texts =>
    let others := texts.filter fun d => !d.1.same p
    { h with documents := .held ((text.map fun t => (p, t)).toList ++ others) }
  | .onDisk => h

def resolve (h : Host) : Option Path × Host :=
  (h.toolchain, { h with resolutions := h.resolutions + 1 })

def subscribe (h : Host) (e : EditorId) (l : Listener) : Host :=
  { h with listeners := h.listeners.subscribe (h.misroute.getD e) l }

def unsubscribe (h : Host) (id : SubscriptionId) : Host :=
  { h with listeners := h.listeners.unsubscribe id }

def singleEditor : EditorId := 1

/-- A host for a single file on disk, with the caret on line 1. -/
def forFile (file : Path) (toolchain : Option Path) (machine : Machine) : Host where
  activeEditor := some singleEditor
  file := some file
  toolchain
  selections := [(singleEditor, { caret := 1 })]
  documents := .onDisk
  machine

end Host

end ListingPanel
