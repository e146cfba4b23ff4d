import ListingPanel.Path
import ListingPanel.Selection

/-!
What editors and their host report.
-/
namespace ListingPanel

abbrev EditorId := Nat

inductive EditorEvent where
  | caretMoved (editor : EditorId) (line : Nat)
  | selectionChanged (editor : EditorId) (lines : LineRange)
  deriving DecidableEq, Repr

namespace EditorEvent

def editor : EditorEvent → EditorId
  | caretMoved e _ => e
  | selectionChanged e _ => e

def lines : EditorEvent → LineRange
  | caretMoved _ n => .single n
  | selectionChanged _ r => r

end EditorEvent

inductive HostEvent where
  | fileSelected (file : Option Path)
  | documentChanged (file : Path)
  deriving DecidableEq, Repr

def Selection.event (s : Selection) (editor : EditorId) : EditorEvent :=
  match s.ends with
  | some (a, b) => .selectionChanged editor (.between a b)
  | none => .caretMoved editor s.caret

@[simp] theorem Selection.event_editor (s : Selection) (e : EditorId) :
    (s.event e).editor = e := by
  obtain ⟨_, _ | _⟩ := s <;> rfl

@[simp] theorem Selection.event_lines (s : Selection) (e : EditorId) :
    (s.event e).lines = s.lines := by
  obtain ⟨_, _ | _⟩ := s <;> rfl

end ListingPanel
