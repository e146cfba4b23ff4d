import ListingPanel.Event

/-!
Listeners to editor events, in the order of their subscription. Each has an identifier that is never
given again.
-/
namespace ListingPanel

abbrev SubscriptionId := Nat

structure Subscription (α : Type) where
  id : SubscriptionId
  editor : EditorId
  listener : α
  deriving DecidableEq, Repr

structure Listeners (α : Type) where
  lastId : Nat := 0
  live : List (Subscription α) := []
  deriving DecidableEq, Repr

namespace Listeners

variable {α : Type}

def nextId (l : Listeners α) : SubscriptionId := l.lastId + 1

def subscribe (l : Listeners α) (editor : EditorId) (listener : α) : Listeners α :=
  { lastId := l.nextId, live := l.live ++ [⟨l.nextId, editor, listener⟩] }

def isLive (l : Listeners α) (id : SubscriptionId) : Bool := l.live.any (·.id == id)

def unsubscribe (l : Listeners α) (id : SubscriptionId) : Listeners α :=
  { l with live := l.live.filter (·.id != id) }

/-- The listeners that an event of `editor` reaches, in order. -/
def listening (l : Listeners α) (editor : EditorId) : List α :=
  (l.live.filter (·.editor == editor)).map (·.listener)

/-- Tells the listeners of an event's editor, one subscription after another, and counts them. -/
def dispatch {σ : Type} (tell : EditorEvent → α → σ → σ) (l : Listeners α) (e : EditorEvent)
    (x : σ) : σ × Nat :=
  l.live.foldl (fun r s => if s.editor == e.editor then (tell e s.listener r.1, r.2 + 1) else r)
    (x, 0)

def count (l : Listeners α) (editor : EditorId) : Nat := (l.listening editor).length

end Listeners

end ListingPanel
