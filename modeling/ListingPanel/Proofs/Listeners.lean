import ListingPanel.Listeners
import Mathlib.Data.List.Induction

/-!
What a history of subscriptions leaves, which identifiers it gives, and whom its events reach.
-/
namespace ListingPanel

namespace Listeners

/-- One thing that is asked of listeners. -/
inductive Action (α : Type) where
  | subscribe (editor : EditorId) (listener : α)
  | unsubscribe (id : SubscriptionId)
  | dispatch (e : EditorEvent)

inductive Answer where
  | given (id : SubscriptionId)
  | removed (found : Bool)
  | told (listeners : Nat)
  deriving DecidableEq

def Answer.given? : Answer → Option SubscriptionId
  | .given id => some id
  | _ => none

variable {α σ β : Type} (tell : EditorEvent → α → σ → σ)

/-- Listeners, what they make of what they are told, and what has been answered so far. -/
structure Session (α σ : Type) where
  listeners : Listeners α := {}
  world : σ
  answers : List Answer := []

def Session.step (r : Session α σ) : Action α → Session α σ
  | .subscribe e k =>
    { r with
      listeners := r.listeners.subscribe e k
      answers := r.answers ++ [.given r.listeners.nextId] }
  | .unsubscribe id =>
    { r with
      listeners := r.listeners.unsubscribe id
      answers := r.answers ++ [.removed (r.listeners.isLive id)] }
  | .dispatch e =>
    { r with
      world := (r.listeners.dispatch tell e r.world).1
      answers := r.answers ++ [.told (r.listeners.dispatch tell e r.world).2] }

def Session.run (x : σ) (as : List (Action α)) : Session α σ :=
  as.foldl (Session.step tell) { world := x }

/-! ### A plain account of histories -/

def Action.subscribes : Action α → Bool
  | .subscribe _ _ => true
  | _ => false

def Action.withdraws (id : SubscriptionId) : Action α → Bool
  | .unsubscribe i => i == id
  | _ => false

section Kinds
variable {e : EditorEvent} {i : EditorId} {k : α} {id n : SubscriptionId}

@[simp] theorem Action.subscribes_subscribe : (subscribe i k).subscribes = true := rfl

@[simp] theorem Action.subscribes_unsubscribe :
    (unsubscribe id : Action α).subscribes = false := rfl

@[simp] theorem Action.subscribes_dispatch : (dispatch e : Action α).subscribes = false := rfl

@[simp] theorem Action.withdraws_subscribe : (subscribe i k).withdraws id = false := rfl

@[simp] theorem Action.withdraws_unsubscribe :
    (unsubscribe n : Action α).withdraws id = (n == id) := rfl

@[simp] theorem Action.withdraws_dispatch : (dispatch e : Action α).withdraws id = false := rfl

end Kinds

/-- The subscriptions of a history that it does not take back later, `n` identifiers having been
given before. -/
def standing (n : Nat) : List (Action α) → List (Subscription α)
  | [] => []
  | .subscribe e k :: as =>
    if as.any (·.withdraws (n + 1)) then standing (n + 1) as
    else ⟨n + 1, e, k⟩ :: standing (n + 1) as
  | _ :: as => standing n as

/-- What is answered to an action after a history. -/
def answer (as : List (Action α)) : Action α → Answer
  | .subscribe _ _ => .given (as.countP (·.subscribes) + 1)
  | .unsubscribe id => .removed ((standing 0 as).any (·.id == id))
  | .dispatch e => .told ((standing 0 as).countP (·.editor == e.editor))

/-- Whom an action reaches after a history, and with which event. -/
def deliveries (as : List (Action α)) : Action α → List (EditorEvent × α)
  | .dispatch e => ((standing 0 as).filter (·.editor == e.editor)).map fun s => (e, s.listener)
  | _ => []

/-- What `f` says of each action of a history and of what was before it. -/
def along (f : List (Action α) → Action α → β) (as : List (Action α)) : List β :=
  as.mapIdx fun i a => f (as.take i) a

/-- An identifier may be asked back before it is given, and is given all the same. -/
example : standing 0 [.unsubscribe 1, .subscribe 1 'a', .subscribe 2 'b', .unsubscribe 2,
    .unsubscribe 2, .subscribe 1 'c'] = [⟨1, 1, 'a'⟩, ⟨3, 1, 'c'⟩] := rfl

theorem along_concat (f : List (Action α) → Action α → β) (as : List (Action α)) (a : Action α) :
    along f (as ++ [a]) = along f as ++ [f as a] := by
  have hearlier : as.mapIdx (fun i b => f ((as ++ [a]).take i) b) =
      as.mapIdx fun i b => f (as.take i) b := by
    refine List.mapIdx_eq_mapIdx_iff.mpr fun i hi => ?_
    rw [List.take_append_of_le_length (Nat.le_of_lt hi)]
  unfold along
  rw [List.mapIdx_concat, hearlier, List.take_left' rfl]

/-- An identifier stands from when it is given to when it is taken back. -/
theorem standing_concat (n : Nat) (as : List (Action α)) (a : Action α) :
    standing n (as ++ [a]) = match a with
      | .subscribe e k => standing n as ++ [⟨n + as.countP (·.subscribes) + 1, e, k⟩]
      | .unsubscribe id => (standing n as).filter (·.id != id)
      | .dispatch _ => standing n as := by
  induction as generalizing n with
  | nil => cases a <;> rfl
  | cons b as ih =>
    cases b with
    | unsubscribe i | dispatch i =>
      simp only [List.cons_append, standing, ih]
      cases a <;> simp
    | subscribe e k =>
      simp only [List.cons_append, standing, ih, List.any_append]
      cases a with
      | subscribe e' k' =>
        have hn : n + 1 + as.countP (·.subscribes) = n + (as.countP (·.subscribes) + 1) := by
          omega
        cases as.any (·.withdraws (n + 1)) <;> simp [List.countP_cons, hn]
      | unsubscribe i =>
        cases as.any (·.withdraws (n + 1)) with
        | true => simp
        | false =>
          by_cases hi : i = n + 1
          · simp [hi]
          · simp [hi, Ne.symm hi]
      | dispatch e' => simp

theorem lt_id_of_mem_standing {n : Nat} {as : List (Action α)} {s : Subscription α}
    (hs : s ∈ standing n as) : n < s.id := by
  induction as generalizing n with
  | nil => cases hs
  | cons a as ih =>
    cases a with
    | unsubscribe i | dispatch i => exact ih hs
    | subscribe e k =>
      unfold standing at hs
      split_ifs at hs
      · exact Nat.lt_of_succ_lt (ih hs)
      · rcases List.mem_cons.mp hs with rfl | hs
        · exact Nat.lt_succ_self n
        · exact Nat.lt_of_succ_lt (ih hs)

theorem pairwise_standing (n : Nat) (as : List (Action α)) :
    (standing n as).Pairwise (·.id < ·.id) := by
  induction as generalizing n with
  | nil => exact List.Pairwise.nil
  | cons a as ih =>
    cases a with
    | unsubscribe i | dispatch i => exact ih n
    | subscribe e k =>
      unfold standing
      split_ifs
      · exact ih (n + 1)
      · exact List.pairwise_cons.mpr ⟨fun s hs => lt_id_of_mem_standing hs, ih (n + 1)⟩

/-! ### One action -/

/-- Those are told who listen to the editor, and they are as many as listen to it. -/
theorem dispatch_eq (l : Listeners α) (e : EditorEvent) (x : σ) :
    l.dispatch tell e x =
      ((l.listening e.editor).foldl (fun x k => tell e k x) x, l.count e.editor) := by
  obtain ⟨n, ss⟩ := l
  suffices h : ∀ m, ss.foldl (fun r s =>
      if s.editor == e.editor then (tell e s.listener r.1, r.2 + 1) else r) (x, m) =
      (((ss.filter (·.editor == e.editor)).map (·.listener)).foldl (fun x k => tell e k x) x,
        m + ((ss.filter (·.editor == e.editor)).map (·.listener)).length) by
    rw [dispatch, h, Nat.zero_add]
    rfl
  intro m
  induction ss generalizing x m with
  | nil => rfl
  | cons s ss ih =>
    rw [List.foldl_cons, List.filter_cons]
    cases s.editor == e.editor with
    | false => exact ih x m
    | true =>
      simp only [if_true, ih, List.map_cons, List.foldl_cons, List.length_cons]
      rw [Nat.add_right_comm, Nat.add_assoc]

/-- Of subscriptions with identifiers of their own, at most the one asked for goes. -/
theorem filter_id_ne {ss : List (Subscription α)} (h : ss.Pairwise (·.id < ·.id))
    (id : SubscriptionId) : ss.filter (·.id != id) = ss.eraseP (·.id == id) := by
  induction ss with
  | nil => rfl
  | cons s ss ih =>
    obtain ⟨hs, hss⟩ := List.pairwise_cons.mp h
    by_cases hid : s.id = id
    · have hkeep : ss.filter (·.id != id) = ss :=
        List.filter_eq_self.mpr fun t ht => by simpa [← hid] using Nat.ne_of_gt (hs t ht)
      rw [List.filter_cons_of_neg (by simp [hid]), List.eraseP_cons_of_pos (by simp [hid]), hkeep]
    · rw [List.filter_cons_of_pos (by simp [hid]), List.eraseP_cons_of_neg (by simp [hid]),
        ih hss]

theorem isLive_eq (l : Listeners α) (id : SubscriptionId) :
    l.isLive id = decide (l.live.length ≠ (l.unsubscribe id).live.length) := by
  have hkept : (l.unsubscribe id).live.length = l.live.length ↔ ∀ s ∈ l.live, s.id ≠ id := by
    change (l.live.filter (·.id != id)).length = _ ↔ _
    simp [List.length_filter_eq_length_iff]
  rw [Bool.eq_iff_iff, decide_eq_true_iff, ne_comm, ne_eq, hkept]
  simp [isLive]

theorem count_eq (l : Listeners α) (e : EditorId) :
    l.count e = l.live.countP (·.editor == e) := by
  rw [count, listening, List.length_map, List.countP_eq_length_filter]

/-! ### Histories -/

theorem Session.run_concat (x : σ) (as : List (Action α)) (a : Action α) :
    run tell x (as ++ [a]) = (run tell x as).step tell a := by
  unfold run
  rw [List.foldl_append, List.foldl_cons, List.foldl_nil]

/-- A history leaves what its plain account says. -/
theorem Session.run_eq (x : σ) (as : List (Action α)) :
    run tell x as =
      { listeners := ⟨as.countP (·.subscribes), standing 0 as⟩
        world := (along deliveries as).flatten.foldl (fun x d => tell d.1 d.2 x) x
        answers := along answer as } := by
  induction as using List.reverseRecOn with
  | nil => rfl
  | append_singleton as a ih =>
    rw [run_concat, ih, along_concat, along_concat, standing_concat, List.flatten_concat,
      List.foldl_append, List.countP_append]
    cases a with
    | subscribe e k => simp [step, subscribe, nextId, answer, deliveries]
    | unsubscribe id => simp [step, unsubscribe, isLive, answer, deliveries]
    | dispatch e =>
      simp [step, dispatch_eq, count_eq, listening, answer, deliveries, List.foldl_map]

/-- The identifiers given in a history are the numbers from 1 on. -/
theorem given_along (as : List (Action α)) :
    (along answer as).filterMap Answer.given? = List.range' 1 (as.countP (·.subscribes)) := by
  induction as using List.reverseRecOn with
  | nil => rfl
  | append_singleton as a ih =>
    rw [along_concat, List.filterMap_append, ih, List.countP_append]
    cases a with
    | subscribe e k => simp [answer, Answer.given?, List.range'_1_concat, Nat.add_comm 1]
    | unsubscribe id | dispatch e => simp [answer, Answer.given?]

/-- After any history, the live subscriptions are those that stand, in the order in which they were
made, and no two have one identifier: identifiers are given in ascending order, each once. Each
answer is that of the plain account, and listeners are told what it says they are told, in this
order. An unsubscription takes away the one subscription that it finds. The number of listeners that
an event reaches is the number that listen to its editor. -/
theorem session_history (x : σ) (as : List (Action α)) :
    let r := Session.run tell x as
    r.listeners.live = standing 0 as ∧
    (standing 0 as).Pairwise (·.id < ·.id) ∧
    r.answers.filterMap Answer.given? = List.range' 1 (as.countP (·.subscribes)) ∧
    r.answers = along answer as ∧
    r.world = (along deliveries as).flatten.foldl (fun x d => tell d.1 d.2 x) x ∧
    (∀ id, (r.listeners.unsubscribe id).live = (standing 0 as).eraseP (·.id == id) ∧
      (standing 0 as).any (·.id == id) =
        decide (r.listeners.live.length ≠ (r.listeners.unsubscribe id).live.length)) ∧
    ∀ e, r.listeners.listening e =
        ((standing 0 as).filter (·.editor == e)).map (·.listener) ∧
      r.listeners.count e = (standing 0 as).countP (·.editor == e) := by
  intro r
  have hr := Session.run_eq tell x as
  have hlive : r.listeners.live = standing 0 as := congrArg (·.listeners.live) hr
  have hanswers : r.answers = along answer as := congrArg (·.answers) hr
  refine ⟨hlive, pairwise_standing 0 as, hanswers ▸ given_along as, hanswers,
    congrArg (·.world) hr, fun id => ⟨?_, ?_⟩, fun e => ⟨?_, ?_⟩⟩
  · change r.listeners.live.filter (·.id != id) = _
    rw [hlive, filter_id_ne (pairwise_standing 0 as)]
  · rw [← isLive_eq, isLive, hlive]
  · rw [listening, hlive]
  · rw [count_eq, hlive]

end Listeners

end ListingPanel
