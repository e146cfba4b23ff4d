import ListingPanel.Shell.Expansion
import Mathlib.Order.MinMax
import Mathlib.Tactic.SplitIfs

/-!
The times of what processes do. Nothing is done in the past: with nobody in the background, what a
process and its children have written, and how long they have held their pipes, lies before the
clock. What the single operations of a process, and the expansion of words, make of this.
-/
namespace ListingPanel.Shell

/-- The clock stands at `low` or later. Nothing that has been done while nobody worked in the
background is later than the clock, or than `high`. -/
structure Process.Timely (low high : Time) (p : Process) : Prop where
  clock : low ≤ p.clock
  horizon : p.world.horizon = none
  written : p.world.jobs = [] → ∀ x ∈ p.world.written, x.time ≤ max high p.clock
  held : p.world.jobs = [] → ∀ x ∈ p.world.held, x.time ≤ max high p.clock

namespace Process.Timely

variable {low high v : Time} {p q child : Process}

theorem of_eq (h : p.Timely low high) (hh : q.world.horizon = p.world.horizon)
    (hj : q.world.jobs = p.world.jobs) (hw : q.world.written = p.world.written)
    (hheld : q.world.held = p.world.held) (hc : p.clock ≤ q.clock) : q.Timely low high := by
  have hle : max high p.clock ≤ max high q.clock := max_le_max le_rfl hc
  refine ⟨h.clock.trans hc, hh.trans h.horizon, fun hjobs x hx => ?_, fun hjobs x hx => ?_⟩
  · exact (h.written (hj.symm.trans hjobs) x (hw ▸ hx)).trans hle
  · exact (h.held (hj.symm.trans hjobs) x (hheld ▸ hx)).trans hle

/-- Only the world and the clock count. -/
theorem same (h : p.Timely low high) (hw : q.world = p.world) (hc : q.clock = p.clock) :
    q.Timely low high :=
  h.of_eq (congrArg _ hw) (congrArg _ hw) (congrArg _ hw) (congrArg _ hw) hc.ge

theorem spend (h : p.Timely low high) (t : Time) : (p.spend t).Timely low high := by
  unfold Process.spend
  dsimp only
  rw [h.horizon]
  exact h.of_eq rfl rfl rfl rfl (Nat.le_add_right _ _)

theorem emit (h : p.Timely low high) (n : Nat) (bytes : Bytes) :
    (p.emit n bytes).1.Timely low high := by
  unfold Process.emit
  split
  · refine ⟨h.clock, h.horizon, fun hj => ?_, h.held⟩
    exact List.forall_mem_cons.mpr ⟨le_max_right _ _, h.written hj⟩
  · exact h.of_eq rfl rfl rfl rfl le_rfl
  · exact h
  · exact h
  · exact h

theorem complain (h : p.Timely low high) (bytes : Bytes) :
    (p.complain bytes).Timely low high := h.emit 2 bytes

theorem report (h : p.Timely low high) (bytes : Bytes) :
    (p.report bytes).Timely low high := h.complain _

theorem input (h : p.Timely low high) (n : Nat) : (p.input n).1.Timely low high := by
  unfold Process.input
  split
  · split
    · exact h.of_eq rfl rfl rfl rfl (le_max_left _ _)
    · exact h
  · exact h

theorem setInput (h : p.Timely low high) (n : Nat) (bytes : Bytes) :
    (p.setInput n bytes).Timely low high := by
  unfold Process.setInput
  split
  · exact h.of_eq rfl rfl rfl rfl le_rfl
  · exact h

theorem openStream (h : p.Timely low high) (bytes : Bytes) (t : Time) :
    (p.openStream bytes t).1.Timely low high := h.of_eq rfl rfl rfl rfl le_rfl

theorem fresh (h : p.Timely low high) : p.fresh.1.Timely low high := h.of_eq rfl rfl rfl rfl le_rfl

theorem setChannel (h : p.Timely low high) (n : Nat) (c : Option Channel) :
    (p.setChannel n c).Timely low high := h.same rfl rfl

/-- A process notes what it has held, or what it has held as it was before. -/
theorem hold (h : p.Timely low high) (hq : q.clock ≤ p.clock) :
    ({ p with world := { p.world with held := q.heldNow ++ p.world.held } }).Timely low high := by
  refine ⟨h.clock, h.horizon, h.written, fun hj => ?_⟩
  refine List.forall_mem_append.mpr ⟨fun x hx => ?_, h.held hj⟩
  obtain ⟨⟨n, c⟩, -, hx⟩ := List.mem_filterMap.mp hx
  dsimp only at hx
  split at hx
  · cases hx
    exact hq.trans (le_max_right _ _)
  · cases hx

theorem noteHeld (h : p.Timely low high) : p.noteHeld.Timely low high := h.hold le_rfl

theorem fork (h : p.Timely low high) : p.fork.Timely low high := h.of_eq rfl rfl rfl rfl le_rfl

/-- What a child has done may be later than the clock of its parent. -/
theorem adopt (h : p.Timely low high) (hc : child.Timely low high) :
    (p.adopt child).Timely low (max high child.clock) := by
  have hheld := hc.noteHeld
  have hle : max high child.clock ≤ max (max high child.clock) p.clock := le_max_left _ _
  exact ⟨h.clock, hheld.horizon, fun hj x hx => (hheld.written hj x hx).trans hle,
    fun hj x hx => (hheld.held hj x hx).trans hle⟩

/-- The clock catches up. -/
theorem advance (h : p.Timely low (max high v)) (hw : q.world = p.world)
    (hc : max p.clock v ≤ q.clock) : q.Timely low high := by
  have hle : max (max high v) p.clock ≤ max high q.clock := by
    rw [max_assoc, max_comm v]
    exact max_le_max le_rfl hc
  refine ⟨h.clock.trans ((le_max_left _ _).trans hc), hw ▸ h.horizon, fun hj x hx => ?_,
    fun hj x hx => ?_⟩
  · exact (h.written (hw ▸ hj) x (hw ▸ hx)).trans hle
  · exact (h.held (hw ▸ hj) x (hw ▸ hx)).trans hle

theorem join (hc : child.Timely low high) (p : Process) : (p.join child).Timely low high := by
  have hheld := hc.noteHeld
  unfold Process.join
  dsimp only
  split
  all_goals exact ⟨hheld.clock, hheld.horizon, hheld.written, hheld.held⟩

theorem withStatus (h : p.Timely low high) (n : Nat) : (p.withStatus n).Timely low high :=
  h.same rfl rfl

theorem exitWith (h : p.Timely low high) (n : Nat) : (p.exitWith n).Timely low high :=
  h.same rfl rfl

theorem ite {c : Prop} [Decidable c] (hp : p.Timely low high) (hq : q.Timely low high) :
    (if c then p else q).Timely low high := by
  split
  exacts [hp, hq]

theorem set (h : p.Timely low high) (name value : Bytes) : (p.set name value).Timely low high := by
  unfold Process.set
  split
  · exact (h.report _).exitWith 2
  · exact h.same rfl rfl

theorem kill (h : p.Timely low high) (id : Nat) (time : Time) (status : Nat) :
    ({ p with world := p.world.kill id time, status }).Timely low high := by
  have hjobs (hj : (p.world.kill id time).jobs = []) : p.world.jobs = [] :=
    List.map_eq_nil_iff.mp hj
  refine ⟨h.clock, h.horizon, fun hj x hx => ?_, fun hj x hx => ?_⟩
  · exact h.written (hjobs hj) x (List.mem_filter.mp hx).1
  · obtain ⟨y, hy, rfl⟩ := List.mem_map.mp hx
    have hle := h.held (hjobs hj) y hy
    split_ifs
    · exact (min_le_left _ _).trans hle
    · exact hle

end Process.Timely

variable {low high : Time} {p q : Process} {capture : Capture}

theorem timely_foldl {α : Type} {f : Process → α → Process}
    (hf : ∀ p a, p.Timely low high → (f p a).Timely low high) (h : p.Timely low high)
    (as : List α) : (as.foldl f p).Timely low high := by
  induction as generalizing p with
  | nil => exact h
  | cons a as ih => exact ih (hf p a h)

/-! ### Words -/

/-- What a script writes is timely if the process that wants it is. -/
def Capture.Timely (capture : Capture) : Prop :=
  ∀ {low high : Time} (script : Bytes) {p : Process}, p.Timely low high →
    (capture p script).1.Timely low high

theorem timely_expandPart {inner : Process → List Part → Process × List Atom} (hc : capture.Timely)
    (hi : ∀ p w, p.Timely low high → (inner p w).1.Timely low high) (h : p.Timely low high)
    (part : Part) : (expandPart capture inner p part).1.Timely low high := by
  cases part with
  | text bytes quoted => exact h
  | output script quoted => exact hc script h
  | arithmetic e quoted =>
    unfold expandPart
    dsimp only
    split
    · exact (hi p e h).same rfl rfl
    · exact ((hi p e h).report _).exitWith 2
  | parameter name use quoted =>
    cases use with
    | value =>
      simp only [expandPart, apply_ite Prod.fst]
      split_ifs
      · exact (h.report _).exitWith 2
      · exact h
    | length => exact h
    | fallback orEmpty word =>
      simp only [expandPart, apply_ite Prod.fst]
      split_ifs
      exacts [hi p word h, h]
    | replace orEmpty word =>
      simp only [expandPart, apply_ite Prod.fst]
      split_ifs
      exacts [h, hi p word h]
    | assign orEmpty word =>
      simp only [expandPart, apply_ite Prod.fst]
      split_ifs
      exacts [(hi p word h).set name _, h]
    | require orEmpty word =>
      simp only [expandPart, apply_ite Prod.fst]
      split_ifs
      exacts [((hi p word h).report _).exitWith 2, ((hi p word h).report _).exitWith 2, h]
    | trim fromEnd longest word => exact hi p word h

theorem timely_expandWith (hc : capture.Timely) (fuel : Nat) (h : p.Timely low high)
    (parts : List Part) : (expandWith capture fuel p parts).1.Timely low high := by
  induction fuel generalizing p parts with
  | zero => exact h.same rfl rfl
  | succ fuel ih =>
    cases parts with
    | nil => exact h
    | cons part parts =>
      have hpart := timely_expandPart hc (fun q w hq => ih hq w) h part
      simp only [expandWith, apply_ite Prod.fst]
      split_ifs
      · exact ih hpart parts
      · exact hpart

theorem timely_expandText (hc : capture.Timely) (h : p.Timely low high) (w : Word) :
    (expandText capture p w).1.Timely low high := timely_expandWith hc _ h w

theorem timely_expandFields (hc : capture.Timely) (h : p.Timely low high) (ws : List Word) :
    (expandFields capture p ws).1.Timely low high := by
  induction ws generalizing p with
  | nil => exact h
  | cons w ws ih =>
    have hw := timely_expandWith hc nesting h w
    rw [expandFields]
    dsimp only [expand]
    rw [apply_ite Prod.fst]
    split
    · exact ih hw
    · exact hw

end ListingPanel.Shell
