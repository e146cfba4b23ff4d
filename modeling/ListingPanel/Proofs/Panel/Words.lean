import ListingPanel.Proofs.Panel.Checked
import Mathlib.Data.List.Induction

/-!
The window of a panel counted in words of 64 bits. A sum has no result where it is no word, except
that of the top and the height, which stops at the greatest word. The texts that a window is on have
a word of lines, and so this comes to the same as counting without bound.
-/
namespace ListingPanel

/-! ### Words -/

/-- The sum of two numbers, unless it is no word. -/
def plus? (a b : Nat) : Option Nat := if a + b ≤ Text.maxWord then some (a + b) else none

/-- The sum of two numbers, or the greatest word. -/
def plusUpToWord (a b : Nat) : Nat := min (a + b) Text.maxWord

theorem plus?_eq {a b : Nat} (h : a + b ≤ Text.maxWord) : plus? a b = some (a + b) := if_pos h

def Block.lengthInWords? (b : Block) : Option Nat := do plus? (← minus? b.last b.first) 1

theorem Block.lengthInWords?_eq {b : Block} (hb : b.first ≤ b.last) (hw : b.last < Text.maxWord) :
    b.lengthInWords? = some b.length := by
  have hsum : b.last - b.first + 1 ≤ Text.maxWord := by omega
  rw [lengthInWords?, minus?_eq hb]
  exact plus?_eq hsum

namespace Viewport

def revealTargetInWords? (v : Viewport) (b : Block) : Option Nat := do
  if v.height < (← b.lengthInWords?) then some b.first
  else
    let middle ← plus? b.first ((← minus? b.last b.first) / 2)
    some (middle - v.height / 2)

def revealInWords? (v : Viewport) (b : Block) : Option Viewport :=
  (v.revealTargetInWords? b).map v.scrollTo

/-- The first visible line and the end of the visible lines. -/
def rangeInWords (v : Viewport) : Nat × Nat :=
  let stop := min (plusUpToWord v.top v.height) v.lineCount
  (min v.top stop, stop)

theorem revealTargetInWords?_eq (v : Viewport) {b : Block} (hb : b.first ≤ b.last)
    (hw : b.last < Text.maxWord) : v.revealTargetInWords? b = some (v.revealTarget b) := by
  have hmiddle : b.first + (b.last - b.first) / 2 ≤ Text.maxWord := by omega
  unfold revealTargetInWords? revealTarget
  rw [Block.lengthInWords?_eq hb hw, minus?_eq hb]
  simp only [Option.bind_eq_bind, Option.bind_some]
  rw [plus?_eq hmiddle]
  split_ifs <;> rfl

theorem revealInWords?_eq (v : Viewport) {b : Block} (hb : b.first ≤ b.last)
    (hw : b.last < Text.maxWord) : v.revealInWords? b = some (v.reveal b) := by
  rw [revealInWords?, v.revealTargetInWords?_eq hb hw]
  rfl

/-- The sum that stops at the greatest word is cut off at the last line in any case. -/
theorem rangeInWords_eq {v : Viewport} (h : v.lineCount ≤ Text.maxWord) :
    v.rangeInWords = (v.start, v.stop) := by
  have hstop : min (plusUpToWord v.top v.height) v.lineCount = v.stop := by
    unfold plusUpToWord stop
    omega
  rw [rangeInWords, hstop]
  rfl

/-! ### Blocks that are revealed -/

section Reveal
variable {v : Viewport} {b : Block} (hb : b.first ≤ b.last) (hc : b.last < v.lineCount)
include hb hc

theorem first_mem_visible_reveal (hh : 1 ≤ v.height) : b.first ∈ (v.reveal b).visible := by
  have hv : (v.reveal b).height = v.height := rfl
  have htop : (v.reveal b).top = min (v.revealTarget b) (v.lineCount - v.height) := rfl
  rw [mem_visible, lineCount_reveal, hv, htop]
  unfold revealTarget Block.length
  split_ifs <;> omega

/-- Below the start of a block that is higher than the window there are lines enough. -/
theorem top_reveal_of_lt (ht : v.height < b.length) : (v.reveal b).top = b.first := by
  have htop : (v.reveal b).top = min (v.revealTarget b) (v.lineCount - v.height) := rfl
  rw [htop, revealTarget, if_pos ht]
  unfold Block.length at ht
  omega

theorem visible_reveal_of_lt (ht : v.height < b.length) :
    (v.reveal b).visible = (List.range v.height).map (b.first + ·) := by
  have htop := top_reveal_of_lt hb hc ht
  have hv : (v.reveal b).height = v.height := rfl
  unfold Block.length at ht
  have hstop : (v.reveal b).stop = b.first + v.height := by
    rw [stop, htop, hv, lineCount_reveal]
    omega
  have hstart : (v.reveal b).start = b.first := by
    rw [start, htop, hstop]
    omega
  rw [visible, hstart, hstop, Nat.add_sub_cancel_left]

/-- The start of a block is visible once the block has been revealed, if there is a row at all. A
block that is higher than the window fills it from its start on. Nothing that is counted on the way
falls out of the words if the lines of the text are a word. -/
theorem reveal_shows_first :
    (1 ≤ v.height → b.first ∈ (v.reveal b).visible) ∧
    (v.height < b.length → (v.reveal b).top = b.first ∧
      (v.reveal b).visible = (List.range v.height).map (b.first + ·) ∧
      ∀ d ∈ (v.reveal b).visible, b.contains d = true) ∧
    (v.lineCount ≤ Text.maxWord → v.revealInWords? b = some (v.reveal b)) := by
  refine ⟨first_mem_visible_reveal hb hc, fun ht => ?_,
    fun hw => v.revealInWords?_eq hb (by omega)⟩
  have hvisible := visible_reveal_of_lt hb hc ht
  refine ⟨top_reveal_of_lt hb hc ht, hvisible, fun d hd => ?_⟩
  rw [hvisible] at hd
  obtain ⟨i, hi, rfl⟩ := List.mem_map.mp hd
  have hi' := List.mem_range.mp hi
  unfold Block.length at ht
  simp only [Block.contains, Bool.and_eq_true, decide_eq_true_eq]
  omega

end Reveal

/-- The last three lines of as many as a word can count, in a window of two rows. -/
theorem reveal_shows_first_end :
    let v : Viewport := { top := 7, height := 2, lineCount := Text.maxWord }
    let b : Block := ⟨1, Text.maxWord - 3, Text.maxWord - 1⟩
    b.first ∈ (v.reveal b).visible ∧ (v.reveal b).top = Text.maxWord - 3 ∧
      (∀ d ∈ (v.reveal b).visible, b.contains d = true) ∧
      v.revealInWords? b = some (v.reveal b) := by
  intro v b
  obtain ⟨hfirst, htall, hwords⟩ :=
    reveal_shows_first (v := v) (b := b) (by decide) (by decide)
  obtain ⟨htop, -, hall⟩ := htall (by decide)
  exact ⟨hfirst (by decide), htop, hall, hwords (by decide)⟩

/-! ### Runs of operations -/

inductive Action where
  | reset (lineCount : Nat)
  | resize (height : Nat)
  | scrollTo (line : Nat)
  | reveal (b : Block)
  | limitScroll

def act (v : Viewport) : Action → Viewport
  | .reset n => v.reset n
  | .resize n => v.resize n
  | .scrollTo n => v.scrollTo n
  | .reveal b => v.reveal b
  | .limitScroll => v.limitScroll

/-- The window after a run of operations on one that was made for an empty text. -/
def run (height : Nat) (as : List Action) : Viewport := as.foldl act { height }

/-- Numbers are words, and a block is one of lines that are there. -/
def Allows (v : Viewport) : Action → Prop
  | .reset n | .resize n | .scrollTo n => n ≤ Text.maxWord
  | .reveal b => b.first ≤ b.last ∧ b.last < v.lineCount
  | .limitScroll => True

instance (v : Viewport) (a : Action) : Decidable (v.Allows a) :=
  match a with
  | .reset n | .resize n | .scrollTo n => inferInstanceAs (Decidable (n ≤ Text.maxWord))
  | .reveal b => inferInstanceAs (Decidable (b.first ≤ b.last ∧ b.last < v.lineCount))
  | .limitScroll => .isTrue trivial

/-- Each operation of a run is given what the window allows at that time. -/
def AllowsRun (v : Viewport) : List Action → Prop
  | [] => True
  | a :: as => v.Allows a ∧ (v.act a).AllowsRun as

def actInWords? (v : Viewport) : Action → Option Viewport
  | .reveal b => v.revealInWords? b
  | a => some (v.act a)

variable {v : Viewport}

/-- Wherever the top was before. -/
theorem limited_act (v : Viewport) (a : Action) : (v.act a).Limited := by
  cases a with
  | reset n => exact limited_reset v n
  | resize n => exact limited_resize v n
  | scrollTo n => exact limited_limitScroll _
  | reveal b => exact limited_reveal v b
  | limitScroll => exact limited_limitScroll v

theorem limited_run (height : Nat) (as : List Action) : (run height as).Limited := by
  induction as using List.reverseRecOn with
  | nil => exact Nat.zero_le _
  | append_singleton as a _ =>
    rw [run, List.foldl_concat]
    exact limited_act _ a

theorem lineCount_act_le (h : v.lineCount ≤ Text.maxWord) {a : Action} (ha : v.Allows a) :
    (v.act a).lineCount ≤ Text.maxWord := by
  cases a with
  | reset n => exact ha
  | resize _ | scrollTo _ | reveal _ | limitScroll => exact h

theorem actInWords?_eq (h : v.lineCount ≤ Text.maxWord) {a : Action} (ha : v.Allows a) :
    v.actInWords? a = some (v.act a) := by
  cases a with
  | reveal b => exact v.revealInWords?_eq ha.1 (by have := ha.2; omega)
  | reset _ | resize _ | scrollTo _ | limitScroll => rfl

/-- In words a run leads to the same window as without bound, which is on a word of lines. -/
theorem runInWords_eq (h : v.lineCount ≤ Text.maxWord) {as : List Action} (ha : v.AllowsRun as) :
    as.foldlM actInWords? v = some (as.foldl act v) ∧
      (as.foldl act v).lineCount ≤ Text.maxWord := by
  induction as generalizing v with
  | nil => exact ⟨rfl, h⟩
  | cons a as ih =>
    obtain ⟨hfirst, hrest⟩ := ha
    rw [List.foldlM_cons, actInWords?_eq h hfirst, Option.bind_eq_bind, Option.bind_some,
      List.foldl_cons]
    exact ih (lineCount_act_le h hfirst) hrest

theorem Limited.length_visible (h : v.Limited) : v.visible.length = min v.height v.lineCount := by
  have hle : v.top ≤ v.lineCount - v.height := h
  rw [visible_eq, List.length_take, List.length_drop, List.length_range]
  omega

/-- After any run of operations the window is full or shows all lines: no row is blank below the
last line while lines are hidden above. In words the run leads to the same window. And wherever the
top is put and whatever the height is set to, the visible lines are those that lie in the window and
in the text, in words as well. -/
theorem window_of_run (height : Nat) (as : List Action) :
    let v := run height as
    v.top ≤ v.lineCount - v.height ∧
    v.visible.length = min v.height v.lineCount ∧
    (0 < v.top → v.top + v.height ≤ v.lineCount) ∧
    (AllowsRun { height } as →
      as.foldlM actInWords? { height } = some v ∧ v.lineCount ≤ Text.maxWord) ∧
    ∀ w : Viewport, w.lineCount ≤ Text.maxWord →
      w.rangeInWords = (w.start, w.stop) ∧ w.start ≤ w.stop ∧ w.stop ≤ w.lineCount ∧
      (∀ i, i ∈ w.visible ↔ w.start ≤ i ∧ i < w.stop) ∧
      ∀ i, i ∈ w.visible ↔ w.top ≤ i ∧ i < w.top + w.height ∧ i < w.lineCount := by
  intro v
  have hv : v.Limited := limited_run height as
  have hle : v.top ≤ v.lineCount - v.height := hv
  refine ⟨hle, hv.length_visible, fun ht => by omega,
    fun ha => runInWords_eq (Nat.zero_le _) ha,
    fun w hw => ⟨rangeInWords_eq hw, Nat.min_le_right _ _, Nat.min_le_right _ _, fun i => ?_,
      fun i => mem_visible⟩⟩
  rw [mem_visible]
  unfold start stop
  omega

/-- A window of all rows that a word can count, which is put on the last of a thousand lines. -/
theorem window_of_run_greatest :
    let as : List Action := [.reset 1000, .scrollTo 990, .reveal ⟨1, 997, 999⟩, .resize 30]
    let v := run 10 as
    let w : Viewport := { v with top := 999, height := Text.maxWord }
    v.top = 970 ∧ v.visible.length = 30 ∧ as.foldlM actInWords? { height := 10 } = some v ∧
      w.rangeInWords = (999, 1000) ∧ ∀ i, i ∈ w.visible ↔ i = 999 := by
  intro as v w
  obtain ⟨-, hlength, -, hwords, hwindow⟩ := window_of_run 10 as
  have hallowed : AllowsRun { height := 10 } as :=
    ⟨by decide, by decide, by decide, by decide, trivial⟩
  obtain ⟨hrange, -, -, -, hmem⟩ := hwindow w (by decide)
  have htop : w.top = 999 := rfl
  have hheight : w.height = Text.maxWord := rfl
  have hcount : w.lineCount = 1000 := rfl
  refine ⟨rfl, hlength, (hwords hallowed).1, hrange.trans (by decide +kernel), fun i => ?_⟩
  rw [hmem, htop, hheight, hcount, Text.maxWord]
  omega

end Viewport

end ListingPanel
