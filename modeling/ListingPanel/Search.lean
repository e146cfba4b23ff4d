/-!
Binary search in a sequence that a predicate splits in two.
-/
namespace ListingPanel

/-- Searches `lo ≤ i < hi` for the first index where `p` fails; `p` is true below `lo` and false
from `hi` on. -/
def partitionPointBetween (p : Nat → Bool) (lo hi : Nat) : Nat :=
  if lo < hi then
    let mid := lo + (hi - lo) / 2
    if p mid then partitionPointBetween p (mid + 1) hi else partitionPointBetween p lo mid
  else lo
termination_by hi - lo

/-- The first of the indices below `n` where `p` fails, or `n`, if `p` never holds again after it
has failed. -/
def partitionPoint (n : Nat) (p : Nat → Bool) : Nat := partitionPointBetween p 0 n

theorem partitionPointBetween_le {p : Nat → Bool} {lo hi : Nat} (h : lo ≤ hi) :
    partitionPointBetween p lo hi ≤ hi := by
  fun_induction partitionPointBetween p lo hi with
  | case1 lo hi hlt mid hp ih => exact ih (by omega)
  | case2 lo hi hlt mid hp ih => have := ih (by omega); omega
  | case3 lo hi hlt => exact h

theorem partitionPoint_le (n : Nat) (p : Nat → Bool) : partitionPoint n p ≤ n :=
  partitionPointBetween_le (Nat.zero_le n)

end ListingPanel
