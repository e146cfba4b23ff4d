import ListingPanel.Proofs.Listing.Tiling

/-! The source line of a display line is what a scan up the listing finds: the number of the first
head that it meets. -/
namespace ListingPanel

namespace Listing

variable {ls : List (List Char)}

/-- The number of the last head among the first `k` lines, looked for from line `k - 1` upwards. -/
def lastHead? (ls : List (List Char)) : Nat → Option Nat
  | 0 => none
  | k + 1 => (ls[k]?.bind headNumber?).or (lastHead? ls k)

theorem lastHead?_eq_getLast? (ls : List (List Char)) (k : Nat) :
    lastHead? ls k = ((ls.take k).filterMap headNumber?).getLast? := by
  induction k with
  | zero => rfl
  | succ k ih =>
    rw [lastHead?, List.take_add_one, List.filterMap_append, List.getLast?_append, ih]
    cases hl : ls[k]? with
    | none => rfl
    | some l => cases hn : headNumber? l <;> simp [hn]

/-- The scan ends at a head if there is one, and then at the last of them. -/
theorem lastHead?_eq_some_iff {k s : Nat} :
    lastHead? ls k = some s ↔
      ∃ i, IsGreatest {i | i < k ∧ ∃ n, HeadAt ls i n} i ∧ HeadAt ls i s := by
  induction k with
  | zero =>
    constructor
    · intro h
      cases h
    · rintro ⟨i, ⟨⟨hi, -⟩, -⟩, -⟩
      exact absurd hi (Nat.not_lt_zero i)
  | succ k ih =>
    cases hk : ls[k]?.bind headNumber? with
    | none =>
      have hnone : ∀ n, ¬ HeadAt ls k n := fun n hn => by
        rw [headAt_iff, hk] at hn
        cases hn
      have hset : {i | i < k + 1 ∧ ∃ n, HeadAt ls i n} = {i | i < k ∧ ∃ n, HeadAt ls i n} := by
        ext i
        refine and_congr_left fun ⟨n, hn⟩ => ?_
        have hne : i ≠ k := by
          rintro rfl
          exact hnone n hn
        omega
      rw [lastHead?, hk, Option.none_or, ih, hset]
    | some m =>
      have hm : HeadAt ls k m := headAt_iff.mpr hk
      have hg : IsGreatest {i | i < k + 1 ∧ ∃ n, HeadAt ls i n} k :=
        ⟨⟨Nat.lt_succ_self k, m, hm⟩, fun i hi => Nat.le_of_lt_succ hi.1⟩
      rw [lastHead?, hk, Option.some_or]
      constructor
      · rintro h
        cases h
        exact ⟨k, hg, hm⟩
      · rintro ⟨i, hi, hs⟩
        obtain rfl := hi.unique hg
        rw [← hk]
        exact headAt_iff.mp hs

theorem lastHead?_eq_none_iff {k : Nat} :
    lastHead? ls k = none ↔ ∀ i < k, ∀ n, ¬ HeadAt ls i n := by
  induction k with
  | zero => exact ⟨fun _ i hi => absurd hi (Nat.not_lt_zero i), fun _ => rfl⟩
  | succ k ih =>
    have hk : ls[k]?.bind headNumber? = none ↔ ∀ n, ¬ HeadAt ls k n := by
      rw [Option.eq_none_iff_forall_ne_some]
      exact forall_congr' fun n => not_congr headAt_iff.symm
    rw [lastHead?, Option.or_eq_none_iff, hk, ih, Nat.forall_lt_succ_right, and_comm]

end Listing

namespace Index

open Listing

theorem lineCount_ofText (cs : List Char) :
    (ofText cs).lineCount = if isUnmapped cs then 0 else (Text.lines cs).length := by
  cases hm : isUnmapped cs with
  | true =>
    rw [ofText_of_unmapped hm]
    rfl
  | false =>
    rw [ofText_of_mapped hm]
    rfl

/-- Searching the blocks finds what a scan of the lines finds, in a text that maps source lines and
as far as its lines go. -/
theorem sourceLineAt_eq_lastHead? (cs : List Char) (d : Nat) :
    (ofText cs).sourceLineAt d =
      if isUnmapped cs = false ∧ d < (ofText cs).lineCount then lastHead? (Text.lines cs) (d + 1)
      else none := by
  cases hm : isUnmapped cs with
  | true =>
    rw [ofText_of_unmapped hm, sourceLineAt_empty, if_neg (by simp)]
  | false =>
    rw [sourceLineAt_ofText hm, lineCount_ofText, hm, lastHead?_eq_getLast?]
    simp only [true_and, Bool.false_eq_true, if_false]

/-- A display line shows the number of the last head at or above it. It shows none in a text that
maps no source line, above the first head, and past the last line. -/
theorem sourceLineAt_eq_scan (cs : List Char) (d : Nat) :
    (ofText cs).lineCount = (if isUnmapped cs then 0 else (Text.lines cs).length) ∧
    (ofText cs).sourceLineAt d =
      (if isUnmapped cs = false ∧ d < (ofText cs).lineCount then
        lastHead? (Text.lines cs) (d + 1) else none) ∧
    (∀ s, (ofText cs).sourceLineAt d = some s ↔
      isUnmapped cs = false ∧ d < (ofText cs).lineCount ∧
        ∃ i, IsGreatest {i | i ≤ d ∧ ∃ n, HeadAt (Text.lines cs) i n} i ∧
          HeadAt (Text.lines cs) i s) ∧
    ((ofText cs).sourceLineAt d = none ↔
      isUnmapped cs = true ∨ (ofText cs).lineCount ≤ d ∨
        ∀ i ≤ d, ∀ n, ¬ HeadAt (Text.lines cs) i n) := by
  have hscan := sourceLineAt_eq_lastHead? cs d
  have hsome : ∀ s, lastHead? (Text.lines cs) (d + 1) = some s ↔
      ∃ i, IsGreatest {i | i ≤ d ∧ ∃ n, HeadAt (Text.lines cs) i n} i ∧
        HeadAt (Text.lines cs) i s := fun s => by
    simp only [lastHead?_eq_some_iff, Nat.lt_succ_iff]
  have hnone : lastHead? (Text.lines cs) (d + 1) = none ↔
      ∀ i ≤ d, ∀ n, ¬ HeadAt (Text.lines cs) i n := by
    simp only [lastHead?_eq_none_iff, Nat.lt_succ_iff]
  refine ⟨lineCount_ofText cs, hscan, fun s => ?_, ?_⟩
  · rw [← hsome, hscan]
    split_ifs with h
    · simp only [h, true_and]
    · constructor
      · intro hs
        cases hs
      · rintro ⟨hm, hd, -⟩
        exact absurd ⟨hm, hd⟩ h
  · rw [← hnone, hscan]
    split_ifs with h
    · simp only [h, Bool.false_eq_true, false_or]
      exact (or_iff_right (Nat.not_le.mpr h.2)).symm
    · refine ⟨fun _ => ?_, fun _ => rfl⟩
      by_cases hm : isUnmapped cs = true
      · exact Or.inl hm
      · exact Or.inr (Or.inl (Nat.not_lt.mp fun hd => h ⟨by simpa using hm, hd⟩))

end Index

end ListingPanel
