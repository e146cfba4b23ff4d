import ListingPanel.Proofs.Listing.Tiling
import Mathlib.Order.Lattice.Nat

/-! Coverage of source lines. A block covers the lines from its own up to the line before the next
that has a head, wherever in the listing that head stands. So each line from the least head line on
is covered for exactly one source line. -/
namespace ListingPanel

namespace Listing

/-- Some line of the listing is a head for source line `n`. -/
def HasHead (ls : List (List Char)) (n : Nat) : Prop := ∃ i, HeadAt ls i n

/-- Coverage from source line `s` on ends before the least greater line that has a head, and
nowhere if there is none. -/
def CoverageEnd (ls : List (List Char)) (s : Nat) : Option Nat → Prop
  | some l => IsLeast {n | s < n ∧ HasHead ls n} (l + 1)
  | none => ∀ n, HasHead ls n → n ≤ s

end Listing

namespace Index

open Listing

/-- Block `i` covers source line `n`. -/
def Covers (ix : Index) (i n : Nat) : Prop :=
  ∃ s e, ix.coverage i = some (s, e) ∧ s ≤ n ∧ ∀ l, e = some l → n ≤ l

/-! ### The end of a coverage -/

theorem coverage_ofBlocks (n : Nat) (bs : List Block) (i : Nat) :
    (ofBlocks n bs).coverage i =
      (byLine bs)[i]?.map fun b => (b.sourceLine, coverEnd (byLine bs) b) := by
  have hblock : (ofBlocks n bs).blocks[i]? = (byLine bs)[i]? := List.getElem?_toArray
  have hend : (ofBlocks n bs).coverageEnd[i]? =
      (byLine bs)[i]?.map (coverEnd (byLine bs)) := by
    rw [← List.getElem?_map, ← coverageEnds_eq_map (pairwise_byLine_le bs)]
    exact List.getElem?_toArray
  unfold coverage
  rw [hblock, hend]
  cases (byLine bs)[i]? <;> rfl

/-- Blocks of one source line cover the same. -/
theorem coverEnd_congr (bs : List Block) {b c : Block} (h : b.sourceLine = c.sourceLine) :
    coverEnd bs b = coverEnd bs c := by
  unfold coverEnd
  rw [h]

section Ends
variable {bs : List Block} (h : bs.Pairwise fun a b => a.sourceLine ≤ b.sourceLine) {b : Block}
include h

/-- A line is past the end of a coverage exactly if a greater source line has come by then. -/
theorem lt_coverEnd_iff {n : Nat} :
    (∃ l, coverEnd bs b = some l ∧ l < n) ↔
      ∃ c ∈ bs, b.sourceLine < c.sourceLine ∧ c.sourceLine ≤ n := by
  rw [← any_coverEnd_lt_iff h, Option.any_eq_true]
  simp only [decide_eq_true_eq]

theorem isLeast_of_coverEnd {l : Nat} (hl : coverEnd bs b = some l) :
    IsLeast {n | b.sourceLine < n ∧ ∃ c ∈ bs, c.sourceLine = n} (l + 1) := by
  constructor
  · obtain ⟨c, hc, hlt, hle⟩ := (lt_coverEnd_iff h).mp ⟨l, hl, Nat.lt_succ_self l⟩
    obtain heq | hcl := Nat.eq_or_lt_of_le hle
    · exact ⟨hlt.trans_eq heq, c, hc, heq⟩
    · obtain ⟨l', hl', hlt'⟩ := (lt_coverEnd_iff h).mpr ⟨c, hc, hlt, Nat.le_of_lt_succ hcl⟩
      rw [hl, Option.some.injEq] at hl'
      omega
  · rintro n ⟨hn, c, hc, rfl⟩
    obtain ⟨l', hl', hlt⟩ := (lt_coverEnd_iff h).mpr ⟨c, hc, hn, le_rfl⟩
    rw [hl, Option.some.injEq] at hl'
    omega

theorem le_of_coverEnd_none (hn : coverEnd bs b = none) :
    ∀ c ∈ bs, c.sourceLine ≤ b.sourceLine := by
  intro c hc
  by_contra hlt
  obtain ⟨l, hl, -⟩ := (lt_coverEnd_iff h).mpr ⟨c, hc, Nat.not_le.mp hlt, le_rfl⟩
  rw [hn] at hl
  cases hl

end Ends

/-! ### The blocks of a text -/

variable {cs : List Char}

theorem hasHead_iff {n : Nat} :
    HasHead (Text.lines cs) n ↔ ∃ b ∈ byLine (displayed cs), b.sourceLine = n := by
  constructor
  · rintro ⟨i, hi⟩
    obtain ⟨b, hb, -, hn⟩ := exists_displayed_of_headAt hi
    exact ⟨b, mem_byLine.mpr hb, hn⟩
  · rintro ⟨b, hb, rfl⟩
    exact ⟨b.first, (mem_displayed_iff.mp (mem_byLine.mp hb)).1⟩

theorem mapped_of_block {i : Nat} {b : Block} (hb : (ofText cs).blocks[i]? = some b) :
    isUnmapped cs = false ∧ (byLine (displayed cs))[i]? = some b := by
  cases hm : isUnmapped cs with
  | true =>
    rw [ofText_of_unmapped hm] at hb
    cases hb
  | false =>
    rw [ofText_of_mapped hm] at hb
    exact ⟨rfl, List.getElem?_toArray.symm.trans hb⟩

theorem coverage_of_block {i : Nat} {b : Block} (hb : (ofText cs).blocks[i]? = some b) :
    (ofText cs).coverage i = some (b.sourceLine, coverEnd (byLine (displayed cs)) b) := by
  obtain ⟨hm, hb⟩ := mapped_of_block hb
  rw [ofText_of_mapped hm, coverage_ofBlocks, hb, Option.map_some]

theorem coverageEnd_coverEnd (b : Block) :
    CoverageEnd (Text.lines cs) b.sourceLine (coverEnd (byLine (displayed cs)) b) := by
  have hs := pairwise_byLine_le (displayed cs)
  cases he : coverEnd (byLine (displayed cs)) b with
  | some l =>
    have hl := isLeast_of_coverEnd hs he
    simp only [← hasHead_iff] at hl
    exact hl
  | none =>
    intro n hn
    obtain ⟨c, hc, rfl⟩ := hasHead_iff.mp hn
    exact le_of_coverEnd_none hs he c hc

/-- A block covers the lines for which its own is the closest head line at or before. -/
theorem covers_iff_isGreatest {i n : Nat} {b : Block} (hb : (ofText cs).blocks[i]? = some b) :
    (ofText cs).Covers i n ↔
      IsGreatest {m | m ≤ n ∧ HasHead (Text.lines cs) m} b.sourceLine := by
  have hs := pairwise_byLine_le (displayed cs)
  have hmem : b ∈ byLine (displayed cs) := List.mem_of_getElem? (mapped_of_block hb).2
  have hcover : (ofText cs).Covers i n ↔ b.sourceLine ≤ n ∧
      ¬ ∃ c ∈ byLine (displayed cs), b.sourceLine < c.sourceLine ∧ c.sourceLine ≤ n := by
    unfold Covers
    rw [coverage_of_block hb, ← lt_coverEnd_iff hs]
    constructor
    · rintro ⟨s, e, he, hsn, hend⟩
      cases he
      exact ⟨hsn, fun ⟨l, hl, hlt⟩ => absurd (hend l hl) (Nat.not_le.mpr hlt)⟩
    · rintro ⟨hle, hend⟩
      exact ⟨_, _, rfl, hle, fun l hl => Nat.not_lt.mp fun hlt => hend ⟨l, hl, hlt⟩⟩
  rw [hcover]
  constructor
  · rintro ⟨hle, hnext⟩
    refine ⟨⟨hle, hasHead_iff.mpr ⟨b, hmem, rfl⟩⟩, ?_⟩
    rintro m ⟨hm, hhead⟩
    obtain ⟨c, hc, rfl⟩ := hasHead_iff.mp hhead
    exact Nat.not_lt.mp fun hlt => hnext ⟨c, hc, hlt, hm⟩
  · rintro ⟨⟨hle, -⟩, hub⟩
    refine ⟨hle, ?_⟩
    rintro ⟨c, hc, hlt, hcn⟩
    exact absurd (hub ⟨hcn, hasHead_iff.mpr ⟨c, hc, rfl⟩⟩) (Nat.not_le.mpr hlt)

theorem exists_block_of_covers {i n : Nat} (h : (ofText cs).Covers i n) :
    ∃ b, (ofText cs).blocks[i]? = some b := by
  obtain ⟨s, e, he, -⟩ := h
  unfold coverage at he
  obtain ⟨b, hb, -⟩ := Option.bind_eq_some_iff.mp he
  exact ⟨b, hb⟩

/-- In a text that maps source lines, exactly the lines from the least head line on are covered. -/
theorem exists_covers_iff {n : Nat} :
    (∃ i, (ofText cs).Covers i n) ↔
      isUnmapped cs = false ∧ ∃ m, IsLeast {m | HasHead (Text.lines cs) m} m ∧ m ≤ n := by
  constructor
  · rintro ⟨i, hi⟩
    obtain ⟨b, hb⟩ := exists_block_of_covers hi
    obtain ⟨⟨hle, hhead⟩, -⟩ := (covers_iff_isGreatest hb).mp hi
    have hleast : ∀ m, HasHead (Text.lines cs) m → sInf {m | HasHead (Text.lines cs) m} ≤ m :=
      fun m hm => Nat.sInf_le hm
    exact ⟨(mapped_of_block hb).1, _, ⟨Nat.sInf_mem ⟨_, hhead⟩, hleast⟩,
      (hleast _ hhead).trans hle⟩
  · rintro ⟨hm, m, ⟨hhead, -⟩, hle⟩
    -- the greatest head line by `n` is the source line of some block
    let s : Set Nat := {m | m ≤ n ∧ HasHead (Text.lines cs) m}
    have hne : s.Nonempty := ⟨m, hle, hhead⟩
    have hbdd : BddAbove s := ⟨n, fun k hk => hk.1⟩
    have hg : IsGreatest s (sSup s) := ⟨Nat.sSup_mem hne hbdd, fun k hk => le_csSup hbdd hk⟩
    obtain ⟨b, hb, hline⟩ := hasHead_iff.mp hg.1.2
    obtain ⟨i, hi⟩ := List.mem_iff_getElem?.mp hb
    have hblock : (ofText cs).blocks[i]? = some b := by
      rw [ofText_of_mapped hm]
      exact List.getElem?_toArray.trans hi
    refine ⟨i, (covers_iff_isGreatest hblock).mpr ?_⟩
    rw [hline]
    exact hg

/-- Each block covers the source lines from its own up to the next that has a head. Blocks of one
source line cover the same lines, blocks of different source lines share none, and all together
cover the lines from the least head line on. -/
theorem coverage_ofText (cs : List Char) :
    (∀ i, (ofText cs).blocks[i]? = none → (ofText cs).coverage i = none) ∧
    (∀ i b, (ofText cs).blocks[i]? = some b →
      ∃ e, (ofText cs).coverage i = some (b.sourceLine, e) ∧
        CoverageEnd (Text.lines cs) b.sourceLine e) ∧
    (∀ i j b c, (ofText cs).blocks[i]? = some b → (ofText cs).blocks[j]? = some c →
      (b.sourceLine = c.sourceLine → (ofText cs).coverage i = (ofText cs).coverage j) ∧
      (b.sourceLine ≠ c.sourceLine →
        ∀ n, ¬ ((ofText cs).Covers i n ∧ (ofText cs).Covers j n))) ∧
    ∀ n, (∃ i, (ofText cs).Covers i n) ↔
      isUnmapped cs = false ∧ ∃ m, IsLeast {m | HasHead (Text.lines cs) m} m ∧ m ≤ n := by
  refine ⟨fun i hi => ?_, fun i b hb => ⟨_, coverage_of_block hb, coverageEnd_coverEnd b⟩,
    fun i j b c hb hc => ⟨fun heq => ?_, ?_⟩, fun n => exists_covers_iff⟩
  · unfold coverage
    rw [hi]
    rfl
  · rw [coverage_of_block hb, coverage_of_block hc, heq, coverEnd_congr _ heq]
  · rintro hne n ⟨hi, hj⟩
    exact hne (((covers_iff_isGreatest hb).mp hi).unique ((covers_iff_isGreatest hc).mp hj))

/-- Line 2 has two heads below that of line 9, and both blocks cover lines 2 to 8. -/
theorem coverage_ofText_unordered :
    let cs := "P\n  9 A\n  2 B\n    C\n  2 D\n".toList
    (ofText cs).coverage 0 = some (2, some 8) ∧ (ofText cs).coverage 1 = some (2, some 8) ∧
      (ofText cs).coverage 2 = some (9, none) ∧ (ofText cs).coverage 3 = none ∧
      ∀ n, ¬ ((ofText cs).Covers 0 n ∧ (ofText cs).Covers 2 n) := by
  intro cs
  have hm : isUnmapped cs = false := by decide
  have hd : displayed cs = [⟨9, 1, 1⟩, ⟨2, 2, 3⟩, ⟨2, 4, 4⟩] := by decide
  have hs : byLine (displayed cs) = [⟨2, 2, 3⟩, ⟨2, 4, 4⟩, ⟨9, 1, 1⟩] := by
    rw [hd]
    simp [byLine, List.mergeSort, List.MergeSort.Internal.splitInTwo]
  have hb : ∀ i : Nat, (ofText cs).blocks[i]? = (byLine (displayed cs))[i]? := fun i => by
    rw [ofText_of_mapped hm]
    exact List.getElem?_toArray
  rw [hs] at hb
  have hc : ∀ i b, (ofText cs).blocks[i]? = some b → (ofText cs).coverage i =
      some (b.sourceLine, coverEnd [⟨2, 2, 3⟩, ⟨2, 4, 4⟩, ⟨9, 1, 1⟩] b) := fun i b h => by
    rw [coverage_of_block h, hs]
  obtain ⟨hnone, -, hpair, -⟩ := coverage_ofText cs
  exact ⟨hc 0 _ (hb 0), hc 1 _ (hb 1), hc 2 _ (hb 2), hnone 3 (hb 3),
    (hpair 0 2 ⟨2, 2, 3⟩ ⟨9, 1, 1⟩ (hb 0) (hb 2)).2 (by decide)⟩

end Index

end ListingPanel
