import ListingPanel.Proofs.Listing.Coverage

/-!
How an index keeps its blocks, so that it can search them by halves: the blocks by source line, the
ends of their coverage beside them, and their positions by display line. Each test that a search
makes holds up to some place and fails from there on.
-/
namespace ListingPanel.Index

/-- A coverage that ends at `a` ends no later than one that ends at `b`. What has no end ends after
everything else. -/
def EndsBy (a b : Option Nat) : Prop := ∀ m, b = some m → ∃ l, a = some l ∧ l ≤ m

structure WellFormed (ix : Index) : Prop where
  size_coverageEnd : ix.coverageEnd.size = ix.blocks.size
  size_byDisplay : ix.byDisplay.size = ix.blocks.size
  sorted : ix.blocks.toList.Pairwise Block.Precedes
  ends : ix.coverageEnd.toList.Pairwise EndsBy
  /-- The coverages without end are the last ones. -/
  endless : ∃ k, ∀ i < ix.coverageEnd.size, (ix.coverageEnd[i]? = some none ↔ k ≤ i)
  positions : ix.byDisplay.toList.Perm (List.range ix.blocks.size)
  starts : ix.byDisplay.toList.Pairwise fun i j =>
    ∀ b c, ix.blocks[i]? = some b → ix.blocks[j]? = some c → b.first < c.first

/-! ### The tests of the searches -/

section Tests
variable (ix : Index)

/-- Block `i` is for source line `n` or one before. -/
def startsBy (n i : Nat) : Bool := ix.blocks[i]?.any (·.sourceLine ≤ n)

/-- The coverage of block `i` ends before source line `n`. -/
def endsBefore (n i : Nat) : Bool :=
  match ix.coverageEnd[i]? with
  | some (some e) => e < n
  | _ => false

/-- In the order of display, block `k` starts at display line `d` or before. -/
def shownBy (d k : Nat) : Bool := (ix.byDisplay[k]?.bind fun i => ix.blocks[i]?).any (·.first ≤ d)

/-- The first block that answers a query, if there are any. -/
def lower (r : LineRange) : Nat := partitionPoint ix.coverageEnd.size (ix.endsBefore r.first)

/-- The end of the blocks that answer a query. -/
def upper (r : LineRange) : Nat := partitionPoint ix.blocks.size (ix.startsBy r.last)

theorem blocksFor_eq (r : LineRange) :
    ix.blocksFor r = (ix.blocks.extract (ix.lower r) (ix.upper r)).toList := rfl

theorem sourceLineAt_eq (d : Nat) :
    ix.sourceLineAt d =
      let pos := partitionPoint ix.byDisplay.size (ix.shownBy d)
      if pos = 0 then none
      else ix.byDisplay[pos - 1]?.bind fun i => ix.blocks[i]?.bind fun b =>
        if b.contains d then some b.sourceLine else none := rfl

end Tests

namespace WellFormed

variable {ix : Index} (h : ix.WellFormed)
include h

theorem lt_size_of_mem_byDisplay {i : Nat} (hi : i ∈ ix.byDisplay.toList) : i < ix.blocks.size :=
  List.mem_range.mp (h.positions.mem_iff.mp hi)

theorem splits_startsBy (n : Nat) : Splits ix.blocks.size (ix.startsBy n) := by
  have hp : ix.blocks.toList.Pairwise fun a b =>
      decide (b.sourceLine ≤ n) = true → decide (a.sourceLine ≤ n) = true :=
    h.sorted.imp fun {a b} hab hb => by
      simp only [Block.Precedes, decide_eq_true_eq] at *
      omega
  have htest : ix.startsBy n = fun i => ix.blocks.toList[i]?.any (·.sourceLine ≤ n) := by
    funext i
    rw [startsBy, Array.getElem?_toList]
  have hs := splits_of_pairwise hp
  rwa [← htest, Array.length_toList] at hs

theorem splits_endsBefore (n : Nat) : Splits ix.coverageEnd.size (ix.endsBefore n) := by
  have hp : ix.coverageEnd.toList.Pairwise fun a b : Option Nat =>
      b.any (· < n) = true → a.any (· < n) = true :=
    h.ends.imp fun {a b} hab hb => by
      obtain ⟨m, rfl, hm⟩ := (Option.any_eq_true _ _).mp hb
      obtain ⟨l, rfl, hl⟩ := hab m rfl
      simp only [Option.any_some, decide_eq_true_eq] at *
      omega
  have htest : ix.endsBefore n = fun i => ix.coverageEnd.toList[i]?.any fun e => e.any (· < n) := by
    funext i
    unfold endsBefore
    rw [Array.getElem?_toList]
    rcases ix.coverageEnd[i]? with _ | _ | e <;> rfl
  have hs := splits_of_pairwise hp
  rwa [← htest, Array.length_toList] at hs

theorem splits_shownBy (d : Nat) : Splits ix.byDisplay.size (ix.shownBy d) := by
  have hp : ix.byDisplay.toList.Pairwise fun i j =>
      (ix.blocks[j]?.any (·.first ≤ d)) = true → (ix.blocks[i]?.any (·.first ≤ d)) = true := by
    refine h.starts.imp_of_mem fun {i j} hi _ hij hj => ?_
    obtain ⟨c, hc, hcd⟩ := (Option.any_eq_true _ _).mp hj
    obtain ⟨b, hb⟩ : ∃ b, ix.blocks[i]? = some b :=
      ⟨_, Array.getElem?_eq_getElem (h.lt_size_of_mem_byDisplay hi)⟩
    have hbc := hij b c hb hc
    simp only [hb, Option.any_some, decide_eq_true_eq] at *
    omega
  have htest : ix.shownBy d =
      fun k => ix.byDisplay.toList[k]?.any fun i => ix.blocks[i]?.any (·.first ≤ d) := by
    funext k
    unfold shownBy
    rw [Array.getElem?_toList]
    cases ix.byDisplay[k]? <;> rfl
  have hs := splits_of_pairwise hp
  rwa [← htest, Array.length_toList] at hs

theorem lower_le (r : LineRange) : ix.lower r ≤ ix.blocks.size :=
  h.size_coverageEnd ▸ partitionPoint_le _ _

omit h in
theorem upper_le (r : LineRange) : ix.upper r ≤ ix.blocks.size := partitionPoint_le _ _

end WellFormed

/-! ### Indices of texts -/

theorem endsBy_coverEnd {bs : List Block} (h : bs.Pairwise fun a b => a.sourceLine ≤ b.sourceLine)
    {a b : Block} (hab : a.sourceLine ≤ b.sourceLine) : EndsBy (coverEnd bs a) (coverEnd bs b) := by
  intro m hm
  obtain ⟨c, hc, hbc, hcm⟩ := (lt_coverEnd_iff h).mp ⟨m, hm, Nat.lt_succ_self m⟩
  obtain ⟨l, hl, hlm⟩ := (lt_coverEnd_iff h (b := a)).mpr ⟨c, hc, by omega, hcm⟩
  exact ⟨l, hl, by omega⟩

theorem coverageEnd_ofBlocks (n : Nat) (bs : List Block) :
    (ofBlocks n bs).coverageEnd.toList = (byLine bs).map (coverEnd (byLine bs)) :=
  coverageEnds_eq_map (pairwise_byLine_le bs)

/-- Where ends come in order, those that are none come last. -/
theorem endless_of_pairwise {ends : List (Option Nat)} (h : ends.Pairwise EndsBy) :
    ∃ k, ∀ i < ends.length, (ends[i]? = some none ↔ k ≤ i) := by
  have hp : ends.Pairwise fun a b : Option Nat => b.isSome = true → a.isSome = true :=
    h.imp fun {a b} hab hb => by
      obtain ⟨m, rfl⟩ := Option.isSome_iff_exists.mp hb
      obtain ⟨l, rfl, -⟩ := hab m rfl
      rfl
  refine ⟨(ends.filter Option.isSome).length, fun i hi => ?_⟩
  have hsplit := any_getElem?_iff hp hi
  rw [List.getElem?_eq_getElem hi, Option.any_some] at hsplit
  rw [List.getElem?_eq_getElem hi, Option.some.injEq, ← Nat.not_lt, ← hsplit]
  simp

theorem wellFormed_ofBlocks (n : Nat) {bs : List Block}
    (h : bs.Pairwise fun a b => a.first < b.first) : (ofBlocks n bs).WellFormed := by
  have hblocks : (ofBlocks n bs).blocks.toList = byLine bs := rfl
  have hsize : (ofBlocks n bs).blocks.size = bs.length := by simp [ofBlocks]
  have hends : (ofBlocks n bs).coverageEnd.toList.Pairwise EndsBy := by
    rw [coverageEnd_ofBlocks]
    have hle := pairwise_byLine_le bs
    exact List.pairwise_map.mpr (hle.imp fun hab => endsBy_coverEnd hle hab)
  constructor
  case size_coverageEnd =>
    rw [← Array.length_toList, coverageEnd_ofBlocks, List.length_map, ← Array.length_toList,
      hblocks]
  case size_byDisplay => rw [size_byDisplay, hsize]
  case sorted =>
    rw [hblocks]
    exact pairwise_byLine h
  case ends => exact hends
  case endless =>
    simpa only [Array.length_toList, Array.getElem?_toList] using endless_of_pairwise hends
  case positions => exact List.mergeSort_perm _ _
  case starts =>
    -- by position in the order of display, the blocks are those given
    refine List.pairwise_iff_getElem.mpr fun k l hk hl hkl b c hb hc => ?_
    have hget : ∀ (m : Nat) (hm : m < (ofBlocks n bs).byDisplay.toList.length),
        (ofBlocks n bs).blocks[(ofBlocks n bs).byDisplay.toList[m]]? = bs[m]? := fun m hm => by
      have hm' : (ofBlocks n bs).byDisplay[m]? = some (ofBlocks n bs).byDisplay.toList[m] := by
        rw [← Array.getElem?_toList, List.getElem?_eq_getElem hm]
      rw [← getElem?_byDisplay n h m, hm', Option.bind_some]
    rw [hget] at hb hc
    obtain ⟨hk', rfl⟩ := List.getElem?_eq_some_iff.mp hb
    obtain ⟨hl', rfl⟩ := List.getElem?_eq_some_iff.mp hc
    exact List.pairwise_iff_getElem.mp h k l hk' hl' hkl

theorem wellFormed_empty : empty.WellFormed := by
  have hempty : ofBlocks 0 [] = empty := by simp [ofBlocks, coverageEnds, empty]
  exact hempty ▸ wellFormed_ofBlocks 0 List.Pairwise.nil

theorem WellFormed.ofText (cs : List Char) : (ofText cs).WellFormed := by
  cases hm : isUnmapped cs with
  | true =>
    rw [ofText_of_unmapped hm]
    exact wellFormed_empty
  | false =>
    rw [ofText_of_mapped hm]
    exact wellFormed_ofBlocks _ (pairwise_displayed_first cs)

/-- The index of a text keeps its order, and so every search in it comes to the place where its test
begins to fail. The blocks that answer a query are between two such places within the index, and the
block of a display line is before a third. -/
theorem wellFormed_ofText (cs : List Char) :
    (ofText cs).WellFormed ∧
    (∀ n, Splits (ofText cs).blocks.size ((ofText cs).startsBy n)) ∧
    (∀ n, Splits (ofText cs).coverageEnd.size ((ofText cs).endsBefore n)) ∧
    (∀ d, Splits (ofText cs).byDisplay.size ((ofText cs).shownBy d)) ∧
    (∀ r, (ofText cs).lower r ≤ (ofText cs).blocks.size ∧
      (ofText cs).upper r ≤ (ofText cs).blocks.size ∧
      (ofText cs).blocksFor r =
        ((ofText cs).blocks.extract ((ofText cs).lower r) ((ofText cs).upper r)).toList ∧
      ((ofText cs).blocksFor r).length = (ofText cs).upper r - (ofText cs).lower r) ∧
    ∀ d, (ofText cs).sourceLineAt d =
      let pos := partitionPoint (ofText cs).byDisplay.size ((ofText cs).shownBy d)
      if pos = 0 then none
      else (ofText cs).byDisplay[pos - 1]?.bind fun i => (ofText cs).blocks[i]?.bind fun b =>
        if b.contains d then some b.sourceLine else none := by
  have h : (ofText cs).WellFormed := .ofText cs
  refine ⟨h, h.splits_startsBy, h.splits_endsBefore, h.splits_shownBy, fun r => ?_,
    (ofText cs).sourceLineAt_eq⟩
  have hupper : (ofText cs).upper r ≤ (ofText cs).blocks.size := WellFormed.upper_le r
  refine ⟨h.lower_le r, hupper, blocksFor_eq _ r, ?_⟩
  rw [blocksFor_eq, Array.length_toList, Array.size_extract, Nat.min_eq_left hupper]

end ListingPanel.Index
