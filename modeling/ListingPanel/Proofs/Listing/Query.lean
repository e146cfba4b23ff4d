import ListingPanel.Proofs.Listing.Blocks
import ListingPanel.Proofs.Search
import Mathlib.Data.List.Dedup
import Mathlib.Data.List.Sort
import Mathlib.Order.Bounds.Basic

/-! What a query for selected source lines answers: the blocks of the lines within, after those of
the closest line at or before the first. -/
namespace ListingPanel

instance : Std.Irrefl Block.Precedes := ⟨fun _ h => h.ne rfl⟩

instance : Std.Antisymm Block.Precedes := ⟨fun _ _ h h' => absurd h' h.asymm⟩

namespace Index

/-- The blocks by source line; those of one source line stay in display order. -/
def byLine (bs : List Block) : List Block := bs.mergeSort fun a b => a.sourceLine ≤ b.sourceLine

@[simp] theorem mem_byLine {bs : List Block} {b : Block} : b ∈ byLine bs ↔ b ∈ bs :=
  List.mem_mergeSort

theorem pairwise_byLine {bs : List Block} (h : bs.Pairwise fun a b => a.first < b.first) :
    (byLine bs).Pairwise Block.Precedes :=
  pairwise_mergeSort_key Block.sourceLine bs h

theorem pairwise_byLine_le (bs : List Block) :
    (byLine bs).Pairwise fun a b => a.sourceLine ≤ b.sourceLine :=
  (pairwise_mergeSort_key Block.sourceLine bs (List.pairwise_of_forall fun _ _ => trivial)).imp
    fun h => by omega

/-- The last source line before that of the next block by source line. -/
def coverEnd (bs : List Block) (b : Block) : Option Nat :=
  (bs.find? (b.sourceLine < ·.sourceLine)).map (·.sourceLine - 1)

private theorem coverEnd_cons {a b : Block} {bs : List Block} (h : a.sourceLine ≤ b.sourceLine) :
    coverEnd (a :: bs) b = coverEnd bs b := by
  unfold coverEnd
  rw [List.find?_cons_of_neg (by simpa using h)]

theorem coverageEnds_eq_map {bs : List Block}
    (h : bs.Pairwise fun a b => a.sourceLine ≤ b.sourceLine) :
    coverageEnds bs = bs.map (coverEnd bs) := by
  fun_induction coverageEnds bs with
  | case1 => rfl
  | case2 a => simp [coverEnd]
  | case3 a b r ends ih =>
    obtain ⟨ha, hr⟩ := List.pairwise_cons.mp h
    have hab : a.sourceLine ≤ b.sourceLine := ha b (by simp)
    have he : ends = (b :: r).map (coverEnd (b :: r)) := ih hr
    have ht : (b :: r).map (coverEnd (b :: r)) = (b :: r).map (coverEnd (a :: b :: r)) :=
      List.map_congr_left fun c hc => (coverEnd_cons (ha c hc)).symm
    have hh : (if a.sourceLine < b.sourceLine then some (b.sourceLine - 1) else ends.head?.join) =
        coverEnd (a :: b :: r) a := by
      rw [coverEnd_cons (Nat.le_refl _), he]
      split_ifs with hlt
      · simp [coverEnd, hlt]
      · have hs : a.sourceLine = b.sourceLine := by omega
        simp [coverEnd, hs]
    rw [hh, he, ht]
    rfl

/-- Coverage ends before a line exactly where a greater source line with a block has come by it. -/
theorem any_coverEnd_lt_iff {bs : List Block}
    (h : bs.Pairwise fun a b => a.sourceLine ≤ b.sourceLine) (b : Block) (n : Nat) :
    (coverEnd bs b).any (· < n) = true ↔
      ∃ c ∈ bs, b.sourceLine < c.sourceLine ∧ c.sourceLine ≤ n := by
  unfold coverEnd
  constructor
  · intro ha
    cases hf : bs.find? (b.sourceLine < ·.sourceLine) with
    | none => simp [hf] at ha
    | some c =>
      have hlt : b.sourceLine < c.sourceLine := by simpa using List.find?_some hf
      have hn : c.sourceLine - 1 < n := by simpa [hf] using ha
      exact ⟨c, List.mem_of_find?_eq_some hf, hlt, by omega⟩
  · rintro ⟨c, hc, hlt, hn⟩
    cases hf : bs.find? (b.sourceLine < ·.sourceLine) with
    | none => exact absurd hlt (by simpa using List.find?_eq_none.mp hf c hc)
    | some d =>
      obtain ⟨hd, l, r, rfl, hl⟩ := List.find?_eq_some_iff_append.mp hf
      have hdc : d.sourceLine ≤ c.sourceLine := by
        rcases List.mem_append.mp hc with hm | hm
        · exact absurd hlt (by simpa using hl c hm)
        · rcases List.mem_cons.mp hm with rfl | hm
          · exact Nat.le_refl _
          · exact (List.pairwise_cons.mp (List.pairwise_append.mp h).2.1).1 c hm
      have hd' : b.sourceLine < d.sourceLine := by simpa using hd
      simp only [Option.map_some, Option.any_some, decide_eq_true_eq]
      omega

/-- A block among `bs` covers a line of `r`: no greater source line has a block by the start of
`r`. -/
def Covering (bs : List Block) (r : LineRange) (b : Block) : Prop :=
  b.sourceLine ≤ r.last ∧ ∀ c ∈ bs, c.sourceLine ≤ r.first → c.sourceLine ≤ b.sourceLine

instance (bs : List Block) (r : LineRange) : DecidablePred (Covering bs r) := fun b =>
  inferInstanceAs (Decidable (b.sourceLine ≤ r.last ∧
    ∀ c ∈ bs, c.sourceLine ≤ r.first → c.sourceLine ≤ b.sourceLine))

private theorem upper_eq (bs : List Block) (n : Nat) :
    partitionPoint (byLine bs).toArray.size
        (fun i => (byLine bs).toArray[i]?.any (·.sourceLine ≤ n)) =
      ((byLine bs).filter (·.sourceLine ≤ n)).length := by
  simp only [List.size_toArray, List.getElem?_toArray]
  refine partitionPoint_eq_length_filter ((pairwise_byLine_le bs).imp fun h => ?_)
  simp only [decide_eq_true_eq]
  omega

private theorem lower_eq (bs : List Block) (n : Nat) :
    partitionPoint (coverageEnds (byLine bs)).toArray.size (fun i =>
      match (coverageEnds (byLine bs)).toArray[i]? with
      | some (some e) => e < n
      | _ => false) =
      ((byLine bs).filter fun b => (coverEnd (byLine bs) b).any (· < n)).length := by
  have hs := pairwise_byLine_le bs
  have hm : (fun i => match (coverageEnds (byLine bs)).toArray[i]? with
      | some (some e) => decide (e < n)
      | _ => false) =
      fun i : Nat => (byLine bs)[i]?.any fun b => (coverEnd (byLine bs) b).any (· < n) := by
    funext i
    rw [List.getElem?_toArray, coverageEnds_eq_map hs, List.getElem?_map]
    cases (byLine bs)[i]? with
    | none => rfl
    | some b => cases hb : coverEnd (byLine bs) b <;> simp [hb]
  rw [hm, List.size_toArray, coverageEnds_eq_map hs, List.length_map]
  refine partitionPoint_eq_length_filter (hs.imp fun {a b} h hb => ?_)
  obtain ⟨c, hc, hlt, hn⟩ := (any_coverEnd_lt_iff hs b n).mp hb
  exact (any_coverEnd_lt_iff hs a n).mpr ⟨c, hc, by omega, hn⟩

/-- Both searches together leave the blocks that cover a selected line. -/
theorem blocksFor_ofBlocks (n : Nat) (bs : List Block) (r : LineRange) :
    (ofBlocks n bs).blocksFor r = (byLine bs).filter (Covering bs r ·) := by
  let low := fun b : Block => decide (b.sourceLine ≤ r.last)
  let past := fun b : Block => (coverEnd (byLine bs) b).any (· < r.first)
  have hs := pairwise_byLine_le bs
  have hlow : (byLine bs).Pairwise fun a b => low b = true → low a = true := hs.imp fun h hb => by
    simp only [low, decide_eq_true_eq] at hb ⊢
    omega
  have hpast : ∀ b, past b = true ↔
      ∃ c ∈ bs, b.sourceLine < c.sourceLine ∧ c.sourceLine ≤ r.first := fun b => by
    simpa using any_coverEnd_lt_iff hs b r.first
  have hpl : ∀ b, past b = true → low b = true := fun b hb => by
    obtain ⟨c, _, hlt, hn⟩ := (hpast b).mp hb
    have := r.first_le_last
    simp only [low, decide_eq_true_eq]
    omega
  have hpw : ((byLine bs).filter low).Pairwise fun a b => past b = true → past a = true :=
    (hs.filter low).imp fun {a b} h hb => by
      obtain ⟨c, hc, hlt, hn⟩ := (hpast b).mp hb
      exact (hpast a).mpr ⟨c, hc, by omega, hn⟩
  have hpf : (byLine bs).filter past = ((byLine bs).filter low).filter past := by
    rw [List.filter_filter]
    refine List.filter_congr fun b _ => ?_
    cases hb : past b with
    | false => simp
    | true => simp [hpl b hb]
  calc
    (ofBlocks n bs).blocksFor r =
        ((byLine bs).drop ((byLine bs).filter past).length).take
          (((byLine bs).filter low).length - ((byLine bs).filter past).length) := by
      rw [← upper_eq bs r.last, ← lower_eq bs r.first, ← List.extract_eq_take_drop]
      exact @Array.toList_extract _ (byLine bs).toArray _ _
    _ = (((byLine bs).filter low).filter fun b => !past b) := by
      rw [← List.drop_take, take_length_filter hlow, hpf, drop_length_filter hpw]
    _ = (byLine bs).filter (Covering bs r ·) := by
      rw [List.filter_filter]
      refine List.filter_congr fun b _ => ?_
      have hb : past b = false ↔
          ∀ c ∈ bs, c.sourceLine ≤ r.first → c.sourceLine ≤ b.sourceLine := by
        rw [← Bool.not_eq_true, hpast]
        push Not
        exact forall₂_congr fun c _ => by omega
      simp [low, Covering, ← hb, Bool.and_comm]

/-- Among the blocks of a listing, covering is told by the source line. -/
theorem covering_displayed_iff {cs : List Char} {r : LineRange} {b : Block}
    (hb : b ∈ displayed cs) :
    Covering (displayed cs) r b ↔ r.first < b.sourceLine ∧ b.sourceLine ≤ r.last ∨
      IsGreatest {n | n ∈ headLines cs ∧ n ≤ r.first} b.sourceLine := by
  have hr := r.first_le_last
  have hub : (∀ c ∈ displayed cs, c.sourceLine ≤ r.first → c.sourceLine ≤ b.sourceLine) ↔
      b.sourceLine ∈ upperBounds {n | n ∈ headLines cs ∧ n ≤ r.first} := by
    constructor
    · rintro h n ⟨hn, hle⟩
      obtain ⟨c, hc, rfl⟩ := mem_headLines.mp hn
      exact h c hc hle
    · exact fun h c hc hle => h ⟨mem_headLines.mpr ⟨c, hc, rfl⟩, hle⟩
  unfold Covering
  rw [hub]
  by_cases hlt : r.first < b.sourceLine
  · have hup : b.sourceLine ∈ upperBounds {n | n ∈ headLines cs ∧ n ≤ r.first} := fun n hn =>
      (hn.2.trans_lt hlt).le
    exact ⟨fun h => Or.inl ⟨hlt, h.1⟩, fun h => ⟨h.elim (·.2) fun h => h.1.2.trans hr, hup⟩⟩
  · have hle : b.sourceLine ≤ r.first := by omega
    refine ⟨fun h => Or.inr ⟨⟨mem_headLines.mpr ⟨b, hb, rfl⟩, hle⟩, h.2⟩, fun h => ?_⟩
    rcases h with h | h
    · exact absurd h.1 hlt
    · exact ⟨hle.trans hr, h.2⟩

theorem ofText_of_mapped {cs : List Char} (hm : isUnmapped cs = false) :
    ofText cs = ofBlocks (Text.lines cs).length (displayed cs) := by
  simp [ofText, hm, displayed]

theorem ofText_of_unmapped {cs : List Char} (hm : isUnmapped cs = true) : ofText cs = empty := by
  simp [ofText, hm]

theorem blocksFor_empty (r : LineRange) : empty.blocksFor r = [] := by
  simp [empty, blocksFor]

theorem mem_blocksFor_iff {cs : List Char} (hm : isUnmapped cs = false) {r : LineRange}
    {b : Block} : b ∈ (ofText cs).blocksFor r ↔
      b ∈ displayed cs ∧ (r.first < b.sourceLine ∧ b.sourceLine ≤ r.last ∨
        IsGreatest {n | n ∈ headLines cs ∧ n ≤ r.first} b.sourceLine) := by
  rw [ofText_of_mapped hm, blocksFor_ofBlocks, List.mem_filter, mem_byLine, decide_eq_true_iff]
  exact and_congr_right fun hb => covering_displayed_iff hb

/-- A listing whose heads ascend needs no sorting. -/
theorem blocksFor_of_ascending {cs : List Char} (hm : isUnmapped cs = false)
    (ha : (displayed cs).Pairwise fun a b => a.sourceLine ≤ b.sourceLine) (r : LineRange) :
    (ofText cs).blocksFor r = (displayed cs).filter (Covering (displayed cs) r ·) := by
  have hb : byLine (displayed cs) = displayed cs :=
    List.mergeSort_of_pairwise (ha.imp fun h => decide_eq_true h)
  rw [ofText_of_mapped hm, blocksFor_ofBlocks, hb]

theorem mem_blocks_of_mem_blocksFor {ix : Index} {r : LineRange} {b : Block}
    (hb : b ∈ ix.blocksFor r) : b ∈ ix.blocks.toList := by
  unfold blocksFor at hb
  rw [Array.toList_extract, List.extract_eq_take_drop] at hb
  exact List.mem_of_mem_drop (List.mem_of_mem_take hb)

theorem mem_displayed_of_mem_blocks {cs : List Char} {b : Block}
    (hb : b ∈ (ofText cs).blocks.toList) : b ∈ displayed cs := by
  cases hm : isUnmapped cs with
  | true =>
    rw [ofText_of_unmapped hm] at hb
    exact absurd hb List.not_mem_nil
  | false =>
    rw [ofText_of_mapped hm] at hb
    exact mem_byLine.mp hb

theorem mem_displayed_of_mem_blocksFor {cs : List Char} {r : LineRange} {b : Block}
    (hb : b ∈ (ofText cs).blocksFor r) : b ∈ displayed cs :=
  mem_displayed_of_mem_blocks (mem_blocks_of_mem_blocksFor hb)

theorem pairwise_blocksFor (cs : List Char) (r : LineRange) :
    ((ofText cs).blocksFor r).Pairwise Block.Precedes := by
  cases hm : isUnmapped cs with
  | true => simp [ofText_of_unmapped hm, blocksFor_empty]
  | false =>
    rw [ofText_of_mapped hm, blocksFor_ofBlocks]
    exact (pairwise_byLine (pairwise_displayed_first cs)).filter _

theorem mem_blocksFor_single_iff {cs : List Char} (hm : isUnmapped cs = false) {n : Nat}
    {b : Block} : b ∈ (ofText cs).blocksFor (.single n) ↔
      b ∈ displayed cs ∧ IsGreatest {m | m ∈ headLines cs ∧ m ≤ n} b.sourceLine := by
  rw [mem_blocksFor_iff hm]
  simp only [LineRange.single, LineRange.between, Nat.min_self, Nat.max_self]
  exact and_congr_right fun _ => or_iff_right fun h => by omega

/-- The closest head at or before a line is that of the line before, unless the line has one. -/
private theorem isGreatest_succ_iff {cs : List Char} {a n : Nat} (ha : a + 1 ∉ headLines cs) :
    IsGreatest {m | m ∈ headLines cs ∧ m ≤ a + 1} n ↔
      IsGreatest {m | m ∈ headLines cs ∧ m ≤ a} n := by
  have he : {m | m ∈ headLines cs ∧ m ≤ a + 1} = {m | m ∈ headLines cs ∧ m ≤ a} := by
    ext m
    refine and_congr_right fun hm => ⟨fun hle => ?_, fun hle => by omega⟩
    have hne : m ≠ a + 1 := fun he => ha (he ▸ hm)
    omega
  rw [he]

private theorem isGreatest_succ_of_mem {cs : List Char} {a n : Nat} (ha : a + 1 ∈ headLines cs) :
    IsGreatest {m | m ∈ headLines cs ∧ m ≤ a + 1} n ↔ n = a + 1 :=
  have hg : IsGreatest {m | m ∈ headLines cs ∧ m ≤ a + 1} (a + 1) :=
    ⟨⟨ha, le_rfl⟩, fun _ hm => hm.2⟩
  ⟨fun h => h.unique hg, fun h => h ▸ hg⟩

/-- A line more at the front adds the blocks of that line, unless they are there already. -/
private theorem single_union_blocksFor {cs : List Char} (hm : isUnmapped cs = false) {a b : Nat}
    (h : a + 1 ≤ b) :
    (ofText cs).blocksFor (.single a) ∪ (ofText cs).blocksFor ⟨a + 1, b, h⟩ =
      (ofText cs).blocksFor ⟨a, b, by omega⟩ := by
  have hs := pairwise_blocksFor cs (.single a)
  have ht := pairwise_blocksFor cs ⟨a + 1, b, h⟩
  have hu := pairwise_blocksFor cs ⟨a, b, by omega⟩
  by_cases ha : a + 1 ∈ headLines cs
  · have hlt : ∀ x ∈ (ofText cs).blocksFor (.single a),
        ∀ y ∈ (ofText cs).blocksFor ⟨a + 1, b, h⟩, x.sourceLine < y.sourceLine := by
      intro x hx y hy
      have hxa := ((mem_blocksFor_single_iff hm).mp hx).2.1.2
      rcases ((mem_blocksFor_iff hm).mp hy).2 with hy | hy
      · exact hxa.trans_lt (by dsimp only at hy; omega)
      · rw [(isGreatest_succ_of_mem ha).mp hy]
        exact Nat.lt_succ_of_le hxa
    have hd : List.Disjoint ((ofText cs).blocksFor (.single a))
        ((ofText cs).blocksFor ⟨a + 1, b, h⟩) := fun x hx hy => (hlt x hx x hy).false
    have hn : ((ofText cs).blocksFor (.single a)).Nodup := hs.imp Block.Precedes.ne
    rw [hd.union_eq, hn.dedup]
    have happ := List.pairwise_append.mpr ⟨hs, ht, fun x hx y hy => Or.inl (hlt x hx y hy)⟩
    refine happ.eq_of_mem_iff hu fun x => ?_
    rw [List.mem_append, mem_blocksFor_single_iff hm, mem_blocksFor_iff hm, mem_blocksFor_iff hm,
      ← and_or_left]
    refine and_congr_right fun _ => ?_
    dsimp only
    rw [isGreatest_succ_of_mem ha, or_comm]
    exact or_congr_left (by omega)
  · have hsub : (ofText cs).blocksFor (.single a) ⊆ (ofText cs).blocksFor ⟨a + 1, b, h⟩ := by
      intro x hx
      obtain ⟨hxd, hxa⟩ := (mem_blocksFor_single_iff hm).mp hx
      exact (mem_blocksFor_iff hm).mpr ⟨hxd, Or.inr ((isGreatest_succ_iff ha).mpr hxa)⟩
    rw [List.Subset.union_eq_right hsub]
    refine ht.eq_of_mem_iff hu fun x => ?_
    rw [mem_blocksFor_iff hm, mem_blocksFor_iff hm]
    refine and_congr_right fun hx => ?_
    have hne : x.sourceLine ≠ a + 1 := fun he => ha (he ▸ mem_headLines.mpr ⟨x, hx, rfl⟩)
    dsimp only
    rw [isGreatest_succ_iff ha]
    exact or_congr_left (by omega)

theorem blocksFor_eq_dedup {cs : List Char} (hm : isUnmapped cs = false) (r : LineRange) :
    (ofText cs).blocksFor r =
      ((List.range' r.first (r.last + 1 - r.first)).flatMap
        fun n => (ofText cs).blocksFor (.single n)).dedup := by
  obtain ⟨a, b, h⟩ := r
  dsimp only
  -- on the number of lines, the first line being taken off
  induction hk : b - a generalizing a with
  | zero =>
    obtain rfl : a = b := by omega
    have hs : LineRange.mk a a h = .single a := by simp [LineRange.single, LineRange.between]
    have hn : ((ofText cs).blocksFor (.single a)).Nodup :=
      (pairwise_blocksFor cs _).imp Block.Precedes.ne
    have hr : List.range' a (a + 1 - a) = [a] := by simp
    rw [hs, hr, List.flatMap_singleton, hn.dedup]
  | succ k ih =>
    have hr : List.range' a (b + 1 - a) = a :: List.range' (a + 1) (b + 1 - (a + 1)) := by
      rw [show b + 1 - a = (b + 1 - (a + 1)) + 1 by omega, List.range'_succ]
    rw [hr, List.flatMap_cons, List.dedup_append, ← ih (a + 1) (by omega) (by omega),
      single_union_blocksFor hm (by omega)]

/-- A query answers with the blocks of the source lines after its first line up to its last, and
with all blocks of the closest line at or before the first, in the order of source lines, then of
display lines. It is the union of the queries for each of its lines. -/
theorem blocksFor_ofText {cs : List Char} (hm : isUnmapped cs = false) (r : LineRange) :
    (∀ b, b ∈ (ofText cs).blocksFor r ↔
      b ∈ displayed cs ∧ (r.first < b.sourceLine ∧ b.sourceLine ≤ r.last ∨
        IsGreatest {n | n ∈ headLines cs ∧ n ≤ r.first} b.sourceLine)) ∧
    ((ofText cs).blocksFor r).Pairwise Block.Precedes ∧
    ((∀ n ∈ headLines cs, r.last < n) → (ofText cs).blocksFor r = []) ∧
    (ofText cs).blocksFor r =
      ((List.range' r.first (r.last + 1 - r.first)).flatMap
        fun n => (ofText cs).blocksFor (.single n)).dedup := by
  refine ⟨fun b => mem_blocksFor_iff hm, pairwise_blocksFor cs r, fun hn => ?_,
    blocksFor_eq_dedup hm r⟩
  refine List.eq_nil_iff_forall_not_mem.mpr fun b hb => ?_
  obtain ⟨hd, h⟩ := (mem_blocksFor_iff hm).mp hb
  have hlt := hn b.sourceLine (mem_headLines.mpr ⟨b, hd, rfl⟩)
  have hr := r.first_le_last
  rcases h with h | h
  · omega
  · have := h.1.2
    omega

/-- Two blocks for line 2, below one for line 9: lines 5 to 9 select all of them, those for line 2
first. No block is for line 1. -/
theorem blocksFor_ofText_unordered :
    let cs := "  9 A\n  2 B\n    C\n  2 D\n".toList
    isUnmapped cs = false ∧
      (ofText cs).blocksFor (.between 9 5) = [⟨2, 1, 2⟩, ⟨2, 3, 3⟩, ⟨9, 0, 0⟩] ∧
      (∀ n ∈ headLines cs, 1 < n) ∧ (ofText cs).blocksFor (.single 1) = [] := by
  intro cs
  have hm : isUnmapped cs = false := by decide
  have hblocks : displayed cs = [⟨9, 0, 0⟩, ⟨2, 1, 2⟩, ⟨2, 3, 3⟩] := by decide
  have hheads : headLines cs = [9, 2, 2] := by decide
  have hgreatest : IsGreatest {n | n ∈ headLines cs ∧ n ≤ 5} 2 := by
    rw [hheads]
    refine ⟨by decide, fun n ⟨hn, hle⟩ => ?_⟩
    simp only [List.mem_cons, List.not_mem_nil, or_false] at hn
    omega
  have habove : ∀ n ∈ headLines cs, 1 < n := by
    rw [hheads]
    decide
  obtain ⟨hmem, hordered, -, -⟩ := blocksFor_ofText hm (.between 9 5)
  refine ⟨hm, hordered.eq_of_mem_iff ?_ fun b => (hmem b).trans ?_, habove,
    (blocksFor_ofText hm (.single 1)).2.2.1 habove⟩
  · unfold Block.Precedes
    decide
  · simp only [hblocks, List.mem_cons, List.not_mem_nil, or_false]
    constructor
    · rintro ⟨hb | hb | hb, -⟩
      · exact .inr (.inr hb)
      · exact .inl hb
      · exact .inr (.inl hb)
    · rintro (rfl | rfl | rfl)
      · exact ⟨.inr (.inl rfl), .inr hgreatest⟩
      · exact ⟨.inr (.inr rfl), .inr hgreatest⟩
      · exact ⟨.inl rfl, .inl (by decide)⟩

end Index

end ListingPanel
