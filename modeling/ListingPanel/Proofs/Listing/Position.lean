import ListingPanel.Proofs.Listing.Query

/-! Which source line a display line shows: that of the block it stands in. Queries by source line
and by display line agree with each other. -/
namespace ListingPanel

theorem Block.contains_iff {b : Block} {d : Nat} :
    b.contains d = true ↔ b.first ≤ d ∧ d ≤ b.last := by
  simp [contains]

/-- Sorting the positions of a list by a key sorts the list. -/
private theorem map_mergeSort_range {α : Type} {f : α → Nat} {l m : List α} (hp : l.Perm m)
    (hm : m.Pairwise fun a b => f a < f b) :
    ((List.range l.length).mergeSort
      fun i j => (l[i]?.map f).getD 0 ≤ (l[j]?.map f).getD 0).map (l[·]?) = m.map some := by
  let key : Option α → Nat := fun a => (a.map f).getD 0
  have hr : (List.range l.length).map (l[·]?) = l.map some := by
    refine List.ext_getElem? fun i => ?_
    rcases Nat.lt_or_ge i l.length with hi | hi
    · simp [hi]
    · simp [hi]
  have hs : ((List.range l.length).mergeSort fun i j => key l[i]? ≤ key l[j]?).map (l[·]?) =
      ((List.range l.length).map (l[·]?)).mergeSort fun a b => key a ≤ key b :=
    List.map_mergeSort fun _ _ _ _ => rfl
  refine hs.trans ?_
  rw [hr]
  exact mergeSort_key_eq key (hp.map some) (List.pairwise_map.mpr hm)

namespace Index

/-- Looked up by display line, the blocks are in the order in which they are displayed. -/
theorem getElem?_byDisplay (n : Nat) {bs : List Block}
    (h : bs.Pairwise fun a b => a.first < b.first) (k : Nat) :
    ((ofBlocks n bs).byDisplay[k]?.bind fun i => (ofBlocks n bs).blocks[i]?) = bs[k]? := by
  have hm := map_mergeSort_range (List.mergeSort_perm bs fun a b => a.sourceLine ≤ b.sourceLine) h
  have hk : (((ofBlocks n bs).byDisplay[k]?.map fun i => (ofBlocks n bs).blocks[i]?)).join =
      (bs[k]?.map some).join := by
    have := congrArg (fun l : List (Option Block) => l[k]?.join) hm
    simpa [ofBlocks] using this
  rw [← Option.bind_id_eq_join, ← Option.bind_id_eq_join, Option.bind_map, Option.bind_map] at hk
  exact hk.trans (Option.bind_fun_some _)

theorem size_byDisplay (n : Nat) (bs : List Block) :
    (ofBlocks n bs).byDisplay.size = bs.length := by
  simp [ofBlocks]

/-- The search ends at the last block that starts at or before the display line. -/
theorem sourceLineAt_ofBlocks (n : Nat) {bs : List Block}
    (h : bs.Pairwise fun a b => a.first < b.first) (d : Nat) :
    (ofBlocks n bs).sourceLineAt d =
      ((bs.filter (·.first ≤ d)).getLast?.filter (·.contains d)).map (·.sourceLine) := by
  have hp : bs.Pairwise fun a b => decide (b.first ≤ d) = true → decide (a.first ≤ d) = true :=
    h.imp fun {a b} hab hb => by
      simp only [decide_eq_true_eq] at hb ⊢
      omega
  have hpos := partitionPoint_eq_length_filter hp
  have hlast : (bs.filter (·.first ≤ d)).length ≠ 0 →
      bs[(bs.filter (·.first ≤ d)).length - 1]? = (bs.filter (·.first ≤ d)).getLast? := fun h0 => by
    rw [List.getLast?_eq_getElem?, ← List.getElem?_take_of_lt (Nat.sub_one_lt h0),
      take_length_filter hp]
  unfold sourceLineAt
  simp only [getElem?_byDisplay n h, size_byDisplay, hpos]
  split_ifs with h0
  · rw [List.length_eq_zero_iff.mp h0]
    rfl
  · change ((ofBlocks n bs).byDisplay[_]?.bind fun i => (ofBlocks n bs).blocks[i]?.bind _) = _
    rw [← Option.bind_assoc, getElem?_byDisplay n h, hlast h0]
    cases (bs.filter (·.first ≤ d)).getLast? with
    | none => rfl
    | some b => cases hb : b.contains d <;> simp [hb]

theorem sourceLineAt_empty (d : Nat) : empty.sourceLineAt d = none := by
  simp [empty, sourceLineAt, partitionPoint, partitionPointBetween]

/-- No display line stands in two blocks. -/
theorem eq_of_contains {cs : List Char} {a b : Block} {d : Nat} (ha : a ∈ displayed cs)
    (hb : b ∈ displayed cs) (had : a.contains d = true) (hbd : b.contains d = true) : a = b := by
  have hp : (displayed cs).Pairwise fun a b => ¬ (a.contains d = true ∧ b.contains d = true) :=
    (pairwise_displayed cs).imp fun {a b} h hd => by
      have := Block.contains_iff.mp hd.1
      have := Block.contains_iff.mp hd.2
      omega
  have h := List.Pairwise.forall_of_forall_of_flip
    (R := fun a b : Block => a.contains d = true ∧ b.contains d = true → a = b)
    (fun _ _ _ => rfl) (hp.imp fun h hd => absurd hd h) (hp.imp fun h hd => absurd hd.symm h)
  exact h ha hb ⟨had, hbd⟩

/-- Within the listing, the last block that starts by a display line is around it. -/
theorem contains_of_getLast? {cs : List Char} {d : Nat} {b : Block}
    (hb : ((displayed cs).filter (·.first ≤ d)).getLast? = some b)
    (hd : d < (Text.lines cs).length) : b.contains d = true := by
  have hf : b.first ≤ d := by simpa using (List.mem_filter.mp (List.mem_of_getLast? hb)).2
  exact Block.contains_iff.mpr ⟨hf, le_last_of_getLast? (pairwise_heads 0 _) hd hb⟩

theorem sourceLineAt_eq_some_iff {cs : List Char} (hm : isUnmapped cs = false) {d s : Nat} :
    (ofText cs).sourceLineAt d = some s ↔
      ∃ b ∈ displayed cs, b.contains d = true ∧ b.sourceLine = s := by
  rw [ofText_of_mapped hm, sourceLineAt_ofBlocks _ (pairwise_displayed_first cs)]
  constructor
  · intro h
    obtain ⟨b, hb, rfl⟩ := Option.map_eq_some_iff.mp h
    obtain ⟨hl, hd⟩ := Option.filter_eq_some_iff.mp hb
    exact ⟨b, (List.mem_filter.mp (List.mem_of_getLast? hl)).1, hd, rfl⟩
  · rintro ⟨b, hb, hd, rfl⟩
    have hle := Block.contains_iff.mp hd
    have hlt := (bounds_of_mem_displayed hb).2
    have hmem : b ∈ (displayed cs).filter (·.first ≤ d) :=
      List.mem_filter.mpr ⟨hb, by simpa using hle.1⟩
    obtain ⟨c, hc⟩ :=
      Option.isSome_iff_exists.mp (List.getLast?_isSome.mpr (List.ne_nil_of_mem hmem))
    have hcm : c ∈ displayed cs := (List.mem_filter.mp (List.mem_of_getLast? hc)).1
    have hbc : b = c := eq_of_contains hb hcm hd (contains_of_getLast? hc (by omega))
    rw [hc, ← hbc]
    simp [hd]

/-- The number of the last head at or before a display line, as long as the listing goes. -/
theorem sourceLineAt_ofText {cs : List Char} (hm : isUnmapped cs = false) (d : Nat) :
    (ofText cs).sourceLineAt d =
      if d < (Text.lines cs).length then
        (((Text.lines cs).take (d + 1)).filterMap Listing.headNumber?).getLast?
      else none := by
  rw [ofText_of_mapped hm, sourceLineAt_ofBlocks _ (pairwise_displayed_first cs)]
  have hheads : ((displayed cs).filter (·.first ≤ d)).map (·.sourceLine) =
      ((Text.lines cs).take (d + 1)).filterMap Listing.headNumber? := by
    rw [← map_fst_heads 0, ← filter_heads, ← map_tile (Text.lines cs).length (heads 0 _),
      List.filter_map, List.map_map]
    refine congrArg (List.map _) (List.filter_congr fun b _ => ?_)
    simp only [Function.comp, decide_eq_decide]
    omega
  split_ifs with hd
  · rw [← hheads, List.getLast?_map]
    cases hl : ((displayed cs).filter (·.first ≤ d)).getLast? with
    | none => rfl
    | some b => simp [contains_of_getLast? hl hd]
  · have hn : ∀ b, ((displayed cs).filter (·.first ≤ d)).getLast? = some b →
        ¬ b.contains d = true := fun b hl hb => by
      have hlt := (bounds_of_mem_displayed (List.mem_filter.mp (List.mem_of_getLast? hl)).1).2
      have := Block.contains_iff.mp hb
      omega
    rw [Option.filter_eq_none_iff.mpr hn]
    rfl

theorem mapped_of_sourceLineAt {cs : List Char} {d s : Nat}
    (h : (ofText cs).sourceLineAt d = some s) : isUnmapped cs = false := by
  cases hm : isUnmapped cs with
  | false => rfl
  | true => simp [ofText_of_unmapped hm, sourceLineAt_empty] at h

/-- The display lines of a block that a query answers show the block's source line. -/
theorem sourceLineAt_of_mem_blocksFor {cs : List Char} {r : LineRange} {b : Block}
    (hb : b ∈ (ofText cs).blocksFor r) {d : Nat} (hd : b.contains d = true) :
    (ofText cs).sourceLineAt d = some b.sourceLine := by
  cases hm : isUnmapped cs with
  | true => simp [ofText_of_unmapped hm, blocksFor_empty] at hb
  | false =>
    exact (sourceLineAt_eq_some_iff hm).mpr ⟨b, mem_displayed_of_mem_blocksFor hb, hd, rfl⟩

/-- Asked for the source line that a display line shows, the index answers with exactly one block
around the display line, and only with blocks of that source line. The display lines of a block
show the closest source line at or before the one that was asked for. A display line that shows no
source line stands in no block. -/
theorem sourceLineAt_agrees_blocksFor (cs : List Char) :
    (∀ d s, (ofText cs).sourceLineAt d = some s →
      (∃ b, ((ofText cs).blocksFor (.single s)).filter (·.contains d) = [b]) ∧
        ∀ b ∈ (ofText cs).blocksFor (.single s), b.sourceLine = s) ∧
    (∀ n, ∀ b ∈ (ofText cs).blocksFor (.single n), ∀ d, b.contains d = true →
      ∃ m, IsGreatest {k | k ∈ headLines cs ∧ k ≤ n} m ∧ (ofText cs).sourceLineAt d = some m) ∧
    (∀ d, (ofText cs).sourceLineAt d = none →
      ∀ r, ∀ b ∈ (ofText cs).blocksFor r, b.contains d = false) := by
  refine ⟨fun d s h => ?_, fun n b hb d hd => ?_, fun d h r b hb => ?_⟩
  · have hm := mapped_of_sourceLineAt h
    obtain ⟨b, hb, hd, rfl⟩ := (sourceLineAt_eq_some_iff hm).mp h
    have hg : IsGreatest {k | k ∈ headLines cs ∧ k ≤ b.sourceLine} b.sourceLine :=
      ⟨⟨mem_headLines.mpr ⟨b, hb, rfl⟩, le_rfl⟩, fun _ hk => hk.2⟩
    refine ⟨⟨b, ?_⟩, fun c hc => ((mem_blocksFor_single_iff hm).mp hc).2.unique hg⟩
    refine ((pairwise_blocksFor cs _).filter _).eq_of_mem_iff
      (List.pairwise_singleton _ b) fun c => ?_
    rw [List.mem_filter, List.mem_singleton, mem_blocksFor_single_iff hm]
    constructor
    · rintro ⟨⟨hc, -⟩, hcd⟩
      exact eq_of_contains hc hb hcd hd
    · rintro rfl
      exact ⟨⟨hb, hg⟩, hd⟩
  · have hs := sourceLineAt_of_mem_blocksFor hb hd
    exact ⟨b.sourceLine, ((mem_blocksFor_single_iff (mapped_of_sourceLineAt hs)).mp hb).2, hs⟩
  · by_contra hd
    simp [sourceLineAt_of_mem_blocksFor hb (by simpa using hd)] at h

/-- Below a line without a block, two blocks for line 2 follow one for line 9. -/
theorem sourceLineAt_agrees_blocksFor_unordered :
    let cs := "P\n  9 A\n  2 B\n    C\n  2 D\n".toList
    ((ofText cs).sourceLineAt 3 = some 2 ∧
      (∃ b, ((ofText cs).blocksFor (.single 2)).filter (·.contains 3) = [b]) ∧
      ∀ b ∈ (ofText cs).blocksFor (.single 2), b.sourceLine = 2) ∧
    (⟨2, 2, 3⟩ ∈ (ofText cs).blocksFor (.single 5) ∧
      ∃ m, IsGreatest {k | k ∈ headLines cs ∧ k ≤ 5} m ∧ (ofText cs).sourceLineAt 3 = some m) ∧
    (ofText cs).sourceLineAt 0 = none ∧
      ∀ r, ∀ b ∈ (ofText cs).blocksFor r, b.contains 0 = false := by
  intro cs
  obtain ⟨hline, hblock, hnone⟩ := sourceLineAt_agrees_blocksFor cs
  have hm : isUnmapped cs = false := by decide
  have h₃ : (ofText cs).sourceLineAt 3 = some 2 :=
    (sourceLineAt_ofText hm 3).trans (by decide)
  have h₀ : (ofText cs).sourceLineAt 0 = none := (sourceLineAt_ofText hm 0).trans (by decide)
  have hle : ∀ k ∈ headLines cs, k ≤ 5 → k ≤ 2 := by decide
  have hb : ⟨2, 2, 3⟩ ∈ (ofText cs).blocksFor (.single 5) :=
    (mem_blocksFor_single_iff hm).mpr
      ⟨by decide, ⟨by decide, by decide⟩, fun k hk => hle k hk.1 hk.2⟩
  exact ⟨⟨h₃, hline 3 2 h₃⟩, ⟨hb, hblock 5 _ hb 3 rfl⟩, h₀, hnone 0 h₀⟩

end Index

end ListingPanel
