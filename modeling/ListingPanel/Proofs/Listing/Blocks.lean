import ListingPanel.Listing.Index
import Mathlib.Data.List.Nodup

/-! The blocks of a listing in display order, and in the order of their source lines. Blocks start
at the heads, follow one another without overlap and end within the listing. -/
namespace ListingPanel

/-- Comes first by source line, or by display line within the same source line. -/
def Block.Precedes (a b : Block) : Prop :=
  a.sourceLine < b.sourceLine ∨ a.sourceLine = b.sourceLine ∧ a.first < b.first

theorem Block.Precedes.trans {a b c : Block} (h : a.Precedes b) (h' : b.Precedes c) :
    a.Precedes c := by
  unfold Block.Precedes at *
  omega

theorem Block.Precedes.asymm {a b : Block} (h : a.Precedes b) : ¬ b.Precedes a := by
  unfold Block.Precedes at *
  omega

theorem Block.Precedes.ne {a b : Block} (h : a.Precedes b) : a ≠ b := by
  rintro rfl
  exact h.asymm h

namespace Index

/-- The blocks of a listing, in display order. -/
def displayed (cs : List Char) : List Block :=
  tile (Text.lines cs).length (heads 0 (Text.lines cs))

/-- The source lines that a listing's heads name, in display order. -/
def headLines (cs : List Char) : List Nat := (heads 0 (Text.lines cs)).map Prod.fst

theorem mem_heads {start : Nat} {ls : List (List Char)} {h : Nat × Nat}
    (hm : h ∈ heads start ls) : start ≤ h.2 ∧ h.2 < start + ls.length := by
  induction ls generalizing start with
  | nil => simp [heads] at hm
  | cons l ls ih =>
    have hr : h ∈ heads (start + 1) ls → start ≤ h.2 ∧ h.2 < start + (l :: ls).length :=
      fun hm => by
        have := ih hm
        rw [List.length_cons]
        omega
    cases hl : Listing.headNumber? l with
    | none => exact hr (by simpa [heads, hl] using hm)
    | some n =>
      rcases List.mem_cons.mp (by simpa [heads, hl] using hm) with rfl | hm
      · simp
      · exact hr hm

theorem pairwise_heads (start : Nat) (ls : List (List Char)) :
    (heads start ls).Pairwise fun g h => g.2 < h.2 := by
  induction ls generalizing start with
  | nil => exact List.Pairwise.nil
  | cons l ls ih =>
    cases hl : Listing.headNumber? l with
    | none => simpa [heads, hl] using ih (start + 1)
    | some n =>
      simp only [heads, hl]
      exact List.pairwise_cons.mpr ⟨fun h hm => (mem_heads hm).1, ih (start + 1)⟩

/-- Numbers of the heads, from the lines themselves. -/
theorem map_fst_heads (start : Nat) (ls : List (List Char)) :
    (heads start ls).map Prod.fst = ls.filterMap Listing.headNumber? := by
  induction ls generalizing start with
  | nil => rfl
  | cons l ls ih => cases hl : Listing.headNumber? l <;> simp [heads, hl, ih]

/-- The heads on the first `k` lines. -/
theorem filter_heads (start k : Nat) (ls : List (List Char)) :
    (heads start ls).filter (·.2 < start + k) = heads start (ls.take k) := by
  induction ls generalizing start k with
  | nil => simp [heads]
  | cons l ls ih =>
    cases k with
    | zero =>
      refine List.filter_eq_nil_iff.mpr fun h hm => ?_
      simpa using (mem_heads hm).1
    | succ k =>
      have hk := ih (start + 1) k
      rw [show start + 1 + k = start + (k + 1) by omega] at hk
      cases hl : Listing.headNumber? l <;> simp [heads, hl, hk]

/-- Each head opens one block. -/
theorem map_tile (n : Nat) (hs : List (Nat × Nat)) :
    (tile n hs).map (fun b => (b.sourceLine, b.first)) = hs := by
  fun_induction tile n hs with
  | case1 => rfl
  | case2 m i => rfl
  | case3 m i m' j r ih => simpa using ih

private theorem first_of_mem_tile {n : Nat} {hs : List (Nat × Nat)} {b : Block}
    (hb : b ∈ tile n hs) : (b.sourceLine, b.first) ∈ hs := by
  have := List.mem_map_of_mem (f := fun b : Block => (b.sourceLine, b.first)) hb
  rwa [map_tile] at this

private theorem first_le_of_mem_tile {n m j : Nat} {r : List (Nat × Nat)}
    (hp : ((m, j) :: r).Pairwise fun g h => g.2 < h.2) {b : Block}
    (hb : b ∈ tile n ((m, j) :: r)) : j ≤ b.first := by
  rcases List.mem_cons.mp (first_of_mem_tile hb) with he | hm
  · exact Nat.le_of_eq (Prod.mk.inj he).2.symm
  · exact Nat.le_of_lt ((List.pairwise_cons.mp hp).1 _ hm)

theorem mem_tile {n : Nat} {hs : List (Nat × Nat)} (hp : hs.Pairwise fun g h => g.2 < h.2)
    (hn : ∀ h ∈ hs, h.2 < n) {b : Block} (hb : b ∈ tile n hs) :
    b.first ≤ b.last ∧ b.last < n := by
  fun_induction tile n hs with
  | case1 => simp at hb
  | case2 m i =>
    have hi : i < n := hn (m, i) (by simp)
    rw [List.mem_singleton.mp hb]
    exact ⟨by dsimp only; omega, by dsimp only; omega⟩
  | case3 m i m' j r ih =>
    obtain ⟨hi, hr⟩ := List.pairwise_cons.mp hp
    have hij : i < j := hi (m', j) (by simp)
    have hj : j < n := hn (m', j) (by simp)
    rcases List.mem_cons.mp hb with rfl | hb
    · exact ⟨by dsimp only; omega, by dsimp only; omega⟩
    · exact ih hr (fun h hm => hn h (List.mem_cons_of_mem _ hm)) hb

/-- A block ends before the next one starts. -/
theorem pairwise_tile {n : Nat} {hs : List (Nat × Nat)}
    (hp : hs.Pairwise fun g h => g.2 < h.2) :
    (tile n hs).Pairwise fun a b => a.last < b.first := by
  fun_induction tile n hs with
  | case1 => exact List.Pairwise.nil
  | case2 m i => exact List.pairwise_singleton _ _
  | case3 m i m' j r ih =>
    obtain ⟨hi, hr⟩ := List.pairwise_cons.mp hp
    have hij : i < j := hi (m', j) (by simp)
    refine List.pairwise_cons.mpr ⟨fun b hb => ?_, ih hr⟩
    have hjb := first_le_of_mem_tile hr hb
    dsimp only
    omega

/-- The last block that starts by a display line reaches it, unless the listing ends before. -/
theorem le_last_of_getLast? {n d : Nat} {hs : List (Nat × Nat)}
    (hp : hs.Pairwise fun g h => g.2 < h.2) (hd : d < n) {b : Block}
    (hb : ((tile n hs).filter (·.first ≤ d)).getLast? = some b) : d ≤ b.last := by
  fun_induction tile n hs with
  | case1 => simp at hb
  | case2 m i =>
    have hm := (List.mem_filter.mp (List.mem_of_getLast? hb)).1
    rw [List.mem_singleton.mp hm]
    dsimp only
    omega
  | case3 m i m' j r ih =>
    obtain ⟨hi, hr⟩ := List.pairwise_cons.mp hp
    by_cases hj : j ≤ d
    · have hij : i < j := hi (m', j) (by simp)
      have hne : (tile n ((m', j) :: r)).filter (·.first ≤ d) ≠ [] := by
        have hm : (m', j) ∈ (tile n ((m', j) :: r)).map fun b => (b.sourceLine, b.first) := by
          rw [map_tile]
          exact List.mem_cons_self
        obtain ⟨c, hc, he⟩ := List.mem_map.mp hm
        have hcj : c.first = j := (Prod.mk.inj he).2
        exact List.ne_nil_of_mem (List.mem_filter.mpr ⟨hc, by simpa [hcj] using hj⟩)
      rw [List.filter_cons_of_pos (by simp; omega), List.getLast?_cons_of_ne_nil hne] at hb
      exact ih hr hb
    · have hnil : (tile n ((m', j) :: r)).filter (·.first ≤ d) = [] :=
        List.filter_eq_nil_iff.mpr fun c hc => by
          have := first_le_of_mem_tile hr hc
          simp only [decide_eq_true_eq]
          omega
      rw [List.filter_cons, hnil] at hb
      split_ifs at hb with hid
      · obtain rfl : _ = b := Option.some.inj (List.getLast?_singleton ▸ hb)
        dsimp only
        omega
      · simp at hb

theorem tile_cons (n m i : Nat) (hs : List (Nat × Nat)) :
    tile n ((m, i) :: hs) = ⟨m, i, (hs.head?.map Prod.snd).getD n - 1⟩ :: tile n hs := by
  cases hs <;> rfl

/-- The first head, or the end of the listing. -/
private theorem head?_heads (start : Nat) (ls : List (List Char)) :
    ((heads start ls).head?.map Prod.snd).getD (start + ls.length) =
      start + ls.findIdx fun l => (Listing.headNumber? l).isSome := by
  induction ls generalizing start with
  | nil => rfl
  | cons l ls ih =>
    have hs := ih (start + 1)
    rw [show start + 1 + ls.length = start + (ls.length + 1) by omega] at hs
    rw [List.findIdx_cons, List.length_cons]
    cases hl : Listing.headNumber? l with
    | none =>
      simp only [heads, hl, Option.isSome_none, cond_false, hs]
      omega
    | some n => simp [heads, hl]

/-- Each head opens a block, which ends before the next head or with the listing. -/
theorem tile_heads (start : Nat) (ls : List (List Char)) :
    tile (start + ls.length) (heads start ls) =
      (List.range ls.length).filterMap fun i =>
        (ls[i]?.bind Listing.headNumber?).map fun n =>
          ⟨n, start + i, start + i +
            (ls.drop (i + 1)).findIdx fun l => (Listing.headNumber? l).isSome⟩ := by
  induction ls generalizing start with
  | nil => rfl
  | cons l ls ih =>
    have hlen : start + 1 + ls.length = start + (ls.length + 1) := by omega
    have hrest := ih (start + 1)
    have hhead := head?_heads (start + 1) ls
    rw [hlen] at hrest hhead
    have hshift : (fun i => ((l :: ls)[i]?.bind Listing.headNumber?).map fun n =>
        Block.mk n (start + i) (start + i +
          ((l :: ls).drop (i + 1)).findIdx fun l => (Listing.headNumber? l).isSome)) ∘ Nat.succ =
        fun i => (ls[i]?.bind Listing.headNumber?).map fun n =>
          Block.mk n (start + 1 + i) (start + 1 + i +
            (ls.drop (i + 1)).findIdx fun l => (Listing.headNumber? l).isSome) := by
      funext i
      simp [Nat.add_assoc, Nat.add_comm 1]
    rw [List.length_cons, List.range_succ_eq_map, List.filterMap_cons, List.filterMap_map, hshift,
      ← hrest]
    cases hl : Listing.headNumber? l with
    | none => simp [heads, hl]
    | some n =>
      simp only [heads, hl]
      rw [tile_cons, hhead]
      simp [hl, Nat.add_right_comm start 1]

theorem map_sourceLine_displayed (cs : List Char) :
    (displayed cs).map Block.sourceLine = headLines cs := by
  rw [headLines, ← map_tile (Text.lines cs).length (heads 0 (Text.lines cs)), List.map_map]
  rfl

theorem mem_headLines {cs : List Char} {n : Nat} :
    n ∈ headLines cs ↔ ∃ b ∈ displayed cs, b.sourceLine = n := by
  rw [← map_sourceLine_displayed, List.mem_map]

theorem bounds_of_mem_displayed {cs : List Char} {b : Block} (hb : b ∈ displayed cs) :
    b.first ≤ b.last ∧ b.last < (Text.lines cs).length :=
  mem_tile (pairwise_heads 0 _) (fun _ hm => by simpa using (mem_heads hm).2) hb

/-- The blocks are disjoint and go down the listing. -/
theorem pairwise_displayed (cs : List Char) :
    (displayed cs).Pairwise fun a b => a.last < b.first :=
  pairwise_tile (pairwise_heads 0 _)

theorem pairwise_displayed_first (cs : List Char) :
    (displayed cs).Pairwise fun a b => a.first < b.first :=
  (pairwise_displayed cs).imp_of_mem fun ha _ h =>
    Nat.lt_of_le_of_lt (bounds_of_mem_displayed ha).1 h

end Index

section Stable
variable {α : Type} (f : α → Nat) (l : List α)

private theorem key_trans (a b c : α) (h : decide (f a ≤ f b) = true)
    (h' : decide (f b ≤ f c) = true) : decide (f a ≤ f c) = true := by
  simp only [decide_eq_true_eq] at *
  omega

private theorem key_total (a b : α) : (decide (f a ≤ f b) || decide (f b ≤ f a)) = true := by
  simp only [Bool.or_eq_true, decide_eq_true_eq]
  omega

/-- Sorting by a key keeps the order of the elements with the same key. -/
theorem filter_mergeSort_key (n : Nat) :
    (l.mergeSort fun a b => f a ≤ f b).filter (f · = n) = l.filter (f · = n) := by
  have hs : (l.filter (f · = n)).Sublist (l.mergeSort fun a b => f a ≤ f b) := by
    refine List.sublist_mergeSort (key_trans f) (key_total f) ?_ List.filter_sublist
    refine List.pairwise_of_forall_mem_list fun a ha b hb => ?_
    simp only [List.mem_filter, decide_eq_true_eq] at ha hb ⊢
    omega
  have hf := hs.filter (f · = n)
  simp only [List.filter_filter, Bool.and_self] at hf
  exact (hf.eq_of_length ((List.mergeSort_perm l _).filter _).length_eq.symm).symm

theorem pairwise_mergeSort_key {R : α → α → Prop} (h : l.Pairwise R) :
    (l.mergeSort fun a b => f a ≤ f b).Pairwise
      fun a b => f a < f b ∨ f a = f b ∧ R a b := by
  have hs := List.pairwise_mergeSort (key_trans f) (key_total f) l
  refine List.pairwise_iff_forall_sublist.mpr fun {a b} hab => ?_
  have hle : f a ≤ f b := of_decide_eq_true (hs.forall_sublist hab)
  rcases Nat.lt_or_eq_of_le hle with hlt | heq
  · exact Or.inl hlt
  · refine Or.inr ⟨heq, h.forall_sublist ?_⟩
    have hf := hab.filter (f · = f b)
    rw [filter_mergeSort_key] at hf
    simp only [heq, List.filter_cons, decide_true, if_true, List.filter_nil] at hf
    exact hf.trans List.filter_sublist

/-- Sorting by a key that no two elements share forgets the order they came in. -/
theorem mergeSort_key_eq {l m : List α} (hp : l.Perm m) (hm : m.Pairwise fun a b => f a < f b) :
    (l.mergeSort fun a b => f a ≤ f b) = m := by
  have hperm : (l.mergeSort fun a b => f a ≤ f b).Perm m := (List.mergeSort_perm l _).trans hp
  have hinj : ∀ a b, a ∈ m → b ∈ m → f a ≤ f b → f b ≤ f a → a = b := fun a b ha hb hab hba => by
    have hn : (m.map f).Nodup := List.pairwise_map.mpr (hm.imp Nat.ne_of_lt)
    exact List.inj_on_of_nodup_map hn ha hb (Nat.le_antisymm hab hba)
  refine hperm.eq_of_pairwise (fun a b ha => hinj a b (hperm.mem_iff.mp ha)) ?_
    (hm.imp Nat.le_of_lt)
  exact (List.pairwise_mergeSort (key_trans f) (key_total f) l).imp of_decide_eq_true

end Stable

end ListingPanel
