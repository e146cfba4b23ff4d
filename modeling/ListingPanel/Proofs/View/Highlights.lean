import ListingPanel.Highlights
import ListingPanel.Proofs.Listing.Query
import ListingPanel.Proofs.Search

/-! The keys of highlights are in ascending order, whatever the order they came in. -/
namespace ListingPanel

/-- Starts earlier, or on the same line and ends earlier. -/
def KeyLt (a b : Nat × Nat) : Prop := a.1 < b.1 ∨ a.1 = b.1 ∧ a.2 < b.2

theorem KeyLt.trans {a b c : Nat × Nat} (h : KeyLt a b) (h' : KeyLt b c) : KeyLt a c := by
  unfold KeyLt at *
  omega

theorem KeyLt.eq_or_gt_of_not {a b : Nat × Nat} (h : ¬ KeyLt a b) : a = b ∨ KeyLt b a := by
  rw [Prod.ext_iff]
  unfold KeyLt at *
  omega

instance : Std.Irrefl KeyLt := ⟨fun _ h => by unfold KeyLt at h; omega⟩

instance : Std.Antisymm KeyLt := ⟨fun _ _ h h' => by unfold KeyLt at *; omega⟩

theorem Overlay.before_iff {o p : Overlay} : o.before p = true ↔ KeyLt o.key p.key := by
  simp [before, KeyLt, key]

namespace Highlights

theorem hasKey_iff {h : Highlights} {k : Nat × Nat} : h.hasKey k = true ↔ k ∈ h.keys := by
  simp [hasKey, keys]

/-! ### Adding -/

section Add
variable {h : Highlights} (hs : h.keys.Pairwise KeyLt)
include hs

/-- What comes before `o` comes first. -/
theorem pairwise_before (o : Overlay) :
    h.overlays.Pairwise fun a b => b.before o = true → a.before o = true :=
  (List.pairwise_map.mp hs).imp fun hab hb =>
    Overlay.before_iff.mpr (hab.trans (Overlay.before_iff.mp hb))

/-- The search ends at the key if it is there. -/
theorem any_key_iff (o : Overlay) :
    h.overlays[(h.overlays.filter (·.before o)).length]?.any (·.key = o.key) = true ↔
      o.key ∈ h.keys := by
  constructor
  · intro ha
    obtain ⟨p, hp, hk⟩ := (Option.any_eq_true _ _).mp ha
    exact List.mem_map.mpr ⟨p, List.mem_of_getElem? hp, of_decide_eq_true hk⟩
  · intro ho
    obtain ⟨p, hp, hk⟩ := List.mem_map.mp ho
    have hdrop := drop_length_filter (pairwise_before hs o)
    have hpn : ¬ p.before o = true := fun hb => by
      have hlt := Overlay.before_iff.mp hb
      rw [hk] at hlt
      exact irrefl_of KeyLt _ hlt
    have hrest : p ∈ h.overlays.filter fun a => !a.before o :=
      List.mem_filter.mpr ⟨hp, by simpa using hpn⟩
    rw [← List.head?_drop, hdrop]
    cases hf : h.overlays.filter fun a => !a.before o with
    | nil =>
      rw [hf] at hrest
      exact absurd hrest List.not_mem_nil
    | cons q r =>
      rw [hf] at hrest
      -- nothing that comes later has a key as small as that of `o`
      have hq : q.key = o.key := by
        rcases List.mem_cons.mp hrest with rfl | hr
        · exact hk
        · have hsub : (q :: r).Pairwise fun a b => KeyLt a.key b.key :=
            hf ▸ (List.pairwise_map.mp hs).filter _
          have hlt : KeyLt q.key o.key := hk ▸ (List.pairwise_cons.mp hsub).1 p hr
          have hqm : q ∈ h.overlays.filter fun a => !a.before o := hf ▸ List.mem_cons_self
          have hqn := (List.mem_filter.mp hqm).2
          rw [Overlay.before_iff.mpr hlt] at hqn
          cases hqn
      simp [hq]

/-- An overlay stands after all that come before it, unless its key is there. -/
theorem add_eq (o : Overlay) :
    h.add o =
      if o.key ∈ h.keys then (false, h)
      else (true, ⟨h.overlays.filter (·.before o) ++
        o :: h.overlays.filter fun a => !a.before o⟩) := by
  have hbefore := pairwise_before hs o
  simp only [add, partitionPoint_eq_length_filter hbefore, take_length_filter hbefore,
    drop_length_filter hbefore, any_key_iff hs]

theorem insert_of_mem {o : Overlay} (ho : o.key ∈ h.keys) : h.insert o = h := by
  unfold insert
  rw [add_eq hs, if_pos ho]

theorem overlays_insert {o : Overlay} (ho : o.key ∉ h.keys) :
    (h.insert o).overlays =
      h.overlays.filter (·.before o) ++ o :: h.overlays.filter fun a => !a.before o := by
  unfold insert
  rw [add_eq hs, if_neg ho]

theorem mem_insert_iff {o p : Overlay} :
    p ∈ (h.insert o).overlays ↔ p ∈ h.overlays ∨ p = o ∧ o.key ∉ h.keys := by
  by_cases ho : o.key ∈ h.keys
  · rw [insert_of_mem hs ho]
    simp [ho]
  · have hsplit : p ∈ h.overlays ↔
        p ∈ h.overlays.filter (·.before o) ∨ p ∈ h.overlays.filter fun a => !a.before o := by
      rw [← List.mem_append, filter_append_filter_not (pairwise_before hs o)]
    rw [overlays_insert hs ho, List.mem_append, List.mem_cons, hsplit]
    tauto

theorem mem_keys_insert {o : Overlay} {k : Nat × Nat} :
    k ∈ (h.insert o).keys ↔ k = o.key ∨ k ∈ h.keys := by
  unfold keys
  simp only [List.mem_map, mem_insert_iff hs]
  constructor
  · rintro ⟨p, hp | ⟨rfl, -⟩, rfl⟩
    · exact .inr ⟨p, hp, rfl⟩
    · exact .inl rfl
  · rintro (rfl | ⟨p, hp, rfl⟩)
    · by_cases ho : o.key ∈ h.keys
      · obtain ⟨p, hp, hk⟩ := List.mem_map.mp ho
        exact ⟨p, .inl hp, hk⟩
      · exact ⟨o, .inr ⟨rfl, ho⟩, rfl⟩
    · exact ⟨p, .inl hp, rfl⟩

theorem pairwise_keys_insert (o : Overlay) : (h.insert o).keys.Pairwise KeyLt := by
  by_cases ho : o.key ∈ h.keys
  · rw [insert_of_mem hs ho]
    exact hs
  · have hp := List.pairwise_map.mp hs
    have hafter : ∀ p ∈ h.overlays.filter fun a => !a.before o, KeyLt o.key p.key :=
      fun p hp => by
        obtain ⟨hpm, hpn⟩ := List.mem_filter.mp hp
        have hn : ¬ KeyLt p.key o.key := fun hlt => by
          rw [Overlay.before_iff.mpr hlt] at hpn
          cases hpn
        have hne : p.key ≠ o.key := fun he => ho (List.mem_map.mpr ⟨p, hpm, he⟩)
        exact (KeyLt.eq_or_gt_of_not hn).resolve_left hne
    unfold keys
    rw [overlays_insert hs ho]
    refine List.pairwise_map.mpr (List.pairwise_append.mpr
      ⟨hp.filter _, List.pairwise_cons.mpr ⟨hafter, hp.filter _⟩, fun a ha b hb => ?_⟩)
    have hao : KeyLt a.key o.key := Overlay.before_iff.mp (List.mem_filter.mp ha).2
    rcases List.mem_cons.mp hb with rfl | hb
    · exact hao
    · exact hao.trans (hafter b hb)

theorem mem_keys_foldl_insert {os : List Overlay} {k : Nat × Nat} :
    k ∈ (os.foldl insert h).keys ↔ k ∈ os.map Overlay.key ∨ k ∈ h.keys := by
  induction os generalizing h with
  | nil => simp
  | cons o os ih =>
    rw [List.foldl_cons, ih (pairwise_keys_insert hs o), mem_keys_insert hs, List.map_cons,
      List.mem_cons]
    tauto

theorem pairwise_keys_foldl_insert {os : List Overlay} :
    (os.foldl insert h).keys.Pairwise KeyLt := by
  induction os generalizing h with
  | nil => exact hs
  | cons o os ih => exact ih (pairwise_keys_insert hs o)

theorem mem_of_mem_foldl_insert {os : List Overlay} {o : Overlay}
    (ho : o ∈ (os.foldl insert h).overlays) : o ∈ os ∨ o ∈ h.overlays := by
  induction os generalizing h with
  | nil => exact Or.inr ho
  | cons p os ih =>
    rcases ih (pairwise_keys_insert hs p) ho with ho | ho
    · exact Or.inl (List.mem_cons_of_mem p ho)
    · rcases (mem_insert_iff hs).mp ho with ho | ⟨rfl, -⟩
      · exact Or.inr ho
      · exact Or.inl List.mem_cons_self

end Add

/-- None of the overlays is refused if each has its key for itself. -/
theorem mem_foldl_insert_iff {os : List Overlay} (hn : (os.map Overlay.key).Nodup) {o : Overlay} :
    o ∈ (os.foldl insert {}).overlays ↔ o ∈ os := by
  constructor
  · intro ho
    exact (mem_of_mem_foldl_insert .nil ho).resolve_right List.not_mem_nil
  · intro ho
    have hk : o.key ∈ (os.foldl insert {}).keys :=
      (mem_keys_foldl_insert .nil).mpr (Or.inl (List.mem_map_of_mem ho))
    obtain ⟨p, hp, hpo⟩ := List.mem_map.mp hk
    have hpm : p ∈ os := (mem_of_mem_foldl_insert .nil hp).resolve_right List.not_mem_nil
    rwa [List.inj_on_of_nodup_map hn hpm ho hpo] at hp

theorem mem_of_at? {h : Highlights} {d : Nat} {o : Overlay} (ho : h.at? d = some o) :
    o ∈ h.overlays ∧ o.contains d = true := by
  unfold at? at ho
  have hd := List.find?_some ho
  exact ⟨List.mem_of_find?_eq_some ho, hd⟩

theorem covers_iff {h : Highlights} {d : Nat} :
    h.covers d = true ↔ ∃ o ∈ h.overlays, o.contains d = true := by
  unfold covers at?
  rw [List.find?_isSome]

/-- In its window a line is covered by one of the overlays that reach into the window. -/
theorem any_inWindow {h : Highlights} {start stop d : Nat} (hs : start ≤ d) (hd : d < stop) :
    (h.inWindow start stop).any (·.contains d) = h.covers d := by
  rw [Bool.eq_iff_iff, covers_iff, List.any_eq_true]
  refine exists_congr fun o => ?_
  unfold inWindow
  rw [List.mem_filter, and_assoc]
  refine and_congr_right fun _ => and_iff_right_of_imp fun hc => ?_
  simp only [Overlay.contains, Overlay.overlaps, Bool.and_eq_true, decide_eq_true_eq] at hc ⊢
  omega

end Highlights

/-- The display lines of blocks as pairs of first and last line, in ascending order. -/
def Block.ranges (bs : List Block) : List (Nat × Nat) :=
  (bs.map fun b => (b.first, b.last)).mergeSort fun a b => a.1 < b.1 || (a.1 == b.1 && a.2 ≤ b.2)

@[simp] theorem Block.ranges_nil : ranges [] = [] := by simp [ranges]

theorem Block.mem_ranges {bs : List Block} {k : Nat × Nat} :
    k ∈ ranges bs ↔ ∃ b ∈ bs, (b.first, b.last) = k := by
  rw [ranges, List.mem_mergeSort, List.mem_map]

theorem Block.pairwise_ranges {bs : List Block} (h : (bs.map fun b => (b.first, b.last)).Nodup) :
    (ranges bs).Pairwise KeyLt := by
  have hs : (ranges bs).Pairwise fun a b => (a.1 < b.1 || (a.1 == b.1 && a.2 ≤ b.2)) = true :=
    List.pairwise_mergeSort (fun a b c => by simp; omega) (fun a b => by simp; omega) _
  have hn : (ranges bs).Nodup := (List.mergeSort_perm _ _).nodup_iff.mpr h
  refine (hs.and hn).imp fun {a b} hab => ?_
  obtain ⟨hle, hne⟩ := hab
  simp only [Bool.or_eq_true, Bool.and_eq_true, decide_eq_true_eq, beq_iff_eq] at hle
  unfold KeyLt
  have : a.1 = b.1 → a.2 ≠ b.2 := fun h₁ h₂ => hne (Prod.ext h₁ h₂)
  omega

/-- Blocks of a query have their display lines for themselves. -/
theorem Index.nodup_blocksFor_ranges (cs : List Char) (r : LineRange) :
    (((ofText cs).blocksFor r).map fun b => (b.first, b.last)).Nodup := by
  have hd : ((displayed cs).map Block.first).Nodup :=
    List.pairwise_map.mpr ((pairwise_displayed_first cs).imp fun h => h.ne)
  refine List.Nodup.map_on (fun a ha b hb hab => ?_)
    ((pairwise_blocksFor cs r).imp Block.Precedes.ne)
  exact List.inj_on_of_nodup_map hd (mem_displayed_of_mem_blocksFor ha)
    (mem_displayed_of_mem_blocksFor hb) (Prod.mk.inj hab).1

/-- The display lines of the blocks of a query, without any sorting. -/
theorem Index.ranges_blocksFor {cs : List Char} (hm : isUnmapped cs = false) (r : LineRange) :
    Block.ranges ((ofText cs).blocksFor r) =
      ((displayed cs).filter (Covering (displayed cs) r ·)).map fun b => (b.first, b.last) := by
  have hd := (pairwise_displayed_first cs).filter (Covering (displayed cs) r ·)
  refine (Block.pairwise_ranges (nodup_blocksFor_ranges cs r)).eq_of_mem_iff
    (List.pairwise_map.mpr (hd.imp fun h => .inl h)) fun k => ?_
  rw [Block.mem_ranges, List.mem_map, ofText_of_mapped hm, blocksFor_ofBlocks]
  simp only [List.mem_filter, mem_byLine]

end ListingPanel
