import ListingPanel.Search
import Mathlib.Data.List.Basic

/-! Binary search finds where a sequence splits: in a list whose elements with a property come
first, it counts them. -/
namespace ListingPanel

private theorem partitionPointBetween_eq {p : Nat → Bool} {lo hi k : Nat} (hl : lo ≤ k)
    (hk : k ≤ hi) (hp : ∀ i, lo ≤ i → i < hi → (p i = true ↔ i < k)) :
    partitionPointBetween p lo hi = k := by
  fun_induction partitionPointBetween p lo hi with
  | case1 lo hi hlt mid hm ih =>
    have hmid : lo ≤ mid ∧ mid < hi := by dsimp only [mid]; omega
    have hmk : mid < k := (hp mid hmid.1 hmid.2).mp hm
    exact ih (by omega) hk fun i hi => hp i (by omega)
  | case2 lo hi hlt mid hm ih =>
    have hmid : lo ≤ mid ∧ mid < hi := by dsimp only [mid]; omega
    have hmk : ¬ mid < k := fun h => hm ((hp mid hmid.1 hmid.2).mpr h)
    exact ih hl (by omega) fun i hl hi => hp i hl (by omega)
  | case3 lo hi hlt => omega

/-- A property of exactly the first `k` of `n` indices. -/
theorem partitionPoint_eq {n k : Nat} {p : Nat → Bool} (hk : k ≤ n)
    (hp : ∀ i < n, (p i = true ↔ i < k)) : partitionPoint n p = k :=
  partitionPointBetween_eq (Nat.zero_le k) hk fun i _ => hp i

/-- The property holds of the indices before the partition point, and of none from there on. -/
def Splits (n : Nat) (p : Nat → Bool) : Prop := ∀ i < n, (p i = true ↔ i < partitionPoint n p)

section Split
variable {α : Type} {q : α → Bool} {l : List α}

/-- The elements with the property come first. -/
theorem filter_append_filter_not (h : l.Pairwise fun a b => q b = true → q a = true) :
    l.filter q ++ l.filter (fun a => !q a) = l := by
  induction l with
  | nil => rfl
  | cons a l ih =>
    obtain ⟨ha, hl⟩ := List.pairwise_cons.mp h
    by_cases hq : q a = true
    · simpa [hq] using ih hl
    · have hn : ∀ b ∈ l, q b = false := fun b hb => by
        simpa using fun hb' => hq (ha b hb hb')
      rw [List.filter_eq_nil_iff.mpr (by simpa [hq] using hn), List.nil_append,
        List.filter_eq_self.mpr (by simpa [hq] using hn)]

private theorem any_getElem?_append_iff {a b : List α} (ha : ∀ x ∈ a, q x = true)
    (hb : ∀ x ∈ b, q x = false) {i : Nat} (hi : i < (a ++ b).length) :
    (a ++ b)[i]?.any q = true ↔ i < a.length := by
  rw [List.length_append] at hi
  rcases Nat.lt_or_ge i a.length with hlt | hge
  · rw [List.getElem?_append_left hlt, List.getElem?_eq_getElem hlt, Option.any_some]
    exact ⟨fun _ => hlt, fun _ => ha _ (List.getElem_mem hlt)⟩
  · have hlt : i - a.length < b.length := by omega
    rw [List.getElem?_append_right hge, List.getElem?_eq_getElem hlt, Option.any_some,
      hb _ (List.getElem_mem hlt)]
    simpa using hge

theorem any_getElem?_iff (h : l.Pairwise fun a b => q b = true → q a = true) {i : Nat}
    (hi : i < l.length) : l[i]?.any q = true ↔ i < (l.filter q).length := by
  have hs := filter_append_filter_not h
  have hp := any_getElem?_append_iff (a := l.filter q) (b := l.filter fun a => !q a) (q := q)
    (fun x hx => (List.mem_filter.mp hx).2) (fun x hx => by simpa using (List.mem_filter.mp hx).2)
    (i := i)
  rw [hs] at hp
  exact hp hi

theorem partitionPoint_eq_length_filter (h : l.Pairwise fun a b => q b = true → q a = true) :
    partitionPoint l.length (fun i => l[i]?.any q) = (l.filter q).length :=
  partitionPoint_eq (List.length_filter_le q l) fun _ hi => any_getElem?_iff h hi

theorem splits_of_pairwise (h : l.Pairwise fun a b => q b = true → q a = true) :
    Splits l.length fun i => l[i]?.any q := by
  intro i hi
  rw [any_getElem?_iff h hi, partitionPoint_eq_length_filter h]

theorem take_length_filter (h : l.Pairwise fun a b => q b = true → q a = true) :
    l.take (l.filter q).length = l.filter q :=
  calc
    l.take (l.filter q).length =
        (l.filter q ++ l.filter fun a => !q a).take (l.filter q).length := by
      rw [filter_append_filter_not h]
    _ = l.filter q := List.take_left

theorem drop_length_filter (h : l.Pairwise fun a b => q b = true → q a = true) :
    l.drop (l.filter q).length = l.filter fun a => !q a :=
  calc
    l.drop (l.filter q).length =
        (l.filter q ++ l.filter fun a => !q a).drop (l.filter q).length := by
      rw [filter_append_filter_not h]
    _ = l.filter fun a => !q a := List.drop_left

end Split

end ListingPanel
