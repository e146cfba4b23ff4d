import ListingPanel.Shell.Pattern
import Mathlib.Data.List.Basic
import Mathlib.Data.List.Flatten
import Mathlib.Data.List.Range
import Mathlib.Order.MinMax

/-!
What texts match, and what is left of a text that is trimmed. A text matches a pattern if it can be
cut into pieces, one for each item of the pattern.
-/
namespace ListingPanel.Shell

/-- The texts that an item of a pattern stands for. -/
inductive PatternItem.Takes : PatternItem → Bytes → Prop where
  | byte {c : Char} : Takes (.byte c) [c]
  | any {c : Char} : Takes .any [c]
  | anyText {cs : Bytes} : Takes .anyText cs
  | set {negated : Bool} {ranges : List (Char × Char)} {c : Char}
    (h : (∃ r ∈ ranges, r.1 ≤ c ∧ c ≤ r.2) ↔ negated = false) : Takes (.set negated ranges) [c]

def Matches (items : List PatternItem) (cs : Bytes) : Prop :=
  ∃ pieces, List.Forall₂ PatternItem.Takes items pieces ∧ pieces.flatten = cs

variable {item : PatternItem} {items : List PatternItem} {c d : Char} {cs : Bytes}

theorem matches_nil_iff : Matches [] cs ↔ cs = [] := by
  constructor
  · rintro ⟨pieces, hp, rfl⟩
    cases hp
    rfl
  · rintro rfl
    exact ⟨[], .nil, rfl⟩

theorem matches_cons_iff :
    Matches (item :: items) cs ↔ ∃ a b, item.Takes a ∧ Matches items b ∧ a ++ b = cs := by
  constructor
  · rintro ⟨pieces, hp, rfl⟩
    cases hp with
    | cons ha hb => exact ⟨_, _, ha, ⟨_, hb, rfl⟩, rfl⟩
  · rintro ⟨a, _, ha, ⟨pieces, hb, rfl⟩, rfl⟩
    exact ⟨a :: pieces, .cons ha hb, rfl⟩

theorem matches_anyText_iff :
    Matches (.anyText :: items) cs ↔ ∃ a b, Matches items b ∧ a ++ b = cs := by
  rw [matches_cons_iff]
  exact ⟨fun ⟨a, b, _, h⟩ => ⟨a, b, h⟩, fun ⟨a, b, h⟩ => ⟨a, b, .anyText, h⟩⟩

/-- A star takes nothing, or a byte and more. -/
theorem matches_anyText_cons_iff : Matches (.anyText :: items) (c :: cs) ↔
    Matches items (c :: cs) ∨ Matches (.anyText :: items) cs := by
  simp only [matches_anyText_iff, List.append_eq_cons_iff]
  constructor
  · rintro ⟨a, b, hb, ⟨-, rfl⟩ | ⟨a', -, rfl⟩⟩
    · exact .inl hb
    · exact .inr ⟨a', b, hb, rfl⟩
  · rintro (h | ⟨a, b, hb, rfl⟩)
    · exact ⟨[], _, h, .inl ⟨rfl, rfl⟩⟩
    · exact ⟨c :: a, b, hb, .inr ⟨a, rfl, rfl⟩⟩

section One

/-! Items that take one byte of some kind. -/

variable {P : Char → Prop} (h : ∀ a, item.Takes a ↔ ∃ c, P c ∧ a = [c])
include h

theorem matches_one_cons_iff : Matches (item :: items) (c :: cs) ↔ P c ∧ Matches items cs := by
  rw [matches_cons_iff]
  constructor
  · rintro ⟨a, b, ha, hb, heq⟩
    obtain ⟨d, hd, rfl⟩ := (h a).mp ha
    cases heq
    exact ⟨hd, hb⟩
  · rintro ⟨hc, hcs⟩
    exact ⟨[c], cs, (h _).mpr ⟨c, hc, rfl⟩, hcs, rfl⟩

theorem not_matches_one_nil : ¬ Matches (item :: items) [] := by
  rw [matches_cons_iff]
  rintro ⟨a, b, ha, -, heq⟩
  obtain ⟨d, -, rfl⟩ := (h a).mp ha
  cases heq

end One

theorem takes_byte_iff {a : Bytes} : (PatternItem.byte d).Takes a ↔ ∃ c, c = d ∧ a = [c] := by
  constructor
  · rintro ⟨⟩
    exact ⟨d, rfl, rfl⟩
  · rintro ⟨c, rfl, rfl⟩
    exact .byte

theorem takes_any_iff {a : Bytes} : PatternItem.any.Takes a ↔ ∃ c, True ∧ a = [c] := by
  constructor
  · rintro ⟨⟩
    exact ⟨_, trivial, rfl⟩
  · rintro ⟨c, -, rfl⟩
    exact .any

theorem takes_set_iff {negated : Bool} {ranges : List (Char × Char)} {a : Bytes} :
    (PatternItem.set negated ranges).Takes a ↔
      ∃ c, ((∃ r ∈ ranges, r.1 ≤ c ∧ c ≤ r.2) ↔ negated = false) ∧ a = [c] := by
  constructor
  · rintro (_ | _ | _ | h)
    exact ⟨_, h, rfl⟩
  · rintro ⟨c, h, rfl⟩
    exact .set h

theorem isMatch_iff : isMatch items cs = true ↔ Matches items cs := by
  fun_induction isMatch items cs with
  | case1 cs => exact List.isEmpty_iff.trans matches_nil_iff.symm
  | case2 items ih =>
    rw [ih, matches_anyText_iff]
    constructor
    · exact fun h => ⟨[], [], h, rfl⟩
    · rintro ⟨a, b, hb, heq⟩
      obtain ⟨-, rfl⟩ := List.append_eq_nil_iff.mp heq
      exact hb
  | case3 items c cs ih₁ ih₂ => rw [Bool.or_eq_true, ih₁, ih₂, matches_anyText_cons_iff]
  | case4 item items h =>
    cases item with
    | byte => simpa using not_matches_one_nil fun _ => takes_byte_iff
    | any => simpa using not_matches_one_nil fun _ => takes_any_iff
    | anyText => exact absurd rfl h
    | set => simpa using not_matches_one_nil fun _ => takes_set_iff
  | case5 d items c cs ih =>
    rw [Bool.and_eq_true, ih, decide_eq_true_iff, matches_one_cons_iff fun _ => takes_byte_iff]
  | case6 items c cs ih =>
    rw [ih, matches_one_cons_iff fun _ => takes_any_iff, true_and]
  | case7 negated ranges items c cs ih =>
    rw [Bool.and_eq_true, ih, matches_one_cons_iff fun _ => takes_set_iff]
    have hany : (ranges.any fun r => r.1 ≤ c && c ≤ r.2) = true ↔
        ∃ r ∈ ranges, r.1 ≤ c ∧ c ≤ r.2 := by simp
    change ((ranges.any fun r => r.1 ≤ c && c ≤ r.2) != negated) = true ∧ _ ↔ _
    rw [← hany]
    cases negated <;> simp

/-! ### Trimming -/

/-- A text is cut into a part at its end, or at its start, and the rest. -/
def Cut (fromEnd : Bool) (cs part rest : Bytes) : Prop :=
  (if fromEnd then rest ++ part else part ++ rest) = cs

/-- No shorter than the other text if the longest one is wanted, and no longer otherwise. -/
def Preferred (longest : Bool) (a b : Bytes) : Prop :=
  if longest then b.length ≤ a.length else a.length ≤ b.length

variable {fromEnd longest : Bool}

theorem preferred_refl (a : Bytes) : Preferred longest a a := by
  cases longest <;> exact le_rfl

/-- The part and the rest at a cut. -/
def cutAt (fromEnd : Bool) (cs : Bytes) (n : Nat) : Bytes × Bytes :=
  if fromEnd then (cs.drop n, cs.take n) else (cs.take n, cs.drop n)

/-- The cuts in the order in which they are tried. -/
def cuts (fromEnd longest : Bool) (cs : Bytes) : List Nat :=
  if fromEnd = longest then List.range (cs.length + 1) else (List.range (cs.length + 1)).reverse

theorem mem_cuts_iff {n : Nat} : n ∈ cuts fromEnd longest cs ↔ n ≤ cs.length := by
  unfold cuts
  split_ifs <;> simp only [List.mem_reverse, List.mem_range, Nat.lt_add_one_iff]

theorem cut_iff {part rest : Bytes} : Cut fromEnd cs part rest ↔
    ∃ n ∈ cuts fromEnd longest cs, cutAt fromEnd cs n = (part, rest) := by
  constructor
  · intro h
    cases fromEnd with
    | true =>
      obtain rfl : rest ++ part = cs := h
      refine ⟨rest.length, mem_cuts_iff.mpr (by simp), ?_⟩
      simp [cutAt]
    | false =>
      obtain rfl : part ++ rest = cs := h
      refine ⟨part.length, mem_cuts_iff.mpr (by simp), ?_⟩
      simp [cutAt]
  · rintro ⟨n, -, h⟩
    cases fromEnd with
    | true =>
      cases h
      exact List.take_append_drop n cs
    | false =>
      cases h
      exact List.take_append_drop n cs

theorem length_cutAt (n : Nat) : (cutAt fromEnd cs n).1.length =
    if fromEnd then cs.length - n else min n cs.length := by
  cases fromEnd
  · exact List.length_take
  · exact List.length_drop

theorem pairwise_cuts : (cuts fromEnd longest cs).Pairwise fun m n =>
    Preferred longest (cutAt fromEnd cs m).1 (cutAt fromEnd cs n).1 := by
  have hlt : (List.range (cs.length + 1)).Pairwise (· < ·) := List.pairwise_lt_range
  have hgt := List.pairwise_reverse.mpr hlt
  simp only [cuts, Preferred, length_cutAt]
  cases fromEnd with
  | false =>
    cases longest with
    | false => exact hlt.imp fun h => min_le_min h.le le_rfl
    | true => exact hgt.imp fun h => min_le_min h.le le_rfl
  | true =>
    cases longest with
    | false => exact hgt.imp fun h => Nat.sub_le_sub_left h.le _
    | true => exact hlt.imp fun h => Nat.sub_le_sub_left h.le _

theorem trimmed_eq : trimmed fromEnd longest items cs =
    ((cuts fromEnd longest cs).find? fun n => isMatch items (cutAt fromEnd cs n).1).elim cs
      fun n => (cutAt fromEnd cs n).2 := by
  cases fromEnd <;> cases longest
  all_goals
    simp only [trimmed, cuts, cutAt, Bool.false_eq_true, if_true, if_false, reduceCtorEq]
    split
    all_goals
      next h =>
        rw [h]
        rfl

/-- The first element with a property comes before all others that have it. -/
theorem eq_or_of_find? {α : Type} {R : α → α → Prop} {as : List α} {p : α → Bool} {a b : α}
    (hR : as.Pairwise R) (ha : as.find? p = some a) (hb : b ∈ as) (hp : p b = true) :
    a = b ∨ R a b := by
  obtain ⟨-, front, back, rfl, hfront⟩ := List.find?_eq_some_iff_append.mp ha
  obtain hb | rfl | hb := by simpa only [List.mem_append, List.mem_cons] using hb
  · exact absurd (hfront b hb) (by simp [hp])
  · exact .inl rfl
  · exact .inr (List.rel_of_pairwise_cons (List.pairwise_append.mp hR).2.1 hb)

/-- If a part matches, the preferred one of those that do is cut off. -/
theorem trimmed_of_matches {part rest : Bytes} (hcut : Cut fromEnd cs part rest)
    (hm : Matches items part) :
    ∃ best, Cut fromEnd cs best (trimmed fromEnd longest items cs) ∧ Matches items best ∧
      ∀ part rest, Cut fromEnd cs part rest → Matches items part → Preferred longest best part := by
  rw [trimmed_eq]
  cases hfind : (cuts fromEnd longest cs).find? fun n => isMatch items (cutAt fromEnd cs n).1 with
  | none =>
    obtain ⟨n, hn, heq⟩ := cut_iff.mp hcut
    have hnot := List.find?_eq_none.mp hfind n hn
    rw [heq, isMatch_iff] at hnot
    exact absurd hm hnot
  | some n =>
    refine ⟨(cutAt fromEnd cs n).1, cut_iff.mpr ⟨n, List.mem_of_find?_eq_some hfind, rfl⟩, ?_, ?_⟩
    · have hmatch := List.find?_some hfind
      exact isMatch_iff.mp hmatch
    · intro part rest hcut hm
      obtain ⟨k, hk, heq⟩ := cut_iff.mp hcut
      have hmatch : isMatch items (cutAt fromEnd cs k).1 = true := by
        rw [heq]
        exact isMatch_iff.mpr hm
      obtain rfl | h := eq_or_of_find? pairwise_cuts hfind hk hmatch
      · rw [heq]
        exact preferred_refl part
      · rwa [heq] at h

/-- Otherwise, nothing is. -/
theorem trimmed_of_not_matches (h : ∀ part rest, Cut fromEnd cs part rest → ¬ Matches items part) :
    trimmed fromEnd longest items cs = cs := by
  have hfind : ((cuts fromEnd longest cs).find? fun n => isMatch items (cutAt fromEnd cs n).1) =
      none := by
    refine List.find?_eq_none.mpr fun n hn => ?_
    rw [isMatch_iff]
    exact h _ _ (cut_iff.mpr ⟨n, hn, rfl⟩)
  rw [trimmed_eq, hfind]
  rfl

end ListingPanel.Shell
