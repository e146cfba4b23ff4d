import ListingPanel.Proofs.Listing.Position

/-!
Which lines of a listing are heads, told by a grammar, and how the blocks that they open tile the
display lines.
-/
namespace ListingPanel

namespace Listing

open Text

/-! ### The grammar of heads -/

/-- Blanks, a run of decimal digits, a blank, and anything. -/
def HeadForm (digits line : List Char) : Prop :=
  ∃ blanks b rest, line = blanks ++ (digits ++ b :: rest) ∧
    (∀ c ∈ blanks, isBlank c = true) ∧ digits ≠ [] ∧ (∀ c ∈ digits, isDecimalDigit c = true) ∧
    isBlank b = true

/-- The line has the form of a head, and its digits are ASCII digits that make `n`, which fits in 64
bits. -/
def Heads (n : Nat) (line : List Char) : Prop :=
  ∃ digits, HeadForm digits line ∧ (∀ c ∈ digits, c.isDigit = true) ∧
    Nat.ofDigitChars 10 digits 0 = n ∧ n ≤ maxWord

/-- The run of digits is a longest one: neither what is before it nor what follows could belong to
it. -/
theorem HeadForm.digits {ds line : List Char} (h : HeadForm ds line) :
    headDigits line = ds ∧
      ((line.dropWhile isBlank).dropWhile isDecimalDigit).head?.any isBlank = true := by
  obtain ⟨blanks, b, rest, rfl, hblanks, hne, hdigits, hb⟩ := h
  obtain ⟨d, ds', rfl⟩ := List.exists_cons_of_ne_nil hne
  have hd : ¬ isBlank d = true := fun hd => by
    have := hdigits d List.mem_cons_self
    rw [isDecimalDigit_of_isBlank hd] at this
    cases this
  have hb' : ¬ isDecimalDigit b = true := by simp [isDecimalDigit_of_isBlank hb]
  have hbody : (blanks ++ (d :: ds' ++ b :: rest)).dropWhile isBlank = d :: ds' ++ b :: rest := by
    rw [List.dropWhile_append_of_pos hblanks, List.cons_append, List.dropWhile_cons_of_neg hd]
  constructor
  · rw [headDigits, hbody, List.takeWhile_append_of_pos hdigits, List.takeWhile_cons_of_neg hb',
      List.append_nil]
  · rw [hbody, List.dropWhile_append_of_pos hdigits, List.dropWhile_cons_of_neg hb']
    exact hb

theorem headForm_headDigits {line : List Char} (hne : headDigits line ≠ [])
    (hb : ((line.dropWhile isBlank).dropWhile isDecimalDigit).head?.any isBlank = true) :
    HeadForm (headDigits line) line := by
  obtain ⟨b, hh, hb⟩ := (Option.any_eq_true _ _).mp hb
  obtain ⟨rest, hrest⟩ := List.head?_eq_some_iff.mp hh
  refine ⟨line.takeWhile isBlank, b, rest, ?_, List.all_eq_true.mp List.all_takeWhile, hne,
    List.all_eq_true.mp List.all_takeWhile, hb⟩
  rw [← hrest, headDigits, List.takeWhile_append_dropWhile, List.takeWhile_append_dropWhile]

/-- Heads are recognized by their grammar. -/
theorem headNumber?_eq_some_iff {n : Nat} {line : List Char} :
    headNumber? line = some n ↔ Heads n line := by
  have hread : ∀ {ds : List Char}, (∀ c ∈ ds, isDecimalDigit c = true) → ds ≠ [] →
      ((readNumeral ds).toOption = some n ↔
        (∀ c ∈ ds, c.isDigit = true) ∧ Nat.ofDigitChars 10 ds 0 = n ∧ n ≤ maxWord) := by
    intro ds hds hne
    obtain ⟨d, ds, rfl⟩ := List.exists_cons_of_ne_nil hne
    have hd : d ≠ '+' := by
      rintro rfl
      exact absurd (hds '+' List.mem_cons_self) (by decide)
    rw [readNumeral_of_ne hd, ← digitsFrom_eq_ok_iff (Nat.zero_le _)]
    cases digitsFrom 0 (d :: ds) <;> simp [Except.toOption]
  rw [headNumber?_eq]
  constructor
  · intro h
    split_ifs at h with hb
    have hne : headDigits line ≠ [] := by
      intro hnil
      rw [hnil] at h
      cases h
    have hform := headForm_headDigits hne hb
    exact ⟨_, hform, (hread (List.all_eq_true.mp List.all_takeWhile) hne).mp h⟩
  · rintro ⟨ds, hform, hvalue⟩
    obtain ⟨hds, hb⟩ := hform.digits
    obtain ⟨-, -, -, -, -, hne, hdigits, -⟩ := hform
    rw [if_pos hb, hds]
    exact (hread hdigits hne).mpr hvalue

/-- Line `i` is a head for source line `n`. -/
def HeadAt (ls : List (List Char)) (i n : Nat) : Prop := ∃ l, ls[i]? = some l ∧ Heads n l

theorem headAt_iff {ls : List (List Char)} {i n : Nat} :
    HeadAt ls i n ↔ ls[i]?.bind headNumber? = some n := by
  rw [Option.bind_eq_some_iff]
  exact exists_congr fun l => and_congr_right fun _ => headNumber?_eq_some_iff.symm

theorem HeadAt.lt_length {ls : List (List Char)} {i n : Nat} (h : HeadAt ls i n) :
    i < ls.length := by
  obtain ⟨l, hl, -⟩ := h
  exact (List.getElem?_eq_some_iff.mp hl).1

end Listing

namespace Index

open Listing

/-! ### Tilings -/

/-- Blocks in display order: one for each head, which it starts with, up to the line before the next
head or the last line. Together they are the lines from the first head on. -/
structure Tiling (ls : List (List Char)) (bs : List Block) : Prop where
  heads : ∀ i n, HeadAt ls i n ↔ ∃ b ∈ bs, b.first = i ∧ b.sourceLine = n
  filled : ∀ b ∈ bs, b.first ≤ b.last
  disjoint : bs.Pairwise fun a b => a.last < b.first
  stop : ∀ b ∈ bs, IsLeast {j | b.first < j ∧ (j = ls.length ∨ ∃ n, HeadAt ls j n)} (b.last + 1)
  covers : ∀ d, (∃ b ∈ bs, b.contains d = true) ↔
    d < ls.length ∧ ∃ i ≤ d, ∃ n, HeadAt ls i n

/-- `m` has the elements of `l` in the order of their keys. Those of one key stay in order. -/
structure StablySorted {α : Type} (key : α → Nat) (l m : List α) : Prop where
  perm : m.Perm l
  ascending : m.Pairwise fun a b => key a ≤ key b
  stable : ∀ n, m.filter (key · = n) = l.filter (key · = n)

theorem stablySorted_byLine (bs : List Block) : StablySorted Block.sourceLine bs (byLine bs) where
  perm := List.mergeSort_perm bs _
  ascending := pairwise_byLine_le bs
  stable := filter_mergeSort_key Block.sourceLine bs

/-- The blocks of a listing by their heads. -/
theorem mem_displayed_iff {cs : List Char} {b : Block} :
    b ∈ displayed cs ↔ HeadAt (Text.lines cs) b.first b.sourceLine ∧
      b.last = b.first +
        ((Text.lines cs).drop (b.first + 1)).findIdx fun l => (headNumber? l).isSome := by
  have ht := tile_heads 0 (Text.lines cs)
  simp only [Nat.zero_add] at ht
  rw [displayed, ht, List.mem_filterMap]
  constructor
  · rintro ⟨i, -, hi⟩
    obtain ⟨n, hn, rfl⟩ := Option.map_eq_some_iff.mp hi
    exact ⟨headAt_iff.mpr hn, rfl⟩
  · rintro ⟨hh, hl⟩
    refine ⟨b.first, List.mem_range.mpr hh.lt_length, Option.map_eq_some_iff.mpr
      ⟨b.sourceLine, headAt_iff.mp hh, ?_⟩⟩
    rw [← hl]

theorem exists_displayed_of_headAt {cs : List Char} {i n : Nat}
    (h : HeadAt (Text.lines cs) i n) : ∃ b ∈ displayed cs, b.first = i ∧ b.sourceLine = n :=
  ⟨⟨n, i, i + ((Text.lines cs).drop (i + 1)).findIdx fun l => (headNumber? l).isSome⟩,
    mem_displayed_iff.mpr ⟨h, rfl⟩, rfl, rfl⟩

/-- After a line, the next head or the end of the listing is where the search for it ends. -/
private theorem isLeast_nextHead (ls : List (List Char)) {i : Nat} (hi : i < ls.length) :
    IsLeast {j | i < j ∧ (j = ls.length ∨ ∃ n, HeadAt ls j n)}
      (i + ((ls.drop (i + 1)).findIdx fun l => (headNumber? l).isSome) + 1) := by
  let k := (ls.drop (i + 1)).findIdx fun l => (headNumber? l).isSome
  have hk : k ≤ ls.length - (i + 1) := by
    have hle : k ≤ (ls.drop (i + 1)).length := List.findIdx_le_length
    rwa [List.length_drop] at hle
  have hget : ∀ j, (ls.drop (i + 1))[j]? = ls[i + j + 1]? := fun j => by
    rw [List.getElem?_drop]
    congr 1
    omega
  constructor
  · refine ⟨by omega, ?_⟩
    rcases Nat.lt_or_eq_of_le hk with hlt | heq
    · right
      have hlt' : k < (ls.drop (i + 1)).length := by rwa [List.length_drop]
      have hhead := List.findIdx_getElem (w := hlt')
      obtain ⟨n, hn⟩ := Option.isSome_iff_exists.mp hhead
      refine ⟨n, headAt_iff.mpr ?_⟩
      rw [← hget, List.getElem?_eq_getElem hlt', Option.bind_some, hn]
    · left
      omega
  · rintro j ⟨hij, hj⟩
    by_contra hlt
    have hjk : j - (i + 1) < k := by omega
    have hnone := List.not_of_lt_findIdx hjk
    rcases hj with rfl | ⟨n, hn⟩
    · omega
    · have hbind := headAt_iff.mp hn
      have hj' : i + (j - (i + 1)) + 1 = j := by omega
      rw [← hj', ← hget, List.getElem?_eq_getElem (by rw [List.length_drop]; omega),
        Option.bind_some] at hbind
      rw [hbind] at hnone
      cases hnone

theorem tiling_displayed (cs : List Char) : Tiling (Text.lines cs) (displayed cs) where
  heads := by
    intro i n
    constructor
    · exact exists_displayed_of_headAt
    · rintro ⟨b, hb, rfl, rfl⟩
      exact (mem_displayed_iff.mp hb).1
  filled := fun b hb => (bounds_of_mem_displayed hb).1
  disjoint := pairwise_displayed cs
  stop := by
    intro b hb
    obtain ⟨hh, hl⟩ := mem_displayed_iff.mp hb
    rw [hl]
    exact isLeast_nextHead _ hh.lt_length
  covers := by
    intro d
    constructor
    · rintro ⟨b, hb, hd⟩
      obtain ⟨hf, hl⟩ := Block.contains_iff.mp hd
      exact ⟨hl.trans_lt (bounds_of_mem_displayed hb).2, b.first, hf, b.sourceLine,
        (mem_displayed_iff.mp hb).1⟩
    · rintro ⟨hd, i, hi, n, hn⟩
      -- some block starts by the line, and the last one that does contains it
      obtain ⟨c, hc, rfl, -⟩ := exists_displayed_of_headAt hn
      have hm : c ∈ (displayed cs).filter (·.first ≤ d) :=
        List.mem_filter.mpr ⟨hc, decide_eq_true hi⟩
      obtain ⟨b, hb⟩ :=
        Option.isSome_iff_exists.mp (List.getLast?_isSome.mpr (List.ne_nil_of_mem hm))
      exact ⟨b, (List.mem_filter.mp (List.mem_of_getLast? hb)).1, contains_of_getLast? hb hd⟩

/-- The blocks of a listing tile its lines from the first head on, one block for each head of the
grammar, and are kept by source line. -/
theorem blocks_ofText {cs : List Char} (hm : isUnmapped cs = false) :
    ∃ bs, Tiling (Text.lines cs) bs ∧
      StablySorted Block.sourceLine bs (ofText cs).blocks.toList ∧
      (ofText cs).lineCount = (Text.lines cs).length := by
  rw [ofText_of_mapped hm]
  exact ⟨displayed cs, tiling_displayed cs, stablySorted_byLine _, rfl⟩

/-- Neither a number too large, nor digits of another script, nor a bare number at the end of the
text ends the block before it. -/
theorem blocks_ofText_interleaved :
    let cs := "main:\r\n 7 A\n18446744073709551616 B\n\u0663 C\n\u00A03\u00A0D\n7\tE\n9".toList
    (isUnmapped cs = false ∧ (ofText cs).blocks.toList = [⟨3, 4, 4⟩, ⟨7, 1, 3⟩, ⟨7, 5, 6⟩]) ∧
      ∃ bs, Tiling (Text.lines cs) bs ∧
        StablySorted Block.sourceLine bs (ofText cs).blocks.toList ∧
        (ofText cs).lineCount = (Text.lines cs).length := by
  intro cs
  have hm : isUnmapped cs = false := by decide
  have hd : displayed cs = [⟨7, 1, 3⟩, ⟨3, 4, 4⟩, ⟨7, 5, 6⟩] := by decide
  have hb : (ofText cs).blocks.toList = [⟨3, 4, 4⟩, ⟨7, 1, 3⟩, ⟨7, 5, 6⟩] := by
    rw [ofText_of_mapped hm, hd]
    simp [ofBlocks, List.mergeSort, List.MergeSort.Internal.splitInTwo]
  exact ⟨⟨hm, hb⟩, blocks_ofText hm⟩

end Index

end ListingPanel
