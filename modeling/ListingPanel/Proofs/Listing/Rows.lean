import ListingPanel.Proofs.Listing.Position

/-! Printed listings. Indexing what rows are printed as gives their blocks back. -/
namespace ListingPanel.Listing
open Text

/-- A row of a listing: its text, and the source line that it names if it is a head. -/
structure Row where
  number? : Option Nat
  text : List Char
  deriving DecidableEq

namespace Row

/-- Numbers take at least four columns, and text starts two columns after them. -/
def print (r : Row) : List Char :=
  match r.number? with
  | some n => (Nat.toDigits 10 n).leftpad 4 ' ' ++ ' ' :: ' ' :: r.text
  | none => List.replicate 6 ' ' ++ r.text

/-- The number fits in 64 bits. The text starts with neither a blank nor a digit, and ends with its
line. -/
structure Plain (r : Row) : Prop where
  number_le : ∀ n ∈ r.number?, n ≤ maxWord
  start : r.text.head?.any (fun c => !isBlank c && !c.isDigit) = true
  lineFeed : '\n' ∉ r.text
  carriageReturn : r.text.getLast? ≠ some '\r'

instance : DecidablePred Plain := fun r =>
  decidable_of_iff ((∀ n ∈ r.number?, n ≤ maxWord) ∧
      r.text.head?.any (fun c => !isBlank c && !c.isDigit) = true ∧ '\n' ∉ r.text ∧
      r.text.getLast? ≠ some '\r')
    ⟨fun ⟨hn, hs, hl, hr⟩ => ⟨hn, hs, hl, hr⟩, fun ⟨hn, hs, hl, hr⟩ => ⟨hn, hs, hl, hr⟩⟩

end Row

def print (rows : List Row) : List Char := rows.flatMap fun r => r.print ++ ['\n']

/-- The next head after row `i`, or the number of rows. -/
def nextHead (rows : List Row) (i : Nat) : Nat :=
  i + 1 + (rows.drop (i + 1)).findIdx (·.number?.isSome)

/-- The blocks of rows: each head with the rows up to the next head. -/
def blocks (rows : List Row) : List Block :=
  (List.range rows.length).filterMap fun i =>
    (rows[i]?.bind Row.number?).map fun n => ⟨n, i, nextHead rows i - 1⟩

/-! ### Rows as lines -/

theorem headNumber?_append {p : List Char} (hp : ∀ c ∈ p, isBlank c = true) (l : List Char) :
    headNumber? (p ++ l) = headNumber? l := by
  unfold headNumber? headDigits
  rw [List.dropWhile_append_of_pos hp]

/-- A number and a blank make a head, whatever follows. -/
theorem headNumber?_toDigits {n : Nat} (h : n ≤ maxWord) (r : List Char) :
    headNumber? (Nat.toDigits 10 n ++ ' ' :: r) = some n := by
  have hdd : ∀ c ∈ Nat.toDigits 10 n, isDecimalDigit c = true := fun c hc =>
    isDecimalDigit_of_isDigit (isDigit_of_mem_toDigits hc)
  have hb : (Nat.toDigits 10 n ++ ' ' :: r).dropWhile isBlank = Nat.toDigits 10 n ++ ' ' :: r := by
    obtain ⟨c, ds, hs, hc⟩ := toDigits_eq_cons n
    rw [hs, List.cons_append, List.dropWhile_cons_of_neg (by simp [isBlank_of_isDigit hc])]
  have hsp : ¬ isDecimalDigit ' ' = true := by decide
  rw [headNumber?_eq, headDigits, hb, List.dropWhile_append_of_pos hdd,
    List.dropWhile_cons_of_neg hsp, List.takeWhile_append_of_pos hdd,
    List.takeWhile_cons_of_neg hsp, List.append_nil, readNumeral_toDigits h]
  rfl

/-- A text that starts with neither a blank nor a digit is no head. -/
theorem headNumber?_eq_none {t : List Char}
    (h : t.head?.any (fun c => !isBlank c && !c.isDigit) = true) : headNumber? t = none := by
  cases t with
  | nil => simp at h
  | cons c s =>
    simp only [List.head?_cons, Option.any_some, Bool.and_eq_true, Bool.not_eq_true'] at h
    have hb : (c :: s).dropWhile isBlank = c :: s := List.dropWhile_cons_of_neg (by simp [h.1])
    have hn : (readNumeral ((c :: s).takeWhile isDecimalDigit)).toOption = none := by
      by_cases hd : isDecimalDigit c = true
      · -- a digit of another script, which no numeral contains
        have hp : c ≠ '+' := by
          rintro rfl
          exact absurd hd (by decide)
        rw [List.takeWhile_cons_of_pos hd]
        simp [readNumeral, digitsFrom, hp, h.2, Except.toOption]
      · rw [List.takeWhile_cons_of_neg hd]
        rfl
    rw [headNumber?_eq, headDigits, hb, hn, ite_self]

theorem headNumber?_print {r : Row} (h : r.Plain) : headNumber? r.print = r.number? := by
  have hb : ∀ k, ∀ c ∈ List.replicate k ' ', isBlank c = true := fun k c hc => by
    rw [List.eq_of_mem_replicate hc]
    decide
  unfold Row.print
  cases hn : r.number? with
  | some n =>
    dsimp only
    unfold List.leftpad
    rw [List.append_assoc, headNumber?_append (hb _), headNumber?_toDigits (h.number_le n hn)]
  | none =>
    dsimp only
    rw [headNumber?_append (hb 6), headNumber?_eq_none h.start]

/-- A row is printed on one line. -/
theorem lineFeed_notMem_print {r : Row} (h : r.Plain) : '\n' ∉ r.print := by
  unfold Row.print
  cases r.number? with
  | some n =>
    have hd : '\n' ∉ Nat.toDigits 10 n := fun hc =>
      absurd (isDigit_of_mem_toDigits hc) (by decide)
    simp [List.leftpad, hd, h.lineFeed]
  | none => simp [h.lineFeed]

theorem getLast?_print {r : Row} (h : r.Plain) : r.print.getLast? = r.text.getLast? := by
  have ht : r.text ≠ [] := by
    rintro ht
    simpa [ht] using h.start
  obtain ⟨c, hc⟩ := Option.isSome_iff_exists.mp (List.getLast?_isSome.mpr ht)
  unfold Row.print
  cases r.number? <;> simp [List.getLast?_append, List.getLast?_cons, hc]

theorem lines_print {rows : List Row} (h : ∀ r ∈ rows, r.Plain) :
    lines (print rows) = rows.map Row.print := by
  induction rows with
  | nil => rfl
  | cons r rows ih =>
    have hr : r.Plain := h r List.mem_cons_self
    have he : r.print.getLast? ≠ some '\r' := by
      rw [getLast?_print hr]
      exact hr.carriageReturn
    have hrows := ih fun s hs => h s (List.mem_cons_of_mem r hs)
    calc
      lines (print (r :: rows)) = lines (r.print ++ '\n' :: print rows) := by simp [print]
      _ = r.print :: lines (print rows) := lines_append_lineFeed (lineFeed_notMem_print hr) he _
      _ = (r :: rows).map Row.print := by rw [hrows, List.map_cons]

private theorem print_eq_cons (r : Row) :
    ∃ c s, r.print = c :: s ∧ (c = ' ' ∨ c.isDigit = true) := by
  unfold Row.print
  cases r.number? with
  | none => exact ⟨' ', _, rfl, Or.inl rfl⟩
  | some n =>
    dsimp only
    unfold List.leftpad
    cases 4 - (Nat.toDigits 10 n).length with
    | succ k => exact ⟨' ', _, rfl, Or.inl rfl⟩
    | zero =>
      obtain ⟨c, ds, hs, hc⟩ := toDigits_eq_cons n
      rw [hs]
      exact ⟨c, _, rfl, Or.inr hc⟩

/-- Rows start with a blank or a digit, so what they are printed as is no diagnostic. -/
theorem mapped_print {rows : List Row} (h : ∀ r ∈ rows, r.Plain) (hne : rows ≠ []) :
    isUnmapped (print rows) = false := by
  obtain ⟨r, rows, rfl⟩ := List.exists_cons_of_ne_nil hne
  have hs := (h r List.mem_cons_self).start
  obtain ⟨b, hb, hbb⟩ : ∃ b ∈ r.text, isBlank b = false := by
    cases ht : r.text with
    | nil => simp [ht] at hs
    | cons b t => exact ⟨b, List.mem_cons_self, by simp_all⟩
  obtain ⟨c, s, hp, hc⟩ := print_eq_cons r
  have hprint : print (r :: rows) = c :: (s ++ '\n' :: print rows) := by simp [print, hp]
  have hm : b ∈ print (r :: rows) := by
    have hr : b ∈ r.print := by unfold Row.print; cases r.number? <;> simp [hb]
    simp [print, hr]
  rw [hprint] at hm ⊢
  refine isUnmapped_cons_eq_false ?_ ?_ hm hbb
  · rintro rfl
    exact absurd hc (by decide)
  · rintro rfl
    exact absurd hc (by decide)

/-- Heads are where the rows have them. -/
theorem map_headNumber?_print {rows : List Row} (h : ∀ r ∈ rows, r.Plain) :
    (rows.map Row.print).map headNumber? = rows.map Row.number? := by
  rw [List.map_map]
  exact List.map_congr_left fun r hr => headNumber?_print (h r hr)

theorem displayed_print {rows : List Row} (h : ∀ r ∈ rows, r.Plain) :
    Index.displayed (print rows) = blocks rows := by
  have hm := map_headNumber?_print h
  have hget : ∀ i : Nat, (rows.map Row.print)[i]?.bind headNumber? = rows[i]?.bind Row.number? :=
    fun i => by
      have := congrArg (fun l : List (Option Nat) => l[i]?.bind id) hm
      simpa [Option.bind_map] using this
  have hidx : ∀ k, ((rows.map Row.print).drop k).findIdx (fun l => (headNumber? l).isSome) =
      (rows.drop k).findIdx (·.number?.isSome) := fun k => by
    have := congrArg (fun l => (l.drop k).findIdx Option.isSome) hm
    simp only [← List.map_drop, List.findIdx_map] at this
    rw [← List.map_drop, List.findIdx_map]
    exact this
  have ht := Index.tile_heads 0 (rows.map Row.print)
  rw [Nat.zero_add] at ht
  unfold Index.displayed blocks
  rw [lines_print h, ht, List.length_map]
  refine List.filterMap_congr fun i _ => ?_
  rw [hget, hidx]
  refine congrArg (Option.map · _) (funext fun n => ?_)
  simp [nextHead, Nat.add_right_comm i 1]

/-- The index of printed rows is that of the rows' blocks. -/
theorem ofText_print {rows : List Row} (h : ∀ r ∈ rows, r.Plain) :
    Index.ofText (print rows) = Index.ofBlocks rows.length (blocks rows) := by
  cases rows with
  | nil =>
    rw [Index.ofText_of_unmapped (by decide)]
    simp [blocks, Index.ofBlocks, Index.empty, Index.coverageEnds]
  | cons r rows =>
    rw [Index.ofText_of_mapped (mapped_print h (by simp)), lines_print h, List.length_map,
      displayed_print h]

/-- Indexing printed rows counts them, finds each head with the rows up to the next head as its
block, and says for each row which head was the last one by then. -/
theorem index_print {rows : List Row} (h : ∀ r ∈ rows, r.Plain) :
    (Index.ofText (print rows)).lineCount = rows.length ∧
    ((Index.ofText (print rows)).blocks.toList.mergeSort fun a b => a.first ≤ b.first) =
      blocks rows ∧
    ∀ d, (Index.ofText (print rows)).sourceLineAt d =
      if d < rows.length then ((rows.take (d + 1)).filterMap Row.number?).getLast? else none := by
  refine ⟨?_, ?_, fun d => ?_⟩
  · rw [ofText_print h]
    rfl
  · have hp : (blocks rows).Pairwise fun a b => a.first < b.first := by
      rw [← displayed_print h]
      exact Index.pairwise_displayed_first _
    rw [ofText_print h]
    exact mergeSort_key_eq Block.first (List.mergeSort_perm _ _) hp
  · cases rows with
    | nil =>
      have he : Index.ofText (print []) = Index.empty := Index.ofText_of_unmapped (by decide)
      rw [he, Index.sourceLineAt_empty]
      rfl
    | cons r rows =>
      have ht : (((r :: rows).map Row.print).take (d + 1)).filterMap headNumber? =
          ((r :: rows).take (d + 1)).filterMap Row.number? := by
        have := congrArg (fun l => (l.take (d + 1)).filterMap id) (map_headNumber?_print h)
        simp only [← List.map_take, List.filterMap_map] at this
        rw [← List.map_take, List.filterMap_map]
        exact this
      rw [Index.sourceLineAt_ofText (mapped_print h (by simp)), lines_print h, List.length_map, ht]

/-- Heads out of order, a number wider than its columns, and a text that looks like a numeral of
another script. -/
theorem index_print_unordered :
    let rows : List Row := [⟨none, "A".toList⟩, ⟨some 12345, "B 7 C".toList⟩, ⟨none, "٣ D".toList⟩,
      ⟨some 2, "E".toList⟩]
    (∀ r ∈ rows, r.Plain) ∧ (Index.ofText (print rows)).lineCount = 4 ∧
      ((Index.ofText (print rows)).blocks.toList.mergeSort fun a b => a.first ≤ b.first) =
        [⟨12345, 1, 2⟩, ⟨2, 3, 3⟩] ∧
      (Index.ofText (print rows)).sourceLineAt 2 = some 12345 := by
  intro rows
  have h : ∀ r ∈ rows, r.Plain := by decide
  obtain ⟨hc, hb, hs⟩ := index_print h
  exact ⟨h, hc, hb.trans (by decide), (hs 2).trans (by decide)⟩

end ListingPanel.Listing
