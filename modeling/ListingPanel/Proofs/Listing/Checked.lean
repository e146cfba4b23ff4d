import ListingPanel.Proofs.Listing.Representation
import ListingPanel.Proofs.Listing.Scan
import ListingPanel.Proofs.Panel.Words

/-!
Indexing and querying a listing with checks: there is no result where a difference would be
negative, where a sum is no word, or where a place is asked for that a list or an array does not
have. Whatever the text and the query, no check fails.
-/
namespace ListingPanel

/-! ### Places -/

/-- The elements from `lo` up to `hi`, if there are so many. -/
def slice? {α : Type} (a : Array α) (lo hi : Nat) : Option (List α) :=
  if lo ≤ hi ∧ hi ≤ a.size then some (a.extract lo hi).toList else none

/-- Writes to a place that there is. -/
def put? {α : Type} (a : Array α) (i : Nat) (x : α) : Option (Array α) :=
  if h : i < a.size then some (a.set i x) else none

/-- The partition point of a test that has a result at every index, whichever of them a search may
come to. -/
def partitionPoint? (n : Nat) (p : Nat → Option Bool) : Option Nat :=
  if ∀ i < n, (p i).isSome then some (partitionPoint n fun i => (p i).getD false) else none

theorem drop_toList_set {α : Type} {a : Array α} {i : Nat} (h : i < a.size) (x : α) :
    (a.set i x).toList.drop i = x :: a.toList.drop (i + 1) := by
  have hi : i < (a.toList.set i x).length := by simpa using h
  rw [Array.toList_set, List.drop_eq_getElem_cons hi, List.getElem_set_self,
    List.drop_set_of_lt (Nat.lt_succ_self i)]

namespace Listing

open Text

/-- What a head takes of a line, and the digits in it. -/
def groups? (line : List Char) : Option (Array (List Char)) :=
  let blanks := line.takeWhile isBlank
  let digits := headDigits line
  let blanks' := ((line.dropWhile isBlank).dropWhile isDecimalDigit).takeWhile isBlank
  if digits = [] ∨ blanks' = [] then none else some #[blanks ++ digits ++ blanks', digits]

/-- The number of a line's head, if it is a head, by the first group in it. -/
def readHead? (line : List Char) : Option (Option Nat) :=
  match groups? line with
  | none => some none
  | some groups => groups[1]?.map fun digits => (readNumeral digits).toOption

theorem readHead?_eq (line : List Char) : readHead? line = some (headNumber? line) := by
  rw [headNumber?_eq]
  unfold readHead? groups?
  dsimp only
  cases (line.dropWhile isBlank).dropWhile isDecimalDigit with
  | nil => simp
  | cons c r =>
    cases hc : isBlank c with
    | false => simp [hc]
    | true =>
      -- no number is read where there are no digits
      cases hd : headDigits line with
      | nil => simp [hc, readNumeral, Except.toOption]
      | cons d ds => simp [hc]

end Listing

namespace Index

/-! ### Making an index -/

def heads? (start : Nat) : List (List Char) → Option (List (Nat × Nat))
  | [] => some []
  | l :: ls => do
    let number ← Listing.readHead? l
    let rest ← heads? (start + 1) ls
    some (match number with
      | some n => (n, start) :: rest
      | none => rest)

/-- The last line of a block, which is before the next head or the last one of the listing. The
latter is counted in either case. -/
def last? (lineCount : Nat) (next : Option (Nat × Nat)) : Option Nat := do
  let final ← minus? lineCount 1
  match next with
  | some (_, j) => minus? j 1
  | none => some final

def tile? (lineCount : Nat) : List (Nat × Nat) → Option (List Block)
  | [] => some []
  | (n, i) :: hs => do
    let last ← last? lineCount hs.head?
    some (⟨n, i, last⟩ :: (← tile? lineCount hs))

/-- The closest source line after that of block `i`, if the closest after that of the next block is
`greater`. -/
def closest? (blocks : Array Block) (i : Nat) (greater : Option Nat) : Option (Option Nat) :=
  match blocks[i + 1]? with
  | some b => blocks[i]?.map fun a =>
      if a.sourceLine < b.sourceLine then some b.sourceLine else greater
  | none => some greater

/-- The line before a source line, if there is that source line. -/
def lineBefore? : Option Nat → Option (Option Nat)
  | some n => (minus? n 1).map some
  | none => some none

/-- Fills in the ends of coverage from block `i - 1` back to the first. -/
def coverageEndsFrom? (blocks : Array Block) :
    Nat → Option Nat → Array (Option Nat) → Option (Array (Option Nat))
  | 0, _, ends => some ends
  | i + 1, greater, ends => do
    let greater ← closest? blocks i greater
    let e ← lineBefore? greater
    coverageEndsFrom? blocks i greater (← put? ends i e)

/-- Positions sorted by the display lines that the blocks at these positions start at. -/
def byDisplay? (blocks : Array Block) : Option (Array Nat) := do
  let starts ← (List.range blocks.size).mapM fun i => blocks[i]?.map fun b => (b.first, i)
  some ((starts.mergeSort fun a b => a.1 ≤ b.1).map (·.2)).toArray

def ofBlocks? (lineCount : Nat) (displayed : List Block) : Option Index := do
  let blocks := (displayed.mergeSort fun a b => a.sourceLine ≤ b.sourceLine).toArray
  let coverageEnd ← coverageEndsFrom? blocks blocks.size none (Array.replicate blocks.size none)
  let byDisplay ← byDisplay? blocks
  some { blocks, coverageEnd, byDisplay, lineCount }

def ofText? (cs : List Char) : Option Index :=
  if isUnmapped cs then some empty
  else do
    let lines := Text.lines cs
    ofBlocks? lines.length (← tile? lines.length (← heads? 0 lines))

/-! ### Asking an index -/

section Queries
variable (ix : Index)

def blocksFor? (r : LineRange) : Option (List Block) :=
  if ix.upper r ≤ ix.lower r then some [] else slice? ix.blocks (ix.lower r) (ix.upper r)

def shownBy? (d k : Nat) : Option Bool := do
  let i ← ix.byDisplay[k]?
  let b ← ix.blocks[i]?
  some (decide (b.first ≤ d))

/-- The source line of a display line, if it has one. That there is no block before the partition
point is no fault. -/
def sourceLineAt? (d : Nat) : Option (Option Nat) := do
  let pos ← partitionPoint? ix.byDisplay.size (ix.shownBy? d)
  match (minus? pos 1).bind fun k => ix.byDisplay[k]? with
  | none => some none
  | some i => ix.blocks[i]?.map fun b => if b.contains d then some b.sourceLine else none

/-- The coverage of block `i`, if there is that block. -/
def coverage? (i : Nat) : Option (Option (Nat × Option Nat)) :=
  match ix.blocks[i]? with
  | none => some none
  | some b => ix.coverageEnd[i]?.map fun e => some (b.sourceLine, e)

end Queries

/-! ### Checks that hold -/

theorem heads?_eq (start : Nat) (ls : List (List Char)) :
    heads? start ls = some (heads start ls) := by
  induction ls generalizing start with
  | nil => rfl
  | cons l ls ih =>
    rw [heads?, Listing.readHead?_eq, ih]
    cases hl : Listing.headNumber? l <;> simp [heads, hl]

theorem last?_eq {n : Nat} (hn : 1 ≤ n) {next : Option (Nat × Nat)}
    (hnext : ∀ h, next = some h → 1 ≤ h.2) :
    last? n next = some ((next.map Prod.snd).getD n - 1) := by
  rw [last?, minus?_eq hn]
  cases next with
  | none => rfl
  | some h => exact minus?_eq (hnext h rfl)

/-- A head is on a line, and another one before it puts it on a line after the first. -/
theorem tile?_eq {n : Nat} {hs : List (Nat × Nat)} (hp : hs.Pairwise fun g h => g.2 < h.2)
    (hn : ∀ h ∈ hs, h.2 < n) : tile? n hs = some (tile n hs) := by
  induction hs with
  | nil => rfl
  | cons g hs ih =>
    obtain ⟨m, i⟩ := g
    obtain ⟨hi, hr⟩ := List.pairwise_cons.mp hp
    have hin : i < n := hn (m, i) List.mem_cons_self
    have hnext : ∀ h, hs.head? = some h → 1 ≤ h.2 := fun h hh => by
      have hih : i < h.2 := hi h (List.mem_of_head? hh)
      omega
    have hlast : last? n hs.head? = some ((hs.head?.map Prod.snd).getD n - 1) :=
      last?_eq (by omega) hnext
    rw [tile?, hlast, ih hr fun h hm => hn h (List.mem_cons_of_mem _ hm), tile_cons]
    rfl

/-- A source line that is greater than another one is not the first of all. -/
theorem closest?_eq {bs : List Block} {i : Nat} {greater : Option Nat} (hi : i < bs.length)
    (hgreater : (coverageEnds (bs.drop (i + 1))).head?.join = greater.map (· - 1))
    (hpos : ∀ n, greater = some n → 1 ≤ n) :
    ∃ closest, closest? bs.toArray i greater = some closest ∧ (∀ n, closest = some n → 1 ≤ n) ∧
      coverageEnds (bs.drop i) = closest.map (· - 1) :: coverageEnds (bs.drop (i + 1)) := by
  have hget : bs[i]? = some bs[i] := List.getElem?_eq_getElem hi
  have hnext : bs[i + 1]? = (bs.drop (i + 1)).head? := List.head?_drop.symm
  have hdrop : bs.drop i = bs[i] :: bs.drop (i + 1) := List.drop_eq_getElem_cons hi
  unfold closest?
  rw [List.getElem?_toArray, List.getElem?_toArray, hget, hnext, hdrop]
  cases hr : bs.drop (i + 1) with
  | nil =>
    rw [hr] at hgreater
    have hnone : greater = none := Option.map_eq_none_iff.mp hgreater.symm
    exact ⟨greater, rfl, hpos, by rw [hnone]; rfl⟩
  | cons b r =>
    rw [hr] at hgreater
    refine ⟨if bs[i].sourceLine < b.sourceLine then some b.sourceLine else greater, rfl,
      fun n hn => ?_, ?_⟩
    · split_ifs at hn with hlt
      · cases hn
        omega
      · exact hpos n hn
    · rw [coverageEnds, hgreater]
      split_ifs <;> rfl

theorem lineBefore?_eq {n : Option Nat} (h : ∀ m, n = some m → 1 ≤ m) :
    lineBefore? n = some (n.map (· - 1)) := by
  cases n with
  | none => rfl
  | some m =>
    rw [lineBefore?, minus?_eq (h m rfl)]
    rfl

/-- On the number of ends that are missing. Those from block `i` on are there, and `greater` is what
the first of them comes from. -/
theorem coverageEndsFrom?_eq {bs : List Block} {i : Nat} {greater : Option Nat}
    {ends : Array (Option Nat)} (hi : i ≤ bs.length) (hsize : ends.size = bs.length)
    (hends : ends.toList.drop i = coverageEnds (bs.drop i))
    (hgreater : (coverageEnds (bs.drop i)).head?.join = greater.map (· - 1))
    (hpos : ∀ n, greater = some n → 1 ≤ n) :
    coverageEndsFrom? bs.toArray i greater ends = some (coverageEnds bs).toArray := by
  induction i generalizing greater ends with
  | zero =>
    rw [List.drop_zero, List.drop_zero] at hends
    rw [coverageEndsFrom?, ← hends]
  | succ i ih =>
    obtain ⟨closest, hclosest, hpos', hcons⟩ := closest?_eq hi hgreater hpos
    have hput : put? ends i (closest.map (· - 1)) =
        some (ends.set i (closest.map (· - 1)) (by omega)) := dif_pos _
    rw [coverageEndsFrom?, hclosest, Option.bind_eq_bind, Option.bind_some, lineBefore?_eq hpos',
      Option.bind_some, hput]
    refine ih (by omega) (by simpa using hsize) ?_ ?_ hpos'
    · rw [drop_toList_set, hends, hcons]
    · rw [hcons, List.head?_cons, Option.join_some]

theorem coverageEndsFrom?_size (bs : List Block) :
    coverageEndsFrom? bs.toArray bs.toArray.size none (Array.replicate bs.toArray.size none) =
      some (coverageEnds bs).toArray := by
  have hdrop : bs.drop bs.length = [] := List.drop_length
  rw [List.size_toArray]
  apply coverageEndsFrom?_eq (Nat.le_refl _) Array.size_replicate
  · rw [hdrop, Array.toList_replicate, List.drop_eq_nil_of_le (by simp)]
    rfl
  · rw [hdrop]
    rfl
  · intro n hn
    cases hn

theorem byDisplay?_eq (n : Nat) (bs : List Block) :
    byDisplay? (ofBlocks n bs).blocks = some (ofBlocks n bs).byDisplay := by
  let blocks := (ofBlocks n bs).blocks
  let start (i : Nat) : Nat := (blocks[i]?.map (·.first)).getD 0
  let keyed (i : Nat) : Nat × Nat := (start i, i)
  have hstarts : (List.range blocks.size).mapM (fun i => blocks[i]?.map fun b => (b.first, i)) =
      some ((List.range blocks.size).map keyed) := by
    refine mapM_eq_some fun i hi => ?_
    have hlt : i < blocks.size := List.mem_range.mp hi
    simp only [keyed, start, Array.getElem?_eq_getElem hlt, Option.map_some, Option.getD_some]
  have hsort : ((List.range blocks.size).map keyed).mergeSort (fun a b => a.1 ≤ b.1) =
      ((List.range blocks.size).mergeSort fun i j => start i ≤ start j).map keyed := by
    symm
    apply List.map_mergeSort
    intro i _ j _
    rfl
  have hid : (fun x : Nat × Nat => x.2) ∘ keyed = id := rfl
  change ((List.range blocks.size).mapM fun i => blocks[i]?.map fun b => (b.first, i)).bind _ = _
  rw [hstarts, Option.bind_some, hsort, List.map_map, hid, List.map_id]
  rfl

theorem ofBlocks?_eq (n : Nat) (bs : List Block) : ofBlocks? n bs = some (ofBlocks n bs) := by
  have hends := coverageEndsFrom?_size (byLine bs)
  have hdisplay := byDisplay?_eq n bs
  change (coverageEndsFrom? (byLine bs).toArray (byLine bs).toArray.size none
    (Array.replicate (byLine bs).toArray.size none)).bind (fun coverageEnd =>
      (byDisplay? (ofBlocks n bs).blocks).bind fun byDisplay =>
        some (Index.mk (byLine bs).toArray coverageEnd byDisplay n)) = _
  rw [hends, Option.bind_some, hdisplay, Option.bind_some]
  rfl

theorem ofText?_eq (cs : List Char) : ofText? cs = some (ofText cs) := by
  cases hm : isUnmapped cs with
  | true => simp [ofText?, ofText, hm]
  | false =>
    have htile := tile?_eq (pairwise_heads 0 (Text.lines cs)) (n := (Text.lines cs).length)
      fun h hh => by simpa using (mem_heads hh).2
    simp [ofText?, hm, heads?_eq, htile, ofBlocks?_eq, ofText_of_mapped hm, displayed]

theorem blocksFor?_eq (ix : Index) (r : LineRange) : ix.blocksFor? r = some (ix.blocksFor r) := by
  rw [blocksFor_eq]
  unfold blocksFor?
  split_ifs with h
  · rw [Array.extract_empty_of_stop_le_start h]
  · exact if_pos ⟨by omega, WellFormed.upper_le r⟩

namespace WellFormed

variable {ix : Index} (h : ix.WellFormed)
include h

theorem coverage?_eq (i : Nat) : ix.coverage? i = some (ix.coverage i) := by
  unfold coverage? coverage
  cases hb : ix.blocks[i]? with
  | none => rfl
  | some b =>
    have hi : i < ix.coverageEnd.size :=
      h.size_coverageEnd ▸ (Array.getElem?_eq_some_iff.mp hb).1
    simp [Array.getElem?_eq_getElem hi]

theorem getElem?_blocks {k i : Nat} (hi : ix.byDisplay[k]? = some i) :
    ∃ b, ix.blocks[i]? = some b := by
  have hmem : i ∈ ix.byDisplay.toList := by
    rw [← Array.getElem?_toList] at hi
    exact List.mem_of_getElem? hi
  exact ⟨_, Array.getElem?_eq_getElem (h.lt_size_of_mem_byDisplay hmem)⟩

theorem partitionPoint?_shownBy? (d : Nat) :
    partitionPoint? ix.byDisplay.size (ix.shownBy? d) =
      some (partitionPoint ix.byDisplay.size (ix.shownBy d)) := by
  have htest : (fun k => (ix.shownBy? d k).getD false) = ix.shownBy d := by
    funext k
    unfold shownBy? shownBy
    cases ix.byDisplay[k]? with
    | none => rfl
    | some i => cases hb : ix.blocks[i]? <;> simp [hb]
  have hsome : ∀ k < ix.byDisplay.size, (ix.shownBy? d k).isSome := fun k hk => by
    obtain ⟨b, hb⟩ := h.getElem?_blocks (Array.getElem?_eq_getElem hk)
    simp [shownBy?, Array.getElem?_eq_getElem hk, hb]
  rw [partitionPoint?, if_pos hsome, htest]

theorem sourceLineAt?_eq (d : Nat) : ix.sourceLineAt? d = some (ix.sourceLineAt d) := by
  rw [sourceLineAt_eq, sourceLineAt?, h.partitionPoint?_shownBy? d]
  simp only [Option.bind_eq_bind, Option.bind_some]
  split_ifs with h0
  · rw [h0]
    rfl
  · rw [minus?_eq (by omega), Option.bind_some]
    cases hi : ix.byDisplay[partitionPoint ix.byDisplay.size (ix.shownBy d) - 1]? with
    | none => rfl
    | some i =>
      obtain ⟨b, hb⟩ := h.getElem?_blocks hi
      simp [hb]

end WellFormed

/-! ### Blocks in words -/

theorem sourceLine_le_maxWord {cs : List Char} {b : Block} (hb : b ∈ displayed cs) :
    b.sourceLine ≤ Text.maxWord := by
  obtain ⟨⟨l, -, digits, -, -, -, hle⟩, -⟩ := mem_displayed_iff.mp hb
  exact hle

theorem lt_lineCount_of_mem_blocks {cs : List Char} {b : Block}
    (hb : b ∈ (ofText cs).blocks.toList) : b.last < (ofText cs).lineCount := by
  have hlast := (bounds_of_mem_displayed (mem_displayed_of_mem_blocks hb)).2
  rw [lineCount_ofText]
  split_ifs with hm
  · rw [ofText_of_unmapped hm] at hb
    cases hb
  · exact hlast

/-- No check fails while a text is indexed, nor in any query to its index. In texts whose characters
a word can count, the blocks are made of words, and so is what is worked out to reveal them. -/
theorem checked_ofText (cs : List Char) :
    ofText? cs = some (ofText cs) ∧
    (∀ r, (ofText cs).blocksFor? r = some ((ofText cs).blocksFor r)) ∧
    (∀ d, (ofText cs).sourceLineAt? d = some ((ofText cs).sourceLineAt d)) ∧
    (∀ i, (ofText cs).coverage? i = some ((ofText cs).coverage i)) ∧
    ∀ b ∈ (ofText cs).blocks.toList, b.sourceLine ≤ Text.maxWord ∧ b.first ≤ b.last ∧
      b.last < (ofText cs).lineCount ∧
      (cs.length ≤ Text.maxWord → b.last < Text.maxWord ∧ b.lengthInWords? = some b.length ∧
        ∀ v : Viewport, v.revealTargetInWords? b = some (v.revealTarget b)) := by
  have hix : (ofText cs).WellFormed := .ofText cs
  refine ⟨ofText?_eq cs, (ofText cs).blocksFor?_eq, hix.sourceLineAt?_eq, hix.coverage?_eq,
    fun b hb => ?_⟩
  have hd : b ∈ displayed cs := mem_displayed_of_mem_blocks hb
  obtain ⟨hle, hlt⟩ := bounds_of_mem_displayed hd
  refine ⟨sourceLine_le_maxWord hd, hle, lt_lineCount_of_mem_blocks hb, fun hw => ?_⟩
  have hlines : (Text.lines cs).length ≤ cs.length := Text.length_lines_le cs
  have hlast : b.last < Text.maxWord := by omega
  exact ⟨hlast, Block.lengthInWords?_eq hle hlast, fun v => v.revealTargetInWords?_eq hle hlast⟩

/-- Heads from the first line on, for the first source line that there can be, twice, and for the
last one. -/
theorem checked_ofText_extremes :
    let cs := "18446744073709551615 A\n0 B\n0 C\n".toList
    ofText? cs = some (ofText cs) ∧ (ofText cs).sourceLineAt? 0 = some (some Text.maxWord) ∧
      ⟨Text.maxWord, 0, 0⟩ ∈ (ofText cs).blocks.toList ∧
      Block.lengthInWords? ⟨Text.maxWord, 0, 0⟩ = some 1 := by
  intro cs
  have hm : isUnmapped cs = false := by decide
  have hd : displayed cs = [⟨Text.maxWord, 0, 0⟩, ⟨0, 1, 1⟩, ⟨0, 2, 2⟩] := by decide
  have hb : ⟨Text.maxWord, 0, 0⟩ ∈ (ofText cs).blocks.toList := by
    rw [ofText_of_mapped hm]
    exact mem_byLine.mpr (by rw [hd]; exact List.mem_cons_self)
  have hline : (ofText cs).sourceLineAt 0 = some Text.maxWord :=
    (sourceLineAt_ofText hm 0).trans (by decide)
  obtain ⟨htext, -, hat, -, hblocks⟩ := checked_ofText cs
  obtain ⟨-, -, -, hwords⟩ := hblocks _ hb
  exact ⟨htext, (hat 0).trans (congrArg some hline), hb, (hwords (by decide)).2.1⟩

end Index

end ListingPanel
