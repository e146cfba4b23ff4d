import ListingPanel.Diagnostic
import ListingPanel.Listing.Block
import ListingPanel.Listing.Head
import ListingPanel.Search
import ListingPanel.Selection
import ListingPanel.Text.Lines

/-!
The index of a listing. It answers which blocks belong to selected source lines, and which source
line a display line shows. A block covers its own source line and those after it, up to the next
source line that has a block.
-/
namespace ListingPanel

/-- Blocks by source line, the last source line that each covers (none: no end), and the blocks'
positions by display line. -/
structure Index where
  blocks : Array Block
  coverageEnd : Array (Option Nat)
  byDisplay : Array Nat
  lineCount : Nat
  deriving DecidableEq, Repr

namespace Index

def empty : Index := ⟨#[], #[], #[], 0⟩

/-- The heads of a listing as pairs of source line and display line, the first display line being
`start`. -/
def heads (start : Nat) : List (List Char) → List (Nat × Nat)
  | [] => []
  | l :: ls =>
    match Listing.headNumber? l with
    | some n => (n, start) :: heads (start + 1) ls
    | none => heads (start + 1) ls

/-- Blocks in display order: each ends before the next head, the last one at the last line. -/
def tile (lineCount : Nat) : List (Nat × Nat) → List Block
  | [] => []
  | [(n, i)] => [⟨n, i, lineCount - 1⟩]
  | (n, i) :: (m, j) :: r => ⟨n, i, j - 1⟩ :: tile lineCount ((m, j) :: r)

/-- For blocks by source line, the line before the closest greater source line. -/
def coverageEnds : List Block → List (Option Nat)
  | [] => []
  | [_] => [none]
  | a :: b :: r =>
    let ends := coverageEnds (b :: r)
    (if a.sourceLine < b.sourceLine then some (b.sourceLine - 1) else ends.head?.join) :: ends

/-- The index of blocks given in display order. -/
def ofBlocks (lineCount : Nat) (displayed : List Block) : Index :=
  let sorted := displayed.mergeSort fun a b => a.sourceLine ≤ b.sourceLine
  let blocks := sorted.toArray
  let start (i : Nat) : Nat := (blocks[i]?.map (·.first)).getD 0
  { blocks
    coverageEnd := (coverageEnds sorted).toArray
    byDisplay := ((List.range blocks.size).mergeSort fun i j => start i ≤ start j).toArray
    lineCount }

/-- The index of a text. One that maps no source line has no lines. -/
def ofText (cs : List Char) : Index :=
  if isUnmapped cs then empty
  else
    let lines := Text.lines cs
    ofBlocks lines.length (tile lines.length (heads 0 lines))

/-- The blocks that cover a selected line, by source line, then by display line. -/
def blocksFor (ix : Index) (r : LineRange) : List Block :=
  let upper := partitionPoint ix.blocks.size fun i =>
    ix.blocks[i]?.any (·.sourceLine ≤ r.last)
  let lower := partitionPoint ix.coverageEnd.size fun i =>
    match ix.coverageEnd[i]? with
    | some (some e) => e < r.first
    | _ => false
  (ix.blocks.extract lower upper).toList

def sourceLineAt (ix : Index) (line : Nat) : Option Nat := do
  let pos := partitionPoint ix.byDisplay.size fun k =>
    (ix.byDisplay[k]?.bind fun i => ix.blocks[i]?).any (·.first ≤ line)
  if pos = 0 then none
  else
    let i ← ix.byDisplay[pos - 1]?
    let b ← ix.blocks[i]?
    if b.contains line then some b.sourceLine else none

/-- The source lines that a block covers: the first, and the last if there is one. -/
def coverage (ix : Index) (i : Nat) : Option (Nat × Option Nat) := do
  let b ← ix.blocks[i]?
  let e ← ix.coverageEnd[i]?
  some (b.sourceLine, e)

end Index

end ListingPanel
