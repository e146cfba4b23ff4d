import ListingPanel.Text.Cluster
import ListingPanel.Text.Width.Table

/-!
Columns that a cluster takes on a terminal. A cluster is as wide as its characters together, except
that an emoji sequence is as wide as one emoji. Read from the right, each character adds its columns
in view of what follows it.
-/
namespace ListingPanel.Text.Width

open Cluster (within)

/-- Columns of a character on its own. -/
def ofChar (c : Char) : Nat :=
  let n := c.toNat
  if n < 0xA1 then 1
  else if n = 0x17D8 then 3
  else if within zeroRanges c then 0
  else if within wideRanges c then 2
  else 1

/-- What stands to the right of a character, as far as emoji sequences go. -/
inductive Right where
  | plain
  | skinTone
  | flag
  | flags
  | emoji
  /-- A joiner, then an emoji. -/
  | joined
  /-- A keycap, a joiner, then an emoji. -/
  | joinedKeycap
  /-- Tag letters, then tag digits, read from the end tag that a joiner and an emoji follow. -/
  | joinedTags (letters digits : Nat)
  deriving DecidableEq, Repr

/-- The selector right after a character. -/
inductive Selector where
  | none
  | emoji
  | text
  deriving DecidableEq, Repr

/-- Columns that a character adds (a skin tone takes its base's place, so none are taken back), and
what the character to its left sees. -/
abbrev Step := Nat × Right × Selector

/-- A character without regard to what follows it. -/
def alone (c : Char) : Step :=
  let n := c.toNat
  if n = 0xFE0F then (0, .plain, .emoji)
  else if n = 0xFE0E then (0, .plain, .text)
  else if 0x1F3FB ≤ n ∧ n ≤ 0x1F3FF then (2, .skinTone, .none)
  else if 0x1F1E6 ≤ n ∧ n ≤ 0x1F1FF then (1, .flag, .none)
  else if within emojiRanges c then (2, .emoji, .none)
  else (ofChar c, .plain, .none)

/-- A character followed by `right`, with no selector between them that applies to it. -/
def beside (c : Char) (right : Right) : Step :=
  let n := c.toNat
  match right with
  | .skinTone =>
    if within modifierBases c then (0, .emoji, .none)
    else if n = 0x200D then (0, .joined, .none)
    else alone c
  | .flag =>
    if 0x1F1E6 ≤ n ∧ n ≤ 0x1F1FF then (1, .flags, .none) else alone c
  | .flags =>
    if 0x1F1E6 ≤ n ∧ n ≤ 0x1F1FF then (1, .flags, .none)
    else if n = 0x200D then (0, .joined, .none)
    else alone c
  | .emoji => if n = 0x200D then (0, .joined, .none) else alone c
  | .joined =>
    if n = 0x20E3 then (0, .joinedKeycap, .none)
    else if 0x1F3FB ≤ n ∧ n ≤ 0x1F3FF then (0, .skinTone, .none)
    else if n = 0xE007F then (0, .joinedTags 0 0, .none)
    else if within emojiRanges c then (0, .emoji, .none)
    else alone c
  | .joinedTags letters digits =>
    if 0xE0061 ≤ n ∧ n ≤ 0xE007A ∧ digits = 0 ∧ letters < 6 then
      (0, .joinedTags (letters + 1) 0, .none)
    else if 0xE0030 ≤ n ∧ n ≤ 0xE0039 ∧ digits < 3 then
      (0, .joinedTags letters (digits + 1), .none)
    else if n = 0x1F3F4 ∧ (digits = 3 ∨ digits = 0 ∧ 3 ≤ letters) then (0, .emoji, .none)
    else alone c
  | .plain | .joinedKeycap => alone c

/-- One character, given what follows it. -/
def step (c : Char) (right : Right) (selector : Selector) : Step :=
  let n := c.toNat
  if selector = .emoji && right = .joinedKeycap && (c.isDigit || c = '#' || c = '*') then
    (0, .emoji, .none)
  else if selector = .emoji && within emojiBases c then
    (if right = .joined then 0 else 2, .emoji, .none)
  else if n < 0xA1 then (1, .plain, .none)
  else if n = 0xFE0F && (right ≠ .plain || selector = .text) then (0, right, .emoji)
  else if n = 0xFE0E && (right ≠ .plain || selector = .emoji) then (0, right, .text)
  else if selector = .text && within textBases c then (1, .plain, .none)
  else beside c right

/-- Columns of a cluster. -/
def ofCluster (cs : List Char) : Nat :=
  (cs.foldr (fun c (acc : Nat × Right × Selector) =>
    let (add, right, selector) := step c acc.2.1 acc.2.2
    (acc.1 + add, right, selector)) (0, .plain, .none)).1

end ListingPanel.Text.Width
