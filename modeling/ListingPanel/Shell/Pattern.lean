import ListingPanel.Shell.Syntax

/-!
Patterns that texts match: a star stands for any text, a question mark for any byte, and brackets
for one of some bytes.
-/
namespace ListingPanel.Shell

/-- A byte of an expanded word. -/
inductive Atom where
  /-- Stands for itself. -/
  | hard (c : Char)
  /-- May be part of a pattern. -/
  | plain (c : Char)
  /-- Comes from a value: may be part of a pattern, and may separate fields. -/
  | soft (c : Char)
  /-- Separates fields. -/
  | split
  /-- Makes a field, even if it is empty. -/
  | mark
  deriving DecidableEq

namespace Atom

def byte? : Atom → Option Char
  | hard c | plain c | soft c => some c
  | split | mark => none

/-- The byte as a sign of a pattern. -/
def sign? : Atom → Option Char
  | plain c | soft c => some c
  | hard _ | split | mark => none

end Atom

def bytesOf (atoms : List Atom) : Bytes := atoms.filterMap (·.byte?)

inductive PatternItem where
  | byte (c : Char)
  | any
  | anyText
  | set (negated : Bool) (ranges : List (Char × Char))

/-- The ranges of a bracketed set, up to the closing bracket. The first byte may be a bracket. -/
def setRanges (first : Bool) (atoms : List Atom) : Option (List (Char × Char) × List Atom) :=
  match atoms with
  | [] => none
  | a :: r =>
    if a.sign? = some ']' ∧ !first then some ([], r)
    else
      match a.byte? with
      | none => none
      | some c =>
        let single := (setRanges false r).map fun (rs, rest) => ((c, c) :: rs, rest)
        match _h : r with
        | d :: b :: after =>
          match b.byte? with
          | some e =>
            if d.sign? = some '-' ∧ b.sign? ≠ some ']' then
              (setRanges false after).map fun (rs, rest) => ((c, e) :: rs, rest)
            else single
          | none => single
        | _ => single
termination_by atoms.length

/-- The pattern that a word stands for. Each step takes an atom. -/
def patternWith : Nat → List Atom → List PatternItem
  | 0, _ => []
  | _, [] => []
  | fuel + 1, a :: r =>
    match a.sign? with
    | some '*' => .anyText :: patternWith fuel r
    | some '?' => .any :: patternWith fuel r
    | some '[' =>
      let (negated, inside) := match r with
        | b :: r' => if b.sign? = some '!' ∨ b.sign? = some '^' then (true, r') else (false, r)
        | [] => (false, [])
      match setRanges true inside with
      | some (ranges, rest) => .set negated ranges :: patternWith fuel rest
      | none => .byte '[' :: patternWith fuel r
    | _ =>
      match a.byte? with
      | some c => .byte c :: patternWith fuel r
      | none => patternWith fuel r

def pattern (atoms : List Atom) : List PatternItem := patternWith (atoms.length + 1) atoms

def isMatch : List PatternItem → Bytes → Bool
  | [], cs => cs.isEmpty
  | .anyText :: ps, [] => isMatch ps []
  | .anyText :: ps, c :: cs => isMatch ps (c :: cs) || isMatch (.anyText :: ps) cs
  | _ :: _, [] => false
  | .byte d :: ps, c :: cs => c = d && isMatch ps cs
  | .any :: ps, _ :: cs => isMatch ps cs
  | .set negated ranges :: ps, c :: cs =>
    (ranges.any (fun (a, b) => a ≤ c && c ≤ b) != negated) && isMatch ps cs
termination_by ps cs => (ps.length, cs.length)

/-- The text without the part at its start or end that matches a pattern. -/
def trimmed (fromEnd longest : Bool) (p : List PatternItem) (cs : Bytes) : Bytes :=
  let cuts := List.range (cs.length + 1)
  if fromEnd then
    -- the longest end starts at the first cut
    match (if longest then cuts else cuts.reverse).find? fun n => isMatch p (cs.drop n) with
    | some n => cs.take n
    | none => cs
  else
    match (if longest then cuts.reverse else cuts).find? fun n => isMatch p (cs.take n) with
    | some n => cs.drop n
    | none => cs

end ListingPanel.Shell
