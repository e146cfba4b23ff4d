import ListingPanel.Text.Cluster.Table

/-!
User-perceived characters: a text is cut into extended grapheme clusters. Whether two neighbours
stay together depends on their classes and on a little of what stands before them.
-/
namespace ListingPanel.Text.Cluster

/-- Whether one of the ranges holds the code point. -/
def within (ranges : List (Nat × Nat)) (c : Char) : Bool :=
  ranges.any fun (a, b) => a ≤ c.toNat && c.toNat ≤ b

/-- How a character behaves at the border of a cluster. -/
inductive Kind where
  | carriageReturn
  | lineFeed
  | control
  | extender
  | joiner
  | flag
  | prepender
  | spacingMark
  | leadingJamo
  | vowelJamo
  | trailingJamo
  | openSyllable
  | closedSyllable
  | pictograph
  | other
  deriving DecidableEq, Repr

def Kind.of (c : Char) : Kind :=
  let n := c.toNat
  if n = 0x0D then .carriageReturn
  else if n = 0x0A then .lineFeed
  else if 0x20 ≤ n ∧ n < 0x7F then .other
  else if n = 0x200D then .joiner
  else if 0x1F1E6 ≤ n ∧ n ≤ 0x1F1FF then .flag
  else if 0xAC00 ≤ n ∧ n ≤ 0xD7A3 then
    if (n - 0xAC00) % 28 = 0 then .openSyllable else .closedSyllable
  else if within controls c then .control
  else if within extenders c then .extender
  else if within spacingMarks c then .spacingMark
  else if within prependers c then .prepender
  else if within leadingJamoRanges c then .leadingJamo
  else if within vowelJamoRanges c then .vowelJamo
  else if within trailingJamoRanges c then .trailingJamo
  else if within pictographs c then .pictograph
  else .other

/-- How much of an Indic conjunct has been read. -/
inductive Conjunct where
  | none
  | consonant
  | linked
  deriving DecidableEq, Repr

/-- What matters of the text read so far: its last character, whether an odd number of regional
indicators ends it, whether a pictograph with its extenders ends it, with or without a joiner, and
the conjunct that ends it. -/
structure Context where
  last : Kind
  oddFlags : Bool
  picture : Bool
  joinedPicture : Bool
  conjunct : Conjunct

/-- The context after `c`. -/
def Context.push (before : Context) (c : Char) : Context :=
  let kind := Kind.of c
  { last := kind
    oddFlags := kind = .flag && !before.oddFlags
    picture := kind = .pictograph || (before.picture && kind = .extender)
    joinedPicture := before.picture && kind = .joiner
    conjunct :=
      if within conjunctConsonants c then .consonant
      else if before.conjunct = .none then .none
      else if within conjunctLinkers c then .linked
      else if (kind = .extender && c.toNat ≠ 0x200C) || kind = .joiner then before.conjunct
      else .none }

def Context.start : Context := ⟨.control, false, false, false, .none⟩

/-- Whether `c` stays in the cluster of the character before it. -/
def Context.joins (before : Context) (c : Char) : Bool :=
  match before.last, Kind.of c with
  | .carriageReturn, .lineFeed => true
  | .carriageReturn, _ | .lineFeed, _ | .control, _ => false
  | _, .carriageReturn | _, .lineFeed | _, .control => false
  | .leadingJamo, .leadingJamo | .leadingJamo, .vowelJamo | .leadingJamo, .openSyllable
  | .leadingJamo, .closedSyllable => true
  | .openSyllable, .vowelJamo | .openSyllable, .trailingJamo => true
  | .vowelJamo, .vowelJamo | .vowelJamo, .trailingJamo => true
  | .closedSyllable, .trailingJamo | .trailingJamo, .trailingJamo => true
  | _, .extender | _, .joiner | _, .spacingMark => true
  | .prepender, _ => true
  | .joiner, .pictograph => before.joinedPicture
  | .flag, .flag => before.oddFlags
  | _, _ => before.conjunct = .linked && within conjunctConsonants c

/-- The clusters of the rest of a text, the first of which continues the one before. -/
def split (before : Context) : List Char → List Char × List (List Char)
  | [] => ([], [])
  | c :: r =>
    let (here, later) := split (before.push c) r
    if before.joins c then (c :: here, later) else ([], (c :: here) :: later)

def ofText (cs : List Char) : List (List Char) :=
  (split .start cs).2

end ListingPanel.Text.Cluster
