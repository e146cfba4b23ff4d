import ListingPanel.Shell.Arithmetic
import ListingPanel.Shell.Process

/-!
Expanding words: parameters, outputs of commands and arithmetic take their values, values are split
into fields, and patterns become the names of files.
-/
namespace ListingPanel.Shell

abbrev Capture := Process → Bytes → Process × Bytes

def spaces : Bytes := [' ', '\t', '\n']

def separators (p : Process) : Bytes := (p.get? "IFS".toList).getD spaces

def parameter? (p : Process) (name : Bytes) : Option Bytes :=
  match name with
  | ['?'] => some (toString p.status).toList
  | ['$'] => some (toString p.main).toList
  | ['#'] => some (toString p.arguments.length).toList
  | ['!'] => p.lastJob.map fun j => (toString j).toList
  | ['-'] => some []
  | ['@'] | ['*'] =>
    if p.arguments.isEmpty then none else some ([' '].intercalate p.arguments)
  | _ =>
    if name.all (·.isDigit) then
      match name.foldl (fun n c => 10 * n + (c.toNat - '0'.toNat)) 0 with
      | 0 => some p.name
      | n + 1 => p.arguments[n]?
    else p.get? name

def atomsOf (quoted : Bool) (bytes : Bytes) : List Atom :=
  if quoted then .mark :: bytes.map .hard else bytes.map .soft

def argumentAtoms (p : Process) (name : Bytes) (quoted : Bool) : List Atom :=
  if name = ['*'] ∧ quoted then
    let joint := match p.get? "IFS".toList with
      | some (c :: _) => [c]
      | some [] => []
      | none => [' ']
    .mark :: (joint.intercalate p.arguments).map .hard
  else
    let each := p.arguments.map (atomsOf quoted)
    [Atom.split].intercalate each

def dropLineEnds (bytes : Bytes) : Bytes := (bytes.reverse.dropWhile (· = '\n')).reverse

/-- Expands a part of a word, with `inner` for the words in it. -/
def expandPart (capture : Capture) (inner : Process → List Part → Process × List Atom)
    (p : Process) (part : Part) : Process × List Atom :=
  match part with
  | .text bytes quoted => (p, if quoted then .mark :: bytes.map .hard else bytes.map .plain)
  | .output script quoted =>
    let (p, bytes) := capture p script
    (p, atomsOf quoted (dropLineEnds bytes))
  | .arithmetic e quoted =>
    let (p, atoms) := inner p e
    match Arithmetic.evaluate? p.bindings (bytesOf atoms) with
    | some (n, bindings) => ({ p with bindings }, atomsOf quoted (toString n).toList)
    | none => ((p.report "arithmetic expression: expecting primary".toList).exitWith 2, [])
  | .parameter name use quoted =>
    let value := parameter? p name
    let missing (orEmpty : Bool) : Bool :=
      match value with
      | none => true
      | some v => orEmpty && v.isEmpty
    let asValue : List Atom :=
      if name = ['@'] ∨ name = ['*'] then argumentAtoms p name quoted
      else atomsOf quoted (value.getD [])
    let asWord (p : Process) (word : List Part) : Process × List Atom :=
      let (p, atoms) := inner p word
      (p, if quoted then .mark :: (bytesOf atoms).map .hard
        else atoms.map fun a => match a with
          | .plain c => .soft c
          | a => a)
    match use with
    | .value =>
      if p.refuseUnset ∧ value.isNone ∧ name ≠ ['@'] ∧ name ≠ ['*'] then
        ((p.report (name ++ ": parameter not set".toList)).exitWith 2, [])
      else (p, asValue)
    | .length => (p, atomsOf quoted (toString (value.getD []).length).toList)
    | .fallback orEmpty word => if missing orEmpty then asWord p word else (p, asValue)
    | .replace orEmpty word =>
      if missing orEmpty then (p, if quoted then [.mark] else []) else asWord p word
    | .assign orEmpty word =>
      if missing orEmpty then
        let (p, atoms) := inner p word
        (p.set name (bytesOf atoms), atomsOf quoted (bytesOf atoms))
      else (p, asValue)
    | .require orEmpty word =>
      if missing orEmpty then
        let (p, atoms) := inner p word
        let message := if word.isEmpty then "parameter not set".toList else bytesOf atoms
        ((p.report (name ++ ": ".toList ++ message)).exitWith 2, [])
      else (p, asValue)
    | .trim fromEnd longest word =>
      let (p, atoms) := inner p word
      (p, atomsOf quoted (trimmed fromEnd longest (pattern atoms) (value.getD [])))

/-- Expands the parts of a word. Words nest no deeper than the fuel. -/
def expandWith (capture : Capture) : Nat → Process → List Part → Process × List Atom
  | 0, p, _ => ({ p with flow := .stuck }, [])
  | _, p, [] => (p, [])
  | fuel + 1, p, part :: parts =>
    let (p, here) := expandPart capture (expandWith capture fuel) p part
    if p.isGoing then
      let (p, more) := expandWith capture fuel p parts
      (p, here ++ more)
    else (p, here)

def nesting : Nat := 1000000

def expand (capture : Capture) (p : Process) (w : Word) : Process × List Atom :=
  expandWith capture nesting p w

def expandText (capture : Capture) (p : Process) (w : Word) : Process × Bytes :=
  let (p, atoms) := expand capture p w
  (p, atoms.filterMap fun a =>
    match a with
    | .split => some ' '
    | a => a.byte?)

/-- Splits atoms into fields. Blanks that separate fields count once; another separator ends a field
that may be empty. -/
def fieldsFrom (separators : Bytes) (open_ : Option (List Atom)) : List Atom → List (List Atom)
  | [] => open_.toList
  | .split :: r => open_.toList ++ fieldsFrom separators none r
  | .mark :: r => fieldsFrom separators (some (open_.getD [])) r
  | .soft c :: r =>
    if separators.contains c then
      if spaces.contains c then open_.toList ++ fieldsFrom separators none r
      else open_.getD [] :: fieldsFrom separators none r
    else fieldsFrom separators (some (open_.getD [] ++ [.soft c])) r
  | a :: r => fieldsFrom separators (some (open_.getD [] ++ [a])) r

/-- The parts of a pattern between slashes. -/
def patternPieces (atoms : List Atom) : List (List Atom) :=
  atoms.foldr (fun a acc =>
    match a.byte?, acc with
    | some '/', acc => [] :: acc
    | _, q :: qs => (a :: q) :: qs
    | _, [] => [[a]]) [[]]

def isPattern (atoms : List Atom) : Bool :=
  atoms.any fun a => a.sign? = some '*' || a.sign? = some '?' || a.sign? = some '['

/-- The paths that a pattern matches, from those that its first parts match. -/
def matchPieces (t : FileTree) (here : Location) : List Bytes → List (List Atom) → List Bytes
  | found, [] => found
  | found, piece :: pieces =>
    let last := pieces.isEmpty
    let next := found.flatMap fun dir =>
      if isPattern piece then
        let d : Path := if dir.isEmpty then ⟨"."⟩ else pathOf dir
        match t.find? here d with
        | some (l, .directory) =>
          let names := ((t.children l).filter fun n =>
            let bytes := bytesOfText n
            isMatch (pattern piece) bytes &&
              (bytes.head? ≠ some '.' || (piece.head?.bind (·.byte?)) = some '.')).mergeSort
                fun a b => a ≤ b
          names.map fun n => dir ++ bytesOfText n
        | _ => []
      else
        let whole := dir ++ bytesOf piece
        if last ∧ !t.exists_ here (pathOf whole) then [] else [whole]
    matchPieces t here (if last then next else next.map (· ++ ['/'])) pieces

/-- The fields of words, patterns replaced by the names of files that match. -/
def expandFields (capture : Capture) : Process → List Word → Process × List Bytes
  | p, [] => (p, [])
  | p, w :: ws =>
    let (p, atoms) := expand capture p w
    if p.isGoing then
      let here := (fieldsFrom (separators p) none atoms).flatMap fun field =>
        if isPattern field then
          match matchPieces p.world.files p.directory [[]] (patternPieces field) with
          | [] => [bytesOf field]
          | found => found
        else [bytesOf field]
      let (p, more) := expandFields capture p ws
      (p, here ++ more)
    else (p, [])

end ListingPanel.Shell
