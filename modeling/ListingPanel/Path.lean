/-!
Paths of files. A path keeps its text; what it denotes is read off its components.
-/
namespace ListingPanel

structure Path where
  text : String
  deriving DecidableEq, Repr, Inhabited

namespace Path

inductive Component where
  | root
  | here
  | up
  | name (n : String)
  deriving DecidableEq, Repr

/-- The names between slashes, some of them empty. -/
def pieces : List Char → List (List Char)
  | [] => [[]]
  | c :: r =>
    if c = '/' then [] :: pieces r
    else
      match pieces r with
      | [] => [[c]]
      | p :: ps => (c :: p) :: ps

/-- The components that a piece stands for after the first one: none if it is empty or a dot. -/
def laterComponent? (p : List Char) : Option Component :=
  if p = [] ∨ p = ['.'] then none
  else if p = ['.', '.'] then some .up
  else some (.name (String.ofList p))

/-- The components of a path. Repeated slashes count once, and a dot counts only as the very first
component. -/
def components (p : Path) : List Component :=
  match pieces p.text.toList with
  | ['.'] :: ps => .here :: ps.filterMap laterComponent?
  | [] :: q :: ps => .root :: (q :: ps).filterMap laterComponent?
  | ps => ps.filterMap laterComponent?

def Component.text : Component → String
  | .root => ""
  | .here => "."
  | .up => ".."
  | .name n => n

def ofComponents (cs : List Component) : Path :=
  match cs with
  | [.root] => ⟨"/"⟩
  | _ => ⟨"/".intercalate (cs.map (·.text))⟩

/-- Steps back to the parent: a name is taken away, elsewhere the step is kept. The components are
in reverse order. -/
def pushReversed : List Component → Component → List Component
  | cs, .here => cs
  | .name _ :: cs, .up => cs
  | cs, c => c :: cs

/-- Components without dots, and without names that a step to the parent takes back. -/
def simplified (cs : List Component) : List Component :=
  (cs.foldl pushReversed []).reverse

def normalize (p : Path) : Path :=
  match simplified p.components with
  | [] => ⟨"."⟩
  | cs => ofComponents cs

def same (p q : Path) : Bool := p.components = q.components

def sameFile (p q : Path) : Bool := p.normalize.same q.normalize

def isAbsolute (p : Path) : Bool := p.text.toList.head? = some '/'

/-- `name` below `p`; an absolute name stands alone. -/
def join (p : Path) (name : String) : Path :=
  if name.toList.head? = some '/' then ⟨name⟩
  else if p.text.isEmpty ∨ p.text.toList.getLast? = some '/' then ⟨p.text ++ name⟩
  else ⟨p.text ++ "/" ++ name⟩

def fileName? (p : Path) : Option String :=
  match p.components.getLast? with
  | some (.name n) => some n
  | _ => none

/-- What follows the last dot of a file name, unless the name starts with that dot. -/
def extensionOf? (name : List Char) : Option (List Char) :=
  let rest := name.reverse.dropWhile (· ≠ '.')
  match rest with
  | [] | [_] => none
  | _ => some (name.reverse.takeWhile (· ≠ '.')).reverse

def extension? (p : Path) : Option String :=
  p.fileName?.bind fun n => (extensionOf? n.toList).map String.ofList

end Path

end ListingPanel
