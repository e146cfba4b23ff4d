import ListingPanel.Path
import ListingPanel.Text.Utf8

/-!
A tree of files, and how paths lead through it. Symbolic links are followed, and a step to the
parent leaves the directory that the path has reached.
-/
namespace ListingPanel

abbrev Location := List String

inductive Program where
  | shell
  | cat
  | sleep
  | remove
  | other
  deriving DecidableEq, Repr

inductive Entry where
  | file (bytes : List UInt8) (executable : Bool)
  | program (p : Program)
  | directory
  | link (target : Path)
  /-- Holds nothing and takes everything. -/
  | sink
  deriving DecidableEq, Repr

namespace Entry

def isFile : Entry → Bool
  | file .. | program _ => true
  | _ => false

end Entry

inductive FileFault where
  | notFound
  | notDirectory
  | isDirectory
  | notEmpty
  | exists
  | tooManyLinks
  | nameTooLong
  | nulInName
  | notUtf8
  | denied
  | noSpace
  deriving DecidableEq, Repr

def FileFault.message : FileFault → String
  | .notFound => "No such file or directory (os error 2)"
  | .notDirectory => "Not a directory (os error 20)"
  | .isDirectory => "Is a directory (os error 21)"
  | .notEmpty => "Directory not empty (os error 39)"
  | .exists => "File exists (os error 17)"
  | .tooManyLinks => "Too many levels of symbolic links (os error 40)"
  | .nameTooLong => "File name too long (os error 36)"
  | .nulInName => "file name contained an unexpected NUL byte"
  | .notUtf8 => "stream did not contain valid UTF-8"
  | .denied => "Permission denied (os error 13)"
  | .noSpace => "No space left on device (os error 28)"

/-- The entries below the root, each at its own location. -/
structure FileTree where
  entries : List (Location × Entry) := []
  deriving DecidableEq, Repr

namespace FileTree

def get? (t : FileTree) (l : Location) : Option Entry :=
  if l = [] then some .directory else t.entries.lookup l

def put (t : FileTree) (l : Location) (e : Entry) : FileTree :=
  ⟨(l, e) :: t.entries.filter (·.1 ≠ l)⟩

def erase (t : FileTree) (l : Location) : FileTree :=
  ⟨t.entries.filter (!l.isPrefixOf ·.1)⟩

def children (t : FileTree) (l : Location) : List String :=
  t.entries.filterMap fun (m, _) =>
    if m.dropLast = l then m.getLast? else none

/-- Where a path leads: to an entry, or to a free name in a directory. -/
inductive Target where
  | entry (at_ : Location) (e : Entry)
  | vacant (parent : Location) (name : String)

def maxLinks : Nat := 40

/-- The names of a path; whether it starts at the root; whether it ends in a slash. -/
def steps (p : Path) : Bool × List String × Bool :=
  let cs := p.text.toList
  (cs.head? = some '/', ((Path.pieces cs).filter (· ≠ [])).map String.ofList,
    cs.getLast? = some '/')

/-- Follows names from a directory on. A path with a slash at its end leads to a directory, and the
last link is followed unless `keepLast` says otherwise. -/
def walk (t : FileTree) (keepLast : Bool) (links : Nat) (at_ : Location) (slash : Bool) :
    List String → Except FileFault Target
  | [] => .ok (.entry at_ .directory)
  | n :: r =>
    if n = "." then walk t keepLast links at_ slash r
    else if n = ".." then walk t keepLast links at_.dropLast slash r
    else if 255 < n.utf8ByteSize then .error .nameTooLong
    else
      match t.get? (at_ ++ [n]) with
      | none => if r = [] then .ok (.vacant at_ n) else .error .notFound
      | some .directory => walk t keepLast links (at_ ++ [n]) slash r
      | some (.link target) =>
        if keepLast ∧ r = [] ∧ !slash then .ok (.entry (at_ ++ [n]) (.link target))
        else if _h : links = 0 then .error .tooManyLinks
        else
          let (fromRoot, names, endsInSlash) := steps target
          walk t keepLast (links - 1) (if fromRoot then [] else at_)
            (if r = [] then slash || endsInSlash else slash) (names ++ r)
      | some e =>
        if r = [] ∧ !slash then .ok (.entry (at_ ++ [n]) e) else .error .notDirectory
termination_by names => (links, names.length)

/-- Where `p` leads from the directory `here`. -/
def follow (t : FileTree) (here : Location) (p : Path) (keepLast : Bool := false) :
    Except FileFault Target :=
  if p.text.isEmpty then .error .notFound
  else if p.text.toList.contains (Char.ofNat 0) then .error .nulInName
  else
    let (fromRoot, names, slash) := steps p
    walk t keepLast maxLinks (if fromRoot then [] else here) slash names

def find? (t : FileTree) (here : Location) (p : Path) : Option (Location × Entry) :=
  match t.follow here p with
  | .ok (.entry l e) => some (l, e)
  | _ => none

def exists_ (t : FileTree) (here : Location) (p : Path) : Bool := (t.find? here p).isSome

def isFile (t : FileTree) (here : Location) (p : Path) : Bool :=
  (t.find? here p).any (·.2.isFile)

def isDirectory (t : FileTree) (here : Location) (p : Path) : Bool :=
  (t.find? here p).any (·.2 = .directory)

def read (t : FileTree) (here : Location) (p : Path) : Except FileFault (List UInt8) := do
  match ← t.follow here p with
  | .entry _ (.file bytes _) => return bytes
  | .entry _ .directory => throw .isDirectory
  | .entry _ _ => return []
  | .vacant .. => throw .notFound

/-- The text of a file in UTF-8. -/
def readText (t : FileTree) (here : Location) (p : Path) : Except FileFault String := do
  match Text.Utf8.decode? (← t.read here p) with
  | some s => return s
  | none => throw .notUtf8

/-- Opens a file for writing: the location of what is there, which is emptied unless `keep`, or of a
new file. A name that ends in a slash cannot be a file. -/
def openToWrite (t : FileTree) (here : Location) (p : Path) (keep : Bool := false) :
    Except FileFault (Location × FileTree) := do
  let (fromRoot, names, slash) := steps p
  if slash ∧ !p.text.toList.contains (Char.ofNat 0) then
    let _ ← walk t false maxLinks (if fromRoot then [] else here) true names.dropLast
    throw .isDirectory
  match ← t.follow here p with
  | .entry l (.file bytes x) => return (l, t.put l (.file (if keep then bytes else []) x))
  | .entry _ .directory => throw .isDirectory
  | .entry l _ => return (l, t)
  | .vacant parent name =>
    let l := parent ++ [name]
    return (l, t.put l (.file [] false))

/-- Adds bytes to the file at a location. What is no file takes them and holds nothing. -/
def append (t : FileTree) (l : Location) (bytes : List UInt8) : FileTree :=
  match t.get? l with
  | some (.file old x) => t.put l (.file (old ++ bytes) x)
  | _ => t

def write (t : FileTree) (here : Location) (p : Path) (bytes : List UInt8) :
    Except FileFault FileTree := do
  let (l, t) ← t.openToWrite here p
  return t.append l bytes

def makeDirectory (t : FileTree) (here : Location) (p : Path) : Except FileFault FileTree := do
  match ← t.follow here p with
  | .entry .. => throw .exists
  | .vacant parent name => return t.put (parent ++ [name]) .directory

def removeFile (t : FileTree) (here : Location) (p : Path) : Except FileFault FileTree := do
  match ← t.follow here p true with
  | .entry _ .directory => throw .isDirectory
  | .entry l _ => return t.erase l
  | .vacant .. => throw .notFound

/-- Every entry below `root`, by its path from there. A directory's path ends in a slash. -/
def listing (t : FileTree) (root : Location) : List String :=
  let below := t.entries.filterMap fun (l, e) =>
    if root.isPrefixOf l ∧ l ≠ root then
      some ("/".intercalate (l.drop root.length) ++ (if e = .directory then "/" else ""))
    else none
  below.mergeSort fun a b => a ≤ b

end FileTree

end ListingPanel
