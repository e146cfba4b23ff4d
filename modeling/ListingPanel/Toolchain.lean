import ListingPanel.FileTree

/-!
Finding an interpreter. A toolchain is an interpreter, or the root of an installation.
-/
namespace ListingPanel.Toolchain

/-- Names of interpreters in a directory of programs, the preferred one first. -/
def programNames : List String := ["python3", "python"]

/-- Places of interpreters in an installation, the preferred one first. -/
def installedNames : List String :=
  ["bin/python3", "bin/python", "python.exe", "Scripts/python.exe"]

/-- The directories of a search path, which colons separate. -/
def directories (cs : List Char) : List (List Char) :=
  match cs with
  | [] => [[]]
  | c :: r =>
    if c = ':' then [] :: directories r
    else
      match directories r with
      | [] => [[c]]
      | d :: ds => (c :: d) :: ds

/-- The candidates of a search path, in order. -/
def candidates (searchPath : String) : List Path :=
  (directories searchPath.toList).flatMap fun d =>
    programNames.map (Path.mk (String.ofList d)).join

variable (t : FileTree) (here : Location)

def findInPath? (searchPath : String) : Option Path :=
  (candidates searchPath).find? (t.isFile here)

/-- The toolchain to use: the configured one, as it is, or the first one on the search path. -/
def resolve? (configured : Option Path) (searchPath : Option String) : Option Path :=
  match configured with
  | some p => some p
  | none => searchPath.bind (findInPath? t here)

/-- The interpreter of a toolchain. -/
def executable? (toolchain : Path) : Option Path :=
  if t.isFile here toolchain then some toolchain
  else if t.isDirectory here toolchain then
    (installedNames.map toolchain.join).find? (t.isFile here)
  else none

end ListingPanel.Toolchain
