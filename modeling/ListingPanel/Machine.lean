import ListingPanel.Environment
import ListingPanel.FileTree
import ListingPanel.Run

/-!
The machine that programs run on, and short-lived directories on it.
-/
namespace ListingPanel

/-- What is wrong with a place, where a program would leave something. -/
inductive Flaw where
  /-- No file is made or changed there. -/
  | barred
  /-- A file there takes so many bytes and no more. -/
  | holds (n : Nat)
  deriving DecidableEq

structure Machine where
  files : FileTree := {}
  directory : Location := []
  environment : Environment := []
  /-- The places with something wrong. -/
  flaws : List (Location × Flaw) := []
  deriving DecidableEq

/-- Starts a program with arguments. It tells how the run goes, and what the files are at a time
after the start. -/
abbrev Launcher := Machine → Path → List Path → Run × (Time → FileTree)

namespace Machine

def read (m : Machine) (p : Path) : Except FileFault (List UInt8) := m.files.read m.directory p

def readText (m : Machine) (p : Path) : Except FileFault String := m.files.readText m.directory p

/-- Makes a text all that is in a file. Of a text that does not fit, the file keeps what does. -/
def write (p : Path) (text : String) : EStateM FileFault Machine Unit := fun m =>
  match m.files.openToWrite m.directory p with
  | .error f => .error f m
  | .ok (l, files) =>
    let bytes := Text.Utf8.encode text
    match m.flaws.lookup l with
    | none => .ok () { m with files := files.append l bytes }
    | some .barred => .error .denied m
    | some (.holds n) =>
      let m := { m with files := files.append l (bytes.take n) }
      if bytes.length ≤ n then .ok () m else .error .noSpace m

def workingDirectory (m : Machine) : Path := ⟨"/" ++ "/".intercalate m.directory⟩

def temporaryDirectory (m : Machine) : Path :=
  let d := m.environment.temporaryDirectory
  if d.isAbsolute then d else m.workingDirectory.join d.text

/-- Names for short-lived directories, all different. -/
def scratchName (n : Nat) : String :=
  "bytesight-" ++ String.ofList ((Nat.toDigits 10 (n + 1000000)).drop 1)

/-- The first of them that is free in a directory with `entries` entries. -/
def freeScratch (m : Machine) (d : Path) (entries : Nat) : Path :=
  let names := (List.range (entries + 1)).map fun n => d.join (scratchName n)
  (names.find? fun p =>
    match m.files.follow m.directory p true with
    | .ok (.entry ..) => false
    | _ => true).getD d

def makeScratch (m : Machine) : Except FileFault (Path × Machine) := do
  let p := m.freeScratch m.temporaryDirectory m.files.entries.length
  return (p, { m with files := ← m.files.makeDirectory m.directory p })

def removeScratch (m : Machine) (p : Path) : Machine :=
  match m.files.follow m.directory p true with
  | .ok (.entry l .directory) | .ok (.entry l (.link _)) => { m with files := m.files.erase l }
  | _ => m

end Machine

end ListingPanel
