import ListingPanel.Config
import ListingPanel.Diagnostic
import ListingPanel.Disassembler.Helper
import ListingPanel.Machine
import ListingPanel.Toolchain

/-!
Making listings: an interpreter runs a helper script on a snapshot of the source text. Whatever goes
wrong, the answer is a text that a panel can show.
-/
namespace ListingPanel

/-- The script that makes listings. -/
inductive Helper where
  | text (script : String)
  | file (at_ : Path)
  deriving DecidableEq

structure Disassembler where
  /-- In milliseconds. -/
  limitMs : Nat
  helper : Helper
  deriving DecidableEq

namespace Disassembler

def ofConfig (c : PythonConfig) : Disassembler where
  limitMs := c.timeoutMs
  helper :=
    match c.helperScript with
    | some p => .file p
    | none => .text bundledHelper

def limit (d : Disassembler) : Time := 1000 * d.limitMs

variable (launch : Launcher) (d : Disassembler) (m : Machine)

/-- Runs a helper on a target. Gives the output, if the run went well, and the machine after it. -/
def execute (toolchain helper target : Path) : Option String × Machine :=
  match Toolchain.executable? m.files m.directory toolchain with
  | none => (none, m)
  | some interpreter =>
    let (run, files) := launch m interpreter [helper, target]
    match run.outcome d.limit with
    | .error time => (none, { m with files := files time })
    | .ok (time, output) => (some (Text.Utf8.decodeLossy output), { m with files := files time })

/-- Puts a snapshot of the source text into a directory, and the helper if it is not in a file yet.
Gives the helper and the snapshot. -/
def fill (dir : Path) (source : String) : EStateM FileFault Machine (Path × Path) := do
  let snapshot := dir.join "snapshot.py"
  Machine.write snapshot source
  match d.helper with
  | .file p => return (p, snapshot)
  | .text script =>
    let p := dir.join "disassemble_helper"
    Machine.write p script
    return (p, snapshot)

/-- A short-lived directory with what a run needs in it. If that does not get into it, the directory
is removed again. Gives the directory, the helper and the snapshot. -/
def prepare (source : String) : EStateM FileFault Machine (Path × Path × Path) := fun m =>
  match m.makeScratch with
  | .error f => .error f m
  | .ok (dir, m) =>
    match d.fill dir source m with
    | .error f m => .error f (m.removeScratch dir)
    | .ok made m => .ok (dir, made) m

/-- The listing of a source text, or the diagnostic in its place, and the machine afterwards. -/
def produce (source : String) (toolchain : Option Path) : String × Machine :=
  match toolchain with
  | none => (Diagnostic.noToolchain.text, m)
  | some toolchain =>
    match d.prepare source m with
    | .error _ m => (Diagnostic.compilationError.text, m)
    | .ok (dir, helper, snapshot) m =>
      let (output, m) := d.execute launch m toolchain helper snapshot
      (output.getD Diagnostic.compilationError.text, m.removeScratch dir)

end Disassembler

end ListingPanel
