import ListingPanel.Machine
import ListingPanel.Shell.Execution

/-!
Starting programs on a machine whose programs are the shell, scripts, and what scripts use.
-/
namespace ListingPanel.Shell

def outputPipe : Nat := 1

def errorPipe : Nat := 2

/-- The process in which a program starts: no input, and two pipes for what it writes. -/
def newProcess (m : Machine) (horizon : Option Time) : Process :=
  { world := { files := m.files, streams := [(0, { unread := [] })], horizon }
    id := 50
    main := 50
    clock := 0
    channels := [(0, .stream 0), (1, .pipe outputPipe), (2, .pipe errorPipe)]
    bindings := m.environment.map fun (n, v) => (bytesOfText n, bytesOfText v)
    exported := m.environment.map fun (n, _) => bytesOfText n
    name := []
    arguments := []
    directory := m.directory }

def programFile (m : Machine) (program : Path) : Bytes :=
  let name := bytesOfText program.text
  (findProgram? (newProcess m none) name).getD name

/-- What to do with the process in which a program starts, if the program can be started. A text
that names no interpreter cannot. -/
def starting? (m : Machine) (program : Path) (args : List Path) : Option (Process → Process) :=
  let words := args.map fun a => bytesOfText a.text
  if (program :: args).any fun p => p.text.toList.contains (Char.ofNat 0) then none
  else
    match image m.files m.directory interpreterDepth (programFile m program) words with
    | .program q words => some fun p => runProgram q p words
    | .shell words => some (perform depth (.shell words))
    | .text .. | .refused | .missing => none

def piped (p : Process) (pipe : Nat) : Piped :=
  let w := p.noteHeld.world
  { bytes := (w.output pipe).map fun c => c.toNat.toUInt8
    closed := if p.flow = .stuck then none else some (w.closing pipe) }

/-- After this time nothing happens any more. -/
def quietFrom (p : Process) : Time :=
  (p.world.jobs.map (·.stop)).foldl max p.clock

/-- Runs are looked at after a tenth of a millisecond for the first time, and then as often as they
can be. -/
def pace : Pace := { looks := fun k => { before := if k = 0 then 100 else 0 } }

def launch : Launcher := fun m program args =>
  match starting? m program args with
  | none => (.refused, fun _ => m.files)
  | some run =>
    let p := run (newProcess m none)
    let ended := if p.flow = .stuck then none else some (p.clock, p.status)
    (.started pace ended (piped p outputPipe) (piped p errorPipe), fun t =>
      if p.flow ≠ .stuck ∧ quietFrom p ≤ t then p.world.files
      else (run (newProcess m (some t))).world.files)

end ListingPanel.Shell
