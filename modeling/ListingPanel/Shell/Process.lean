import ListingPanel.FileTree
import ListingPanel.Run
import ListingPanel.Shell.Pattern
import ListingPanel.Text.Utf8

/-!
Processes that run scripts. Each has a clock of its own; what it writes into a pipe is kept with the
time of writing, and so is how long it holds the pipe open.
-/
namespace ListingPanel.Shell

inductive Channel where
  /-- Takes output that somebody else reads. -/
  | pipe (k : Nat)
  /-- Gives input. -/
  | stream (k : Nat)
  | file (at_ : Location)
  | sink
  deriving DecidableEq

/-- Bytes to read, all there from a time on. -/
structure Stream where
  unread : Bytes
  readyAt : Time := 0

structure Written where
  process : Nat
  pipe : Nat
  time : Time
  bytes : Bytes

/-- A process has held a pipe until a time. -/
structure Held where
  process : Nat
  pipe : Nat
  time : Time

/-- A process that runs in the background, and when it ends. -/
structure Job where
  process : Nat
  stop : Time
  status : Nat

structure World where
  files : FileTree
  streams : List (Nat × Stream) := []
  /-- The latest one first. -/
  written : List Written := []
  held : List Held := []
  jobs : List Job := []
  /-- The next free number of a process, pipe or stream. -/
  next : Nat := 100
  /-- Nothing happens after this time. -/
  horizon : Option Time := none

namespace World

/-- What was written into a pipe, by time. -/
def output (w : World) (pipe : Nat) : Bytes :=
  let ws := (w.written.filter (·.pipe = pipe)).reverse
  (ws.mergeSort fun a b => a.time ≤ b.time).flatMap (·.bytes)

/-- When the last process let go of a pipe. -/
def closing (w : World) (pipe : Nat) : Time :=
  ((w.held.filter (·.pipe = pipe)).map (·.time)).foldl max 0

/-- Stops a process that has been run already. -/
def kill (w : World) (process : Nat) (time : Time) : World :=
  { w with
    written := w.written.filter fun x => x.process ≠ process || x.time ≤ time
    held := w.held.map fun h =>
      if h.process = process then { h with time := min h.time time } else h
    jobs := w.jobs.map fun j =>
      if j.process = process then { j with stop := min j.stop time } else j }

end World

inductive Flow where
  | going
  | breaking (loops : Nat)
  | continuing (loops : Nat)
  | returning
  | exiting
  /-- Never ends by itself, or is cut off by the horizon. -/
  | stuck
  deriving DecidableEq

structure Process where
  world : World
  id : Nat
  /-- The process that reads the script. -/
  main : Nat
  clock : Time
  channels : List (Nat × Channel)
  bindings : List (Bytes × Bytes)
  exported : List Bytes := []
  functions : List (Bytes × Command) := []
  name : Bytes
  arguments : List Bytes
  directory : Location
  status : Nat := 0
  /-- Ends at the first failure. -/
  exitOnFailure : Bool := false
  /-- A missing parameter is an error. -/
  refuseUnset : Bool := false
  /-- A condition is being tested. -/
  testing : Bool := false
  line : Nat := 1
  lastJob : Option Nat := none
  tracing : Bool := false
  /-- How many loops run around the command. -/
  loops : Nat := 0
  /-- Variables of the function that runs, with their values outside of it. -/
  locals : List (Bytes × Option Bytes) := []
  /-- Variables that keep their values. -/
  fixed : List Bytes := []
  /-- A script to run at the end. -/
  atExit : Option Bytes := none
  /-- Signals that are ignored. -/
  ignored : List Nat := []
  flow : Flow := .going

namespace Process

def isGoing (p : Process) : Bool := p.flow = .going

/-- Lets time pass. A process that reaches the horizon stops there. -/
def spend (p : Process) (t : Time) : Process :=
  let p := { p with clock := p.clock + t }
  match p.world.horizon with
  | some h => if h < p.clock then { p with clock := h, flow := .stuck } else p
  | none => p

def withStatus (p : Process) (status : Nat) : Process := { p with status }

def channel? (p : Process) (n : Nat) : Option Channel := p.channels.lookup n

/-- Writes bytes into a channel; the flag tells whether it takes any. -/
def emit (p : Process) (n : Nat) (bytes : Bytes) : Process × Bool :=
  match p.channel? n with
  | some (.pipe k) =>
    let w := p.world
    ({ p with world := { w with written := ⟨p.id, k, p.clock, bytes⟩ :: w.written } }, true)
  | some (.file l) =>
    let files := p.world.files.append l (bytes.map fun c => c.toNat.toUInt8)
    ({ p with world := { p.world with files } }, true)
  | some .sink => (p, true)
  | some (.stream _) | none => (p, false)

def complain (p : Process) (message : Bytes) : Process := (p.emit 2 message).1

/-- A complaint with the name of the script and the line. -/
def report (p : Process) (message : Bytes) : Process :=
  p.complain (p.name ++ ": ".toList ++ (toString p.line).toList ++ ": ".toList ++ message ++ ['\n'])

/-- Takes the unread bytes of a channel, and waits until they are all there. -/
def input (p : Process) (n : Nat) : Process × Bytes :=
  match p.channel? n with
  | some (.stream k) =>
    match p.world.streams.lookup k with
    | some s => ({ p with clock := max p.clock s.readyAt }, s.unread)
    | none => (p, [])
  | _ => (p, [])

/-- Leaves bytes unread in a channel. -/
def setInput (p : Process) (n : Nat) (unread : Bytes) : Process :=
  match p.channel? n with
  | some (.stream k) =>
    let w := p.world
    { p with world := { w with streams := (k, { unread }) :: w.streams.filter (·.1 ≠ k) } }
  | _ => p

def openStream (p : Process) (unread : Bytes) (readyAt : Time) : Process × Channel :=
  let w := p.world
  let k := w.next
  ({ p with world := { w with next := k + 1, streams := (k, { unread, readyAt }) :: w.streams } },
    .stream k)

def fresh (p : Process) : Process × Nat :=
  ({ p with world := { p.world with next := p.world.next + 1 } }, p.world.next)

def setChannel (p : Process) (n : Nat) (c : Option Channel) : Process :=
  let others := p.channels.filter (·.1 ≠ n)
  { p with channels := match c with
      | some c => (n, c) :: others
      | none => others }

/-- That the process has held its pipes until now. -/
def heldNow (p : Process) : List Held :=
  p.channels.filterMap fun (_, c) =>
    match c with
    | .pipe k => some ⟨p.id, k, p.clock⟩
    | _ => none

def noteHeld (p : Process) : Process :=
  { p with world := { p.world with held := p.heldNow ++ p.world.held } }

/-- A copy of the process with a number of its own. -/
def fork (p : Process) : Process :=
  let (p, id) := p.fresh
  { p with id, atExit := none }

/-- Takes over what a child has done to the shared world. -/
def adopt (p child : Process) : Process := { p with world := child.noteHeld.world }

/-- Waits for a child, and takes its status. A child that never ends is waited for forever. -/
def join (p child : Process) : Process :=
  let q := { p.adopt child with clock := child.clock, status := child.status }
  if child.flow = .stuck then { q with flow := .stuck } else q

def exitWith (p : Process) (status : Nat) : Process := { p with status, flow := .exiting }

def get? (p : Process) (name : Bytes) : Option Bytes := p.bindings.lookup name

def set (p : Process) (name value : Bytes) : Process :=
  if p.fixed.contains name then (p.report (name ++ ": is read only".toList)).exitWith 2
  else { p with bindings := (name, value) :: p.bindings.filter (·.1 ≠ name) }

def restore (p : Process) (name : Bytes) (old : Option Bytes) : Process :=
  let others := p.bindings.filter (·.1 ≠ name)
  { p with bindings := (old.map fun v => (name, v)).toList ++ others }

def unset (p : Process) (name : Bytes) : Process :=
  { p with bindings := p.bindings.filter (·.1 ≠ name) }

end Process

def textOf (bytes : Bytes) : String :=
  Text.Utf8.decodeLossy (bytes.map fun c => c.toNat.toUInt8)

def bytesOfText (s : String) : Bytes := (Text.Utf8.encode s).map fun b => Char.ofNat b.toNat

def bytesOfUInt8 (bs : List UInt8) : Bytes := bs.map fun b => Char.ofNat b.toNat

def pathOf (bytes : Bytes) : Path := ⟨textOf bytes⟩

end ListingPanel.Shell
