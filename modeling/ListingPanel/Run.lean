/-!
How a run of a program goes, and what is taken of it within a time limit. The run is looked at until
it is seen to have ended or the limit is over; then its pipes are read to their ends. When all of
this happens is not for the program to say: it may be late with everything it does.
-/
namespace ListingPanel

/-- In microseconds. -/
abbrev Time := Nat

/-- What goes through a pipe, and when the last writer lets go of it, if ever. -/
structure Piped where
  bytes : List UInt8 := []
  closed : Option Time := none
  /-- When a read fails, if one does, and how many bytes have been read by then. -/
  broken : Option (Time × Nat) := none
  deriving DecidableEq

/-- What is read from a pipe, and when all of it has been. After a read that fails, there is no
other. -/
def Piped.read? (p : Piped) : Option (Time × List UInt8) :=
  match p.broken with
  | some (t, n) => some (t, p.bytes.take n)
  | none => p.closed.map fun t => (t, p.bytes)

/-- The time that passes before something is done, and after it. -/
structure Delay where
  before : Time := 0
  after : Time := 0

/-- How late a program is that deals with a run. -/
structure Pace where
  /-- With look `k` at the run, and then with reading the time. -/
  looks : Nat → Delay := fun _ => {}
  /-- The look that fails, if one does. -/
  failing : Option Nat := none
  /-- With taking up a pipe, and then with leaving it. -/
  errors : Delay := {}
  output : Delay := {}

inductive Run where
  | refused
  /-- It was started, and ended by itself at a time with a status, or never did. -/
  | started (pace : Pace) (ended : Option (Time × Nat)) (output errors : Piped)

namespace Run

/-- The least time from reading the time to the next look. -/
def lookInterval : Time := 10000

/-- The time given to a pipe at least. -/
def pipeGrace : Time := 100000

/-- Looks at a run, from look `k` on, which is due at a time: when one sees that the run has ended,
or else when the run is given up, as a look fails or the limit is over. -/
def watch (limit : Time) (pace : Pace) (ended : Option (Time × Nat)) (k : Nat) (due : Time) :
    Except Time Time :=
  let look := due + (pace.looks k).before
  if pace.failing = some k then .error look
  else if ended.any (·.1 ≤ look) then .ok look
  else
    let now := look + (pace.looks k).after
    if limit < now then .error now
    else watch limit pace ended (k + 1) (now + lookInterval)
termination_by limit + 1 - due
decreasing_by
  unfold lookInterval Time at *
  omega

/-- Reads a pipe, which can be taken up from `now` on: when and what, or when it is given up. -/
def collect (limit now : Time) (d : Delay) (p : Piped) : Except Time (Time × List UInt8) :=
  let now := now + d.before
  let patience := now + max (limit - now) pipeGrace + d.after
  match p.read? with
  | some (t, bytes) => if t ≤ patience then .ok (max now t, bytes) else .error patience
  | none => .error patience

/-- The output of a run, and when it has been read; or else when the run is given up. Output counts
only if both pipes have been read in time, and no error messages from theirs. -/
def outcome (limit : Time) : Run → Except Time (Time × List UInt8)
  | refused => .error 0
  | started pace ended output errors => do
    let t ← watch limit pace ended 0 0
    let (t, messages) ← collect limit t pace.errors errors
    if messages = [] then collect limit t pace.output output else throw t

end Run

end ListingPanel
