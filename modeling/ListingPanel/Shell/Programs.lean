import ListingPanel.Shell.Process

/-!
Programs that scripts start: they write files out, wait, or take files away.
-/
namespace ListingPanel.Shell

def startTime : Time := 1000

/-- Where a program that cannot use its arguments points to. -/
def hint (program : String) : String :=
  "Try '" ++ program ++ " --help' for more information.\n"

def fileProblem (program verb : String) (name : Bytes) (f : FileFault) : Bytes :=
  let reason := match f with
    | .notDirectory => "Not a directory"
    | .isDirectory => "Is a directory"
    | .tooManyLinks => "Too many levels of symbolic links"
    | .nameTooLong => "File name too long"
    | _ => "No such file or directory"
  (program ++ ": " ++ verb).toList ++ name ++ ": ".toList ++ reason.toList ++ ['\n']

/-- Writes out one file, or the input if the name is a dash. -/
def catOne (p : Process) (name : Bytes) : Process :=
  if name = ['-'] then
    let (p, bytes) := p.input 0
    ((p.setInput 0 []).emit 1 bytes).1
  else
    match p.world.files.read p.directory (pathOf name) with
    | .ok bytes =>
      if bytes.isEmpty then p
      else
        let (p, ok) := p.emit 1 (bytesOfUInt8 bytes)
        if ok then p
        else (p.complain "cat: write error: Bad file descriptor\n".toList).withStatus 1
    | .error f => (p.complain (fileProblem "cat" "" name f)).withStatus 1

def cat (p : Process) (args : List Bytes) : Process :=
  let names := args.filter fun a => a ≠ "-u".toList ∧ a ≠ "--".toList
  (if names.isEmpty then [['-']] else names).foldl catOne (p.withStatus 0)

/-- A duration: a decimal number of seconds, minutes, hours or days. -/
def duration? (cs : Bytes) : Option Time :=
  let (number, unit) := cs.span fun c => c.isDigit ∨ c = '.'
  let seconds? : Option Nat := match unit with
    | [] | ['s'] => some 1
    | ['m'] => some 60
    | ['h'] => some 3600
    | ['d'] => some 86400
    | _ => none
  let (whole, rest) := number.span (· ≠ '.')
  let fraction := rest.drop 1
  let value (ds : Bytes) : Nat := ds.foldl (fun n c => 10 * n + (c.toNat - '0'.toNat)) 0
  if number.isEmpty ∨ fraction.contains '.' ∨ number = ['.'] then none
  else
    seconds?.map fun s =>
      let parts := fraction.take 6 ++ List.replicate (6 - fraction.length) '0'
      (value whole * 1000000 + value parts) * s

def sleep (p : Process) (args : List Bytes) : Process :=
  if args.isEmpty then (p.complain ("sleep: missing operand\n" ++ hint "sleep").toList).withStatus 1
  else if args = ["infinity".toList] then { p with flow := .stuck }
  else
    match args.find? fun a => (duration? a).isNone with
    | some a =>
      (p.complain ("sleep: invalid time interval '".toList ++ a ++
        ("'\n" ++ hint "sleep").toList)).withStatus 1
    | none => (p.spend ((args.filterMap duration?).foldl (· + ·) 0)).withStatus 0

/-- Takes away one file, or a directory with all below it if `deep`. -/
def removeOne (deep force : Bool) (p : Process) (name : Bytes) : Process :=
  let files := p.world.files
  let fail (message : Bytes) : Process := (p.complain message).withStatus 1
  let quoted : Bytes := "cannot remove '".toList ++ name ++ ['\'']
  match files.follow p.directory (pathOf name) true with
  | .ok (.entry _ .directory) =>
    if deep then
      match files.find? p.directory (pathOf name) with
      | some (l, _) => { p with world := { p.world with files := files.erase l } }
      | none => p
    else fail ("rm: ".toList ++ quoted ++ ": Is a directory\n".toList)
  | .ok (.entry l _) => { p with world := { p.world with files := files.erase l } }
  | .ok (.vacant ..) | .error .notFound =>
    if force then p else fail ("rm: ".toList ++ quoted ++ ": No such file or directory\n".toList)
  | .error f =>
    if force then p else fail (fileProblem "rm" "" quoted f)

def remove (p : Process) (args : List Bytes) : Process :=
  let isFlag (a : Bytes) : Bool := a.head? = some '-' && 1 < a.length
  let flags := (args.takeWhile isFlag).flatMap (·.drop 1)
  let names := args.dropWhile isFlag
  let deep := flags.contains 'r' || flags.contains 'R'
  let force := flags.contains 'f'
  if names.isEmpty then
    if force then p.withStatus 0
    else (p.complain ("rm: missing operand\n" ++ hint "rm").toList).withStatus 1
  else names.foldl (removeOne deep force) (p.withStatus 0)

def runProgram (program : Program) (p : Process) (args : List Bytes) : Process :=
  let p := p.spend startTime
  if !p.isGoing then p
  else
    match program with
    | .cat => cat p args
    | .sleep => sleep p args
    | .remove => remove p args
    | .shell | .other => p.withStatus 0

end ListingPanel.Shell
