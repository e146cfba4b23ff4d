import ListingPanel.Shell.Expansion
import ListingPanel.Shell.Test

/-!
Commands of the shell itself that run no other command.
-/
namespace ListingPanel.Shell

def stepTime : Time := 2

def forkTime : Time := 300

/-- Writes to the output of a command, which fails if the output is closed. -/
def output (command : String) (p : Process) (bytes : Bytes) : Process :=
  if bytes.isEmpty then p.withStatus 0
  else
    let (p, ok) := p.emit 1 bytes
    if ok then p.withStatus 0
    else (p.report (command ++ ": I/O error").toList).withStatus 1

def runPrintf (p : Process) (args : List Bytes) : Process :=
  let args := if args.head? = some "--".toList then args.drop 1 else args
  match args with
  | [] => (p.report "printf: usage: printf format [arg ...]".toList).withStatus 2
  | format :: args =>
    let printed := printf format args
    let p := output "printf" p printed.text
    printed.faults.foldl (fun p a =>
      (p.report ("printf: ".toList ++ a ++ ": expected numeric value".toList)).withStatus 1) p

def splitAssignment (cs : Bytes) : Bytes × Option Bytes :=
  match cs.span (· ≠ '=') with
  | (name, _ :: value) => (name, some value)
  | (name, []) => (name, none)

/-- Splits a line into fields for `count` names; the last one takes the rest. -/
def fieldsOfLine (separators : Bytes) : Nat → Bytes → List Bytes
  | 0, _ => []
  | 1, cs =>
    let isBlank (c : Char) : Bool := separators.contains c && spaces.contains c
    [((cs.dropWhile isBlank).reverse.dropWhile isBlank).reverse]
  | count + 1, cs =>
    let isBlank (c : Char) : Bool := separators.contains c && spaces.contains c
    let (field, r) := (cs.dropWhile isBlank).span fun c => !separators.contains c
    let r := r.dropWhile isBlank
    let r := if (r.head?.any fun c => separators.contains c) then r.drop 1 else r
    field :: fieldsOfLine separators count r

/-- Reads a line; a backslash keeps the next byte, unless `raw`. Gives the line, whether its end was
found, and what is left. -/
def lineOf (raw : Bool) : Bytes → Bytes × Bool × Bytes
  | [] => ([], false, [])
  | '\\' :: c :: r =>
    let (l, found, rest) := lineOf raw r
    if raw then
      if c = '\n' then (['\\'], true, r) else ('\\' :: c :: l, found, rest)
    else if c = '\n' then (l, found, rest)
    else (c :: l, found, rest)
  | c :: r =>
    if c = '\n' then ([], true, r)
    else
      let (l, found, rest) := lineOf raw r
      (c :: l, found, rest)

def runRead (p : Process) (args : List Bytes) : Process :=
  let raw := args.contains "-r".toList
  let names := args.filter (· ≠ "-r".toList)
  let (p, unread) := p.input 0
  let (line, found, rest) := lineOf raw unread
  let p := p.setInput 0 rest
  let values := fieldsOfLine (separators p) names.length line
  let p := (names.zip values).foldl (fun p (n, v) => p.set n v) p
  p.withStatus (if found then 0 else 1)

def number? (cs : Bytes) : Option Nat :=
  if cs.isEmpty ∨ !cs.all (·.isDigit) then none
  else some (cs.foldl (fun n c => 10 * n + (c.toNat - '0'.toNat)) 0)

def signals : List (String × Nat) :=
  [("HUP", 1), ("INT", 2), ("QUIT", 3), ("KILL", 9), ("USR1", 10), ("USR2", 12), ("PIPE", 13),
   ("ALRM", 14), ("TERM", 15)]

def signal? (cs : Bytes) : Option Nat :=
  match number? cs with
  | some n => some n
  | none =>
    let name := String.ofList cs
    signals.lookup (if name.startsWith "SIG" then (name.drop 3).toString else name)

/-- Ends processes. A process that ends itself goes no further. -/
def runKill (p : Process) (args : List Bytes) : Process :=
  let (signal, ids) : Nat × List Bytes := match args with
    | ['-', 's'] :: s :: r => ((signal? s).getD 15, r)
    | ('-' :: s) :: r => ((signal? s).getD 15, r)
    | r => (15, r)
  if ids.isEmpty then
    (p.report ("kill: Usage: kill [-s sigspec | -signum | -sigspec] [pid | job]... or\n" ++
      "kill -l [exitstatus]").toList).withStatus 2
  else ids.foldl (fun p id =>
    match number? id with
    | none => (p.report ("kill: Illegal number: ".toList ++ id)).withStatus 2
    | some n =>
      if signal = 0 then p.withStatus 0
      else if n = p.id ∨ n = p.main then
        if p.ignored.contains signal ∧ signal ≠ 9 then p.withStatus 0
        else { p with atExit := none }.exitWith (128 + signal)
      else if p.world.jobs.any (·.process = n) then
        { p with world := p.world.kill n p.clock, status := 0 }
      else (p.report "kill: No such process".toList).withStatus 1) p

/-- Waits for background processes: those named, or all. The status is that of the one named
last. -/
def runWait (p : Process) (args : List Bytes) : Process :=
  let ids := args.filterMap number?
  let jobs := p.world.jobs.filter fun j => args.isEmpty || ids.contains j.process
  let stop := (jobs.map (·.stop)).foldl max p.clock
  let status := match ids.getLast? with
    | some n => ((jobs.find? (·.process = n)).map (·.status)).getD 127
    | none => 0
  (p.spend (stop - p.clock)).withStatus status

def directoryName (l : Location) : Bytes := bytesOfText ("/" ++ "/".intercalate l)

def enter (p : Process) (l : Location) : Process :=
  let q := p.set "OLDPWD".toList (directoryName p.directory)
  ({ q with directory := l }.set "PWD".toList (directoryName l)).withStatus 0

def runCd (p : Process) (args : List Bytes) : Process :=
  let args := args.filter fun a => a ≠ "-P".toList ∧ a ≠ "-L".toList ∧ a ≠ "--".toList
  let back := args.head? = some ['-']
  let target := if back then (p.get? "OLDPWD".toList).getD (directoryName p.directory)
    else (args.head?).getD ((p.get? "HOME".toList).getD [])
  if target.isEmpty then p.withStatus 0
  else
    match p.world.files.find? p.directory (pathOf target) with
    | some (l, .directory) =>
      let p := enter p l
      if back then output "cd" p (directoryName l ++ ['\n']) else p
    | _ => (p.report ("cd: can't cd to ".toList ++ target)).withStatus 2

def runSet (p : Process) (args : List Bytes) : Process :=
  match args with
  | [] => p.withStatus 0
  | ['-', '-'] :: r => { p with arguments := r, status := 0 }
  | a :: r =>
    let letters := a.drop 1
    if a.head? = some '-' ∨ a.head? = some '+' then
      let on := a.head? = some '-'
      let p := { p with
        exitOnFailure := if letters.contains 'e' then on else p.exitOnFailure
        refuseUnset := if letters.contains 'u' then on else p.refuseUnset
        tracing := if letters.contains 'x' then on else p.tracing
        status := 0 }
      if letters.contains 'o' then p
      else
        match r with
        | ['-', '-'] :: r => { p with arguments := r }
        | [] => p
        | r => { p with arguments := r }
    else { p with arguments := a :: r, status := 0 }

def assignAll (p : Process) (args : List Bytes) (exporting : Bool) : Process :=
  let p := args.foldl (fun p a =>
    let (name, value) := splitAssignment a
    let p := match value with
      | some v => p.set name v
      | none => p
    if exporting then { p with exported := name :: p.exported } else p) p
  p.withStatus 0

/-- Makes variables of the function that runs. -/
def runLocal (p : Process) (args : List Bytes) : Process :=
  let p := args.foldl (fun p a =>
    let name := (splitAssignment a).1
    if p.locals.any (·.1 = name) then p
    else { p with locals := (name, p.get? name) :: p.locals }) p
  assignAll p args false

def runReadonly (p : Process) (args : List Bytes) : Process :=
  let p := assignAll p args false
  { p with fixed := args.map (fun a => (splitAssignment a).1) ++ p.fixed }

/-- Notes what to do at the end, and which signals to ignore. -/
def runTrap (p : Process) (args : List Bytes) : Process :=
  match args with
  | action :: names =>
    names.foldl (fun p n =>
      if n = "EXIT".toList ∨ n = ['0'] then
        { p with atExit := if action.isEmpty ∨ action = ['-'] then none else some action }
      else
        match signal? n with
        | some s =>
          let others := p.ignored.filter (· ≠ s)
          { p with ignored := if action.isEmpty then s :: others else others }
        | none => p) (p.withStatus 0)
  | [] => p.withStatus 0

def statusArgument (command : String) (p : Process) (args : List Bytes) : Except Process Nat :=
  match args with
  | [] => .ok p.status
  | a :: _ =>
    match number? (a.reverse.dropWhile (·.isWhitespace)).reverse with
    | some n => .ok (n % 256)
    | none =>
      .error ((p.report ((command ++ ": Illegal number: ").toList ++ a)).exitWith 2)

def leaveLoops (flow : Nat → Flow) (p : Process) (count : Nat) : Process :=
  if p.loops = 0 then p.withStatus 0 else { p with status := 0, flow := flow count }

/-- Leaves `count` loops or more than there are. -/
def loopCount (args : List Bytes) : Nat := max 1 ((args.head?.bind number?).getD 1)

/-- Where a program is: a path, or a name on the search path. -/
def findProgram? (p : Process) (name : Bytes) : Option Bytes :=
  if name.contains '/' then some name
  else
    let search := (p.get? "PATH".toList).getD "/usr/local/bin:/usr/bin:/bin".toList
    let dirs := search.foldr (fun c acc =>
      match c, acc with
      | ':', acc => [] :: acc
      | c, d :: ds => (c :: d) :: ds
      | c, [] => [[c]]) [[]]
    (dirs.map fun d => if d.isEmpty then name else d ++ '/' :: name).find? fun f =>
      match p.world.files.find? p.directory (pathOf f) with
      | some (_, .program _) | some (_, .file _ true) => true
      | _ => false

def shellCommands : List String :=
  [":", "true", "false", "echo", "printf", "read", "exit", "return", "break", "continue", "trap",
    "kill", "wait", "test", "[", "cd", "pwd", "shift", "set", "unset", "export", "readonly",
    "local", "eval", "exec", ".", "command", "umask", "ulimit", "times", "alias", "unalias", "hash",
    "getopts", "jobs"]

def runFind (p : Process) (args : List Bytes) : Process :=
  (args.filter fun a => a.head? ≠ some '-').foldl (fun p a =>
    if shellCommands.contains (textOf a) ∨ (p.functions.lookup a).isSome then
      output "command" p (a ++ ['\n'])
    else
      match findProgram? p a with
      | some file => output "command" p (file ++ ['\n'])
      | none => p.withStatus 127) p

def builtin? (name : String) : Option (Process → List Bytes → Process) :=
  match name with
  | ":" | "true" | "umask" | "ulimit" | "times" | "alias" | "unalias" | "hash"
  | "getopts" | "jobs" =>
    some fun p _ => p.withStatus 0
  | "false" => some fun p _ => p.withStatus 1
  | "command" => some runFind
  | "echo" => some fun p args => output "echo" p (echoText args)
  | "printf" => some runPrintf
  | "read" => some runRead
  | "exit" => some fun p args =>
    match statusArgument name p args with
    | .ok n => p.exitWith n
    | .error q => q
  | "return" => some fun p args =>
    match statusArgument name p args with
    | .ok n => { p with status := n, flow := .returning }
    | .error q => q
  | "break" => some fun p args => leaveLoops .breaking p (loopCount args)
  | "continue" => some fun p args => leaveLoops .continuing p (loopCount args)
  | "trap" => some runTrap
  | "kill" => some runKill
  | "wait" => some runWait
  | "test" => some fun p args =>
    match test p args with
    | .ok b => p.withStatus (if b then 0 else 1)
    | .error e => (p.report ("test: ".toList ++ e)).withStatus 2
  | "[" => some fun p args =>
    if args.getLast? ≠ some [']'] then (p.report "[: missing ]".toList).withStatus 2
    else
      match test p args.dropLast with
      | .ok b => p.withStatus (if b then 0 else 1)
      | .error e => (p.report ("[: ".toList ++ e)).withStatus 2
  | "cd" => some runCd
  | "pwd" => some fun p _ =>
    output "pwd" p (directoryName p.directory ++ ['\n'])
  | "shift" => some fun p args =>
    let n := (args.head?.bind number?).getD 1
    if p.arguments.length < n then (p.report "shift: can't shift that many".toList).exitWith 2
    else { p with arguments := p.arguments.drop n, status := 0 }
  | "set" => some runSet
  | "unset" => some fun p args =>
    ((args.filter fun a => a.head? ≠ some '-').foldl Process.unset p).withStatus 0
  | "export" => some fun p args => assignAll p args true
  | "readonly" => some runReadonly
  | "local" => some runLocal
  | _ => none

/-- Commands for which assignments in front of them stay. -/
def isSpecial (name : String) : Bool :=
  [":", "break", "continue", "exit", "export", "readonly", "return", "set", "shift", "times",
    "trap", "unset", "eval", "exec", "."].contains name

end ListingPanel.Shell
