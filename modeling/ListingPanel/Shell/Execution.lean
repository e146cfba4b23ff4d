import ListingPanel.Shell.Builtins
import ListingPanel.Shell.Commands
import ListingPanel.Shell.Programs

/-!
Running scripts. A child process is run at once from where its parent stands; the times of what it
does put the outputs in order.
-/
namespace ListingPanel.Shell

/-- The channel of the process that a file name stands for. -/
def channelNamed? (name : Bytes) : Option Nat :=
  if name = "/dev/stdin".toList then some 0
  else if name = "/dev/stdout".toList then some 1
  else if name = "/dev/stderr".toList then some 2
  else if "/dev/fd/".toList.isPrefixOf name then number? (name.drop 8)
  else none

/-- Opens what a redirection names. None if that fails, which is reported. -/
def redirect (capture : Capture) (p : Process) (d : Redirection) : Option Process × Process :=
  let openFile (p : Process) (channel : Nat) (w : Word)
      (open_ : FileTree → Path → Except FileFault (Channel × FileTree)) (verb : String) :
      Option Process × Process :=
    let (p, name) := expandText capture p w
    let known := (channelNamed? name).bind p.channel?
    if !p.isGoing then (none, p)
    else if known.isSome then (some (p.setChannel channel known), p)
    else
      match open_ p.world.files (pathOf name) with
      | .ok (c, files) =>
        (some ({ p with world := { p.world with files } }.setChannel channel (some c)), p)
      | .error f =>
        let reason := match f with
          | .isDirectory => "Is a directory"
          | .notDirectory => if verb = "create" then "Directory nonexistent" else "Not a directory"
          | .notFound => if verb = "create" then "Directory nonexistent" else "No such file"
          | .tooManyLinks => "Too many levels of symbolic links"
          | _ => "No such file"
        (none, (p.report (("cannot " ++ verb ++ " ").toList ++ name ++ ": ".toList ++
          reason.toList)).withStatus 2)
  let toWrite (keep : Bool) (t : FileTree) (f : Path) : Except FileFault (Channel × FileTree) := do
    let (l, t) ← t.openToWrite p.directory f keep
    return (if t.get? l = some .sink then .sink else .file l, t)
  match d with
  | .write n w => openFile p n w (toWrite false) "create"
  | .append n w => openFile p n w (toWrite true) "create"
  | .read n w =>
    let (p, name) := expandText capture p w
    if !p.isGoing then (none, p)
    else
      match p.world.files.read p.directory (pathOf name) with
      | .ok bytes =>
        let (p, c) := p.openStream (bytesOfUInt8 bytes) 0
        (some (p.setChannel n (some c)), p)
      | .error .isDirectory =>
        let (p, c) := p.openStream [] 0
        (some (p.setChannel n (some c)), p)
      | .error _ =>
        (none, (p.report ("cannot open ".toList ++ name ++ ": No such file".toList)).withStatus 2)
  | .text n w =>
    let (p, bytes) := expandText capture p w
    let (p, c) := p.openStream bytes 0
    (if p.isGoing then some (p.setChannel n (some c)) else none, p)
  | .copy n w =>
    let (p, name) := expandText capture p w
    if !p.isGoing then (none, p)
    else if name = ['-'] then (some (p.noteHeld.setChannel n none), p)
    else
      match number? name with
      | some m =>
        match p.channel? m with
        | some c => (some (p.setChannel n (some c)), p)
        | none => (none, (p.report (name ++ ": Bad file descriptor".toList)).withStatus 2)
      | none => (none, (p.report "Syntax error: Bad fd number".toList).withStatus 2)

/-- Redirections from the left. On failure the process has its old channels. -/
def redirectAll (capture : Capture) (p : Process) : List Redirection → Option Process × Process
  | [] => (some p, p)
  | d :: ds =>
    let channels := p.channels
    match redirect capture p d with
    | (some q, _) =>
      match redirectAll capture q ds with
      | (some r, s) => (some r, s)
      | (none, s) => (none, { s with channels })
    | (none, q) => (none, { q with channels })

inductive Executable where
  | program (p : Program)
  /-- A script, with the interpreter and its argument that its first line names. -/
  | script (interpreter : Bytes) (argument : Option Bytes)
  /-- A text without such a line. -/
  | text
  | refused
  | missing

def interpreterLine? (bytes : Bytes) : Option (Bytes × Option Bytes) :=
  match bytes with
  | '#' :: '!' :: r =>
    let isBlank (c : Char) : Bool := c = ' ' || c = '\t'
    let line := ((r.takeWhile (· ≠ '\n')).dropWhile isBlank).reverse.dropWhile isBlank |>.reverse
    let (name, rest) := line.span fun c => !isBlank c
    let argument := rest.dropWhile isBlank
    if name.isEmpty then none
    else some (name, if argument.isEmpty then none else some argument)
  | _ => none

def executableAt (t : FileTree) (here : Location) (file : Bytes) : Executable :=
  match t.find? here (pathOf file) with
  | some (_, .program q) => .program q
  | some (_, .file bytes true) =>
    match interpreterLine? (bytesOfUInt8 bytes) with
    | some (i, a) => .script i a
    | none => .text
  | some _ => .refused
  | none => .missing

/-- What a program that is started runs: a program, or a shell script with its name. -/
inductive Image where
  | program (p : Program) (arguments : List Bytes)
  | shell (arguments : List Bytes)
  /-- A text that is no program, with the arguments of its script. -/
  | text (name : Bytes) (arguments : List Bytes)
  | refused
  | missing

/-- Follows interpreters of interpreters, at most `depth` deep. -/
def image (t : FileTree) (here : Location) : Nat → Bytes → List Bytes → Image
  | 0, _, _ => .refused
  | depth + 1, file, args =>
    match executableAt t here file with
    | .program .shell => .shell args
    | .program q => .program q args
    | .script i a => image t here depth i (a.toList ++ file :: args)
    | .text => .text file args
    | .refused => .refused
    | .missing => .missing

/-- How deep interpreters may name interpreters. -/
def interpreterDepth : Nat := 5

def startBindings (p : Process) : List (Bytes × Bytes) :=
  [("PWD".toList, directoryName p.directory), ("OPTIND".toList, ['1']), ("IFS".toList, spaces),
    ("PS2".toList, "> ".toList), ("PS4".toList, "+ ".toList)]

def freshShell (p : Process) (name : Bytes) (arguments : List Bytes) : Process :=
  let own := startBindings p
  { p with
    main := p.id
    bindings := own ++ p.bindings.filter fun (n, _) =>
      p.exported.contains n && !own.any (·.1 = n)
    functions := []
    name, arguments
    status := 0
    exitOnFailure := false
    refuseUnset := false
    testing := false
    line := 1
    lastJob := none
    tracing := false
    loops := 0
    locals := []
    fixed := []
    atExit := none }

/-- The end of a loop's body: whether the loop goes on. -/
def afterBody (p : Process) : Process × Bool :=
  match p.flow with
  | .going => (p, true)
  | .breaking n => ({ p with flow := if n ≤ 1 then .going else .breaking (n - 1) }, false)
  | .continuing n =>
    if n ≤ 1 then ({ p with flow := .going }, true)
    else ({ p with flow := .continuing (n - 1) }, false)
  | .returning | .exiting | .stuck => (p, false)

def inLoop (p : Process) (step : Process → Process) : Process :=
  { step { p with loops := p.loops + 1 } with loops := p.loops }

/-- The child that a parent has run ends: what it did stays, its channels are let go. -/
def endJob (parent child : Process) : Process :=
  let p := parent.adopt child
  let stop := if child.flow = .stuck then child.clock + 1000000000000 else child.clock
  let w := p.world
  { p with
    world := { w with
      jobs := ⟨child.id, stop, child.status⟩ :: w.jobs
      held := if child.flow = .stuck then
          w.held.map fun h => if h.process = child.id then { h with time := stop } else h
        else w.held }
    lastJob := some child.id
    status := 0 }

/-- Ends the process at a failure that nobody tests for. -/
def checkFailure (p : Process) : Process :=
  if p.exitOnFailure ∧ !p.testing ∧ p.status ≠ 0 ∧ p.isGoing then { p with flow := .exiting }
  else p

/-- What there is to do for a process. -/
inductive Task where
  /-- To run a command. If it is the `last` one of its process, its redirections stay. -/
  | command (last : Bool) (c : Command)
  | simple (last : Bool) (assignments : List (Bytes × Word)) (words : List Word)
      (redirections : List Redirection)
  /-- To go round a loop, where the rounds before have ended with the status. -/
  | rounds (untilTrue : Bool) (condition body : Command) (status : Nat)
  | each (name : Bytes) (body : Command) (values : List Bytes)
  | cases (last : Bool) (text : Bytes) (branches : List (List Word × Command))
  /-- To run the commands of a pipeline, the first one with an input that is ready at a time. -/
  | piped (input : Option (Bytes × Time)) (commands : List Command)
  | script (s : Source)
  /-- To become a program that is looked up by its name. -/
  | program (name : Bytes) (arguments : List Bytes)
  /-- To become a shell: a script file and the script's arguments, or `-c` and a script. -/
  | shell (arguments : List Bytes)

/-- Carries out tasks. -/
abbrev Runner := Task → Process → Process

section

variable (go : Runner)

/-- The output of a script that a child runs. -/
def captureBy : Capture := fun p script =>
  let (p, k) := p.fresh
  let inside := p.fork.setChannel 1 (some (.pipe k))
  let child := go (.script { text := script, line := p.line }) inside
  let q := p.join child
  ({ q with clock := max q.clock (q.world.closing k) }, q.world.output k)

def within (p : Process) (redirections : List Redirection) (body : Process → Process) : Process :=
  if redirections.isEmpty then body p
  else
    match redirectAll (captureBy go) p redirections with
    | (none, q) => checkFailure q
    | (some q, _) => { body q with channels := p.channels }

/-- Runs a command whose failure is no failure of the process. -/
def runTested (c : Command) (p : Process) : Process :=
  let q := go (.command false c) { p with testing := true }
  { q with testing := p.testing }

def runBackground (p : Process) (body : Command) : Process :=
  let (p, id) := p.fresh
  let (q, c) := ({ p with id }).openStream [] 0
  let q := { q with clock := q.clock + forkTime, atExit := none }
  endJob p (go (.command true body) (q.setChannel 0 (some c)))

def runCommand (last : Bool) (c : Command) (p : Process) : Process :=
  if !p.isGoing then p
  else
    match c with
    | .nothing => p
    | .simple line assignments words redirections =>
      go (.simple last assignments words redirections) { p with line }
    | .sequence a b => go (.command last b) (go (.command false a) p)
    | .both a b =>
      let q := runTested go a p
      if q.isGoing ∧ q.status = 0 then go (.command last b) q else q
    | .either a b =>
      let q := runTested go a p
      if q.isGoing ∧ q.status ≠ 0 then go (.command last b) q else q
    | .background body => runBackground go p body
    | .subshell body redirections =>
      match redirectAll (captureBy go) p.fork redirections with
      | (none, q) => checkFailure (p.join { q with status := 2 })
      | (some child, _) => checkFailure (p.join (go (.command true body) child))
    | .group body redirections => within go p redirections (go (.command last body))
    | .branch condition yes no redirections =>
      within go p redirections fun p =>
        let q := runTested go condition p
        if !q.isGoing then q
        else if q.status = 0 then go (.command last yes) q
        else go (.command last no) (q.withStatus 0)
    | .loop untilTrue condition body redirections =>
      within go p redirections fun p => inLoop p (go (.rounds untilTrue condition body 0))
    | .each name words body redirections =>
      within go p redirections fun p =>
        let (p, values) : Process × List Bytes := match words with
          | some ws => expandFields (captureBy go) p ws
          | none => (p, p.arguments)
        inLoop (p.withStatus 0) (go (.each name body values))
    | .cases subject branches redirections =>
      within go p redirections fun p =>
        let (p, text) := expandText (captureBy go) p subject
        go (.cases last text branches) p
    | .define name body =>
      { p with functions := (name, body) :: p.functions.filter (·.1 ≠ name), status := 0 }
    | .pipeline negated commands =>
      let q := go (.piped none commands) { p with testing := p.testing || negated }
      let q := { q with testing := p.testing }
      if negated then { q with status := if q.status = 0 then 1 else 0 } else checkFailure q

def runRound (untilTrue : Bool) (condition body : Command) (status : Nat) (p : Process) : Process :=
  match afterBody (runTested go condition p) with
  | (q, false) => q
  | (q, true) =>
    if (q.status = 0) = !untilTrue then
      match afterBody (go (.command false body) q) with
      | (r, false) => r
      | (r, true) => go (.rounds untilTrue condition body r.status) r
    else q.withStatus status

def runEach (name : Bytes) (body : Command) (values : List Bytes) (p : Process) : Process :=
  match values with
  | [] => p
  | v :: vs =>
    if !p.isGoing then p
    else
      match afterBody (go (.command false body) (p.set name v)) with
      | (q, false) => q
      | (q, true) => go (.each name body vs) q

/-- Whether one of the patterns matches a text. Patterns after it are not expanded. -/
def matchesAny (capture : Capture) (p : Process) (patterns : List Word) (text : Bytes) :
    Process × Bool :=
  patterns.foldl (fun (p, found) w =>
    if found then (p, true)
    else
      let (p, atoms) := expand capture p w
      (p, isMatch (pattern atoms) text)) (p, false)

def runCases (last : Bool) (text : Bytes) (branches : List (List Word × Command)) (p : Process) :
    Process :=
  match branches with
  | [] => p.withStatus 0
  | (patterns, body) :: branches =>
    let (p, found) := matchesAny (captureBy go) p patterns text
    if !p.isGoing then p
    else if found then go (.command last body) (p.withStatus 0)
    else go (.cases last text branches) p

/-- Gives a process an input, if there is one for it. -/
def withInput (input : Option (Bytes × Time)) (q : Process) : Process :=
  match input with
  | some (bytes, ready) =>
    let (q, s) := q.openStream bytes ready
    q.setChannel 0 (some s)
  | none => q

/-- Each command of a pipeline has the output of the one before it as its input. -/
def runPiped (input : Option (Bytes × Time)) (commands : List Command) (p : Process) : Process :=
  match commands, input with
  | [], _ => p
  | [c], none => go (.command false c) p
  | [c], some _ =>
    let q := p.join (go (.command true c) (withInput input p.fork))
    { q with clock := max q.clock p.clock }
  | c :: cs, _ =>
    let (q, k) := p.fresh
    let child := go (.command true c) ((withInput input q.fork).setChannel 1 (some (.pipe k)))
    let q := q.adopt child
    let q := if child.flow = .stuck then { q with flow := .stuck } else q
    let r := go (.piped (some (q.world.output k, q.world.closing k)) cs) q
    { r with clock := max r.clock child.clock }

def runScript (s : Source) (p : Process) : Process :=
  if s.text.isEmpty ∨ !p.isGoing then p
  else
    match nextLine s with
    | .error f => (({ p with line := s.line }).report f.message.toList).exitWith 2
    | .ok (c, rest) =>
      let q := go (.command false c) p
      let q := match q.flow with
        | .breaking _ | .continuing _ => { q with flow := .going }
        | _ => q
      go (.script rest) q

/-- Starts a program in place of the process. -/
def runNamed (name : Bytes) (args : List Bytes) (p : Process) : Process :=
  match findProgram? p name with
  | none => (p.report (name ++ ": not found".toList)).withStatus 127
  | some file =>
    match image p.world.files p.directory interpreterDepth file args with
    | .program q args => runProgram q p args
    | .shell args => go (.shell args) p
    | .text script args => go (.shell (script :: args)) p
    | .refused => (p.report (name ++ ": Permission denied".toList)).withStatus 126
    | .missing => (p.report (name ++ ": not found".toList)).withStatus 127

/-- The end of a shell: it runs the script that is kept for its end. -/
def finish (q : Process) : Process :=
  let q := if q.flow = .exiting ∨ q.flow = .returning then { q with flow := .going } else q
  match q.atExit with
  | some script =>
    if q.isGoing then
      let r := go (.script { text := script, line := q.line }) { q with atExit := none }
      { r with status := q.status, flow := if r.flow = .stuck then .stuck else .going }
    else q
  | none => q

def runShell (args : List Bytes) (p : Process) : Process :=
  let p := p.spend startTime
  match args with
  | ['-', 'c'] :: script :: rest =>
    finish go (go (.script { text := script })
      (freshShell p (rest.head?.getD "sh".toList) (rest.drop 1)))
  | file :: rest =>
    if file.head? = some '-' ∧ 1 < file.length then go (.shell rest) p
    else
      match p.world.files.read p.directory (pathOf file) with
      | .ok bytes =>
        finish go (go (.script { text := bytesOfUInt8 bytes }) (freshShell p file rest))
      | .error .isDirectory => p.withStatus 2
      | .error _ =>
        let message := "sh: 0: cannot open ".toList ++ file ++ ": No such file\n".toList
        (p.complain message).withStatus 2
  | [] =>
    let (q, script) := p.input 0
    finish go (go (.script { text := script }) (freshShell q "sh".toList []))

/-- Makes the assignments before a command. -/
def assignIn (assignments : List (Bytes × Word)) (q : Process) : Process :=
  assignments.foldl (fun q (name, w) =>
    let (q, value) := expandText (captureBy go) q w
    q.set name value) q

/-- A function runs with arguments and variables of its own. -/
def runFunction (body : Command) (args : List Bytes) (q : Process) : Process :=
  let r := go (.command false body) { q with arguments := args, loops := 0, locals := [] }
  let r := r.locals.foldl (fun r (n, old) => r.restore n old) r
  let r : Process := { r with arguments := q.arguments, loops := q.loops, locals := q.locals }
  if r.flow = .returning then { r with flow := .going } else r

/-- Runs a command in the process `q`, which `p` has become by redirections. The channels come back
after the command, unless the process ends with it. -/
def runRedirected (last : Bool) (assignments : List (Bytes × Word)) (direct : Bool)
    (command : Bytes) (args : List Bytes) (p q : Process) : Process :=
  let restore (r : Process) : Process := { r with channels := p.channels }
  let name := textOf command
  match name with
  | "exec" =>
    let q := assignIn go assignments q.noteHeld
    match args with
    | [] => q.withStatus 0
    | file :: args =>
      let q := { q with exported := assignments.map (·.1) ++ q.exported, atExit := none }
      let r := go (.program file args) q
      if r.isGoing then { r with flow := .exiting } else r
  | "eval" =>
    let s : Source := { text := [' '].intercalate args, line := q.line }
    checkFailure (restore (go (.script s) (assignIn go assignments q)))
  | "." =>
    match args with
    | [] => restore q
    | file :: _ =>
      match q.world.files.read q.directory (pathOf file) with
      | .ok bytes =>
        let r := go (.script { text := bytesOfUInt8 bytes }) (assignIn go assignments q)
        restore (if r.flow = .returning then { r with flow := .going } else r)
      | .error _ =>
        (q.report (".: cannot open ".toList ++ file ++ ": No such file".toList)).exitWith 2
  | _ =>
    match (if direct then none else q.functions.lookup command) with
    | some body =>
      checkFailure (restore (runFunction go body args (assignIn go assignments q)))
    | none =>
      match builtin? name with
      | some f =>
        let r := f (assignIn go assignments q) args
        let r := if isSpecial name then r
          else assignments.foldl (fun r (n, _) => r.restore n (q.get? n)) r
        checkFailure (restore r)
      | none =>
        let exporting (c : Process) : Process :=
          let c := assignIn go assignments c
          { c with exported := assignments.map (·.1) ++ c.exported }
        if last then
          -- the process itself becomes the program, and lets go of its old channels
          let q := { q with world := { q.world with held := p.heldNow ++ q.world.held } }
          go (.program command args) (exporting q)
        else
          let child := go (.program command args) (exporting q.fork)
          checkFailure (restore (q.join child))

/-- Shows the fields of a command before it is run, if that is wanted. -/
def traced (p : Process) (fields : List Bytes) : Process :=
  if p.tracing ∧ !fields.isEmpty then
    p.complain ("+ ".toList ++ [' '].intercalate fields ++ ['\n'])
  else p

/-- Runs the command that fields make: the redirections are opened, then the assignments made. -/
def runFields (last : Bool) (assignments : List (Bytes × Word)) (words : List Word)
    (redirections : List Redirection) (fields : List Bytes) (p : Process) : Process :=
  match fields with
  | [] =>
    match redirectAll (captureBy go) p redirections with
    | (none, q) => checkFailure q
    | (some q, _) =>
      let before := if words.isEmpty ∧ !assignments.isEmpty then q.withStatus 0 else q
      let r := assignIn go assignments { before with channels := p.channels }
      checkFailure (if assignments.isEmpty ∧ words.isEmpty then r.withStatus 0 else r)
  | first :: rest =>
    let direct := first = "command".toList ∧ rest.head?.any fun a => a.head? ≠ some '-'
    let (command, args) := if direct then (rest.headD [], rest.drop 1) else (first, rest)
    match redirectAll (captureBy go) p redirections with
    | (none, q) =>
      if isSpecial (textOf command) then q.exitWith 2 else checkFailure (q.withStatus 2)
    | (some q, _) => runRedirected go last assignments direct command args p q

def runSimple (last : Bool) (assignments : List (Bytes × Word)) (words : List Word)
    (redirections : List Redirection) (p : Process) : Process :=
  let (p, fields) := expandFields (captureBy go) (p.spend stepTime) words
  if !p.isGoing then p
  else runFields go last assignments words redirections fields (traced p fields)

def step : Runner
  | .command last c => runCommand go last c
  | .simple last assignments words redirections =>
    runSimple go last assignments words redirections
  | .rounds untilTrue condition body status => runRound go untilTrue condition body status
  | .each name body values => runEach go name body values
  | .cases last text branches => runCases go last text branches
  | .piped input commands => runPiped go input commands
  | .script s => runScript go s
  | .program name args => runNamed go name args
  | .shell args => runShell go args

end

/-- Tasks nest no deeper than the fuel. -/
def perform : Nat → Runner
  | 0, _, p => { p with flow := .stuck }
  | fuel + 1, t, p => step (perform fuel) t p

def depth : Nat := 400000

end ListingPanel.Shell
