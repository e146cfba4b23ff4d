import ListingPanel.Path
import ListingPanel.Selection.Text

/-!
The arguments of the command line: a file, options with a value, and switches. An option takes its
value after an equals sign or from the next argument, and is looked into when the argument after
that comes up. Two hyphens end the options.
-/
namespace ListingPanel.CommandLine

inductive Valued where
  | lines
  | python
  | config
  | logFile
  | height
  deriving DecidableEq, Repr

inductive Switch where
  | plain
  | dumpConfig
  | help
  | version
  deriving DecidableEq, Repr

def Valued.name : Valued → String
  | lines => "lines"
  | python => "python"
  | config => "config"
  | logFile => "log-file"
  | height => "height"

/-- The option and what it takes. -/
def Valued.label (o : Valued) : String :=
  "--" ++ o.name ++ match o with
    | lines => " <A[:B]>"
    | python | config | logFile => " <PATH>"
    | height => " <N>"

def Switch.name : Switch → String
  | plain => "plain"
  | dumpConfig => "dump-config"
  | help => "help"
  | version => "version"

def Switch.label (s : Switch) : String := "--" ++ s.name

def Valued.all : List Valued := [lines, python, config, logFile, height]

def Switch.all : List Switch := [plain, dumpConfig, help, version]

def fileLabel : String := "<FILE>"

structure Options where
  lines : Option Selection := none
  python : Option Path := none
  config : Option Path := none
  logFile : Option Path := none
  height : Option Nat := none
  plain : Bool := false
  dumpConfig : Bool := false
  deriving DecidableEq

inductive Request where
  | listing (file : Path) (options : Options)
  | help
  | version
  deriving DecidableEq

inductive UsageFault where
  | noFile
  | unexpected (argument : String)
  | noValue (label : String)
  | invalidValue (value label reason : String)
  | repeated (label : String)
  | unexpectedValue (value label : String)
  deriving DecidableEq, Repr

def UsageFault.message : UsageFault → String
  | .noFile => "the following required arguments were not provided:\n  " ++ fileLabel
  | .unexpected a => "unexpected argument '" ++ a ++ "' found"
  | .noValue l => "a value is required for '" ++ l ++ "' but none was supplied"
  | .invalidValue v l r => "invalid value '" ++ v ++ "' for '" ++ l ++ "': " ++ r
  | .repeated l => "the argument '" ++ l ++ "' cannot be used multiple times"
  | .unexpectedValue v l =>
    "unexpected value '" ++ v ++ "' for '" ++ l ++ "' found; no more were expected"

namespace Options

def has (s : Options) : Valued → Bool
  | .lines => s.lines.isSome
  | .python => s.python.isSome
  | .config => s.config.isSome
  | .logFile => s.logFile.isSome
  | .height => s.height.isSome

def readPath (label value : String) : Except UsageFault Path :=
  if value.isEmpty then .error (.noValue label) else .ok ⟨value⟩

/-- Gives an option its value, which it may have only once. -/
def give (s : Options) (o : Valued) (value : String) : Except UsageFault Options := do
  if s.has o then throw (.repeated o.label)
  match o with
  | .lines =>
    match Selection.ofText value.toList with
    | .ok l => return { s with lines := some l }
    | .error f => throw (.invalidValue value o.label f.message)
  | .python => return { s with python := some (← readPath o.label value) }
  | .config => return { s with config := some (← readPath o.label value) }
  | .logFile => return { s with logFile := some (← readPath o.label value) }
  | .height =>
    match Text.readNumeral value.toList with
    | .ok n => return { s with height := some n }
    | .error e => throw (.invalidValue value o.label e.message)

end Options

/-- An argument that has not been looked into. -/
inductive Pending where
  | file (text : String)
  | option (o : Valued) (value : Option String)
  deriving DecidableEq, Repr

structure Reading where
  file : Option Path := none
  options : Options := {}
  pending : Option Pending := none
  /-- A file has been given. -/
  fileSeen : Bool := false
  /-- All further arguments are values. -/
  ended : Bool := false
  deriving DecidableEq

namespace Reading

def resolve (r : Reading) : Except UsageFault Reading := do
  let s := { r with pending := none }
  match r.pending with
  | none => return r
  | some (.file text) => return { s with file := some (← Options.readPath fileLabel text) }
  | some (.option o none) => throw (.noValue o.label)
  | some (.option o (some v)) => return { s with options := ← r.options.give o v }

/-- What follows one argument: more of them, or an answer at once. -/
abbrev Step := Except UsageFault (Reading ⊕ Request)

/-- An argument that is no option: the value of the option before it, or the file. -/
def value (r : Reading) (a : String) : Step := do
  match r.pending with
  | some (.option o none) =>
    if !r.ended then return .inl { r with pending := some (.option o (some a)) }
  | _ => pure ()
  if r.fileSeen then throw (.unexpected a)
  return .inl { ← r.resolve with pending := some (.file a), fileSeen := true }

def switch (r : Reading) (s : Switch) : Step := do
  let r ← r.resolve
  match s with
  | .plain =>
    if r.options.plain then throw (.repeated s.label)
    return .inl { r with options.plain := true }
  | .dumpConfig =>
    if r.options.dumpConfig then throw (.repeated s.label)
    return .inl { r with options.dumpConfig := true }
  | .help => return .inr .help
  | .version => return .inr .version

/-- The name of a long option, and what follows the equals sign. -/
def splitAtEquals (cs : List Char) : List Char × Option (List Char) :=
  match cs.dropWhile (· ≠ '=') with
  | _ :: r => (cs.takeWhile (· ≠ '='), some r)
  | [] => (cs, none)

def long (r : Reading) (cs : List Char) : Step := do
  let (n, attached) := splitAtEquals cs
  let name := String.ofList n
  match Valued.all.find? (·.name = name), Switch.all.find? (·.name = name), attached with
  | some o, _, some v =>
    let r ← r.resolve
    return .inl { r with options := ← r.options.give o (String.ofList v) }
  | some o, _, none => return .inl { ← r.resolve with pending := some (.option o none) }
  | none, some s, some v => throw (.unexpectedValue (String.ofList v) s.label)
  | none, some s, none => r.switch s
  | none, none, _ => throw (.unexpected ("--" ++ name))

/-- The first letter after a single hyphen; the others are never looked at. -/
def short (r : Reading) (c : Char) : Step :=
  if c = 'h' then r.switch .help
  else if c = 'V' then r.switch .version
  else .error (.unexpected (String.ofList ['-', c]))

def step (r : Reading) (a : String) : Step :=
  if r.ended then r.value a
  else
    match a.toList with
    | ['-', '-'] => .ok (.inl { r with ended := true })
    | '-' :: '-' :: cs => r.long cs
    | '-' :: c :: _ => r.short c
    | _ => r.value a

def finish (r : Reading) : List String → Except UsageFault Request
  | [] => do
    let r ← r.resolve
    match r.file with
    | some file => return .listing file r.options
    | none => throw .noFile
  | a :: as =>
    match r.step a with
    | .error f => .error f
    | .ok (.inl r) => r.finish as
    | .ok (.inr answer) => .ok answer

end Reading

def Request.ofArguments (args : List String) : Except UsageFault Request :=
  ({} : Reading).finish args

end ListingPanel.CommandLine
