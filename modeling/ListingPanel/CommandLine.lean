import ListingPanel.CommandLine.Arguments
import ListingPanel.CommandLine.Help
import ListingPanel.Config.File
import ListingPanel.Panel

/-!
The program on the command line: it prints the listing of one file, with the blocks of the selected
lines highlighted.
-/
namespace ListingPanel.CommandLine

inductive Fault where
  | log (file : Path) (f : FileFault)
  | config (file : Path) (f : ConfigFault)
  deriving DecidableEq

def Fault.parts : Fault → String × String
  | .log p f => ("Failed to open log file " ++ p.text, f.message)
  | .config p f => ("Failed to load config from " ++ p.text, f.message)

def Fault.message (f : Fault) : String :=
  "Error: " ++ f.parts.1 ++ "\n\nCaused by:\n    " ++ f.parts.2 ++ "\n"

/-- How the program ends: its exit code, what it prints, and the machine it leaves. -/
structure Outcome where
  code : Nat := 0
  output : String := ""
  errors : String := ""
  machine : Machine

variable (launch : Launcher) (accountHome : Path) (m : Machine)

def logFile (o : Options) : Path :=
  o.logFile.getD (m.environment.temporaryDirectory.join "bytesight.log")

def openLog (o : Options) : Except Fault Machine :=
  match m.files.openToWrite m.directory (logFile m o) with
  | .ok (_, files) => .ok { m with files }
  | .error f => .error (.log (logFile m o) f)

/-- The configuration named by the options, or else the user's, with the options on top. -/
def loadConfig (o : Options) : Except Fault Config := do
  let c ← match o.config with
    | some p => (Config.load m.files m.directory p).mapError (.config p)
    | none =>
      pure (Config.loadOrDefault m.files m.directory (m.environment.configFile accountHome))
  match o.python with
  | some p => return { c with python.interpreter := some p }
  | none => return c

def host (c : Config) (file : Path) (o : Options) : Host :=
  let toolchain := Toolchain.resolve? m.files m.directory c.python.interpreter
    (m.environment.get? "PATH")
  let h := Host.forFile file toolchain m
  match o.lines with
  | some s => h.setSelection Host.singleEditor (some s)
  | none => h

/-- The refreshed and settled panel. Without a height in the options it shows all lines. -/
def panel (c : Config) (file : Path) (o : Options) : SyncedPanel × Host :=
  let (p, h) := (SyncedPanel.ofConfig c (o.height.getD 1)).refresh launch 0 (host m c file o)
  let p := match o.height with
    | some _ => p
    | none => p.resize (max 1 p.view.surface.lines.size)
  (p.settle, h)

/-- Sets a background, and takes it away again. Without colors both become a plain reset. -/
def background (colored : Bool) (c : Color) : String × String :=
  if colored then
    (s!"\x1b[48;2;{c.red};{c.green};{c.blue}m", "\x1b[49m")
  else ("\x1b[m", "\x1b[m")

def printLine (o : Options) (colored : Bool) (c : Color) (highlighted : Bool) (line : String) :
    String :=
  if o.plain then line
  else
    let text := String.ofList (line.toList.drop Surface.marker.length)
    if highlighted then
      let (on, off) := background colored c
      on ++ text ++ off
    else text

def printed (o : Options) (colored : Bool) (s : Surface) : List String :=
  s.plainLines.map fun (highlighted, line) =>
    printLine o colored s.highlightColor highlighted line

def isColored : Bool := ((m.environment.get? "NO_COLOR").getD "").isEmpty

def showListing (file : Path) (o : Options) : Outcome :=
  match openLog m o with
  | .error f => { code := 1, errors := f.message, machine := m }
  | .ok m =>
    match loadConfig accountHome m o with
    | .error f => { code := 1, errors := f.message, machine := m }
    | .ok c =>
      if o.dumpConfig then { output := c.text ++ "\n", machine := m }
      else
        let (p, h) := panel launch m c file o
        let lines := printed o (isColored m) p.view.surface
        { output := String.join (lines.map (· ++ "\n")), machine := h.machine }

def execute (args : List String) : Outcome :=
  match Request.ofArguments args with
  | .error f =>
    { code := 2
      errors := "error: " ++ f.message ++ "\n\n" ++ usage ++
        "\nFor more information, try '--help'.\n"
      machine := m }
  | .ok .help => { output := helpText, machine := m }
  | .ok .version => { output := versionText, machine := m }
  | .ok (.listing file o) => showListing launch accountHome m file o

end ListingPanel.CommandLine
