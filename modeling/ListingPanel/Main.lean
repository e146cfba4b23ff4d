import ListingPanel.CommandLine
import ListingPanel.Shell.Launch

/-!
The program. It takes a picture of the files that a run can need, runs on the picture, and writes
back the files that have changed. Scripts are run by the shell of this library.
-/
namespace ListingPanel.CommandLine

/-- Programs that are there without being looked for. -/
def knownPrograms : List (String × Program) :=
  [("sh", .shell), ("cat", .cat), ("sleep", .sleep), ("rm", .remove)]

/-- The location of an absolute path, as written. -/
def locationOf (absolute : String) : Location := (FileTree.steps ⟨absolute⟩).2.1

def picture (t : FileTree) (absolute : String) : IO FileTree := do
  let here ← IO.currentDir
  let l := locationOf absolute
  let mut t := t
  for n in List.range l.length do
    let part := l.take (n + 1)
    let p := here / ("/" ++ "/".intercalate part)
    if (t.get? part).isNone then
      if ← p.isDir then t := t.put part .directory
      else if ← p.pathExists then
        let bytes ← IO.FS.readBinFile p
        t := t.put part (.file bytes.toList (bytes.toList.take 2 = [0x23, 0x21]))
  return t

def readEnvironment : IO Environment := do
  let names := ["HOME", "XDG_CONFIG_HOME", "PATH", "TMPDIR", "NO_COLOR"]
  let given ← names.mapM fun n => return (n, ← IO.getEnv n)
  return given.filterMap fun (n, v) => v.map fun v => (n, v)

def namedPaths (accountHome : Path) (e : Environment) : Request → List Path
  | .listing file o =>
    [file, o.config.getD (e.configFile accountHome), e.temporaryDirectory] ++ o.logFile.toList
  | .help | .version => []

/-- The paths that a configuration names, and where an interpreter may be. -/
def configuredPaths (e : Environment) (c : Config) : List Path :=
  let roots := c.python.interpreter.toList
  c.python.helperScript.toList ++ roots ++
    (roots.flatMap fun r => Toolchain.installedNames.map r.join) ++
    Toolchain.candidates ((e.get? "PATH").getD "")

def withPaths (m : Machine) (ps : List Path) : IO Machine := do
  let full (p : Path) : String := (m.workingDirectory.join p.text).text
  return { m with files := ← ps.foldlM (fun t p => picture t (full p)) m.files }

def machineFor (accountHome : Path) (r : Request) : IO Machine := do
  let environment ← readEnvironment
  let here ← IO.currentDir
  let bin := knownPrograms.foldl (fun (t : FileTree) (n, p) => t.put ["bin", n] (.program p))
    ((({} : FileTree).put ["bin"] .directory).put ["dev"] .directory |>.put ["dev", "null"] .sink)
  let m : Machine :=
    { files := ← picture bin here.toString, directory := locationOf here.toString, environment }
  let m ← withPaths m (namedPaths accountHome environment r)
  match r with
  | .listing _ o =>
    match loadConfig accountHome m o with
    | .ok c => withPaths m (configuredPaths environment c)
    | .error _ => return m
  | .help | .version => return m

def writeBack (before after : FileTree) : IO Unit := do
  for (l, e) in after.entries do
    match e with
    | .file bytes _ =>
      if before.get? l ≠ some e then
        IO.FS.writeBinFile ("/" ++ "/".intercalate l) ⟨bytes.toArray⟩
    | _ => pure ()

end ListingPanel.CommandLine

open ListingPanel CommandLine in
def main (args : List String) : IO UInt32 := do
  let accountHome : Path := ⟨"/root"⟩
  let m ← match Request.ofArguments args with
    | .ok r => machineFor accountHome r
    | .error _ => pure {}
  let out := execute Shell.launch accountHome m args
  (← IO.getStdout).putStr out.output
  (← IO.getStderr).putStr out.errors
  writeBack m.files out.machine.files
  return UInt32.ofNat out.code
