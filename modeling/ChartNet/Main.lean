import ChartNet.CommandLine

/-!
# The program

The outermost layer: arguments in, files read and written, lines printed. What to read, to write and
to say is decided by `Command`.
-/

namespace ChartNet.Program

/-- What stands at a path: a file with its text, or a directory with all that is below it. Below a
directory only documents are read. -/
partial def snapshot (path : String) (isBelow : Bool) : ExceptT Failure IO FileTree := do
  let place := (← IO.currentDir) / path
  if ← place.isDir then
    let listed ← (place.readDir).toBaseIO
    match listed with
    | .error _ => throw (Cause.file.within ("failed to read directory '" ++ path ++ "'"))
    | .ok listed =>
      let entries ← listed.toList.mapM fun e => do
        return (e.fileName, ← snapshot (Path.join path e.fileName) true)
      return .directory entries
  else if isBelow && !Models.isDocument [path] then return .file none
  else
    match ← (IO.FS.readFile place).toBaseIO with
    | .ok text => return .file (some text)
    | .error _ => return .file none

/-- The paths that a command reads. -/
def models : Command → List String
  | .convert models _ _ => models
  | .validate models => models

/-- Carries a delivery out on the disk. -/
def deliver (d : Delivery) : ExceptT Failure IO Unit := do
  if let .error _ ← (IO.FS.createDirAll d.directory).toBaseIO then
    throw (Delivery.noDirectory d.directory)
  for (name, text) in d.files do
    let path := Path.join d.directory name
    if let .error _ ← (IO.FS.writeFile path text).toBaseIO then
      throw (Delivery.noFile path)

/-- Runs a command; the line that it says. -/
def run (c : Command) : ExceptT Failure IO String := do
  let seen ← (models c).mapM fun path => do return (path, ← snapshot path false)
  let (delivery?, line) ← ExceptT.mk (pure (c.prepare fun path => seen.lookup path))
  if let some d := delivery? then deliver d
  return line

/-- How the program is called. -/
def usageText : String :=
  "A compiler of ROS-SCXML models into plain SCXML\n\n"
    ++ "Usage:\n"
    ++ "  chartnet convert <MODELS>... --output <DIR> [--max-time <SECONDS>]\n"
    ++ "  chartnet validate <MODELS>...\n"

/-- The version of the program. -/
def versionText : String := "chartnet 0.1.0\n"

/-- Answers a call that spells no command. -/
def explain (u : Usage) : IO UInt32 := do
  match u with
  | .help =>
    IO.print usageText
    return 0
  | .version =>
    IO.print versionText
    return 0
  | .helpOnMissing =>
    IO.eprint usageText
    return 2
  | u =>
    IO.eprintln ("error: " ++ u.message)
    IO.eprint usageText
    return 2

end ChartNet.Program

/-- The program. -/
def main (arguments : List String) : IO UInt32 := do
  match ChartNet.Command.parse arguments with
  | .error u => ChartNet.Program.explain u
  | .ok c =>
    match ← (ChartNet.Program.run c).run with
    | .ok line =>
      IO.println line
      return 0
    | .error f =>
      IO.println ("ERROR: " ++ f.message)
      return 1
