import ChartNet.Document.Writer
import ChartNet.Failure
import ChartNet.Files.System
import ChartNet.Manifest
import ChartNet.Network

/-!
# Deliveries

What a conversion writes: one document for each chart and the manifest, all in one directory. The
delivery is a value; carrying it out stops at the first file that cannot be created.
-/

namespace ChartNet

/-- Files that are to be written into a directory. -/
structure Delivery where
  /-- the path of the directory -/
  directory : String
  /-- the names and texts, in order -/
  files : List (String × String)

/-- The name of the file with a chart. -/
def Chart.fileName (c : Chart) : String := c.name ++ ".scxml"

/-- The name of the file with the manifest. -/
def Manifest.fileName : String := "timers.json"

/-- The delivery of a compiled network. -/
def Compiled.delivery (out : Compiled) (directory : String)
    (maxTime? : Option UInt64) : Delivery :=
  ⟨directory, out.charts.map (fun c => (c.fileName, Document.write c))
    ++ [(Manifest.fileName, Manifest.text ⟨maxTime?, out.timers⟩)]⟩

namespace Delivery

/-- The directory cannot be created. -/
def noDirectory (path : String) : Failure :=
  Cause.file.within ("failed to create directory '" ++ path ++ "'")

/-- A file cannot be created. -/
def noFile (path : String) : Failure :=
  Cause.file.within ("failed to create file '" ++ path ++ "'")

/-- Writes files into a directory. -/
def writeFiles (directory : String) :
    List (String × String) → FileSystem → Except Failure Unit × FileSystem
  | [], fs => (.ok (), fs)
  | (name, text) :: files, fs =>
    let path := Path.join directory name
    match fs.create path text with
    | some fs => writeFiles directory files fs
    | none => (.error (noFile path), fs)

/-- Carries the delivery out. -/
def perform (d : Delivery) (fs : FileSystem) : Except Failure Unit × FileSystem :=
  match fs.makeDirectories d.directory with
  | some fs => writeFiles d.directory d.files fs
  | none => (.error (noDirectory d.directory), fs)

end Delivery

end ChartNet
