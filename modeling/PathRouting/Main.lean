import PathRouting.CommandLine.Run
import Std.Time.DateTime.Timestamp

/-! The program. It takes the files that a run may look at from the disk, runs, shows
the report, and puts the cache file on the disk if the run has written one. -/

namespace PathRouting.CommandLine

/-- Takes a file from the disk, or else the directory around it. -/
def takeFile (path : String) (files : Files) : IO Files := do
  let isDirectory (path : String) : IO Bool := do
    try (← IO.FS.realPath path).isDir catch _ => return false
  if ← isDirectory path then return files.place path .directory
  try
    return files.place path (.text (← IO.FS.readFile path))
  catch _ =>
    let around := String.intercalate "/" (path.splitOn "/").dropLast
    if around ≠ "" && (← isDirectory around) then return files.place around .directory
    return files

/-- The path of the cache file that a configuration file names. -/
def cachePath? (files : Files) (path : String) : Option String :=
  match files.get? path with
  | some (.text text) => (Config.ofTomlText? text).bind fun config => config.cache.path
  | _ => none

/-- The files that a run may look at, and the path of the one that it may write. -/
def takeFiles (arguments : List String) : IO (Files × Option String) := do
  match read arguments with
  | .run { config := some path, .. } =>
    let files ← takeFile path Files.empty
    match cachePath? files path with
    | some cache => return (← takeFile cache files, some cache)
    | none => return (files, none)
  | _ => return (Files.empty, none)

def runOnDisk (arguments : List String) : IO UInt32 := do
  let (files, cache) ← takeFiles arguments
  let seconds := (← Std.Time.Timestamp.now).toSecondsSinceUnixEpoch.val.toNat
  let filter ← IO.getEnv "RUST_LOG"
  let (report, host) := run filter arguments { now := seconds, files }
  for event in report.logged do
    IO.println (logLine report.layout (toString seconds) event)
  for document in report.document do
    IO.println document
  for failure in report.failure do
    IO.eprintln failure
  for path in cache do
    match host.files.get? path with
    | some (.text text) => if files.get? path ≠ some (.text text) then IO.FS.writeFile path text
    | _ => pure ()
  return report.status.toUInt32

end PathRouting.CommandLine

def main (arguments : List String) : IO UInt32 := PathRouting.CommandLine.runOnDisk arguments
