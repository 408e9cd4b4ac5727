import SmartScale.Cli.Session

/-!
# The program

The outer layer of the command line: it takes a picture of the files that a call is about, lets
`Session.run` do the work on it, and writes back the files that have changed, each as a whole.
-/

namespace SmartScale

namespace Program

/-- The names that lead to the process's working directory. -/
def workingNames : IO (List String) := do
  return Path.names (← IO.currentDir).toString

/-- The path is a directory. -/
def isDirectory (path : String) : IO Bool := do
  let place := (← IO.currentDir) / path
  place.isDir

/-- Takes the directories on a path into the picture, if they are there. -/
def captureDirectories (disk : Disk) (path : String) : IO Disk := do
  if path = "" || (← isDirectory path) then
    return (disk.createDirectories path).toOption.getD disk
  else return disk

/-- Takes a file, or the lack of one, into the picture. -/
def capture (disk : Disk) (path : String) : IO Disk := do
  let disk ← captureDirectories disk (Path.parent path)
  if ← isDirectory path then captureDirectories disk path
  else
    try
      let bytes ← IO.FS.readBinFile path
      return ((disk.replaceFile path bytes.toList).toOption).getD disk
    catch _ => return disk

/-- Makes the directory of a file if the call has made it in the picture. -/
def publishDirectory (before after : Disk) (path : String) : IO Unit := do
  let parent := Path.parent path
  if (after.lookup parent).toOption = some .directory
      && (before.lookup parent).toOption ≠ some .directory then
    IO.FS.createDirAll parent

/-- Writes a file that has changed, first under another name. -/
def publish (before after : Disk) (path : String) : IO Unit := do
  publishDirectory before after path
  match after.contents path with
  | .error _ => return ()
  | .ok bytes =>
    if (before.contents path).toOption = some bytes then return ()
    let draft := path ++ ".tmp"
    IO.FS.writeBinFile draft ⟨bytes.toArray⟩
    IO.FS.rename draft path

/-- Reads the standard input to its end. -/
partial def readAll (stream : IO.FS.Stream) (bytes : List UInt8) : IO (List UInt8) := do
  let chunk ← stream.read 4096
  if chunk.isEmpty then return bytes else readAll stream (bytes ++ chunk.toList)

/-- Calls the program. -/
def call (arguments : List String) : IO Completion := do
  let bare : Disk := ⟨← workingNames, []⟩
  match Arguments.parse arguments with
  | .error e => return Completion.ofUsageError bare e
  | .ok invocation =>
    let disk ← capture bare invocation.config
    let paths := Session.paths disk invocation
    let disk ← paths.foldlM capture disk
    let stdin ← if Session.readsStdin invocation then readAll (← IO.getStdin) [] else pure []
    let done := Session.run disk stdin arguments
    try
      paths.forM (publish disk done.disk)
      return done
    catch e =>
      let report := (Report.ofText (toString e)).within "saving calibration"
      return Completion.ofResponse invocation.json ⟨"", disk, some (.explained report)⟩

end Program

end SmartScale

/-- Calls the program and prints what it answers. -/
def main (arguments : List String) : IO UInt32 := do
  let done ← SmartScale.Program.call arguments
  IO.print done.stdout
  IO.eprint done.stderr
  return UInt32.ofNat done.code
