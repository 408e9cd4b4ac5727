import SmartScale.Cli.Commands
import SmartScale.Cli.Explain
import SmartScale.Cli.LogFilter
import SmartScale.Config.Decode

/-!
# Calls of the program

A call takes arguments, a disk and the standard input, and gives an exit code, what is printed, and
the disk after the call.  Arguments that make up no call have a code of their own; any other failure
is explained on the standard error, for people or for machines.
-/

namespace SmartScale

structure Completion where
  code : Nat
  stdout : String
  stderr : String
  disk : Disk

namespace Completion

def success : Nat := 0

def failure : Nat := 1

/-- Exit code of arguments that make up no call. -/
def usage : Nat := 2

/-- Exit code of a call that broke off. -/
def brokenOff : Nat := 101

def ofUsageError (disk : Disk) : UsageError → Completion
  | .help page => ⟨success, page, "", disk⟩
  | .version =>
    ⟨success, Arguments.programName ++ " " ++ Arguments.programVersion ++ "\n", "", disk⟩
  | e => ⟨usage, "", "error: " ++ e.message ++ "\n\n" ++ Arguments.programPage, disk⟩

def ofResponse (json : Bool) (r : Response) : Completion :=
  match r.failure with
  | none => ⟨success, r.output, "", r.disk⟩
  | some (.explained report) =>
    let text := if json then Explain.json report else Explain.report report
    ⟨failure, r.output, text ++ "\n", r.disk⟩
  | some (.brokenOff message) => ⟨brokenOff, r.output, message ++ "\n", r.disk⟩

end Completion

namespace Session

def configText (disk : Disk) (path : String) : Except Report String :=
  let context := "reading config " ++ path
  match disk.contents path with
  | .error e => .error ((Report.ofText e.message).within context)
  | .ok bytes =>
    match Utf8.decode bytes with
    | .error _ => .error ((Report.ofText notTextMessage).within context)
    | .ok text => .ok (String.ofList text)

/-- The checked configuration, its paths still relative to its own place. -/
def readConfig (disk : Disk) (path : String) : Except Report Config :=
  (configText disk path).bind fun text =>
    match Config.parse text with
    | .error e => .error ((Report.ofText (e.explanation text)).within "parsing config TOML")
    | .ok config =>
      match config.check with
      | .error fault => .error ((Report.ofText fault.message).within "invalid configuration")
      | .ok () => .ok config

/-- The configuration with the store's path taken from the working directory. -/
def locateStore (base : String) (config : Config) : Config :=
  { config with store := { config.store with path := Path.join base config.store.path } }

def defaultLogLevel : String := "info"

def checkLogLevel (level : String) : Except Failure Unit :=
  match LogFilter.check level with
  | .ok () => .ok ()
  | .error .splitCharacter =>
    .error (.brokenOff (String.intercalate ": " (LogFilterError.chain .splitCharacter)))
  | .error e =>
    let context := "invalid log level " ++ Text.quote level
    .error (.explained (Report.ofChain (context :: e.chain)))

/-- The path of the log file, without a date. -/
def logPath (base file : String) : Option String :=
  let path := Path.join base file
  (Path.fileName? path).map (Path.join (Path.parent path))

/-- Sees to the log file, whose name has a date at its end where a new one is begun from time to
time.  The file is named by the last name of the path that the configuration gives. -/
def openLogFile (base : String) (logging : LoggingSettings) (disk : Disk) (file : String) :
    Except Failure Disk :=
  match logPath base file with
  | none =>
    .error (.explained
      (Report.ofText ("logging.file " ++ Text.quote file ++ " has no file name")))
  | some path =>
    match disk.ensureFile (path ++ logging.dateMark) with
    | .ok disk => .ok disk
    | .error e => .error (.brokenOff ("log file " ++ Text.quote file ++ ": " ++ e.message))

def prepareLog (invocation : Invocation) (base : String) (logging : LoggingSettings)
    (disk : Disk) : Except Failure Disk :=
  let level := (invocation.logLevel.or logging.level).getD defaultLogLevel
  (checkLogLevel level).bind fun () =>
    match logging.file with
    | none => .ok disk
    | some file => openLogFile base logging disk file

def perform (disk : Disk) (stdin : List UInt8) (invocation : Invocation) : Response :=
  let base := Path.parent invocation.config
  match readConfig disk invocation.config with
  | .error report => ⟨"", disk, some (.explained report)⟩
  | .ok config =>
    match prepareLog invocation base config.logging disk with
    | .error failure => ⟨"", disk, some failure⟩
    | .ok disk =>
      CommandContext.perform ⟨locateStore base config, invocation.json, disk, stdin⟩
        invocation.command

/-- The paths of the files that a call may look at or change, apart from the configuration. -/
def paths (disk : Disk) (invocation : Invocation) : List String :=
  let base := Path.parent invocation.config
  let configured := match readConfig disk invocation.config with
    | .ok config =>
      (locateStore base config).store.path :: (config.logging.file.bind (logPath base)).toList
    | .error _ => []
  let given := match invocation.command with
    | .importObjects table => table.toList
    | .classify input _ _ _ => input.toList.filter (· != "-")
    | _ => []
  configured ++ given

def readsStdin (invocation : Invocation) : Bool :=
  match invocation.command with
  | .classify input _ _ _ => input.getD "-" == "-"
  | _ => false

def run (disk : Disk) (stdin : List UInt8) (arguments : List String) : Completion :=
  match Arguments.parse arguments with
  | .error e => Completion.ofUsageError disk e
  | .ok invocation => Completion.ofResponse invocation.json (perform disk stdin invocation)

end Session

end SmartScale
