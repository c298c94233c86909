import AttackSharkX3.Effects.Ends
import AttackSharkX3.Log.Civil
import AttackSharkX3.Report.Hex
/-!
# Rotating — the log file and its two generations

A line is appended to `gui.log`, and once the file is over its cap it becomes `.1`, and `.1` becomes `.2`.  Every error of the
file system is ignored, so each operation may fail and the log goes on.
-/
namespace AttackSharkX3

open Effects (Fallible Prog Sig)
open Effects.Prog (Ends History)

/-! ## Levels and lines -/

inductive LogLevel where
  | off
  | error
  | warn
  | info
  | debug
  | trace
deriving DecidableEq

namespace LogLevel

def rank : LogLevel → Nat
  | .off => 0
  | .error => 1
  | .warn => 2
  | .info => 3
  | .debug => 4
  | .trace => 5

def asStr : LogLevel → String
  | .off => "OFF"
  | .error => "ERROR"
  | .warn => "WARN"
  | .info => "INFO"
  | .debug => "DEBUG"
  | .trace => "TRACE"

/-- A gate records an event. -/
def enabled (gate event : LogLevel) : Bool := gate ≠ .off ∧ event ≠ .off ∧ event.rank ≤ gate.rank

end LogLevel

def isLineBreak (c : Char) : Bool := c = '\r' ∨ c = '\n'

/-- **A text on one line.** -/
def singleLine (text : String) : String :=
  if text.toList.any isLineBreak then String.ofList (text.toList.map fun c => if isLineBreak c then ' ' else c) else text

def formatLine (secs : Nat) (level : LogLevel) (target message : String) : String :=
  s!"{formatUnixTimestamp secs} {level.asStr} {singleLine target}: {singleLine message}"

/-! ## The files -/

inductive IoError where
  | other
deriving DecidableEq

/-- What the logger asks of its surroundings. -/
inductive LogOp where
  | now
  /-- `fs::metadata(path).len()` -/
  | length (path : String)
  /-- Opens the file for appending, or creates it, and writes. -/
  | append (path : String) (bytes : List UInt8)
  | removeFile (path : String)
  | exists_ (path : String)
  | rename (source target : String)
  /-- `File::create`, which empties the file, and `write_all`. -/
  | create (path : String) (bytes : List UInt8)
  | eprintln (line : String)

def LogFiles : Sig where
  Op := LogOp
  Res
    | .now => Nat
    | .length _ => Except IoError Nat
    | .append _ _ | .removeFile _ | .rename _ _ | .create _ _ => Except IoError Unit
    | .exists_ _ => Bool
    | .eprintln _ => Unit

namespace LogFiles

def now : Prog LogFiles Nat := .op (S := LogFiles) .now
def length (path : String) : Prog LogFiles (Except IoError Nat) := .op (S := LogFiles) (.length path)
def append (path : String) (bytes : List UInt8) : Prog LogFiles (Except IoError Unit) := .op (S := LogFiles) (.append path bytes)
def removeFile (path : String) : Prog LogFiles (Except IoError Unit) := .op (S := LogFiles) (.removeFile path)
def exists_ (path : String) : Prog LogFiles Bool := .op (S := LogFiles) (.exists_ path)
def rename (source target : String) : Prog LogFiles (Except IoError Unit) := .op (S := LogFiles) (.rename source target)
def create (path : String) (bytes : List UInt8) : Prog LogFiles (Except IoError Unit) := .op (S := LogFiles) (.create path bytes)
def eprintln (line : String) : Prog LogFiles Unit := .op (S := LogFiles) (.eprintln line)

end LogFiles

def generationPath (base suffix : String) : String := base ++ suffix

/-- A file name and where it is. -/
structure LogPath where
  text : String
  /-- `Path::file_name` -/
  fileName : Option String

structure RotatingFile where
  path : LogPath
  maxBytes : Nat
  currentSize : Nat

namespace RotatingFile

def DEFAULT_MAX_BYTES : Nat := 2 * 1024 * 1024

def gen1 (file : RotatingFile) : String := generationPath file.path.text ".1"
def gen2 (file : RotatingFile) : String := generationPath file.path.text ".2"

/-- The size counter begins at the length of the file. -/
def openSized (path : LogPath) (maxBytes : Nat) : Prog LogFiles RotatingFile := do
  let length ← LogFiles.length path.text
  return ⟨path, maxBytes, match length with | .ok length => length | .error _ => 0⟩

def open_ (path : LogPath) : Prog LogFiles RotatingFile := openSized path DEFAULT_MAX_BYTES

/-- The bytes of a line with its end. -/
def lineBytes (line : String) : List UInt8 := asBytes (line ++ "\n")

/-- The generations move up, and a banner begins a new file; the size of the banner. -/
def moveUp (file : RotatingFile) : Fallible LogFiles IoError Nat := do
  let _ ← ExceptT.lift (LogFiles.removeFile file.gen2)
  let there ← ExceptT.lift (LogFiles.exists_ file.gen1)
  (if there then ExceptT.mk (LogFiles.rename file.gen1 file.gen2) else pure ())
  ExceptT.mk (LogFiles.rename file.path.text file.gen1)
  let secs ← ExceptT.lift LogFiles.now
  let banner := formatLine secs .info "manager" s!"rotated log after exceeding {file.maxBytes} bytes"
  ExceptT.mk (LogFiles.append file.path.text (lineBytes banner))
  return (asBytes banner).length + 1

/-- **A rotation.**  When it fails the file is emptied, so that it does not grow. -/
def rotate (file : RotatingFile) : Prog LogFiles RotatingFile := do
  match ← file.moveUp.run with
  | .ok size => return { file with currentSize := size }
  | .error _ =>
    let secs ← LogFiles.now
    let note := formatLine secs .warn "manager" s!"log rotation failed; truncated {file.path.fileName.getD file.path.text}"
    match ← LogFiles.create file.path.text (lineBytes note) with
    | .ok () => return { file with currentSize := (asBytes note).length + 1 }
    | .error _ => return { file with currentSize := 0 }

def appendLine (file : RotatingFile) (line : String) : Prog LogFiles RotatingFile := do
  match ← LogFiles.append file.path.text (lineBytes line) with
  | .error _ => return file
  | .ok () =>
    let file := { file with currentSize := file.currentSize + (lineBytes line).length }
    if file.maxBytes < file.currentSize then file.rotate else return file

end RotatingFile

/-! ## The logger of a process -/

structure SinkState where
  file : Option RotatingFile
  stderr : Bool

/-- A line to the file, if there is one. -/
def SinkState.writeFile (sink : SinkState) (line : String) : Prog LogFiles (Option RotatingFile) :=
  match sink.file with
  | some file => do return some (← file.appendLine line)
  | none => pure none

structure LoggerConfig where
  level : LogLevel
  filePath : Option LogPath
  mirrorStderr : Bool

/-- Nothing is opened for a logger that is off. -/
def LoggerConfig.openFile (config : LoggerConfig) : Prog LogFiles (Option RotatingFile) :=
  match config.filePath with
  | some path => if config.level = .off then pure none else do return some (← RotatingFile.open_ path)
  | none => pure none

/-- What a session's banner says of the process. -/
structure LogSession where
  app : String
  version : String
  sim : Option String
  state : Option String

def sessionBanner (session : LogSession) (level : LogLevel) : String :=
  s!"app={session.app} version={session.version} level={level.asStr} X3_SIM=" ++
    (session.sim.filter (!·.isEmpty)).getD "(unset)" ++ " state=" ++ session.state.getD "(unknown)"

/-- A process's logger: not installed, or its gate and its sinks. -/
structure Logger where
  initialized : Bool
  level : LogLevel
  sink : SinkState

def Logger.none : Logger := ⟨false, .off, ⟨Option.none, false⟩⟩

namespace Logger

/-- **A line to the sinks**, whatever the gate. -/
def append (logger : Logger) (level : LogLevel) (target message : String) : Prog LogFiles Logger := do
  let secs ← LogFiles.now
  let file ← logger.sink.writeFile (formatLine secs level target message)
  (if logger.sink.stderr then LogFiles.eprintln (formatLine secs level target message) else pure ())
  return { logger with sink := { logger.sink with file := file } }

/-- **Installs the logger**; the first call wins. -/
def init (logger : Logger) (session : LogSession) (config : LoggerConfig) : Prog LogFiles Logger :=
  if logger.initialized then pure logger
  else do
    let file ← config.openFile
    let logger : Logger := ⟨true, config.level, ⟨file, config.mirrorStderr⟩⟩
    if config.level.enabled .info then logger.append .info "manager" (sessionBanner session config.level) else pure logger

/-- `log_error!` and the other macros. -/
def log (logger : Logger) (level : LogLevel) (target message : String) : Prog LogFiles Logger :=
  if logger.level.enabled level then logger.append level target message else pure logger

end Logger

end AttackSharkX3
