import GuardedText.Log.Entry
import GuardedText.Log.Level
import GuardedText.Value.Describe
import GuardedText.World

/-! Writers of logs. A writer drops what is below its threshold, prints the rest, and appends it to
a file, each if it is told to. A line that cannot be written as text fails before anything is
written; an append that fails is reported on the error channel and is no failure of the call. -/

namespace GuardedText

namespace Log

/-- A message with its level and context. -/
structure Record where
  level : Level
  message : String
  context : Value

inductive Failure where
  /-- The level that the writer was given has no text. -/
  | threshold
  /-- The label of the writer has no text. -/
  | label
  | context (e : Value.JsonError)
  deriving DecidableEq, Repr

/-- What a writer lets through. -/
inductive Threshold where
  | everything
  | atLeast (level : Level)
  | unreadable
  deriving DecidableEq, Repr

/-- The threshold at a level that is given as a value. What names no level lets everything through;
what has no text cannot be looked up. -/
def Threshold.ofValue : Value → Threshold
  | .symbol _ => .everything
  | v =>
    match v.text? with
    | none => .unreadable
    | some name => (Level.ofName? name).elim .everything .atLeast

end Log

structure Log.Writer where
  threshold : Log.Threshold
  label : Option String
  logFile : String
  toConsole : Bool
  toFile : Bool
  toErrors : Bool

namespace Log.Writer

inductive CreateError where
  /-- The directory or the file of the log is not named by a text. -/
  | pathNotText
  | files (e : Files.Failure)
  deriving DecidableEq, Repr

def passes (l : Writer) (level : Level) : Except Failure Bool :=
  match l.threshold with
  | .everything => .ok true
  | .atLeast lowest => .ok (lowest.priority ≤ level.priority)
  | .unreadable => .error .threshold

/-- Prints the line of a record. -/
def printEntry (l : Writer) (level : Level) (line : String) (w : World) : World :=
  if l.toConsole then w.print (if l.toErrors then .error else level) line else w

/-- Appends the line of a record to the log file. Where that fails, the code of the failure in angle
brackets stands for what the runtime says of it. -/
def appendEntry (l : Writer) (line : String) (w : World) : World :=
  if l.toFile then
    match w.files.appendText w.here l.logFile (line ++ "\n") with
    | .ok files => { w with files }
    | .error e => w.print .error ("Failed to write to log file: <" ++ e.code ++ ">")
  else w

def write (l : Writer) (r : Record) (w : World) : Except Failure Unit × World :=
  match l.passes r.level with
  | .error e => (.error e, w)
  | .ok false => (.ok (), w)
  | .ok true =>
    match l.label with
    | none => (.error .label, w)
    | some label =>
      match entry w.timestamp r.level.name label r.message r.context with
      | .error e => (.error (.context e), w)
      | .ok line => (.ok (), l.appendEntry line (l.printEntry r.level line w))

/-- Makes the directory of a log that is to be written to a file. -/
def prepare (directory : String) (toFile : Bool) (w : World) :
    Except Files.Failure Unit × World :=
  match toFile, w.files.present w.here directory with
  | true, false =>
    let (result, files) := w.files.makeDirectories w.here directory
    (result, { w with files })
  | _, _ => (.ok (), w)

/-- The options of a writer that is given none. -/
def standardOptions : List (String × Value) := [
  ("level", .string "info"),
  ("name", .string "preprocessor"),
  ("logDir", .string "output/logs"),
  ("logFile", .string "preprocessor.log"),
  ("console", .bool true),
  ("file", .bool false),
  ("stderr", .bool false)]

/-- An option that is given counts, whatever its value. -/
def option (given : Value) (name : String) : Value :=
  (given.field? name).getD ((standardOptions.lookup name).getD .undefined)

/-- Makes a writer from its options. -/
def create (options : Value) (w : World) : Except CreateError Writer × World :=
  match option options "logDir", option options "logFile" with
  | .string directory, .string file =>
    let writer : Writer := {
      threshold := .ofValue (option options "level")
      label := (option options "name").text?
      logFile := Files.Path.join [directory, file]
      toConsole := (option options "console").truthy
      toFile := (option options "file").truthy
      toErrors := (option options "stderr").truthy }
    let (result, w) := prepare directory writer.toFile w
    ((result.map fun _ => writer).mapError .files, w)
  | _, _ => (.error .pathNotText, w)

end Log.Writer

end GuardedText
