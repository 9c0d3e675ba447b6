import GuardedText.Settings.VariableSource
import GuardedText.Tool.Arguments
import GuardedText.Tool.Help
import GuardedText.Tool.Report

/-! The command-line tool as a function of its arguments, the environment, its standard input and
the world. Whatever fails ends the run with one line on the error channel; the result is written
after everything else that can fail, except the log. -/

namespace GuardedText.Tool

inductive Error where
  | sealedFile (e : SealedFile.Error)
  | arguments (e : Arguments.Error)
  | settings (e : ToolSettings.Error)
  | files (e : Files.Failure)
  | template (e : Template.Rejected)

/-- What is said about an error. The runtime puts a failure of the files into words of its own, for
which its code stands in angle brackets, as `<ENOENT>`. -/
def Error.message : Error → String
  | .sealedFile e => e.message
  | .arguments e => e.message
  | .settings e => e.message
  | .files e => "<" ++ e.code ++ ">"
  | .template (.settings e) => e.message
  | .template (.compile (.directive e)) => e.message
  | .template (.compile (.guard _ e)) => e.message

structure Outcome where
  exitCode : Nat
  standardOutput : String
  world : World

/-- The log lies here, below the directory the tool runs in. -/
def logDirectory : String := "output/logs"

def logFile : String := logDirectory ++ "/preprocessor.log"

/-- The variables in force: those of the environment and those of the file of variables. What there
is to say about the file is printed. -/
def loadVariables (argv : List String) (env : Environment) (w : World) :
    Except Error Environment × World :=
  let (result, loaded) := (VariableSource.requested env argv).load env w.files w.here
  ((result.map fun _ => loaded.env).mapError .sealedFile,
    loaded.lines.foldl (fun w line => w.print .info line) w)

def checkedSettings (env : Environment) : Except ToolSettings.Error ToolSettings.Checked :=
  match ToolSettings.ofEnvironment env with
  | .error e => .error e
  | .ok s => s.check

def logWriter (s : ToolSettings.Checked) : Log.Writer where
  threshold := .atLeast s.logLevel
  label := some "preprocess"
  logFile := logFile
  toConsole := true
  toFile := s.keepsLog
  toErrors := true

/-- The text of the input file, or of standard input if there is none. -/
def readInput (input : Option String) (stdin : List UInt8) (w : World) :
    Except Files.Failure String :=
  match input with
  | none => .ok (Text.Utf8.decode stdin)
  | some path => w.files.readText w.here path

/-- Writes the result where it is wanted: an output file with a name, else standard output. -/
def deliver (l : Log.Writer) (output : Option String) (documentName text : String) (w : World) :
    Except Error String × World :=
  match output with
  | none => (.ok text, w)
  | some path =>
    if path = "" then (.ok text, w)
    else match w.files.writeText w.here path text with
      | .error e => (.error (.files e), w)
      | .ok files =>
        let r : Log.Record := ⟨.info, "Wrote output",
          .record false [("input", .string documentName), ("output", .string path)]⟩
        (.ok "", l.sink r { w with files })

/-- The run under checked settings, with the log directory in place. -/
def process (a : Arguments) (s : ToolSettings.Checked) (stdin : List UInt8) (w : World) :
    Except Error String × World :=
  let documentName := a.input.getD "<stdin>"
  match readInput a.input stdin w with
  | .error e => (.error (.files e), w)
  | .ok document =>
    let request : Request := {
      document, documentName, names := a.define
      directivePrefix := .string (a.directivePrefix.getD s.directivePrefix.text) }
    match request.run (logWriter s).sink w with
    | (.error e, w) => (.error (.template e), w)
    | (.ok report, w) =>
      deliver (logWriter s) a.output documentName (report.text a.json a.listUsed) w

/-- The result that goes to standard output, with the world afterwards. -/
def perform (argv : List String) (env : Environment) (stdin : List UInt8) (w : World) :
    Except Error String × World :=
  match Arguments.parse argv with
  | .error e => (.error (.arguments e), w)
  | .ok a =>
    if a.help then (.ok (helpText ++ "\n"), w)
    else
      match checkedSettings env with
      | .error e => (.error (.settings e), w)
      | .ok s =>
        match Log.Writer.prepare logDirectory s.keepsLog w with
        | (.error e, w) => (.error (.files e), w)
        | (.ok _, w) => process a s stdin w

/-- The outcome of a result. The lines printed on standard output stand before it. -/
def conclude (result : Except Error String) (w : World) : Outcome :=
  match result with
  | .ok text => ⟨0, w.outputText ++ text, w⟩
  | .error e => ⟨1, w.outputText, w.print .error ("Error: " ++ e.message)⟩

def run (argv : List String) (env : Environment) (stdin : List UInt8) (w : World) : Outcome :=
  match loadVariables argv env w with
  | (.error e, w) => conclude (.error e) w
  | (.ok env, w) =>
    let (result, w) := perform argv env stdin w
    conclude result w

end GuardedText.Tool
