import GuardedText.Log.Writer
import GuardedText.Settings.Check
import GuardedText.Template.Nesting
import GuardedText.Template.Subject

/-! A processor compiles under checked settings and reports each template that it compiles to a
journal: any state with a way to take in a record. The journal never changes a result. -/

namespace GuardedText

/-- Takes a record into a journal. -/
abbrev Log.Sink (σ : Type) := Log.Record → σ → σ

/-- A journal that keeps its records, oldest first. -/
def Log.keep : Log.Sink (List Log.Record) :=
  fun r rs => rs ++ [r]

/-- A journal that keeps nothing. -/
def Log.ignore : Log.Sink Unit :=
  fun _ _ => ()

/-- What a writer does with a record as a journal. -/
def Log.Writer.sink (l : Log.Writer) : Log.Sink World :=
  fun r w => (l.write r w).2

structure Processor where
  settings : Settings

namespace Processor

inductive Error where
  | files (e : Files.Failure)
  | compile (e : Template.CompileError)
  | source (e : NameSource.SourceError)

def standard : Processor := ⟨.standard⟩

/-- A processor with the given prefix, the standard one if it is absent. -/
def ofPrefixOption (v : Value) : Except Settings.Error Processor :=
  (Settings.ofPrefixOption v).map .mk

def prefixText (p : Processor) : String :=
  p.settings.directivePrefix.text

/-- The record of a compiled template. -/
def record (p : Processor) (source : String) (t : Template) : Log.Record where
  level := .debug
  message := "Compiled template"
  context := .record false [
    ("source", .string source),
    ("prefix", .string p.prefixText),
    ("blocks", .number (.ofNat t.blocks.length)),
    ("symbols", .array (t.usedNames.map .string))]

variable {σ : Type}

/-- Reports the template, if there is one. -/
def report (p : Processor) (sink : Log.Sink σ) (source : String)
    (result : Except Template.CompileError Template) (s : σ) : Except Error Template × σ :=
  match result with
  | .error e => (.error (.compile e), s)
  | .ok t => (.ok t, sink (p.record source t) s)

def compileLines (p : Processor) (sink : Log.Sink σ) (lines : List String) (s : σ) :
    Except Error Template × σ :=
  p.report sink "lines" (Template.compileLines p.prefixText lines) s

def compileText (p : Processor) (sink : Log.Sink σ) (text : String) (s : σ) :
    Except Error Template × σ :=
  p.report sink "string" (Template.compileText p.prefixText text) s

/-- Compiles the file at an absolute path as it is in `files`. -/
def compilePath (p : Processor) (sink : Log.Sink σ) (files : Files.Tree) (path : String)
    (s : σ) : Except Error Template × σ :=
  match files.readText [] path with
  | .error e => (.error (.files e), s)
  | .ok text => p.report sink path (Template.compileText p.prefixText text) s

def renderResult (result : Except Error Template) (source : Value) : Except Error String :=
  match result with
  | .error e => .error e
  | .ok t => (t.renderFrom source).mapError .source

def renderText (p : Processor) (sink : Log.Sink σ) (text : String) (source : Value) (s : σ) :
    Except Error String × σ :=
  let (result, s) := p.compileText sink text s
  (renderResult result source, s)

def renderPath (p : Processor) (sink : Log.Sink σ) (files : Files.Tree) (path : String)
    (source : Value) (s : σ) : Except Error String × σ :=
  let (result, s) := p.compilePath sink files path s
  (renderResult result source, s)

end Processor

end GuardedText
