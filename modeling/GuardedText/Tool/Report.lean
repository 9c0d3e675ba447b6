import GuardedText.Json
import GuardedText.Processor
import GuardedText.Template.Checked

/-! One run over one document, and the forms in which its result is written. -/

namespace GuardedText.Tool

structure Request where
  document : String
  documentName : String
  names : List String
  directivePrefix : Value

structure Report where
  documentName : String
  output : String
  names : List String
  referenced : List String
  deriving DecidableEq, Repr

/-- The report of a compiled document. The names are a set, so they come once each and in order. -/
def Request.report (r : Request) (t : Template) : Report where
  documentName := r.documentName
  output := t.render (NameSource.active r.names)
  names := Text.sortNames (Text.distinct r.names)
  referenced := t.usedNames

/-- Compiles and renders the document of a request; the compiled template is put on record. -/
def Request.run {σ : Type} (r : Request) (sink : Log.Sink σ) (s : σ) :
    Except Template.Rejected Report × σ :=
  match Processor.ofPrefixOption r.directivePrefix with
  | .error e => (.error (.settings e), s)
  | .ok p =>
    match Template.compileText p.prefixText r.document with
    | .error e => (.error (.compile e), s)
    | .ok t => (.ok (r.report t), sink (p.record "string" t) s)

namespace Report

def toJson (r : Report) : Json :=
  .object [
    ("sourceName", .string r.documentName),
    ("output", .string r.output),
    ("symbols", .array (r.names.map .string)),
    ("referencedSymbols", .array (r.referenced.map .string))]

/-- What is written for a report: all of it as JSON, the referenced names one a line, or the
document. -/
def text (r : Report) (json listUsed : Bool) : String :=
  if json then r.toJson.indented 0 ++ "\n"
  else if listUsed then String.join (r.referenced.map (· ++ "\n"))
  else r.output

end Report

end GuardedText.Tool
