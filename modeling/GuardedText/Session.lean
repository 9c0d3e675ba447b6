import GuardedText.Store
import GuardedText.Processor

/-! Sessions: processors, stores and templates under names, a processor in the background whose
prefix can be replaced, and a tree of files that changes between steps. A step answers or fails. One
that fails gives no name and leaves the prefix in the background, but a store keeps what it loaded
before the failure. -/

namespace GuardedText

/-- A compiled template, with what tells it from others: the number of the step that made it or the
store it came from, and its serial number there. -/
structure Session.Held where
  template : Template
  origin : Nat
  serial : Nat

/-- A processor with the records it has made since they were last asked for, if it keeps any. -/
structure Session.Worker where
  processor : Processor
  journal : Option (List Log.Record)

/-- A store with the number of the step that made it. -/
structure Session.Source where
  store : Store
  origin : Nat

structure Session where
  files : Files.Tree
  here : Files.Location
  background : Processor
  workers : List (String × Session.Worker)
  sources : List (String × Session.Source)
  templates : List (String × Session.Held)
  steps : Nat

namespace Session

/-- A session at its start, in a directory of a tree of files. -/
def start (files : Files.Tree) (here : Files.Location) : Session :=
  ⟨files, here, .standard, [], [], [], 0⟩

/-- Paths are relative to the directory of the session. Without `on`, the processor in the
background works; with `as`, the result gets a name. To write under a path that ends in a slash
makes a directory. -/
inductive Step where
  | newProcessor (as : String) (directivePrefix : Value) (journal : Bool)
  | changePrefix (directivePrefix : Value)
  | askPrefix
  | compileLines (on : Option String) (lines : List String) (as : Option String)
  | compileText (on : Option String) (text : String) (as : Option String)
  | compilePath (on : Option String) (path : String) (as : Option String)
  | renderText (on : Option String) (text : String) (source : Value)
  | renderPath (on : Option String) (path : String) (source : Value)
  | render (template : String) (source : Value)
  | blocks (template : String)
  | same (a b : String)
  | records (on : String)
  | newStore (as base : String) (directivePrefix : Value) (extensions : Option (List String))
  | newStoreOf (as on base : String) (extensions : Option (List String))
  | fetch (store file : String) (as : Option String)
  | fetchAll (store : String) (names : List String) (as : Option String)
  | forget (store : String)
  | list (base : String) (extensions : Option (List String))
  | write (path : String) (bytes : List UInt8)
  | remove (path : String)

inductive Answer where
  | done
  | processor (p : Processor)
  | text (s : String)
  | compiled (t : Template)
  | blocks (bs : List Template.Block)
  | verdict (b : Bool)
  | records (rs : List Log.Record)
  | rendered (texts : List (String × String))
  | names (names : List String)

inductive Error where
  | settings (e : Settings.Error)
  | processor (e : Processor.Error)
  | store (e : Store.Error)
  | files (e : Files.Failure)
  | source (e : NameSource.SourceError)
  /-- Nothing goes by the name. -/
  | unnamed (name : String)

def path (s : Session) (relative : String) : String :=
  Files.Path.ofSteps s.here ++ "/" ++ relative

def base (s : Session) (relative : String) : String :=
  Files.Path.resolve s.here (s.path relative)

/-- Names a template, if it is to have a name. -/
def hold (s : Session) (as : Option String) (h : Held) : Session :=
  match as with
  | none => s
  | some name => { s with templates := (name, h) :: s.templates }

def setWorker (s : Session) (name : String) (w : Worker) : Session :=
  { s with workers := (name, w) :: s.workers }

def setSource (s : Session) (name : String) (source : Source) : Session :=
  { s with sources := (name, source) :: s.sources }

/-- A journal of a worker: one that keeps records, or none. -/
def workerSink : Log.Sink (Option (List Log.Record)) :=
  fun r journal => journal.map (Log.keep r)

/-- Has a processor do something, and keeps what it adds to its journal. -/
def work {α : Type} (s : Session) (on : Option String)
    (act : Processor → Option (List Log.Record) →
      Except Processor.Error α × Option (List Log.Record)) : Except Error α × Session :=
  match on with
  | none => ((act s.background none).1.mapError .processor, s)
  | some name =>
    match s.workers.lookup name with
    | none => (.error (.unnamed name), s)
    | some w =>
      let (result, journal) := act w.processor w.journal
      (result.mapError .processor, s.setWorker name { w with journal })

/-- Names and answers a template that a processor compiled. -/
def answerCompiled (as : Option String) :
    Except Error Template × Session → Except Error Answer × Session
  | (.error e, s) => (.error e, s)
  | (.ok t, s) => (.ok (.compiled t), s.hold as ⟨t, s.steps, 0⟩)

def answerText : Except Error String × Session → Except Error Answer × Session
  | (result, s) => (result.map .text, s)

def withTemplate (s : Session) (name : String) (act : Held → Except Error Answer) :
    Except Error Answer × Session :=
  match s.templates.lookup name with
  | none => (.error (.unnamed name), s)
  | some h => (act h, s)

def addStore (s : Session) (as : String) (result : Except LoadError Store) :
    Except Error Answer × Session :=
  match result with
  | .error e => (.error (.store (.load e)), s)
  | .ok l => (.ok .done, s.setSource as ⟨l, s.steps⟩)

/-- Renders each of the loaded templates for a list of names. -/
def renderEach (names : List String) (loaded : List (String × Loaded)) : List (String × String) :=
  loaded.map fun l => (l.1, l.2.template.render (NameSource.active names))

/-- Names each of the loaded templates by its file, after `as`. -/
def holdEach (s : Session) (as : Option String) (origin : Nat) (loaded : List (String × Loaded)) :
    Session :=
  loaded.foldl (fun s l => s.hold (as.map (· ++ l.1)) ⟨l.2.template, origin, l.2.serial⟩) s

/-- Carries out one step. -/
def perform (s : Session) (step : Step) : Except Error Answer × Session :=
  match step with
  | .newProcessor as directivePrefix journal =>
    match Processor.ofPrefixOption directivePrefix with
    | .error e => (.error (.settings e), s)
    | .ok p => (.ok (.processor p), s.setWorker as ⟨p, if journal then some [] else none⟩)
  | .changePrefix directivePrefix =>
    match Settings.ofPrefix directivePrefix with
    | .error e => (.error (.settings e), s)
    | .ok settings => (.ok .done, { s with background := ⟨settings⟩ })
  | .askPrefix => (.ok (.text s.background.prefixText), s)
  | .compileLines on lines as =>
    answerCompiled as (s.work on fun p => p.compileLines workerSink lines)
  | .compileText on text as =>
    answerCompiled as (s.work on fun p => p.compileText workerSink text)
  | .compilePath on path as =>
    answerCompiled as (s.work on fun p => p.compilePath workerSink s.files (s.path path))
  | .renderText on text source =>
    answerText (s.work on fun p => p.renderText workerSink text source)
  | .renderPath on path source =>
    answerText (s.work on fun p => p.renderPath workerSink s.files (s.path path) source)
  | .render template source =>
    s.withTemplate template fun h =>
      ((h.template.renderFrom source).map .text).mapError .source
  | .blocks template => s.withTemplate template fun h => .ok (.blocks h.template.blocks)
  | .same a b =>
    match s.templates.lookup a, s.templates.lookup b with
    | some h, some k => (.ok (.verdict (h.origin == k.origin && h.serial == k.serial)), s)
    | none, none => (.ok (.verdict true), s)
    | _, _ => (.ok (.verdict false), s)
  | .records on =>
    match s.workers.lookup on with
    | none => (.error (.unnamed on), s)
    | some w =>
      (.ok (.records (w.journal.getD [])),
        s.setWorker on { w with journal := w.journal.map fun _ => [] })
  | .newStore as base directivePrefix extensions =>
    s.addStore as (Store.ofDirectory s.files (s.base base) directivePrefix extensions)
  | .newStoreOf as on base extensions =>
    match s.workers.lookup on with
    | none => (.error (.unnamed on), s)
    | some w =>
      s.addStore as
        (Store.ofDirectory s.files (s.base base) (.string w.processor.prefixText) extensions)
  | .fetch store file as =>
    match s.sources.lookup store with
    | none => (.error (.unnamed store), s)
    | some source =>
      match source.store.fetch s.files file with
      | (.error e, l) => (.error (.store e), s.setSource store { source with store := l })
      | (.ok loaded, l) =>
        (.ok (.compiled loaded.template),
          (s.setSource store { source with store := l }).hold as
            ⟨loaded.template, source.origin, loaded.serial⟩)
  | .fetchAll store names as =>
    match s.sources.lookup store with
    | none => (.error (.unnamed store), s)
    | some source =>
      match source.store.fetchAll s.files with
      | (.error e, l) => (.error (.store e), s.setSource store { source with store := l })
      | (.ok loaded, l) =>
        (.ok (.rendered (renderEach names loaded)),
          (s.setSource store { source with store := l }).holdEach as source.origin loaded)
  | .forget store =>
    match s.sources.lookup store with
    | none => (.error (.unnamed store), s)
    | some source =>
      (.ok .done, s.setSource store { source with store := source.store.forget })
  | .list base extensions =>
    (((Store.templateFiles s.files (s.base base) extensions).map .names).mapError .files, s)
  | .write path bytes =>
    let (result, files) := match Files.Path.endsInSlash path with
      | true => s.files.makeDirectories s.here (s.path path)
      | false => s.files.install s.here (s.path path) bytes
    ((result.map fun _ => .done).mapError .files, { s with files })
  | .remove path =>
    match s.files.remove s.here (s.path path) with
    | .error e => (.error (.files e), s)
    | .ok files => (.ok .done, { s with files })

/-- Carries out one step and counts it. -/
def next (s : Session) (step : Step) : Except Error Answer × Session :=
  let (answer, s) := s.perform step
  (answer, { s with steps := s.steps + 1 })

/-- The answers to steps that are carried out in order. -/
def run (s : Session) : List Step → List (Except Error Answer)
  | [] => []
  | step :: rest =>
    let (answer, s) := s.next step
    answer :: run s rest

end Session

end GuardedText
