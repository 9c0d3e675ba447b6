import GuardedText.Files.View
import GuardedText.Template.Checked

/-! Loading templates from the files of a directory. What is loaded is kept under the file name as
it was given, until the store is told to forget; what fails to load is not kept. -/

namespace GuardedText

inductive LoadError.Reason where
  | noDirectory
  | noFile
  | reported (text : Option String)
  deriving DecidableEq, Repr

/-- A directory or file that cannot be loaded from. -/
structure LoadError where
  path : String
  reason : LoadError.Reason
  deriving DecidableEq, Repr

def LoadError.message (e : LoadError) : String :=
  match e.reason with
  | .noDirectory => String.join ["Template directory does not exist: ", e.path]
  | .noFile => String.join ["Template file not found: ", e.path]
  | .reported (some text) => text
  | .reported none => String.join ["Failed to load template: ", e.path]

/-- A loaded template with the number of templates that its store had compiled before it. -/
structure Loaded where
  template : Template
  serial : Nat

/-- `accepted` are the extensions in lower case that bulk operations look for; none means all. -/
structure Store where
  base : String
  directivePrefix : Value
  accepted : Option (List String)
  cache : List (String × Loaded)
  compiled : Nat

namespace Store

inductive Error where
  | load (e : LoadError)
  | files (e : Files.Failure)
  | template (e : Template.Rejected)

def acceptedOf (extensions : Option (List String)) : Option (List String) :=
  extensions.map fun es => es.map Text.lower

def admits (accepted : Option (List String)) (name : String) : Bool :=
  match accepted with
  | none => true
  | some es => es.contains (Text.lower (Files.Path.extension name))

/-- The regular files with an accepted extension among the names in a directory. A name of which it
cannot be told whether it is a file ends the search. -/
def filesAmong (files : Files.View) (directory : String) (accepted : Option (List String)) :
    List String → Except Files.Failure (List String)
  | [] => .ok []
  | name :: rest =>
    match files.isFile (Files.Path.join [directory, name]) with
    | .error e => .error e
    | .ok isFile =>
      (filesAmong files directory accepted rest).map fun others =>
        match isFile && admits accepted name with
        | true => name :: others
        | false => others

/-- The files of a directory with an accepted extension, in 16-bit order. -/
def fileNames (files : Files.View) (directory : String) (accepted : Option (List String)) :
    Except Files.Failure (List String) :=
  match files.readDirectory directory with
  | .error e => .error e
  | .ok names => (filesAmong files directory accepted names).map Text.sortNames

/-- The template files in a directory; none in one that does not exist. -/
def templateFiles (files : Files.View) (directory : String) (extensions : Option (List String)) :
    Except Files.Failure (List String) :=
  match files.present directory with
  | true => fileNames files directory (acceptedOf extensions)
  | false => .ok []

/-- A store over the directory at an absolute path. The prefix is checked once a file is
compiled. -/
def ofDirectory (files : Files.View) (base : String) (directivePrefix : Value)
    (extensions : Option (List String)) : Except LoadError Store :=
  match files.present base with
  | true => .ok ⟨base, directivePrefix, acceptedOf extensions, [], 0⟩
  | false => .error ⟨base, .noDirectory⟩

/-- The template in the file at an absolute path. -/
def readTemplate (files : Files.View) (path : String) (directivePrefix : Value) :
    Except Error Template :=
  match files.present path with
  | false => .error (.load ⟨path, .noFile⟩)
  | true =>
    match files.isFile path with
    | .error e => .error (.files e)
    | .ok false => .error (.load ⟨path, .noFile⟩)
    | .ok true =>
      match files.readText path with
      | .error e => .error (.files e)
      | .ok text => (Template.compileTextUnder directivePrefix text).mapError .template

def fetch (l : Store) (files : Files.View) (name : String) : Except Error Loaded × Store :=
  match l.cache.lookup name with
  | some found => (.ok found, l)
  | none =>
    match readTemplate files (Files.Path.join [l.base, name]) l.directivePrefix with
    | .error e => (.error e, l)
    | .ok template =>
      let loaded : Loaded := ⟨template, l.compiled⟩
      (.ok loaded, { l with cache := (name, loaded) :: l.cache, compiled := l.compiled + 1 })

/-- Loads the files in turn, up to the first that fails. -/
def fetchEach (l : Store) (files : Files.View) :
    List String → Except Error (List (String × Loaded)) × Store
  | [] => (.ok [], l)
  | name :: rest =>
    match l.fetch files name with
    | (.error e, l) => (.error e, l)
    | (.ok loaded, l) =>
      match fetchEach l files rest with
      | (.error e, l) => (.error e, l)
      | (.ok others, l) => (.ok ((name, loaded) :: others), l)

def fetchAll (l : Store) (files : Files.View) :
    Except Error (List (String × Loaded)) × Store :=
  match fileNames files l.base l.accepted with
  | .error e => (.error (.files e), l)
  | .ok names => l.fetchEach files names

def forget (l : Store) : Store :=
  { l with cache := [] }

end Store

end GuardedText
