import GuardedText.Files.Tree
import GuardedText.Settings.Environment
import GuardedText.Settings.SealedFile
import GuardedText.Text.Quoted

/-! Where an environment gets more variables from: a file that arguments and variables choose, or a
sealed file beside it if there is a key, and what becomes of it. A file that cannot be read adds
nothing; a sealed one that cannot be opened is an error. What was read, and what it could not
change, is reported if that is asked for. -/

namespace GuardedText

/-- Which file of variables counts, if one is asked for; what the sign `~` at its beginning stands
for; the name of its encoding and the key of a sealed file, both empty if there is none; whether it
replaces variables that are set already; and whether it is reported on. -/
structure VariableSource where
  given : Option String
  home : String
  encoding : String
  key : String
  replaces : Bool
  reports : Bool

namespace VariableSource

/-- The value that an argument gives to an option, on one line and not empty. -/
def givenValue? (name argument : String) : Option String :=
  match Environment.valueIn? name.toList argument.toList with
  | none | some [] => none
  | some value =>
    match value.any Text.isBreak with
    | true => none
    | false => some (String.ofList value)

/-- An option: the last of the arguments that give it counts, then the variable. It is empty if
there is neither. -/
def option (env : Environment) (argv : List String) (argument name : String) : String :=
  match (argv.filterMap (givenValue? argument)).getLast? with
  | some value => value
  | none => (env.find? name).getD ""

/-- The file that the arguments and the environment ask for. -/
def requested (env : Environment) (argv : List String) : VariableSource :=
  let path := option env argv "dotenv_config_path" "DOTENV_CONFIG_PATH"
  { given := if path = "" then none else some path
    home := (env.find? "HOME").getD "/root"
    encoding := option env argv "dotenv_config_encoding" "DOTENV_CONFIG_ENCODING"
    key := option env argv "dotenv_config_DOTENV_KEY" "DOTENV_CONFIG_DOTENV_KEY"
    replaces := option env argv "dotenv_config_override" "DOTENV_CONFIG_OVERRIDE" ≠ ""
    reports := option env argv "dotenv_config_debug" "DOTENV_CONFIG_DEBUG" ≠ "" }

/-- A path that begins with the sign `~` leads on from the home directory. -/
def fromHome (s : VariableSource) (path : String) : String :=
  match path.toList with
  | '~' :: rest => Files.Path.join [s.home, String.ofList rest]
  | _ => path

/-- Where the file is looked for. -/
def path (s : VariableSource) : String :=
  s.given.elim ".env" s.fromHome

/-- Why the variables of a file are not known. -/
inductive Unread where
  /-- No encoding has the name. -/
  | noEncoding
  /-- The name is one for bytes that are left as they are. -/
  | noText
  | file (e : Files.Failure)

/-- Bytes as text. The name `buffer` leaves them as they are, which is a text only if there are
none. -/
def textOf (s : VariableSource) (bytes : List UInt8) : Except Unread String :=
  if s.encoding = "" then .ok (Text.Utf8.decode bytes)
  else match Text.Encoding.ofName? s.encoding, bytes with
    | some encoding, _ => .ok (encoding.decode bytes)
    | none, [] => .ok ""
    | none, _ => .error .noText

/-- Whether the bytes of a file are read at all. -/
def isReadable (s : VariableSource) : Bool :=
  s.encoding = "" || s.encoding = "buffer" || (Text.Encoding.ofName? s.encoding).isSome

/-- The variables that the file sets. -/
def contents (s : VariableSource) (t : Files.Tree) (here : Files.Location) :
    Except Unread (List (String × String)) :=
  match s.isReadable, t.readBytes here s.path with
  | false, _ => .error .noEncoding
  | true, .error e => .error (.file e)
  | true, .ok bytes => (s.textOf bytes).map VariableFile.read

/-- The environment with the variables of a file. Those that are set already, even if to nothing,
keep their values unless the file replaces them. -/
def complete (s : VariableSource) (env : Environment) (found : List (String × String)) :
    Environment :=
  let added := match s.replaces with
    | true => found
    | false => found.filter fun v => (env.find? v.1).isNone
  added.foldl (fun env v => env.set v.1 v.2) env

/-! ### Reports -/

/-- What begins the lines of a report by one version of what loads the variables. -/
def labelOf (version : String) : String :=
  String.join ["[dotenv@", version, "]"]

/-- What begins the lines of the reports here. -/
def label : String := labelOf "16.6.1"

def debugLine (parts : List String) : String :=
  String.join (label :: "[DEBUG] " :: parts)

/-- The path of the file as reports show it: the one asked for, else the whole path. -/
def shownPath (s : VariableSource) (here : Files.Location) : String :=
  s.given.elim (Files.Path.resolve here ".env") s.fromHome

def reason (s : VariableSource) (here : Files.Location) : Unread → String
  | .noEncoding =>
    String.join ["The argument 'encoding' is invalid encoding. Received ",
      Text.Quoted.shown s.encoding]
  | .noText => String.join ["Unknown encoding: ", s.encoding]
  | .file e =>
    String.join [e.code, ": ", e.description, match e with
      | .isDirectory => ", read"
      | _ => String.join [", open '", s.shownPath here, "'"]]

/-- The names that a file sets, once each and in the order of the fields of a record. -/
def namesOf (found : List (String × String)) : List String :=
  (Value.enumerate ((Text.distinct (found.map (·.1))).map (·, ()))).map (·.1)

/-- What becomes of the variables in a list that are set already. -/
def keptLines (s : VariableSource) (env : Environment) (found : List (String × String)) :
    List String :=
  ((namesOf found).filter fun name => (env.find? name).isSome).map fun name =>
    debugLine ["\"", name, "\" is already defined and ",
      if s.replaces then "WAS overwritten" else "was NOT overwritten"]

/-- Where the file is from the directory `here`. -/
def relativePath (s : VariableSource) (here : Files.Location) : String :=
  Files.Path.relative here (Files.Path.stepsFromRoot here s.path)

/-- The lines of a report on a file and on what it does to an environment. -/
def report (s : VariableSource) (env : Environment) (here : Files.Location)
    (contents : Except Unread (List (String × String))) : List String :=
  let found := contents.toOption.getD []
  (if s.encoding = "" then
    [debugLine ["No encoding is specified. UTF-8 is used by default"]] else []) ++
  (match contents with
    | .error e => [debugLine ["Failed to load ", s.shownPath here, " ", s.reason here e]]
    | .ok _ => []) ++
  s.keptLines env found ++
  [String.join [label, " injecting env (", toString (namesOf found).length, ") from ",
    s.relativePath here]]

/-! ### Loading -/

/-- An environment and the lines that were printed on the way to it. -/
structure Loaded where
  env : Environment
  lines : List String

/-- Lines that are printed if reports are asked for. -/
def ifReported (s : VariableSource) (lines : List String) : List String :=
  match s.reports with
  | true => lines
  | false => []

/-- Adds the variables of the file. -/
def loadPlain (s : VariableSource) (env : Environment) (t : Files.Tree) (here : Files.Location) :
    Loaded :=
  let contents := s.contents t here
  ⟨s.complete env (contents.toOption.getD []), s.ifReported (s.report env here contents)⟩

/-- The keys of a sealed file: those asked for, else those of the environment. -/
def keys (s : VariableSource) (env : Environment) : String :=
  if s.key = "" then env.text "DOTENV_KEY" "" else s.key

/-- Where a sealed file is looked for: a path for an open one is lengthened. -/
def sealedPath (s : VariableSource) (here : Files.Location) : String :=
  match s.given with
  | none => Files.Path.resolve here ".env.vault"
  | some path =>
    match ".vault".toList.isSuffixOf path.toList with
    | true => path
    | false => path ++ ".vault"

/-- The same source with the sealed file as its file. -/
def asSealed (s : VariableSource) (here : Files.Location) : VariableSource :=
  { s with given := some (s.sealedPath here) }

/-- Adds the variables of the sealed file, then those that a key opens in it. -/
def loadSealed (s : VariableSource) (env : Environment) (t : Files.Tree) (here : Files.Location) :
    Except SealedFile.Error Unit × Loaded :=
  let s := s.asSealed here
  let loaded := s.loadPlain env t here
  let lines := s.ifReported [String.join [label, " Loading env from encrypted .env.vault"]] ++
    loaded.lines
  match SealedFile.read (((s.contents t here).toOption).getD []) (s.keys loaded.env) with
  | .error e => (.error e, ⟨loaded.env, lines⟩)
  | .ok found =>
    (.ok (), ⟨s.complete loaded.env found, lines ++ s.ifReported (s.keptLines loaded.env found)⟩)

/-- The names of the variables that loading can ask for or set. -/
def namesInvolved (s : VariableSource) (env : Environment) (t : Files.Tree)
    (here : Files.Location) : List String :=
  let within := ((s.asSealed here).contents t here).toOption.getD []
  let opened := (SealedFile.read within (s.keys env)).toOption.getD []
  namesOf ((s.contents t here).toOption.getD [] ++ within ++ opened)

/-- The warning that a key is there and no sealed file. -/
def missingLine : String :=
  String.join [label, "[WARN] You set DOTENV_KEY but you are missing ",
    "a .env.vault file at null. Did you forget to build it?"]

/-- Adds the variables of the file, or with a key those of the sealed file if there is one. -/
def load (s : VariableSource) (env : Environment) (t : Files.Tree) (here : Files.Location) :
    Except SealedFile.Error Unit × Loaded :=
  if s.keys env = "" then (.ok (), s.loadPlain env t here)
  else
    match t.present here (s.sealedPath here) with
    | true => s.loadSealed env t here
    | false =>
      let loaded := s.loadPlain env t here
      (.ok (), { loaded with lines := missingLine :: loaded.lines })

end VariableSource

end GuardedText
