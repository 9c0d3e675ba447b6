import GuardedText.Log.Level
import GuardedText.Settings.Check
import GuardedText.Text.Case

/-! Environment variables and the settings of the command-line tool that come from them. -/

namespace GuardedText

/-- Entries of a name, the sign `=` and a value; of two that a name begins the first counts. Names
that are array indices are looked up apart from the entries, among what was set. -/
structure Environment where
  entries : List String
  indexed : List (String × String)

/-- Settings of the tool. They may be values of any kind until they are checked. -/
structure ToolSettings where
  environment : Value
  logLevel : Value
  keepsLog : Bool
  directivePrefix : Value

namespace ToolSettings

inductive Error where
  | notBoolean (name value : String)
  /-- The variable has a value that is not a text where one is needed. -/
  | notText (name : String)
  | environment (value : String)
  | logLevel (value : String)
  | directivePrefix (problems : List Settings.Problem)
  | reported (text : String)
  deriving DecidableEq, Repr

def Error.message : Error → String
  | .notBoolean name value =>
    String.join ["Environment variable ", name,
      " must be a boolean (true/false/1/0/yes/no), got: ", value]
  | .notText name => String.join ["Environment variable ", name, " is not a text"]
  | .environment value =>
    String.join ["Invalid NODE_ENV: ", value, ". Must be development, production, or test."]
  | .logLevel value =>
    String.join ["Invalid LOG_LEVEL: ", value, ". Must be debug, info, warn, or error."]
  | .directivePrefix problems =>
    String.join ["Invalid PPD_DIRECTIVE_PREFIX: ",
      "; ".intercalate (problems.map Settings.Problem.message)]
  | .reported text => text

end ToolSettings

namespace Environment

/-- The characters of a name or a value that an entry can hold, which are those before NUL. -/
def storable (s : String) : List Char :=
  s.toList.takeWhile (· ≠ Char.ofNat 0)

/-- The value in an entry that the name and the sign `=` begin. -/
def valueIn? : (name entry : List Char) → Option (List Char)
  | [], '=' :: value => some value
  | c :: name, d :: entry => if c = d then valueIn? name entry else none
  | _, _ => none

theorem valueIn?_append (name value : List Char) :
    valueIn? name (name ++ '=' :: value) = some value := by
  induction name with
  | nil => rfl
  | cons c name ih => simp [valueIn?, ih]

def isIndex (name : String) : Bool :=
  (Value.arrayIndex? name).isSome

/-- The value of a variable. A name that itself holds the sign `=` finds what follows it within the
value of another. -/
def find? (env : Environment) (name : String) : Option String :=
  match isIndex name with
  | true => env.indexed.lookup name
  | false =>
    (env.entries.findSome? fun entry => valueIn? (storable name) entry.toList).map String.ofList

/-- Entries with a value for a name. One that is empty or holds the sign `=` cannot be set. -/
def setEntry (name value : List Char) (entries : List String) : List String :=
  match name, name.contains '=' with
  | [], _ | _, true => entries
  | name, false =>
    String.ofList (name ++ '=' :: value) ::
      entries.filter fun entry => (valueIn? name entry.toList).isNone

/-- Gives a variable a value. -/
def set (env : Environment) (name value : String) : Environment :=
  match isIndex name with
  | true => { env with indexed := (name, value) :: env.indexed }
  | false => { env with entries := setEntry (storable name) (storable value) env.entries }

theorem find?_set (env : Environment) {name : String} (value : String)
    (hindex : isIndex name = false) (hne : storable name ≠ [])
    (hsign : '=' ∉ storable name) :
    (env.set name value).find? name = some (String.ofList (storable value)) := by
  have hc : (storable name).contains '=' = false := by simpa using hsign
  cases hn : storable name with
  | nil => exact absurd hn hne
  | cons c rest =>
    rw [hn] at hc
    simp only [set, setEntry, find?, hindex, hn, hc, List.findSome?_cons, String.toList_ofList,
      valueIn?_append, Option.map_some]

theorem find?_set_index (env : Environment) {name : String} (value : String)
    (hindex : isIndex name = true) : (env.set name value).find? name = some value := by
  simp [set, find?, hindex]

/-- The environment that a program is given with its entries. -/
def ofEntries (entries : List String) : Environment :=
  ⟨entries, []⟩

/-- The environment in which these variables are set in turn. -/
def ofPairs (pairs : List (String × String)) : Environment :=
  pairs.foldl (fun env p => env.set p.1 p.2) (ofEntries [])

/-- Names that stand for something in every environment, though not for a text, until they are
set. -/
def reserved : List (String × Value) := [
  ("constructor", .function), ("hasOwnProperty", .function), ("isPrototypeOf", .function),
  ("propertyIsEnumerable", .function), ("toLocaleString", .function), ("toString", .function),
  ("valueOf", .function), ("__defineGetter__", .function), ("__defineSetter__", .function),
  ("__lookupGetter__", .function), ("__lookupSetter__", .function),
  ("__proto__", .record false [])]

/-- The value of a variable; one that is not set or empty gives the default. -/
def text (env : Environment) (name fallback : String) : String :=
  match env.find? name with
  | none => fallback
  | some value => if value = "" then fallback else value

/-- What a name stands for: its text, what is reserved under it while it is not set, or else the
default. -/
def get (env : Environment) (name : String) (fallback : Value) : Value :=
  match env.find? name with
  | none => (reserved.lookup name).getD fallback
  | some value => if value = "" then fallback else .string value

/-- What a word says about a switch, in any letter case. -/
def switch? (word : String) : Option Bool :=
  [("true", true), ("1", true), ("yes", true), ("false", false), ("0", false), ("no", false)].lookup
    (Text.lower word)

/-- The value of a variable as a switch; none if it is not set or empty. -/
def flag? (env : Environment) (name : String) : Except ToolSettings.Error (Option Bool) :=
  match env.get name .undefined with
  | .undefined => .ok none
  | .string value => (switch? value).elim (.error (.notBoolean name value)) (.ok ∘ some)
  | _ => .error (.notText name)

/-- The value of a variable as a switch, or the default. -/
def flag (env : Environment) (name : String) (fallback : Bool) :
    Except ToolSettings.Error Bool :=
  (env.flag? name).map (·.getD fallback)

end Environment

namespace ToolSettings

def ofEnvironment (env : Environment) : Except Error ToolSettings := do
  let keepsLog ← env.flag "LOG_FILE" false
  return {
    environment := .string (env.text "NODE_ENV" "development")
    logLevel := .string (env.text "LOG_LEVEL" "warn")
    keepsLog
    directivePrefix := .string (env.text "PPD_DIRECTIVE_PREFIX" Prefix.standard.text) }

/-- Settings that passed the check. -/
structure Checked where
  logLevel : Log.Level
  keepsLog : Bool
  directivePrefix : Prefix

def isEnvironment : Value → Bool
  | .string name => ["development", "production", "test"].contains name
  | _ => false

/-- A level is known by its text, whatever the kind of the value. -/
def level (v : Value) : Except Error Log.Level :=
  match v.text? with
  | none => .error (.notText "LOG_LEVEL")
  | some name => (Log.Level.ofName? name).elim (.error (.logLevel name)) .ok

/-- Reports the first of the settings that is invalid. -/
def check (s : ToolSettings) : Except Error Checked :=
  match isEnvironment s.environment, level s.logLevel with
  | false, _ => .error (s.environment.text?.elim (.notText "NODE_ENV") .environment)
  | true, .error e => .error e
  | true, .ok level =>
    match Settings.check (Value.record false [(Settings.prefixField, s.directivePrefix)]) with
    | .error problems => .error (.directivePrefix problems)
    | .ok settings => .ok ⟨level, s.keepsLog, settings.directivePrefix⟩

end ToolSettings

end GuardedText
