import GuardedText.Settings.Prefix
import GuardedText.Text.Decimal
import GuardedText.Value.Object

/-! Settings, checked once when they come in as a value of any kind or as an object of any make. All
that is wrong is reported together, first about the prefix, then about fields that do not belong. -/

namespace GuardedText

structure Settings where
  directivePrefix : Prefix

namespace Settings

def standard : Settings := ⟨.standard⟩

def prefixField : String := "directivePrefix"

inductive Problem where
  | notRecord (received : Value.Kind)
  | prefixMissing
  | prefixNotText
  | prefixEmpty
  | prefixCharacter
  | unknownFields (names : List String)
  deriving DecidableEq, Repr

inductive PathPart where
  | field (name : String)
  | index (n : Number)
  deriving DecidableEq, Repr

def PathPart.text : PathPart → String
  | .field name => name
  | .index n => Text.Decimal.ofNumber n

/-- A problem as it is reported: where, in what words, and under which code. -/
structure Issue where
  path : List PathPart
  message : String
  code : String
  deriving DecidableEq, Repr

def Issue.placeText (i : Issue) : String :=
  if i.path.isEmpty then "(root)" else ".".intercalate (i.path.map PathPart.text)

namespace Problem

def message : Problem → String
  | .notRecord .undefined => "Required"
  | .notRecord received => String.join ["Expected object, received ", received.text]
  | .prefixMissing => "Required"
  | .prefixNotText => "Directive prefix must be a string"
  | .prefixEmpty => "Directive prefix must not be empty"
  | .prefixCharacter => "Directive prefix may only contain ASCII letters, digits and punctuation"
  | .unknownFields names =>
    String.join ["Unrecognized key(s) in object: ",
      ", ".intercalate (names.map fun n => "'" ++ n ++ "'")]

def code : Problem → String
  | .notRecord _ | .prefixMissing | .prefixNotText => "invalid_type"
  | .prefixEmpty => "too_small"
  | .prefixCharacter => "invalid_string"
  | .unknownFields _ => "unrecognized_keys"

def path : Problem → List PathPart
  | .notRecord _ | .unknownFields _ => []
  | _ => [.field prefixField]

def issue (p : Problem) : Issue :=
  ⟨p.path, p.message, p.code⟩

end Problem

/-- Rejected settings. -/
structure Error where
  message : String
  issues : List Issue
  deriving DecidableEq, Repr

def Error.ofProblems (problems : List Problem) : Error where
  message := String.join
    ["Invalid preprocessor configuration: ", "; ".intercalate (problems.map Problem.message)]
  issues := problems.map Problem.issue

/-- The issues for display, one on each line below a heading. -/
def Error.listing (e : Error) : String :=
  "\n".intercalate ("Preprocessor configuration validation failed:" ::
    e.issues.map fun i => "  - " ++ i.placeText ++ ": " ++ i.message)

def checkPrefix (v : Value) : Except Problem Prefix :=
  match v with
  | .undefined => .error .prefixMissing
  | .string s =>
    if hne : s = "" then .error .prefixEmpty
    else match had : s.toList.all Prefix.admits with
      | true => .ok ⟨s, hne, had⟩
      | false => .error .prefixCharacter
  | _ => .error .prefixNotText

/-- What settings are looked for in: a value, or an object of any other make. -/
inductive Candidate where
  | value (v : Value)
  | object (o : Object)

instance : Coe Value Candidate := ⟨.value⟩

namespace Candidate

def kind : Candidate → Value.Kind
  | .value v => v.kind
  | .object o => o.kind

/-- The names that show when all are asked for. -/
def listed : Candidate → List String
  | .value v => v.ownKeys
  | .object o => o.listed

/-- What is found under a name. Values inherit nothing under the names that are looked up. -/
def read : Candidate → String → Value
  | .value v, name => (v.field? name).getD .undefined
  | .object o, name => o.read name

end Candidate

def unknownFields (x : Candidate) : List Problem :=
  match x.listed.filter (· != prefixField) with
  | [] => []
  | names => [.unknownFields names]

/-- The settings in a candidate, or all that is wrong with it, which is never nothing. The fields of
an object are those that show, and the prefix is what is found under its name. -/
def check (x : Candidate) : Except (List Problem) Settings :=
  match x.kind with
  | .object =>
    match checkPrefix (x.read prefixField), unknownFields x with
    | .ok p, [] => .ok ⟨p⟩
    | .ok _, unknown => .error unknown
    | .error problem, unknown => .error (problem :: unknown)
  | other => .error [.notRecord other]

def load (x : Candidate) : Except Error Settings :=
  (check x).mapError .ofProblems

/-- The settings that hold just the given prefix. -/
def ofPrefix (v : Value) : Except Error Settings :=
  load (Value.record false [(prefixField, v)])

/-- `ofPrefix` where absent values stand for the standard prefix. -/
def ofPrefixOption (v : Value) : Except Error Settings :=
  ofPrefix (if v.isAbsent then .string Prefix.standard.text else v)

end Settings

end GuardedText
