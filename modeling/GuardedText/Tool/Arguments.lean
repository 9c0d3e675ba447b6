import GuardedText.Text.Utf8

/-! Command-line arguments. Options are long (`--name`, `--name=value`) or short (`-x`, several of
them as `-xyz`, one with its value as `-Dvalue`); `--` ends them; all else is an input file. -/

namespace GuardedText.Tool

inductive Flag where
  | listUsed | json | noColor | help
  deriving DecidableEq, Repr

inductive Setting where
  | define | directivePrefix | output
  deriving DecidableEq, Repr

/-- An option that is known: a flag, or a setting with a value. -/
inductive Known where
  | flag (f : Flag)
  | setting (s : Setting)
  deriving DecidableEq, Repr

def longOption? (name : List Char) : Option Known :=
  match String.ofList name with
  | "define" => some (.setting .define)
  | "prefix" => some (.setting .directivePrefix)
  | "output" => some (.setting .output)
  | "list-symbols" => some (.flag .listUsed)
  | "json" => some (.flag .json)
  | "no-color" => some (.flag .noColor)
  | "help" => some (.flag .help)
  | _ => none

def shortOption? (c : Char) : Option Known :=
  match c with
  | 'D' => some (.setting .define)
  | 'o' => some (.setting .output)
  | 'h' => some (.flag .help)
  | _ => none

def isSetting : Option Known → Bool
  | some (.setting _) => true
  | _ => false

inductive UsageError where
  | unknownOption
  | badValue
  deriving DecidableEq, Repr

/-- Where the value of an option comes from: the option's own argument, the next one, or nowhere. -/
inductive Given where
  | inline (value : List Char)
  | next (value : List Char)
  | nothing

inductive Item where
  | option (o : Option Known) (value : Given)
  | input (arg : List Char)

/-- The letters that a character counts as. One of two 16-bit units counts as two letters, neither
of which is a character. -/
def letters (c : Char) : List Char :=
  if c.toNat < 0x10000 then [c] else [Text.Utf8.replacement, Text.Utf8.replacement]

/-- The short options in `-xyz`, as arguments: one each, but a setting takes all that follows it. -/
def unbundle : List Char → List (List Char)
  | [] => []
  | c :: rest =>
    if isSetting (shortOption? c) then [('-' :: c :: rest)]
    else (letters c).map (fun letter => ['-', letter]) ++ unbundle rest

/-- An option that stands for itself and may take its value from the next argument, with whether
it does. -/
def separate (o : Option Known) (next : Option (List Char)) : Item × Bool :=
  match isSetting o, next with
  | true, some value => (.option o (.next value), true)
  | _, _ => (.option o .nothing, false)

/-- What an argument is, of those that are neither `--` nor several short options. -/
def readArgument (arg : List Char) (next : Option (List Char)) : Item × Bool :=
  match arg with
  | ['-', c] => separate (shortOption? c) next
  | '-' :: '-' :: c :: name =>
    match name.dropWhile (· ≠ '=') with
    | '=' :: value => (.option (longOption? (c :: name.takeWhile (· ≠ '='))) (.inline value), false)
    | _ => separate (longOption? (c :: name)) next
  | '-' :: c :: value => (.option (shortOption? c) (.inline value), false)
  | _ => (.input arg, false)

/-- Several short options in one argument, none of which is a setting with its value. -/
def bundled? (arg : List Char) : Option (List Char) :=
  match arg with
  | '-' :: c :: d :: rest =>
    if c = '-' || isSetting (shortOption? c) then none else some (c :: d :: rest)
  | _ => none

/-- The items in the arguments; `pending` are short options out of one argument, still to read. -/
def items (pending args : List (List Char)) : List Item :=
  match pending with
  | arg :: pending =>
    if arg = ['-', '-'] then (pending ++ args).map .input
    else
      let (item, tookNext) := readArgument arg (pending ++ args).head?
      if tookNext then
        match pending, args with
        | _ :: pending, args => item :: items pending args
        | [], _ :: args => item :: items [] args
        | [], [] => [item]
      else item :: items pending args
  | [] =>
    match args with
    | [] => []
    | arg :: args =>
      match bundled? arg with
      | some shorts => items (unbundle shorts) args
      | none => items [arg] args
termination_by (args.length, pending.length)

/-- What the arguments ask for. Of `directivePrefix` and `output` the last one given counts. -/
structure Arguments where
  define : List String := []
  directivePrefix : Option String := none
  output : Option String := none
  listUsed : Bool := false
  json : Bool := false
  noColor : Bool := false
  help : Bool := false
  inputs : List String := []
  deriving DecidableEq, Repr

namespace Arguments

def setFlag (a : Arguments) : Flag → Arguments
  | .listUsed => { a with listUsed := true }
  | .json => { a with json := true }
  | .noColor => { a with noColor := true }
  | .help => { a with help := true }

def set (a : Arguments) (s : Setting) (value : String) : Arguments :=
  match s with
  | .define => { a with define := a.define ++ [value] }
  | .directivePrefix => { a with directivePrefix := some value }
  | .output => { a with output := some value }

/-- A value taken from the next argument must not look like an option itself. -/
def looksLikeOption : List Char → Bool
  | '-' :: _ :: _ => true
  | _ => false

def add (a : Arguments) (item : Item) : Except UsageError Arguments :=
  match item with
  | .input arg => .ok { a with inputs := a.inputs ++ [String.ofList arg] }
  | .option none _ => .error .unknownOption
  | .option (some (.flag f)) .nothing => .ok (a.setFlag f)
  | .option (some (.flag _)) _ => .error .badValue
  | .option (some (.setting _)) .nothing => .error .badValue
  | .option (some (.setting s)) (.inline value) => .ok (a.set s (String.ofList value))
  | .option (some (.setting s)) (.next value) =>
    if looksLikeOption value then .error .badValue else .ok (a.set s (String.ofList value))

def addAll (a : Arguments) : List Item → Except UsageError Arguments
  | [] => .ok a
  | item :: rest =>
    match a.add item with
    | .error e => .error e
    | .ok a => addAll a rest

inductive Error where
  | usage (e : UsageError)
  | tooManyInputs (inputs : List String)
  deriving DecidableEq, Repr

/-- What is said about arguments. What is wrong with the options among them is told apart, but put
into words by the runtime, and `<usage>` stands for these. -/
def Error.message : Error → String
  | .usage _ => "<usage>"
  | .tooManyInputs inputs =>
    String.join ["Expected at most one input file, got: ", ", ".intercalate inputs]

/-- The input file, standard input if there is none. -/
def input (a : Arguments) : Option String :=
  a.inputs.head?

def parse (argv : List String) : Except Error Arguments :=
  match addAll {} (items [] (argv.map String.toList)) with
  | .error e => .error (.usage e)
  | .ok a => if a.inputs.length > 1 then .error (.tooManyInputs a.inputs) else .ok a

end Arguments

end GuardedText.Tool
