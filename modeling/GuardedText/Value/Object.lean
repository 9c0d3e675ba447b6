import GuardedText.Value.Describe

/-! Objects as a program meets them that does not know how they were made. Some of their properties
they have from other objects that they inherit from, and some do not show when an object is asked
for its names; but what is looked up is found wherever it is. -/

namespace GuardedText

namespace Object

inductive Key where
  | text (name : String)
  | symbol (description : String)
  deriving DecidableEq, Repr

/-- A property with what reading it gives, be that stored or worked out then. Properties that are
not `listed` are passed over where names are asked for. -/
structure Property where
  key : Key
  listed : Bool
  value : Value

/-- What an object is, whatever properties it has. -/
inductive Form where
  | function | array | set | map | date | plain
  deriving DecidableEq, Repr

end Object

/-- An object as it is at one time: its own properties, and those of what it inherits from, the
nearest first. That a property can be read at all is taken for granted. -/
structure Object where
  form : Object.Form
  own : List Object.Property
  inherited : List (List Object.Property)

namespace Object

def layers (o : Object) : List (List Property) :=
  o.own :: o.inherited

def ownKeys (o : Object) : List Key :=
  o.own.map Property.key

def Property.name? (p : Property) : Option String :=
  match p.key with
  | .text name => some name
  | .symbol _ => none

/-- What reading a property gives, `undefined` if there is none. The nearest one counts. -/
def read (o : Object) (name : String) : Value :=
  match o.layers.flatten.find? (·.name? == some name) with
  | some p => p.value
  | none => .undefined

/-- The properties of one layer that have texts for names, in listing order. -/
def named (layer : List Property) : List (String × Property) :=
  Value.enumerate (layer.filterMap fun p => p.name?.map (·, p))

/-- The listed names in layers of properties, layer by layer. A property hides those of its name in
the layers behind it, whether it is listed itself or not; `hidden` are the names that are hidden
from the start. -/
def listedFrom (hidden : List String) : List (List Property) → List String
  | [] => []
  | layer :: rest =>
    let fresh := (named layer).filter fun p => !hidden.contains p.1
    (fresh.filter (·.2.listed)).map (·.1) ++ listedFrom (hidden ++ fresh.map (·.1)) rest

def listed (o : Object) : List String :=
  listedFrom [] o.layers

/-- An object with functions `then` and `catch` is a promise, unless it is a function or an
array. -/
def kind (o : Object) : Value.Kind :=
  match o.form, (o.read "then").isFunction && (o.read "catch").isFunction with
  | .function, _ => .function
  | .array, _ => .array
  | _, true => .promise
  | .set, false => .set
  | .map, false => .map
  | .date, false => .date
  | .plain, false => .object

end Object

end GuardedText
