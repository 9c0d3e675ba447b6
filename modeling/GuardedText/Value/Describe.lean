import GuardedText.Value.Basic

/-! Words for values: the kind a value is of, the class it reports, and its text where a message
quotes it. -/

namespace GuardedText.Value

/-- The kinds that a check of a value's shape tells apart. A record with functions `then` and
`catch` is a promise. -/
inductive Kind where
  | undefined | null | boolean | number | nan | bigint | string | symbol | function
  | array | set | map | date | promise | object
  deriving DecidableEq, Repr

def Kind.text : Kind → String
  | .undefined => "undefined"
  | .null => "null"
  | .boolean => "boolean"
  | .number => "number"
  | .nan => "nan"
  | .bigint => "bigint"
  | .string => "string"
  | .symbol => "symbol"
  | .function => "function"
  | .array => "array"
  | .set => "set"
  | .map => "map"
  | .date => "date"
  | .promise => "promise"
  | .object => "object"

def kind (v : Value) : Kind :=
  match v with
  | .undefined => .undefined
  | .null => .null
  | .bool _ => .boolean
  | .number x => if x.isNaN then .nan else .number
  | .bigint _ => .bigint
  | .string _ => .string
  | .symbol _ => .symbol
  | .function => .function
  | .array _ => .array
  | .set _ => .set
  | .map _ => .map
  | .date _ => .date
  | .sequence _ | .lookup _ => .object
  | .record _ fields =>
    match hasFunctions fields ["then", "catch"] with
    | true => .promise
    | false => .object

/-- The text of a record: what its own function `toString`, or else `valueOf`, returns, which is
nothing, or the text common to records that inherit their text. -/
def recordText? (bare : Bool) (fields : List (String × Value)) : Option String :=
  match bare, fields.lookup "toString" with
  | _, some .function => some Kind.undefined.text
  | false, none => some "[object Object]"
  | _, _ =>
    match hasFunctions fields ["valueOf"] with
    | true => some Kind.undefined.text
    | false => none

mutual

/-- The text of a value where text is asked for; `none` where the value refuses. Absent members of
an array are empty in its text. -/
def text? : Value → Option String
  | .undefined => some "undefined"
  | .null => some "null"
  | .bool b => some (toString b)
  | .number x => some (Text.Decimal.ofNumber x)
  | .bigint n => some (toString n)
  | .string s => some s
  | .symbol _ => none
  | .function => some "() => \x7b\x7d"
  | .array items => (itemTexts items).map (",".intercalate ·)
  | .set _ => some "[object Set]"
  | .map _ => some "[object Map]"
  | .sequence _ => some "[object Generator]"
  | .record bare fields => recordText? bare fields
  | .lookup _ => some "[object Object]"
  | .date time => some (time.elim "Invalid Date" Instant.longText)

def itemTexts : List Value → Option (List String)
  | [] => some []
  | v :: rest =>
    match (if v.isAbsent then some "" else v.text?), itemTexts rest with
    | some s, some ss => some (s :: ss)
    | _, _ => none

end

/-- What a value's `name` is: that of a record's own field, the empty name of a function, or
nothing. -/
def nameOf (v : Value) : Value :=
  match v with
  | .function => .string ""
  | v => (v.field? "name").getD .undefined

/-- What a value that is no primitive tells of its constructor. A field of its own that is called
so comes first. -/
def constructorName (v : Value) : Value :=
  match v with
  | .array _ => .string "Array"
  | .set _ => .string "Set"
  | .map _ => .string "Map"
  | .date _ => .string "Date"
  | .sequence _ => .string ""
  | .lookup _ => .string "Object"
  | .record bare fields =>
    match fields.lookup "constructor" with
    | some c => c.nameOf
    | none => if bare then .undefined else .string "Object"
  | _ => .undefined

/-- How a message calls a value: by its kind, or by the name of its class. `none` where the class
has a name that refuses to be text. -/
def designation? (v : Value) : Option String :=
  match v.kind with
  | .nan => some Kind.number.text
  | .undefined | .null | .boolean | .number | .bigint | .string | .symbol | .function =>
    some v.kind.text
  | _ =>
    let name := v.constructorName
    if name.isAbsent then some "object" else name.text?

end GuardedText.Value
