import GuardedText.Instant
import GuardedText.Text.Decimal
import GuardedText.Text.Units

/-! Values of any kind, as a caller may hand them in where a setting, a source of names or the
context of a log record is wanted. -/

namespace GuardedText

/-- `sequence` can be run through once; `lookup` is a record whose only two fields are the functions
`get` and `keys` over the given entries; `bare` records inherit nothing. A `date` may be none. The
fields of a record are its own, go by texts, are all listed, and are there to be read. -/
inductive Value where
  | undefined
  | null
  | bool (b : Bool)
  | number (x : Number)
  | bigint (n : Int)
  | string (s : String)
  | symbol (description : String)
  | function
  | array (items : List Value)
  | set (items : List Value)
  | sequence (items : List Value)
  | record (bare : Bool) (fields : List (String × Value))
  | map (entries : List (String × Value))
  | lookup (entries : List (String × Value))
  | date (time : Option Instant)

namespace Value

/-- Adds a field, or replaces the value of the one that has the name already in its place. -/
def setField (fields : List (String × Value)) (name : String) (v : Value) :
    List (String × Value) :=
  match fields.any (·.1 == name) with
  | true => fields.map fun f => if f.1 = name then (name, v) else f
  | false => fields ++ [(name, v)]

def fieldsOf (pairs : List (String × Value)) : List (String × Value) :=
  pairs.foldl (fun fields p => setField fields p.1 p.2) []

def decimalValue (digits : List Char) : Nat :=
  digits.foldl (fun n d => 10 * n + (d.toNat - '0'.toNat)) 0

/-- The number that a name writes in decimal without leading zeros, if it is an array index, which
means below 2^32 - 1. -/
def arrayIndex? (name : String) : Option Nat :=
  match name.toList.all Char.isDigit, name.toList with
  | true, ['0'] => some 0
  | true, d :: rest =>
    let n := decimalValue (d :: rest)
    if d ≠ '0' ∧ n < 4294967295 then some n else none
  | _, _ => none

/-- Fields in the order they are listed in: array indices ascending, then the others as added. -/
def enumerate {α : Type} (fields : List (String × α)) : List (String × α) :=
  let indexed := fields.filterMap fun f => (arrayIndex? f.1).map (·, f)
  (indexed.mergeSort fun a b => a.1 ≤ b.1).map (·.2) ++
    fields.filter fun f => (arrayIndex? f.1).isNone

/-- The fields of a value's own, in listing order. -/
def ownFields : Value → List (String × Value)
  | .record _ fields => enumerate fields
  | .lookup _ => [("get", .function), ("keys", .function)]
  | .array items => items.mapIdx fun i v => (toString i, v)
  | .string s => (Text.units s).mapIdx fun i _ => (toString i, .undefined)
  | _ => []

def ownKeys (v : Value) : List String :=
  v.ownFields.map (·.1)

/-- A field of the value's own, if it has one of that name. -/
def field? (v : Value) (name : String) : Option Value :=
  v.ownFields.lookup name

/-- Whether a value counts as true where a switch is wanted. -/
def truthy : Value → Bool
  | .undefined | .null => false
  | .bool b => b
  | .number x => !(x.isZero || x.isNaN)
  | .bigint n => n != 0
  | .string s => !s.isEmpty
  | _ => true

/-- Absent values give way to a default. -/
def isAbsent : Value → Bool
  | .undefined | .null => true
  | _ => false

def isFunction : Value → Bool
  | .function => true
  | _ => false

/-- Whether all these fields are there and are functions. -/
def hasFunctions (fields : List (String × Value)) (names : List String) : Bool :=
  names.all fun name => (fields.lookup name).any isFunction

/-- Whether two members of a set are one. Values with an identity of their own are not compared by
what they hold, so no two of them are. -/
def sameMember : Value → Value → Bool
  | .undefined, .undefined => true
  | .null, .null => true
  | .bool a, .bool b => a == b
  | .number x, .number y => x == y || (x.isZero && y.isZero)
  | .bigint m, .bigint n => m == n
  | .string s, .string t => s == t
  | _, _ => false

/-- The members of a set to which the items are added in turn. -/
def distinctMembers (items : List Value) : List Value :=
  items.foldl (fun members v =>
    match members.any (sameMember v) with
    | true => members
    | false => members ++ [v]) []

end Value

end GuardedText
