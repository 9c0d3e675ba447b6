import GuardedText.Value.Basic

/-! Sources of active names. A single text is one name; a map, or anything with functions `keys`
and `get`, gives its keys; whatever can be run through gives its items; any other record gives the
names of its fields, whose values are never looked at. -/

namespace GuardedText.NameSource

/-- The value is of a kind that can hold no names. -/
structure SourceError where
  source : Value

/-- The members of a source, each once, in the order the source gives them. A record whose own
fields `keys` and `get` are functions is asked through them and gives nothing. -/
def members (source : Value) : Except SourceError (List Value) :=
  match source with
  | .string s => .ok [.string s]
  | .array items | .set items | .sequence items => .ok (Value.distinctMembers items)
  | .map entries | .lookup entries => .ok ((Value.fieldsOf entries).map fun e => .string e.1)
  | .record _ fields =>
    match Value.hasFunctions fields ["keys", "get"] with
    | true => .ok []
    | false => .ok (source.ownKeys.map .string)
  | .function | .date _ => .ok []
  | .undefined | .null | .bool _ | .number _ | .bigint _ | .symbol _ => .error ⟨source⟩

def nameOf? : Value → Option String
  | .string s => some s
  | _ => none

/-- The names among the members. Members of other kinds make no name active. -/
def names (source : Value) : Except SourceError (List String) :=
  (members source).map fun ms => ms.filterMap nameOf?

/-- The choice of active names that a list of them makes. -/
def active (names : List String) (name : String) : Bool :=
  names.contains name

end GuardedText.NameSource
