import GuardedText.Value.Basic

/-! JSON texts, on one line or indented, and the JSON form of a value. In strings only the quote,
the backslash and the characters below U+0020 are escaped. -/

namespace GuardedText

/-- A JSON document; object members keep their order. -/
inductive Json where
  | null
  | bool (b : Bool)
  | number (x : Number)
  | string (s : String)
  | array (items : List Json)
  | object (members : List (String × Json))

namespace Json

def hexDigit (n : Nat) : Char :=
  if n < 10 then Char.ofNat (0x30 + n) else Char.ofNat (0x57 + n)

def escapeChar (c : Char) : List Char :=
  if c = '"' then ['\\', '"']
  else if c = '\\' then ['\\', '\\']
  else if c = '\n' then ['\\', 'n']
  else if c = '\r' then ['\\', 'r']
  else if c = '\t' then ['\\', 't']
  else if c = '\x08' then ['\\', 'b']
  else if c = '\x0c' then ['\\', 'f']
  else if c.toNat < 0x20 then
    ['\\', 'u', '0', '0', hexDigit (c.toNat / 16), hexDigit (c.toNat % 16)]
  else [c]

def quote (s : String) : String :=
  String.ofList ('"' :: s.toList.flatMap escapeChar ++ ['"'])

/-- A number's text; what no number can write is `null`. -/
def numberText : Number → String
  | .nan | .infinite _ => "null"
  | x => Text.Decimal.ofNumber x

mutual

/-- The text on one line, without blanks. -/
def compact : Json → String
  | .null => "null"
  | .bool b => if b then "true" else "false"
  | .number x => numberText x
  | .string s => quote s
  | .array items => "[" ++ ",".intercalate (compactItems items) ++ "]"
  | .object members => "\x7b" ++ ",".intercalate (compactMembers members) ++ "\x7d"

def compactItems : List Json → List String
  | [] => []
  | j :: rest => compact j :: compactItems rest

def compactMembers : List (String × Json) → List String
  | [] => []
  | (name, j) :: rest => (quote name ++ ":" ++ compact j) :: compactMembers rest

end

def indentation (depth : Nat) : String :=
  String.ofList (List.replicate (2 * depth) ' ')

/-- Lines between brackets that stand on lines of their own; without lines only the brackets. -/
def bracket (opening closing : String) (depth : Nat) (lines : List String) : String :=
  if lines.isEmpty then opening ++ closing
  else
    opening ++ "\n" ++ ",\n".intercalate (lines.map (indentation (depth + 1) ++ ·)) ++ "\n" ++
      indentation depth ++ closing

mutual

/-- The text on several lines, two spaces a level, `depth` levels in. -/
def indented (depth : Nat) : Json → String
  | .null => "null"
  | .bool b => if b then "true" else "false"
  | .number x => numberText x
  | .string s => quote s
  | .array items => bracket "[" "]" depth (indentedItems (depth + 1) items)
  | .object members => bracket "\x7b" "\x7d" depth (indentedMembers (depth + 1) members)

def indentedItems (depth : Nat) : List Json → List String
  | [] => []
  | j :: rest => indented depth j :: indentedItems depth rest

def indentedMembers (depth : Nat) : List (String × Json) → List String
  | [] => []
  | (name, j) :: rest => (quote name ++ ": " ++ indented depth j) :: indentedMembers depth rest

end

end Json

namespace Value

/-- What has no JSON form at all. -/
inductive JsonError where
  | bigint
  deriving DecidableEq, Repr

mutual

/-- The JSON form of a value; `none` for what is left out, as functions are. Maps and sets have no
fields, dates are their texts, and a record with a function `toJSON` stands for what that function
returns, which is nothing. -/
def toJson? : Value → Except JsonError (Option Json)
  | .undefined | .function | .symbol _ => .ok none
  | .null => .ok (some .null)
  | .bool b => .ok (some (.bool b))
  | .number x => .ok (some (.number x))
  | .bigint _ => .error .bigint
  | .string s => .ok (some (.string s))
  | .array items => (itemsToJson items).map fun forms => some (.array forms)
  | .set _ | .sequence _ | .map _ | .lookup _ => .ok (some (.object []))
  | .record _ fields =>
    match hasFunctions fields ["toJSON"] with
    | true => .ok none
    | false => (fieldsToJson fields).map fun ms => some (.object (enumerate ms))
  | .date time => .ok (some (time.elim .null fun t => .string t.isoText))

/-- Items that would be left out are `null`, so that the others keep their places. -/
def itemsToJson : List Value → Except JsonError (List Json)
  | [] => .ok []
  | v :: rest =>
    match toJson? v with
    | .error e => .error e
    | .ok j => (itemsToJson rest).map fun forms => j.getD .null :: forms

def fieldsToJson : List (String × Value) → Except JsonError (List (String × Json))
  | [] => .ok []
  | (name, v) :: rest =>
    match toJson? v with
    | .error e => .error e
    | .ok none => fieldsToJson rest
    | .ok (some j) => (fieldsToJson rest).map fun ms => (name, j) :: ms

end

end Value

end GuardedText
