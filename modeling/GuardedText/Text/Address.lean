import GuardedText.Text.Encoding
import GuardedText.Text.Lines

/-! Addresses: a scheme, an authority with a name, a password and a host, a path, and a query of
fields. Of an address that can be read only the password and the fields are kept. -/

namespace GuardedText.Text

structure Address where
  /-- Empty if there is none. -/
  password : String
  fields : List (String × String)
  deriving DecidableEq, Repr

namespace Address

/-- The characters that count, without those at the ends that are no more than a space. -/
def relevant (s : List Char) : List Char :=
  (dropEndWhile (· ≤ ' ') (s.dropWhile (· ≤ ' '))).filter fun c =>
    c ≠ '\t' && c ≠ '\n' && c ≠ '\r'

def isSchemeChar (c : Char) : Bool :=
  c.isAlphanum || c == '+' || c == '-' || c == '.'

/-- The scheme in small letters and what follows its colon. -/
def scheme? (s : List Char) : Option (String × List Char) :=
  match s.span (· ≠ ':') with
  | (first :: more, _ :: rest) =>
    match first.isAlpha && more.all isSchemeChar with
    | true => some (lower (String.ofList (first :: more)), rest)
    | false => none
  | _ => none

/-- The schemes whose addresses have an authority after any number of slashes of both kinds, and
always a host in it. -/
def hostSchemes : List String := ["http", "https", "ws", "wss", "ftp"]

/-- Characters that no host holds. -/
def forbidden : List Char :=
  [Char.ofNat 0, ' ', '#', '/', ':', '<', '>', '?', '@', '[', '\\', ']', '^', '|']

/-- Further characters that no host of a host scheme holds. -/
def isControl (c : Char) : Bool :=
  c.toNat < 0x20 || c.toNat == 0x7F

/-- The bytes of a text in which a sign `%` and two digits stand for a byte. -/
def unescapeBytes : List UInt8 → List UInt8
  | b :: high :: low :: rest =>
    match b == 0x25, Encoding.hexByte? (Char.ofNat high.toNat) (Char.ofNat low.toNat) with
    | true, some byte => byte :: unescapeBytes rest
    | _, _ => b :: unescapeBytes (high :: low :: rest)
  | bytes => bytes

def unescape (s : List Char) : String :=
  Utf8.decode (unescapeBytes (Utf8.encode (String.ofList s)))

/-- The number of a service is left out or at most 65535. -/
def isService (s : List Char) : Bool :=
  s.all Char.isDigit && s.foldl (fun n d => 10 * n + (d.toNat - '0'.toNat)) 0 ≤ 65535

/-- What follows a host is nothing, or a colon and the number of a service. -/
def endsHost (s : List Char) : Bool :=
  match s with
  | [] => true
  | ':' :: number => isService number
  | _ => false

/-- Groups of hexadecimal digits with colons between them, eight or, around one pair of colons,
fewer. -/
def isGrouped (s : List Char) : Bool :=
  let groups := splitFrom ':' [] s
  let isGroup (g : List Char) := g.length ≤ 4 && g.all fun c => (Encoding.hexValue? c).isSome
  let gaps := groups.count []
  let atEnds := (if groups.head? = some [] then 1 else 0) +
    (if groups.getLast? = some [] then 1 else 0)
  groups.all isGroup &&
    ((groups.length == 8 && gaps == 0) || (groups.length ≤ 8 + atEnds && gaps == 1 + atEnds))

/-- Whether a text is a host, perhaps with the number of a service. -/
def isHost (known : Bool) (s : List Char) : Bool :=
  match s with
  | '[' :: rest =>
    match rest.span (· ≠ ']') with
    | (groups, _ :: rest) => isGrouped groups && endsHost rest
    | _ => false
  | s =>
    match known, s.span (· ≠ ':') with
    | _, ([], _ :: _) => false
    | true, ([], []) => false
    | true, (name, rest) =>
      (unescape name).toList.all (fun c => !forbidden.contains c && !isControl c && c != '%') &&
        endsHost rest
    | false, (name, rest) => name.all (!forbidden.contains ·) && endsHost rest

/-- The password in an authority that can be read. What goes before the last sign `@` is a name and,
after a colon, the password; without the sign there is neither. -/
def password? (known : Bool) (authority : List Char) : Option String :=
  match authority.reverse.span (· ≠ '@') with
  | (host, []) =>
    match isHost known host.reverse with
    | true => some ""
    | false => none
  | (host, _ :: credentials) =>
    match host, isHost known host.reverse with
    | _ :: _, true => some (String.ofList ((credentials.reverse.dropWhile (· ≠ ':')).drop 1))
    | _, _ => none

/-- The fields of a query. Those between two signs `&` that are empty are none; a plus sign is a
space. -/
def fieldsOf (query : List Char) : List (String × String) :=
  let pieces := (splitFrom '&' [] query).filter (· ≠ [])
  pieces.map fun piece =>
    let piece := piece.map fun c => if c = '+' then ' ' else c
    (unescape (piece.takeWhile (· ≠ '=')), unescape ((piece.dropWhile (· ≠ '=')).drop 1))

def isSlash (known : Bool) (c : Char) : Bool :=
  c == '/' || (known && c == '\\')

/-- What follows the slashes in front of an authority, if there is one. Files have none. -/
def afterSlashes? (scheme : String) (known : Bool) (rest : List Char) : Option (List Char) :=
  match known, scheme, rest with
  | true, _, _ => some (rest.dropWhile (isSlash true))
  | false, "file", _ => none
  | false, _, '/' :: '/' :: rest => some rest
  | _, _, _ => none

/-- Reads an address. A mark `#` ends what counts, and the first question mark begins the query. -/
def read? (text : String) : Option Address :=
  (scheme? (relevant text.toList)).bind fun (scheme, rest) =>
    let known := hostSchemes.contains scheme
    let (place, query) := (rest.takeWhile (· ≠ '#')).span (· ≠ '?')
    let password := match afterSlashes? scheme known place with
      | some rest => password? known (rest.takeWhile (!isSlash known ·))
      | none => some ""
    password.map fun password => ⟨password, fieldsOf (query.drop 1)⟩

/-- The value of the first field of a name. -/
def field? (a : Address) (name : String) : Option String :=
  a.fields.lookup name

end Address

end GuardedText.Text
