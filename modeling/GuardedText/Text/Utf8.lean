/-! Bytes as text. Decoding never fails: each longest run of bytes that begins a character and is
cut short, and each byte that begins none, becomes one replacement character. A byte order mark is
a character like any other. -/

namespace GuardedText.Text.Utf8

/-- What a decoder waits for: nothing, or `more + 1` further bytes of a character whose bits so far
are `bits`, the next of them between `low` and `high`. -/
inductive Pending where
  | nothing
  | bytes (more low high bits : Nat)

def replacement : Char := Char.ofNat 0xFFFD

/-- A byte read between characters. -/
def begin (b : Nat) : List Char × Pending :=
  if b < 0x80 then ([Char.ofNat b], .nothing)
  else if b < 0xC2 then ([replacement], .nothing)
  else if b < 0xE0 then ([], .bytes 0 0x80 0xBF (b - 0xC0))
  else if b = 0xE0 then ([], .bytes 1 0xA0 0xBF 0)
  else if b = 0xED then ([], .bytes 1 0x80 0x9F 0xD)
  else if b < 0xF0 then ([], .bytes 1 0x80 0xBF (b - 0xE0))
  else if b = 0xF0 then ([], .bytes 2 0x90 0xBF 0)
  else if b < 0xF4 then ([], .bytes 2 0x80 0xBF (b - 0xF0))
  else if b = 0xF4 then ([], .bytes 2 0x80 0x8F 4)
  else ([replacement], .nothing)

/-- A byte that cannot continue the character it stands in ends it and is read anew. -/
def advance (p : Pending) (b : Nat) : List Char × Pending :=
  match p with
  | .nothing => begin b
  | .bytes more low high bits =>
    if low ≤ b ∧ b ≤ high then
      let bits := bits * 0x40 + (b - 0x80)
      match more with
      | 0 => ([Char.ofNat bits], .nothing)
      | more + 1 => ([], .bytes more 0x80 0xBF bits)
    else
      let (out, next) := begin b
      (replacement :: out, next)

/-- The characters, reversed, of `done` and the bytes read in the state `p`. -/
def decodeFrom (done : List Char) (p : Pending) : List UInt8 → List Char
  | [] =>
    match p with
    | .nothing => done
    | .bytes .. => replacement :: done
  | b :: rest =>
    let (out, next) := advance p b.toNat
    decodeFrom (out.reverse ++ done) next rest

def decode (bytes : List UInt8) : String :=
  String.ofList (decodeFrom [] .nothing bytes).reverse

def encode (s : String) : List UInt8 :=
  s.toList.flatMap String.utf8EncodeChar

theorem encode_append (s t : String) : encode (s ++ t) = encode s ++ encode t := by
  rw [encode, String.toList_append, List.flatMap_append, ← encode, ← encode]

end GuardedText.Text.Utf8
