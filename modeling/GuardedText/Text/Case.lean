import GuardedText.Text.CaseTable

/-! Full letter case mapping of texts, in no particular language. Lowercase follows its one rule
that depends on the surroundings: a capital sigma that ends a word becomes the final small sigma. -/

namespace GuardedText.Text

def CaseRun.contains (r : CaseRun) (n : Nat) : Bool :=
  r.first ≤ n && n ≤ r.last && (n - r.first) % r.step == 0

/-- The character that a list of runs maps `c` to; `c` itself where no run holds it. -/
def mapByRuns (runs : List CaseRun) (c : Char) : Char :=
  match runs.find? (·.contains c.toNat) with
  | some r => Char.ofNat (c.toNat + r.shift).toNat
  | none => c

def inRanges (ranges : List (Nat × Nat)) (c : Char) : Bool :=
  ranges.any fun r => r.1 ≤ c.toNat && c.toNat ≤ r.2

/-- The first of the characters that is not looked through has a letter case. -/
def meetsCased (s : List Char) : Bool :=
  match s.dropWhile (inRanges caseIgnorableRanges) with
  | c :: _ => inRanges casedRanges c
  | [] => false

def capitalSigma : Char := Char.ofNat 0x3A3

def smallSigma : Char := Char.ofNat 0x3C3

def finalSigma : Char := Char.ofNat 0x3C2

/-- The lowercase of one character, between the reversed text before it and the text after it. -/
def lowerChar (before : List Char) (c : Char) (after : List Char) : List Char :=
  if c = capitalSigma then
    [if meetsCased before && !meetsCased after then finalSigma else smallSigma]
  else if c.toNat < 0x80 then [c.toLower]
  else if c.toNat = 0x130 then ['i', Char.ofNat 0x307]
  else [mapByRuns lowerRuns c]

/-- The lowercase of the text that follows `before`, which is reversed. -/
def lowerFrom (before : List Char) : List Char → List Char
  | [] => []
  | c :: rest => lowerChar before c rest ++ lowerFrom (c :: before) rest

def lowerChars (s : List Char) : List Char :=
  lowerFrom [] s

def lower (s : String) : String :=
  String.ofList (lowerChars s.toList)

def upperChar (c : Char) : List Char :=
  if c.toNat < 0x80 then [c.toUpper]
  else match upperExpansions.lookup c.toNat with
    | some ns => ns.map Char.ofNat
    | none => [mapByRuns upperRuns c]

def upper (s : String) : String :=
  String.ofList (s.toList.flatMap upperChar)

end GuardedText.Text
