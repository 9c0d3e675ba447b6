import GuardedText.Text.Lines

/-! Path names as text. Slashes separate the steps; a path that starts with one is absolute. Nothing
here looks at files. -/

namespace GuardedText.Files.Path

/-- The steps of a path, those between two slashes left out. -/
def steps (path : String) : List String :=
  (Text.split '/' path).filter (!·.isEmpty)

def isAbsolute (path : String) : Bool :=
  path.toList.head? == some '/'

def endsInSlash (path : String) : Bool :=
  path.toList.getLast? == some '/'

/-- One step on from the steps so far. Above the root there is nothing; above the start of a
relative path there is one more `..`. -/
def resolveStep (absolute : Bool) (done : List String) (step : String) : List String :=
  if step = "." then done
  else if step = ".." then
    match done.getLast? with
    | none => if absolute then [] else [".."]
    | some last => if last = ".." then done ++ [".."] else done.dropLast
  else done ++ [step]

def resolveSteps (absolute : Bool) (path : List String) : List String :=
  path.foldl (resolveStep absolute) []

/-- The path of a location. -/
def ofSteps (location : List String) : String :=
  "/" ++ "/".intercalate location

/-- The path without steps that lead nowhere. A slash at its end stays. -/
def normalize (path : String) : String :=
  let ending := match endsInSlash path with
    | true => "/"
    | false => ""
  match isAbsolute path, resolveSteps (isAbsolute path) (steps path) with
  | true, [] => "/"
  | true, done => ofSteps done ++ ending
  | false, [] => "." ++ ending
  | false, done => "/".intercalate done ++ ending

/-- The normalized path that follows one part after the other. -/
def join (parts : List String) : String :=
  normalize ("/".intercalate (parts.filter (!·.isEmpty)))

/-- Where a path that is followed from `here` sets out. -/
def origin (here : List String) (path : String) : List String :=
  match isAbsolute path with
  | true => []
  | false => here

/-- The steps that are taken along a path. A slash at the end is a step in place, which only a
directory allows. -/
def walked (path : String) : List String :=
  match endsInSlash path with
  | true => steps path ++ ["."]
  | false => steps path

/-- The steps from the root to what a path names from `here`. -/
def stepsFromRoot (here : List String) (path : String) : List String :=
  resolveSteps true (origin here path ++ steps path)

/-- The absolute path that a path names from `here`, without a slash at its end. -/
def resolve (here : List String) (path : String) : String :=
  ofSteps (stepsFromRoot here path)

/-- The path that leads from one location to another: up to where they part, then down. -/
def relative (source target : List String) : String :=
  let shared := ((source.zip target).takeWhile fun p => p.1 == p.2).length
  "/".intercalate (List.replicate (source.length - shared) ".." ++ target.drop shared)

/-- The extension of a file name: from its last dot on, unless that dot comes first. -/
def extension (name : String) : String :=
  if name = ".." then ""
  else
    let reversed := name.toList.reverse
    let after := reversed.takeWhile (· ≠ '.')
    match reversed.drop after.length with
    | '.' :: _ :: _ => String.ofList ('.' :: after.reverse)
    | _ => ""

end GuardedText.Files.Path
