import GuardedText.Files.Path
import GuardedText.Text.Units
import GuardedText.Text.Utf8

/-! A tree of files as a value, with the operations that programs ask of one and the ways in which
they fail. Nodes are kept under their absolute locations. -/

namespace GuardedText.Files

/-- The names that lead from the root to a node. -/
abbrev Location := List String

inductive Node where
  | file (bytes : List UInt8)
  | directory
  deriving DecidableEq, Repr

inductive Failure where
  | notFound | notDirectory | isDirectory
  /-- A directory is to be made where a file is. -/
  | occupied
  | nameTooLong
  /-- No file can have such a name. -/
  | unnameable
  /-- A directory is to be removed by a path that ends in a step in place. -/
  | stepInPlace
  /-- Any other, which no tree gives. -/
  | other (code description : String)
  deriving DecidableEq, Repr

/-- The customary code of a failure. -/
def Failure.code : Failure → String
  | .notFound => "ENOENT"
  | .notDirectory => "ENOTDIR"
  | .isDirectory => "EISDIR"
  | .occupied => "EEXIST"
  | .nameTooLong => "ENAMETOOLONG"
  | .unnameable => "ERR_INVALID_ARG_VALUE"
  | .stepInPlace => "EINVAL"
  | .other code _ => code

/-- A failure in a few words. -/
def Failure.description : Failure → String
  | .notFound => "no such file or directory"
  | .notDirectory => "not a directory"
  | .isDirectory => "illegal operation on a directory"
  | .occupied => "file already exists"
  | .nameTooLong => "name too long"
  | .unnameable => "no file can have such a name"
  | .stepInPlace => "invalid argument"
  | .other _ description => description

/-- The length in bytes that a name can have at most. -/
def longestName : Nat := 255

/-- The length in bytes that a path can have at most. -/
def longestPath : Nat := 4095

/-- What is wrong with a path whatever the files are. -/
def Failure.ofPath? (path : String) : Option Failure :=
  if Char.ofNat 0 ∈ path.toList then some .unnameable
  else if path = "" then some .notFound
  else if path.utf8ByteSize ≤ longestPath then none
  else some .nameTooLong

/-- What is wrong with the path of a location whatever the files are. -/
def Failure.ofLocation? (loc : Location) : Option Failure :=
  if loc.any (·.toList.contains (Char.ofNat 0)) then some .unnameable
  else if loc.foldl (fun n name => n + 1 + name.utf8ByteSize) 0 ≤ longestPath then none
  else some .nameTooLong

structure Tree where
  nodes : List (Location × Node)

namespace Tree

def empty : Tree := ⟨[]⟩

/-- The node at a location; the root is always a directory. -/
def lookup (t : Tree) (loc : Location) : Option Node :=
  if loc = [] then some .directory else t.nodes.lookup loc

def put (t : Tree) (loc : Location) (node : Node) : Tree :=
  ⟨(loc, node) :: t.nodes.filter (·.1 != loc)⟩

theorem lookup_put (t : Tree) {loc : Location} (node : Node) (h : loc ≠ []) (other : Location) :
    (t.put loc node).lookup other = if other = loc then some node else t.lookup other := by
  by_cases ho : other = loc
  · subst ho; simp [lookup, put, h]
  · by_cases hr : other = []
    · simp [lookup, hr, Ne.symm h]
    · have hb : (other == loc) = false := beq_eq_false_iff_ne.mpr ho
      simp only [lookup, put, hr, ho, if_false, List.lookup_cons, hb]
      induction t.nodes with
      | nil => rfl
      | cons n ns ih =>
        obtain ⟨k, v⟩ := n
        by_cases hk : k = loc
        · subst hk
          simp [List.lookup_cons, hb, ih]
        · simp [hk, List.lookup_cons, ih]

/-- Where one step leads from a directory. -/
def follow (loc : Location) (step : String) : Location :=
  if step = "." then loc else if step = ".." then loc.dropLast else loc ++ [step]

/-- The locations that steps lead to one after the other. -/
def visited (loc : Location) : List String → List Location
  | [] => []
  | step :: rest => follow loc step :: visited (follow loc step) rest

/-- Takes the steps one by one; each must start in a directory. The last need not lead to a node. -/
def walk (t : Tree) (loc : Location) : List String → Except Failure Location
  | [] => .ok loc
  | step :: rest =>
    match t.lookup loc with
    | none => .error .notFound
    | some (.file _) => .error .notDirectory
    | some .directory =>
      if step.utf8ByteSize ≤ longestName then walk t (follow loc step) rest
      else .error .nameTooLong

/-- The location that a path names from `here`. -/
def locate (t : Tree) (here : Location) (path : String) : Except Failure Location :=
  match Failure.ofPath? path with
  | some e => .error e
  | none => walk t (Path.origin here path) (Path.walked path)

def node? (t : Tree) (here : Location) (path : String) : Except Failure Node :=
  match t.locate here path with
  | .error e => .error e
  | .ok loc => (t.lookup loc).elim (.error .notFound) .ok

def present (t : Tree) (here : Location) (path : String) : Bool :=
  (t.node? here path).isOk

def isFile (t : Tree) (here : Location) (path : String) : Except Failure Bool :=
  match t.node? here path with
  | .error e => .error e
  | .ok (.file _) => .ok true
  | .ok .directory => .ok false

def readBytes (t : Tree) (here : Location) (path : String) : Except Failure (List UInt8) :=
  match t.node? here path with
  | .error e => .error e
  | .ok .directory => .error .isDirectory
  | .ok (.file bytes) => .ok bytes

def readText (t : Tree) (here : Location) (path : String) : Except Failure String :=
  (t.readBytes here path).map Text.Utf8.decode

/-- Where a file can be written under a path: at a file, or at no node in a directory. A slash at
the end asks for a directory, which cannot be written. -/
def writable (t : Tree) (here : Location) (path : String) : Except Failure Location :=
  match Failure.ofPath? path, Path.endsInSlash path with
  | some e, _ => .error e
  | none, true =>
    match t.walk (Path.origin here path) ((Path.steps path).dropLast ++ ["."]) with
    | .error e => .error e
    | .ok _ => .error .isDirectory
  | none, false =>
    match t.locate here path with
    | .error e => .error e
    | .ok loc =>
      match t.lookup loc with
      | some .directory => .error .isDirectory
      | _ => .ok loc

/-- The bytes of the file at a location, none if there is no file. -/
def bytesAt (t : Tree) (loc : Location) : List UInt8 :=
  match t.lookup loc with
  | some (.file bytes) => bytes
  | _ => []

def writeBytes (t : Tree) (here : Location) (path : String) (bytes : List UInt8) :
    Except Failure Tree :=
  (t.writable here path).map fun loc => t.put loc (.file bytes)

def writeText (t : Tree) (here : Location) (path text : String) : Except Failure Tree :=
  t.writeBytes here path (Text.Utf8.encode text)

/-- Text behind what a file holds. As with all that writes files here, it is assumed that nothing is
written where that fails; a disk that fills up may leave a part. -/
def appendText (t : Tree) (here : Location) (path text : String) : Except Failure Tree :=
  (t.writable here path).map fun loc =>
    t.put loc (.file (t.bytesAt loc ++ Text.Utf8.encode text))

/-- Makes the directories that the steps lead to, where they are missing. Those that are made before
a failure stay. -/
def makeSteps (t : Tree) (loc : Location) : List String → Except Failure Unit × Tree
  | [] => (.ok (), t)
  | step :: rest =>
    if step.utf8ByteSize ≤ longestName then
      match t.lookup (follow loc step) with
      | some (.file _) => (.error (if rest = [] then .occupied else .notDirectory), t)
      | some .directory => makeSteps t (follow loc step) rest
      | none => makeSteps (t.put (follow loc step) .directory) (follow loc step) rest
    else (.error .nameTooLong, t)

def makeDirectories (t : Tree) (here : Location) (path : String) : Except Failure Unit × Tree :=
  match Failure.ofPath? path with
  | some e => (.error e, t)
  | none => t.makeSteps (Path.origin here path) (Path.walked path)

/-- Makes the directory that a path lies in, as its resolved form tells. -/
def makeParent (t : Tree) (here : Location) (path : String) : Except Failure Unit × Tree :=
  let parent := (Path.stepsFromRoot here path).dropLast
  match Failure.ofLocation? parent with
  | some e => (.error e, t)
  | none => t.makeSteps [] parent

/-- Writes a file once the directory it lies in is made. That directory stays even if the file
cannot be written. -/
def install (t : Tree) (here : Location) (path : String) (bytes : List UInt8) :
    Except Failure Unit × Tree :=
  match t.makeParent here path with
  | (.error e, t) => (.error e, t)
  | (.ok _, t) =>
    match t.writeBytes here path bytes with
    | .error e => (.error e, t)
    | .ok t => (.ok (), t)

/-- Whether one node goes no later than another when a directory is emptied: what lies below a
directory goes before it, and the nodes in a directory go by name. -/
def goesNoLater : Location → Location → Bool
  | _, [] => true
  | [], _ :: _ => false
  | a :: as, b :: bs => if a = b then goesNoLater as bs else decide (a < b)

/-- Takes out the node that a path leads to and everything below it, one by one. A path that leads
through what it takes out leads nowhere once that is gone, and then the rest stays. -/
def remove (t : Tree) (here : Location) (path : String) : Except Failure Tree :=
  match t.locate here path with
  | .error e => .error e
  | .ok loc =>
    match t.lookup loc, (Path.steps path).getLast? with
    | none, _ => .error .notFound
    | some _, some "." => .error .stepInPlace
    | some _, _ =>
      let trail := (visited (Path.origin here path) (Path.steps path)).filter loc.isPrefixOf
      .ok ⟨t.nodes.filter fun n => !(loc.isPrefixOf n.1 && trail.all (goesNoLater n.1))⟩

/-- The name of a node that lies directly in a directory. -/
def childOf? (directory : Location) (loc : Location) : Option String :=
  match loc.dropLast == directory with
  | true => loc.getLast?
  | false => none

/-- The names in a directory, once each, in the order in which the tree has the nodes. -/
def readDirectory (t : Tree) (here : Location) (path : String) :
    Except Failure (List String) :=
  match t.locate here path with
  | .error e => .error e
  | .ok loc =>
    match t.lookup loc with
    | none => .error .notFound
    | some (.file _) => .error .notDirectory
    | some .directory =>
      .ok (Text.distinct (t.nodes.filterMap fun n => childOf? loc n.1))

/-- Names compared step by step, each in 16-bit order; a location comes before what is below it. -/
def locationLe (a b : Location) : Bool :=
  !decide (b.map Text.units < a.map Text.units)

/-- All that lies below a directory, each directory right before its content. -/
def listing (t : Tree) (directory : Location) : List (Location × Node) :=
  let below := t.nodes.filterMap fun n =>
    if directory.isPrefixOf n.1 && n.1 != directory then
      some (n.1.drop directory.length, n.2)
    else none
  below.mergeSort fun a b => locationLe a.1 b.1

end Tree

end GuardedText.Files
