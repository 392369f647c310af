import AspectForms.Text.Split

/-!
Paths as texts.  A path keeps its spelling; what it means is told by its components, among which a
repeated slash and a `.` inside count for nothing.
-/

namespace AspectForms.Path

/-- One step of a path. -/
inductive Component
  | root
  | current
  | parent
  | normal (name : String)
deriving DecidableEq, Repr

def isAbsolute (path : String) : Bool := path.toList.head? == some '/'

def endsWithSlash (path : String) : Bool := path.toList.getLast? == some '/'

/-- The pieces of a path between its slashes, without empty ones. -/
def pieces (path : String) : List String := (Text.splitOn '/' path).filter (!·.isEmpty)

/-- `p` below `base`; an absolute `p` stands alone. -/
def push (base p : String) : String :=
  if isAbsolute p then p
  else if base.isEmpty || endsWithSlash base then base ++ p
  else base ++ "/" ++ p

/-- The path that leads through the given names. -/
def ofNames (names : List String) : String := names.foldl push ""

/-- A component and the length of the path up to its end. -/
structure Step where
  component : Component
  stop : Nat

/-- The steps of the pieces between slashes; `start` is where the next piece begins. -/
def stepsFrom (first : Bool) (start : Nat) : List (List Char) → List Step
  | [] => []
  | piece :: pieces =>
    let stop := start + piece.length
    let rest := stepsFrom false (stop + 1) pieces
    if piece.isEmpty then rest
    else if piece = ['.'] then if first then ⟨.current, stop⟩ :: rest else rest
    else if piece = ['.', '.'] then ⟨.parent, stop⟩ :: rest
    else ⟨.normal (String.ofList piece), stop⟩ :: rest

def steps (path : String) : List Step :=
  let pieces := Text.splitWhen (· == '/') path.toList
  if isAbsolute path then ⟨.root, 1⟩ :: stepsFrom false 0 pieces else stepsFrom true 0 pieces

def components (path : String) : List Component := (steps path).map (·.component)

/-- The path without its last component; the root and the empty path have none. -/
def parent? (path : String) : Option String :=
  match (steps path).reverse with
  | [] => none
  | [⟨.root, _⟩] => none
  | [_] => some ""
  | _ :: before :: _ => some (String.ofList (path.toList.take before.stop))

def fileName? (path : String) : Option String :=
  match (components path).getLast? with
  | some (.normal name) => some name
  | _ => none

/-- What follows the last dot of the file name, if something precedes it. -/
def extension? (path : String) : Option String := do
  let name ← fileName? path
  let pieces := Text.splitWhen (· == '.') name.toList
  let before := Text.joinWith '.' pieces.dropLast
  if pieces.length < 2 ∨ before.isEmpty then none
  else return String.ofList (pieces.getLastD [])

/-- A path and the paths above it, the longest first, without the root and the empty path. -/
def ancestors : Nat → String → List String
  | 0, _ => []
  | fuel + 1, path =>
    match parent? path with
    | none => []
    | some p => path :: ancestors fuel p

/-- All prefixes of a path that could name a directory, the longest first. -/
def prefixes (path : String) : List String := ancestors (path.length + 1) path

end AspectForms.Path
