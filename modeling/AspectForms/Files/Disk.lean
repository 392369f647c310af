import AspectForms.Files.FileSystem

/-!
A plain file system: a tree of directories and files, and the operations on it.  There are no links and no
permissions, and an operation that fails changes nothing.
-/

namespace AspectForms

/-- The contents of a file: a text, or bytes that are none. -/
inductive Contents
  | text (s : String)
  | bytes (b : List UInt8)
deriving DecidableEq, Repr

namespace Contents

/-- What a file holds that consists of these bytes. -/
def ofBytes (b : List UInt8) : Contents :=
  match String.fromUTF8? ⟨b.toArray⟩ with
  | some s => .text s
  | none => .bytes b

/-- What a file holds to which only the first `n` bytes of a text have been written. -/
def beginning (n : Nat) (text : String) : Contents := ofBytes (text.toUTF8.toList.take n)

end Contents

/-- A file or a directory with its entries. -/
inductive Tree
  | file (contents : Contents)
  | directory (entries : List (String × Tree))
deriving Inhabited

/-- The steps from the root of the tree to one of its nodes. -/
abbrev Location := List String

namespace Tree

/-- The entry of a name, if this is a directory that has it. -/
def entry? (name : String) : Tree → Option Tree
  | directory entries => entries.lookup name
  | file _ => none

def isDirectory : Tree → Bool
  | directory _ => true
  | file _ => false

def find? : Location → Tree → Option Tree
  | [], t => some t
  | name :: rest, t => (t.entry? name).bind (find? rest)

/-- Put `node` under `name`, keeping the place of an entry that is replaced. -/
def setEntry (name : String) (node : Tree) : List (String × Tree) → List (String × Tree)
  | [] => [(name, node)]
  | e :: es => if e.1 = name then (name, node) :: es else e :: setEntry name node es

/-- Put `node` at a location.  Nothing changes unless all directories above it exist. -/
def insert (node : Tree) : Location → Tree → Tree
  | [], _ => node
  | name :: rest, directory entries =>
    match rest, entries.lookup name with
    | [], _ => directory (setEntry name node entries)
    | _, some below => directory (setEntry name (insert node rest below) entries)
    | _, none => directory entries
  | _ :: _, t => t

mutual

/-- All files below a node with their locations, each beginning with `above`. -/
def files (above : Location) : Tree → List (Location × Contents)
  | file contents => [(above, contents)]
  | directory entries => entriesFiles above entries
termination_by structural t => t

def entryFiles (above : Location) : String × Tree → List (Location × Contents)
  | (name, t) => files (above ++ [name]) t
termination_by structural e => e

def entriesFiles (above : Location) : List (String × Tree) → List (Location × Contents)
  | [] => []
  | e :: es => entryFiles above e ++ entriesFiles above es
termination_by structural es => es

end

end Tree

/-- A file system and the directory that relative paths start from. -/
structure Disk where
  tree : Tree
  working : Location
deriving Inhabited

namespace Disk

/-- The longest name of an entry, in bytes. -/
def nameLimit : Nat := 255

/-- The longest path, in bytes. -/
def pathLimit : Nat := 4095

/-- The location one piece further on, going by the spelling alone. -/
def next (here : Location) (piece : String) : Location :=
  if piece = "." then here
  else if piece = ".." then here.dropLast
  else here ++ [piece]

/-- The location that pieces lead to, going by the spelling alone. -/
def follow (here : Location) (pieces : List String) : Location :=
  pieces.foldl next here

def start (disk : Disk) (path : String) : Location :=
  if Path.isAbsolute path then [] else disk.working

/-- The location that a path leads to, going by the spelling alone. -/
def locate (disk : Disk) (path : String) : Location :=
  follow (disk.start path) (Path.pieces path)

/-- A path cut at its slashes, with the place it starts from. -/
structure Route where
  start : Location
  pieces : List String
  /-- The path ends with a slash. -/
  slash : Bool

/-- The route of a path; dots and repeated slashes stay in it. -/
def route (disk : Disk) (path : String) : Except FileError Route := do
  if '\x00' ∈ path.toList then throw .nulInName
  if path.isEmpty then throw .notFound
  if pathLimit < path.utf8ByteSize then throw .nameTooLong
  return {
    start := disk.start path
    pieces := Path.pieces path
    slash := Path.endsWithSlash path }

/-- Follow one piece from an existing location. -/
def step (disk : Disk) (here : Location) (piece : String) : Except FileError Location := do
  match disk.tree.find? here with
  | none => throw .notFound
  | some (.file _) => throw .notDirectory
  | some (.directory entries) =>
    if piece = "." then return here
    else if piece = ".." then return here.dropLast
    else if nameLimit < piece.utf8ByteSize then throw .nameTooLong
    else
      match entries.lookup piece with
      | some _ => return here ++ [piece]
      | none => throw .notFound

/-- Follow pieces one after the other. -/
def walk (disk : Disk) : Location → List String → Except FileError Location
  | here, [] => .ok here
  | here, piece :: rest => do
    let next ← disk.step here piece
    disk.walk next rest

/-- The node that a path leads to. -/
def resolve (disk : Disk) (path : String) : Except FileError (Location × Tree) := do
  let r ← disk.route path
  let here ← disk.walk r.start r.pieces
  match disk.tree.find? here with
  | none => throw .notFound
  | some t => if r.slash && !t.isDirectory then throw .notDirectory else return (here, t)

def «exists» (disk : Disk) (path : String) : Bool := (disk.resolve path).isOk

def isDirectory (disk : Disk) (path : String) : Bool :=
  match disk.resolve path with
  | .ok (_, t) => t.isDirectory
  | .error _ => false

def readText (disk : Disk) (path : String) : Except FileError String := do
  match ← disk.resolve path with
  | (_, .directory _) => throw .isDirectory
  | (_, .file (.text s)) => return s
  | (_, .file (.bytes _)) => throw .notText

/-- The directory in which the last piece of a path is looked up, and that piece.  A path may also end
in the root or in dots, which name no entry. -/
def lastPiece (disk : Disk) (r : Route) : Except FileError (Location × Option String) := do
  match r.pieces.reverse with
  | [] => return (r.start, none)
  | last :: before =>
    let here ← disk.walk r.start before.reverse
    if last = "." ∨ last = ".." then
      let there ← disk.step here last
      return (there, none)
    match disk.tree.find? here with
    | none => throw .notFound
    | some (.file _) => throw .notDirectory
    | some (.directory _) =>
      if nameLimit < last.utf8ByteSize then throw .nameTooLong else return (here, some last)

def put (disk : Disk) (location : Location) (node : Tree) : Disk :=
  { disk with tree := Tree.insert node location disk.tree }

/-- Make one directory, in a directory that exists. -/
def makeDirectory (disk : Disk) (path : String) : Except FileError Disk := do
  let r ← disk.route path
  match ← disk.lastPiece r with
  | (_, none) => throw .exists
  | (here, some name) =>
    if (disk.tree.find? (here ++ [name])).isSome then throw .exists
    return disk.put (here ++ [name]) (.directory [])

/-- Put contents into a file, which is made if it is missing. -/
def writeFile (disk : Disk) (path : String) (contents : Contents) : Except FileError Disk := do
  let r ← disk.route path
  match ← disk.lastPiece r with
  | (_, none) => throw .isDirectory
  | (here, some name) =>
    if r.slash then throw .isDirectory
    match disk.tree.find? (here ++ [name]) with
    | some (.directory _) => throw .isDirectory
    | _ => return disk.put (here ++ [name]) (.file contents)

/-- An operation that changes nothing if it fails. -/
def attempt (disk : Disk) : Except FileError Disk → Disk × Except FileError Unit
  | .ok after => (after, .ok ())
  | .error e => (disk, .error e)

instance : FileSystem Disk where
  «exists» := Disk.exists
  isDirectory := Disk.isDirectory
  makeDirectory disk path := disk.attempt (disk.makeDirectory path)
  writeText disk path text := disk.attempt (disk.writeFile path (.text text))

/-- Put a file at a path, with all directories that are missing above it, if that is possible. -/
def provide (disk : Disk) (path : String) (contents : Contents) : Disk :=
  let disk := (FileSystem.makeDirectories disk ((Path.parent? path).getD "")).1
  match (disk.route path).bind disk.lastPiece with
  | .ok (here, some name) => disk.put (here ++ [name]) (.file contents)
  | _ => disk

/-- The files below the working directory, by their relative paths in ascending order. -/
def workingFiles (disk : Disk) : List (String × Contents) :=
  match disk.tree.find? disk.working with
  | none => []
  | some t =>
    let named := (t.files []).map fun f => (Text.join "/" f.1, f.2)
    named.mergeSort fun a b => a.1 ≤ b.1

/-- The files of `after` that are new or different from `before`. -/
def changes (before after : Disk) : List (String × Contents) :=
  let old := before.workingFiles
  after.workingFiles.filter fun f => old.lookup f.1 != some f.2

end Disk

end AspectForms
