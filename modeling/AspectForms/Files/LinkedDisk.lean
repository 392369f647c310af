import AspectForms.Files.Disk

/-!
A disk with symbolic links.  A path that comes to a link goes on from where the link leads, and only the
making of a directory does not follow a link at its end.
-/

namespace AspectForms

/-- A disk with links on it: where each stands, and the names that it leads through from the root. -/
structure LinkedDisk where
  disk : Disk
  links : List (Location × Location) := []
deriving Inhabited

namespace LinkedDisk

/-- How many links are followed on one path at most. -/
def linkLimit : Nat := 40

/-- The names on the way from the root that pieces stand for, as the first link among them tells.  A link
at the end counts only if it is to be followed. -/
def redirect? (links : List (Location × Location)) (toEnd : Bool) (here : Location) :
    List String → Option (List String)
  | [] => none
  | piece :: rest =>
    let there := Disk.next here piece
    match links.lookup there with
    | some target =>
      if rest.isEmpty && !toEnd then none else some (target ++ rest)
    | none => redirect? links toEnd there rest

/-- The path without links that a path stands for, looked for at most so many times. -/
def resolve (s : LinkedDisk) (toEnd : Bool) : Nat → String → Except FileError String
  | 0, _ => .error .linkLoop
  | tries + 1, path =>
    match redirect? s.links toEnd (s.disk.start path) (Path.pieces path) with
    | none => .ok path
    | some names =>
      let slash := if Path.endsWithSlash path then "/" else ""
      s.resolve toEnd tries ("/" ++ Text.join "/" names ++ slash)

/-- The path without links that a path stands for. -/
def plainPath (s : LinkedDisk) (toEnd : Bool) (path : String) : Except FileError String := do
  let _ ← s.disk.route path
  s.resolve toEnd (linkLimit + 1) path

/-- Run an operation of the disk on the path without links. -/
def onPlainPath (s : LinkedDisk) (toEnd : Bool) (path : String)
    (operation : String → Disk × Except FileError Unit) : LinkedDisk × Except FileError Unit :=
  match s.plainPath toEnd path with
  | .error e => (s, .error e)
  | .ok plain =>
    let (disk, result) := operation plain
    ({ s with disk }, result)

instance : FileSystem LinkedDisk where
  «exists» s path := (s.plainPath true path).toOption.any s.disk.exists
  isDirectory s path := (s.plainPath true path).toOption.any s.disk.isDirectory
  makeDirectory s path := s.onPlainPath false path fun plain =>
    if (s.links.lookup (s.disk.locate plain)).isSome then (s.disk, .error .exists)
    else FileSystem.makeDirectory s.disk plain
  writeText s path text := s.onPlainPath true path fun plain => FileSystem.writeText s.disk plain text

end LinkedDisk

end AspectForms
