import AspectForms.Files.Disk

/-!
A disk whose operations may fail at any time: it is full, over its quota, or damaged.  A file that has been
opened for writing is empty at first, so where the writing fails part-way a beginning of the text is left.
What only looks at the disk goes well at all times.
-/

namespace AspectForms

/-- A failure that befalls an operation, whatever is asked of it. -/
structure FaultyDisk.Fault where
  error : FileError
  /-- How many bytes of a text have been written by then, if the file has been opened. -/
  written? : Option Nat := none
deriving DecidableEq, Repr

/-- A disk, and what befalls the next operations that change something.  Those after them go well. -/
structure FaultyDisk where
  disk : Disk
  faults : List (Option FaultyDisk.Fault) := []
deriving Inhabited

namespace FaultyDisk

def makeDirectory (s : FaultyDisk) (path : String) : FaultyDisk × Except FileError Unit :=
  match s.faults.head?.join with
  | some fault => (⟨s.disk, s.faults.tail⟩, .error fault.error)
  | none =>
    let (disk, result) := FileSystem.makeDirectory s.disk path
    (⟨disk, s.faults.tail⟩, result)

/-- Write a text to a file, which is made if it is missing. -/
def writeText (s : FaultyDisk) (path text : String) : FaultyDisk × Except FileError Unit :=
  match s.faults.head?.join with
  | some ⟨error, none⟩ => (⟨s.disk, s.faults.tail⟩, .error error)
  | some ⟨error, some n⟩ =>
    match s.disk.writeFile path (.beginning n text) with
    | .error e => (⟨s.disk, s.faults.tail⟩, .error e)
    | .ok disk => (⟨disk, s.faults.tail⟩, .error error)
  | none =>
    let (disk, result) := FileSystem.writeText s.disk path text
    (⟨disk, s.faults.tail⟩, result)

instance : FileSystem FaultyDisk where
  «exists» s := s.disk.exists
  isDirectory s := s.disk.isDirectory
  makeDirectory := makeDirectory
  writeText := writeText

end FaultyDisk

end AspectForms
