import AspectForms.Failure
import AspectForms.Files.Path

/-!
What generation asks of a file system.  The writer of generated files knows no more of it than these
operations, so it runs on a plain disk as on one with links or one whose operations fail at any time.
-/

namespace AspectForms

/-- The operations of a file system.  One that fails may have changed something before. -/
class FileSystem (σ : Type) where
  /-- Whether something is at a path. -/
  «exists» : σ → String → Bool
  /-- Whether a directory is at a path. -/
  isDirectory : σ → String → Bool
  /-- Make one directory, in a directory that exists. -/
  makeDirectory : σ → String → σ × Except FileError Unit
  /-- Write a text to a file, which is made if it is missing. -/
  writeText : σ → String → String → σ × Except FileError Unit

namespace FileSystem

variable {σ : Type} [FileSystem σ]

/-- Make a directory unless it is there. -/
def settle (disk : σ) (path : String) : σ × Except FileError Unit :=
  match makeDirectory disk path with
  | (disk, .ok ()) => (disk, .ok ())
  | (disk, .error e) => (disk, if isDirectory disk path then .ok () else .error e)

/-- Make the missing ones among directories, each inside the one after it in the list. -/
def makeChain (disk : σ) : List String → σ × Except FileError Unit
  | [] => (disk, .ok ())
  | path :: above =>
    match makeDirectory disk path with
    | (disk, .ok ()) => (disk, .ok ())
    | (disk, .error .notFound) =>
      match makeChain disk above with
      | (disk, .ok ()) => settle disk path
      | (disk, .error e) => (disk, .error e)
    | (disk, .error e) => (disk, if isDirectory disk path then .ok () else .error e)

/-- Make a directory and all that are missing above it. -/
def makeDirectories (disk : σ) (path : String) : σ × Except FileError Unit :=
  makeChain disk (Path.prefixes path)

end FileSystem

end AspectForms
