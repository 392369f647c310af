import AspectForms.Document.Mismatch
import AspectForms.Model.Resolve

/-!
What can go wrong in a run, and in the course of what.
-/

namespace AspectForms

/-- Why a file operation fails. -/
inductive FileError
  | notFound
  | exists
  | notDirectory
  | isDirectory
  | nameTooLong
  | nulInName
  | notText
  | linkLoop
  | inputOutput
  | noSpace
  | quotaExceeded
deriving DecidableEq, Repr

def FileError.message : FileError → String
  | notFound => "No such file or directory (os error 2)"
  | .exists => "File exists (os error 17)"
  | notDirectory => "Not a directory (os error 20)"
  | isDirectory => "Is a directory (os error 21)"
  | nameTooLong => "File name too long (os error 36)"
  | nulInName => "file name contained an unexpected NUL byte"
  | notText => "stream did not contain valid UTF-8"
  | linkLoop => "Too many levels of symbolic links (os error 40)"
  | inputOutput => "Input/output error (os error 5)"
  | noSpace => "No space left on device (os error 28)"
  | quotaExceeded => "Disk quota exceeded (os error 122)"

/-- The root of a failure. -/
inductive Cause
  | model (e : ModelError)
  | json (f : Document.Fault)
  | yaml
  | toml
  | file (e : FileError)
  /-- A formatter that did not start or did not succeed. -/
  | formatter (message : String)

/-- The wording of a cause; faults of a notation have none of their own. -/
def Cause.message? : Cause → Option String
  | model e => some e.message
  | json (.mismatch m) => some m.message
  | json .malformed => none
  | yaml => none
  | toml => none
  | file e => some e.message
  | formatter m => some m

/-- A cause and what was being done, the widest first. -/
structure Failure where
  cause : Cause
  contexts : List String := []

def Failure.of (cause : Cause) : Failure := ⟨cause, []⟩

/-- The same failure seen from a wider activity. -/
def Failure.within (context : String) (f : Failure) : Failure :=
  { f with contexts := context :: f.contexts }

def Failure.headline (f : Failure) : String :=
  f.contexts.head?.getD (f.cause.message?.getD "")

end AspectForms
