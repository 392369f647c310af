import AspectForms.Files.Disk

/-!
Writing generated files below one directory.  Files that exist are left alone unless they may be
overwritten; a dry run records what would be written and touches nothing.
-/

namespace AspectForms

/-- What became of a file. -/
inductive Outcome
  | written
  | overwritten
  /-- The file exists and may not be overwritten. -/
  | skipped
  /-- A dry run. -/
  | planned
deriving DecidableEq, Repr, Inhabited

def Outcome.word : Outcome → String
  | written => "written"
  | overwritten => "overwritten"
  | skipped => "skipped"
  | planned => "planned"

/-- A file to be written, by its path below the root. -/
structure Draft where
  path : String
  text : String
deriving DecidableEq, Repr

/-- A file that has been dealt with. -/
structure Artifact where
  path : String
  outcome : Outcome
deriving DecidableEq, Repr, Inhabited

/-- Where files go and what may happen to those that exist. -/
structure Writer where
  root : String
  overwrite : Bool := false
  dryRun : Bool := false
deriving DecidableEq, Repr, Inhabited

namespace Writer

variable {σ : Type} [FileSystem σ]

/-- Deal with one file. -/
def write (w : Writer) (disk : σ) (draft : Draft) : σ × Except Failure Outcome :=
  let path := Path.push w.root draft.path
  let present := FileSystem.exists disk path
  if w.dryRun then (disk, .ok .planned)
  else if present && !w.overwrite then (disk, .ok .skipped)
  else
    let parent := (Path.parent? path).getD ""
    match FileSystem.makeDirectories disk parent with
    | (disk, .error e) =>
      (disk, .error ((Failure.of (.file e)).within ("Failed to create directory: " ++ parent)))
    | (disk, .ok ()) =>
      match FileSystem.writeText disk path draft.text with
      | (disk, .error e) =>
        (disk, .error ((Failure.of (.file e)).within ("Failed to write artifact: " ++ path)))
      | (disk, .ok ()) => (disk, .ok (if present then .overwritten else .written))

/-- A writer at work: the file system, and the files dealt with so far. -/
structure Session (σ : Type := Disk) where
  disk : σ
  artifacts : List Artifact := []

/-- Deal with one file, and record it unless that fails. -/
def record (w : Writer) (s : Session σ) (draft : Draft) : Session σ × Except Failure Outcome :=
  match w.write s.disk draft with
  | (disk, .error f) => ({ s with disk }, .error f)
  | (disk, .ok outcome) => (⟨disk, s.artifacts ++ [⟨draft.path, outcome⟩]⟩, .ok outcome)

/-- Deal with files one after the other, also after one that has failed. -/
def recordAll (w : Writer) (s : Session σ) (drafts : List Draft) : Session σ :=
  drafts.foldl (fun s draft => (w.record s draft).1) s

/-- What a sequence of writes left behind. -/
structure Progress (σ : Type := Disk) where
  disk : σ
  artifacts : List Artifact
  failure : Option Failure

/-- Deal with files one after the other, up to the first failure. -/
def writeAll (w : Writer) (disk : σ) : List Draft → Progress σ
  | [] => ⟨disk, [], none⟩
  | draft :: drafts =>
    match w.write disk draft with
    | (disk, .error f) => ⟨disk, [], some f⟩
    | (disk, .ok outcome) =>
      let rest := w.writeAll disk drafts
      { rest with artifacts := ⟨draft.path, outcome⟩ :: rest.artifacts }

end Writer

end AspectForms
