import AspectForms.Component.Naming
import AspectForms.Files.Writer

/-!
Components and the two files each consists of: its class and its markup, held as lines.
-/

namespace AspectForms

/-- A component as the one above it sees it. -/
structure Registration where
  /-- The name that the control goes by. -/
  name : String
  className : String
  selector : String
  /-- The module of the component, from the directory of the one above. -/
  importPath : String
deriving DecidableEq, Repr, Inhabited

structure Component where
  /-- The directory of the files. -/
  directory : String
  /-- The start of the names of the files. -/
  stem : String
  code : List String
  markup : List String
deriving DecidableEq, Repr, Inhabited

namespace Component

/-- The text of some lines; the last one is not ended. -/
def text (lines : List String) : String := Text.join "\n" lines

/-- The name of the file that holds the class. -/
def codeFile (stem : String) : String := stem ++ ".component.ts"

def markupFile (stem : String) : String := stem ++ ".component.html"

def drafts (c : Component) : List Draft :=
  [⟨Path.push c.directory (codeFile c.stem), text c.code⟩,
    ⟨Path.push c.directory (markupFile c.stem), text c.markup⟩]

def importLine (names : List String) (module : String) : String :=
  "import \x7b " ++ Text.join ", " names ++ " \x7d from '" ++ module ++ "';"

/-- The lines that describe a component to its framework. -/
def decorator (selector stem : String) (imports : List String) : List String :=
  ["@Component(\x7b",
    "  selector: '" ++ selector ++ "',",
    "  standalone: true,",
    "  imports: [" ++ Text.join ", " imports ++ "],",
    "  templateUrl: './" ++ markupFile stem ++ "',",
    "\x7d)"]

/-- Lines that are there only under a condition. -/
def when (condition : Bool) (lines : List String) : List String :=
  if condition then lines else []

end Component

end AspectForms
