import AspectForms.Yaml.Scalar.Fold

/-!
Scalars of whole lines, indented below their header.
-/

namespace AspectForms.Yaml

/-- Which line breaks at the end of a block scalar are kept. -/
inductive Chomp
  | none
  | one
  | all
deriving DecidableEq

/-- What has been read of a block scalar, each part last character first. -/
structure BlockText where
  text : List Char := []
  /-- The break of the last line. -/
  lineEnd : List Char := []
  /-- Whether the last line starts with a blank. -/
  indented : Bool := false
  /-- The breaks of the empty lines after it. -/
  empties : List Char := []

/-- What the breaks before the next line stand for.  Folding joins two lines that both start with a visible
character. -/
def BlockText.joined (folded nextIndented : Bool) (b : BlockText) : List Char :=
  if folded && b.lineEnd = ['\n'] && !b.indented && !nextIndented then
    if b.empties.isEmpty then [' '] else b.empties
  else b.empties ++ b.lineEnd

/-- The text without the breaks that are not kept at its end. -/
def BlockText.chomped (chomp : Chomp) (b : BlockText) : List Char :=
  match chomp with
  | .none => b.text
  | .one => b.lineEnd ++ b.text
  | .all => b.empties ++ (b.lineEnd ++ b.text)

namespace Reading

/-- Pass the sign that says which breaks are kept. -/
def chompSign : Reading Chomp := do
  match ← current with
  | some '+' =>
    pass 1
    return .all
  | some '-' =>
    pass 1
    return .none
  | _ => return .one

/-- Pass the digit that gives the indentation. -/
def indentDigit : Reading (Option Nat) := do
  match ← current with
  | some c =>
    if c.isDigit then
      require (c ≠ '0')
      pass 1
      return some (c.toNat - '0'.toNat)
    else return none
  | none => return none

/-- Pass the sign and the digit of a header, in either order. -/
def blockHeader : Reading (Chomp × Option Nat) := do
  let first ← chompSign
  let digit ← indentDigit
  let chomp ← if first = .one && digit.isSome then chompSign else pure first
  finishLine
  return (chomp, digit)

/-- Pass indentation, up to column `indent` if that is known, and the breaks of empty lines.  Returns the
widest indentation met. -/
def emptyLines (indent? : Option Nat) : Nat → Nat → List Char → Reading (Nat × List Char)
  | 0, widest, breaks => return (widest, breaks)
  | fuel + 1, widest, breaks => do
    let spaces := ((← rest).takeWhile (· = ' ')).length
    let before ← column
    pass ((indent?.map fun n => min spaces (n - before)).getD spaces)
    let here ← column
    let widest := max widest here
    require !((← current) = some '\t' && indent?.all (here < ·))
    if (← current).any isBreak then
      emptyLines indent? fuel widest ((← lineBreak) ++ breaks)
    else return (widest, breaks)

/-- Pass the lines that start at column `indent`. -/
def blockLines (folded : Bool) (indent : Nat) : Nat → BlockText → Reading BlockText
  | 0, b => return b
  | fuel + 1, b => do
    if (← column) ≠ indent || (← rest).isEmpty then return b
    let indented := (← current).any isBlank
    let line ← takeWhile fun _ => true
    let lineEnd ← lineBreak
    let (_, empties) ← emptyLines (some indent) (← budget) 0 []
    blockLines folded indent fuel
      { text := line.reverse ++ (b.joined folded indented ++ b.text), lineEnd, indented, empties }

/-- The text of a block scalar, whose sign has been passed, in a block of which the entries start before
column `margin`. -/
def block (folded : Bool) (margin : Nat) : Reading String := do
  let (chomp, digit) ← blockHeader
  let known := digit.map (margin - 1 + ·)
  let (widest, empties) ← emptyLines known (← budget) 0 []
  let indent := known.getD (max (max widest margin) 1)
  let b ← blockLines folded indent (← budget) { empties }
  return String.ofList (b.chomped chomp).reverse

end Reading

end AspectForms.Yaml
