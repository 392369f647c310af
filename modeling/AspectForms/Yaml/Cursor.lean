/-!
A place in a YAML text, and the steps of reading from there.
-/

namespace AspectForms.Yaml

/-- Whether a character may stand in a text at all. -/
def isAllowed (c : Char) : Bool :=
  c = '\t' || c = '\n' || c = '\r' || (' ' ≤ c && c ≤ '~') || c = '\u0085' ||
    ('\u00a0' ≤ c && c ≤ '\uffff' && c ≠ '\ufeff' && c ≠ '\ufffe' && c ≠ '\uffff') || '\uffff' < c

def isBreak (c : Char) : Bool :=
  c = '\n' || c = '\r' || c = '\u0085' || c = '\u2028' || c = '\u2029'

/-- Blanks within a line. -/
def isBlank (c : Char) : Bool := c = ' ' || c = '\t'

/-- The characters of anchors and of the names of directives and tag handles. -/
def isNameChar (c : Char) : Bool := c.isAlphanum || c = '_' || c = '-'

/-- Whether a word ends here. -/
def endsWord : List Char → Bool
  | [] => true
  | c :: _ => isBlank c || isBreak c

/-- Whether a line ends here. -/
def endsLine : List Char → Bool
  | [] => true
  | c :: _ => isBreak c

/-- Whether a text starts with this mark, standing alone. -/
def startsMark (mark : String) (text : List Char) : Bool :=
  match mark.toList.isPrefixOf? text with
  | some rest => endsWord rest
  | none => false

/-- What is left of a text, and where that is. -/
structure Cursor where
  rest : List Char
  /-- The number of characters left. -/
  left : Nat
  line : Nat
  column : Nat

namespace Cursor

def start (text : List Char) : Cursor := ⟨text, text.length, 0, 0⟩

/-- The place after the next `n` characters, none of them a line break. -/
def advance (n : Nat) (c : Cursor) : Cursor :=
  { c with rest := c.rest.drop n, left := c.left - n, column := c.column + n }

/-- The place after the next `n` characters, the last of them ending a line. -/
def newline (n : Nat) (c : Cursor) : Cursor :=
  ⟨c.rest.drop n, c.left - n, c.line + 1, 0⟩

end Cursor

/-- A step of reading: it may fail. -/
abbrev Reading := StateT Cursor Option

namespace Reading

/-- The next character. -/
def current : Reading (Option Char) := return (← get).rest.head?

/-- What is left of the text. -/
def rest : Reading (List Char) := return (← get).rest

/-- The number of characters before the next one on its line. -/
def column : Reading Nat := return (← get).column

/-- A bound on the steps that are left. -/
def budget : Reading Nat := return (← get).left + 1

/-- Pass `n` characters of a line. -/
def pass (n : Nat) : Reading Unit := modify (Cursor.advance n)

/-- Fail unless a condition holds. -/
def require (condition : Bool) : Reading Unit := if condition then return () else failure

/-- Pass and return characters of a line as long as they satisfy `p`. -/
def takeWhile (p : Char → Bool) : Reading (List Char) := do
  let taken := (← rest).takeWhile fun c => !isBreak c && p c
  pass taken.length
  return taken

def skipBlanks : Reading Unit := do
  let _ ← takeWhile isBlank

/-- Pass a line break, if one comes next; the text that it stands for. -/
def lineBreak : Reading (List Char) := do
  match ← rest with
  | '\r' :: '\n' :: _ =>
    modify (Cursor.newline 2)
    return ['\n']
  | c :: _ =>
    if isBreak c then
      modify (Cursor.newline 1)
      return [if c = '\u2028' || c = '\u2029' then c else '\n']
    else return []
  | [] => return []

/-- Pass a comment, if one comes next. -/
def skipComment : Reading Unit := do
  if (← current) = some '#' then
    let _ ← takeWhile fun _ => true

/-- Pass blanks, a comment and a line break, after which the line must end. -/
def finishLine : Reading Unit := do
  skipBlanks
  skipComment
  require (endsLine (← rest))
  let _ ← lineBreak

/-- Whether a mark that bounds documents stands here. -/
def atDocumentMark : Reading Bool := do
  let c ← get
  return c.column = 0 && (startsMark "---" c.rest || startsMark "..." c.rest)

end Reading

end AspectForms.Yaml
