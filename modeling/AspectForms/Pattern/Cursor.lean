import AspectForms.Pattern.Fault
import AspectForms.Text.Letter

/-!
A place in the text of a pattern, and the steps of reading from there.
-/

namespace AspectForms.Pattern

/-- What is left of a pattern. -/
structure Cursor where
  rest : List Char
  offset : Nat
  /-- Blanks and comments between items are passed over. -/
  verbose : Bool
  /-- The names of the groups so far, and where they stand. -/
  names : List (String × Span)

/-- A step of reading: it may fail. -/
abbrev Reading := StateT Cursor (Except Fault)

namespace Cursor

/-- The place after the next character. -/
def next (c : Cursor) : Cursor :=
  match c.rest with
  | [] => c
  | _ :: rest => { c with rest, offset := c.offset + 1 }

/-- The place after `n` more characters. -/
def advance : Nat → Cursor → Cursor
  | 0, c => c
  | n + 1, c => advance n c.next

/-- The number of blanks and comment characters at the front; `comment` is set inside a comment. -/
def spaceLength (comment : Bool) : List Char → Nat
  | [] => 0
  | c :: cs =>
    if comment then spaceLength (c != '\n') cs + 1
    else if Text.isBlank c then spaceLength false cs + 1
    else if c = '#' then spaceLength true cs + 1
    else 0

/-- The place after the blanks and comments, if those are passed over. -/
def skipSpace (c : Cursor) : Cursor :=
  if c.verbose then c.advance (spaceLength false c.rest) else c

/-- The first character of a text after its blanks; a text of blanks alone yields the first of them.
A `#` does not count, nor what is blank after it. -/
def firstVisible? (text : List Char) : Option Char :=
  let rec go (comment : Bool) : List Char → Option Char
    | [] => text.head?
    | c :: cs =>
      if Text.isBlank c then go comment cs
      else if !comment && c == '#' then go true cs
      else some c
  go false text

/-- The character after the next one; blanks between them may be passed over. -/
def peekSpace? (c : Cursor) : Option Char :=
  match c.rest with
  | [] => none
  | _ :: rest => if c.verbose then firstVisible? rest else rest.head?

end Cursor

namespace Reading

def here : Reading Nat := return (← get).offset

/-- The next character. -/
def current : Reading (Option Char) := return (← get).rest.head?

/-- Whether nothing is left. -/
def atEnd : Reading Bool := return (← get).rest.isEmpty

/-- Pass a character; whether anything is left. -/
def bump : Reading Bool := do
  modify Cursor.next
  return !(← atEnd)

/-- Pass blanks and comments. -/
def skipSpace : Reading Unit := modify Cursor.skipSpace

/-- Pass a character and the blanks after it; whether anything is left. -/
def bumpSpace : Reading Bool := do
  if ← bump then
    skipSpace
    return !(← atEnd)
  else return false

/-- Pass a fixed text if it comes next. -/
def bumpIf (text : String) : Reading Bool := do
  if text.toList.isPrefixOf (← get).rest then
    modify (Cursor.advance text.length)
    return true
  else return false

/-- The place of the next character. -/
def charSpan : Reading Span := return ⟨← here, (← here) + 1⟩

/-- The empty place in front of the next character. -/
def pointSpan : Reading Span := return ⟨← here, ← here⟩

/-- Stop with a fault at a place. -/
def fail {α : Type} (kind : FaultKind) (span : Span) : Reading α := throw ⟨kind, span, none⟩

/-- The longest run of characters that satisfy `p`, each followed by blanks that are passed over. -/
def takeSpaced (p : Char → Bool) : Nat → Reading (List Char)
  | 0 => return []
  | fuel + 1 => do
    match ← current with
    | none => return []
    | some c =>
      if p c then
        let _ ← bumpSpace
        return c :: (← takeSpaced p fuel)
      else return []

/-- A bound on the steps that are left. -/
def budget : Reading Nat := return (← get).rest.length + 1

end Reading

end AspectForms.Pattern
