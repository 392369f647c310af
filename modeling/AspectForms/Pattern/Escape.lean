import AspectForms.Pattern.Cursor
import AspectForms.Pattern.Tree

/-!
Escapes and single characters.
-/

namespace AspectForms.Pattern

namespace Reading

/-- The characters with a meaning of their own. -/
def isMeta (c : Char) : Bool :=
  ['\\', '.', '+', '*', '?', '(', ')', '|', '[', ']', '\x7b', '\x7d', '^', '$', '#', '&', '-',
    '~'].contains c

/-- Characters that mean themselves after a backslash: those of ASCII but letters, digits and angle
brackets. -/
def isEscapable (c : Char) : Bool :=
  isMeta c || (c.toNat < 0x80 && !c.isAlphanum && c != '<' && c != '>')

/-- The control characters that have an escape letter. -/
def controls : List (Char × Nat) :=
  [('a', 7), ('f', 12), ('t', 9), ('n', 10), ('r', 13), ('v', 11)]

def hexDigit? (c : Char) : Option Nat :=
  if c.isDigit then some (c.toNat - 48)
  else if 'a' ≤ c ∧ c ≤ 'f' then some (c.toNat - 87)
  else if 'A' ≤ c ∧ c ≤ 'F' then some (c.toNat - 55)
  else none

/-- The character with the number that some hexadecimal digits write. -/
def hexChar? (digits : List Char) : Option Char :=
  let n := digits.foldl (fun n c => n * 16 + (hexDigit? c).getD 0) 0
  if n.isValidChar then some (Char.ofNat n) else none

/-- Exactly `count` hexadecimal digits; the last one is not passed. -/
def hexDigits : Nat → Reading (List Char)
  | 0 => return []
  | count + 1 => do
    match ← current with
    | none => fail .escapeUnexpectedEnd (← pointSpan)
    | some c =>
      if (hexDigit? c).isNone then fail .escapeHexInvalidDigit (← charSpan)
      if count = 0 then return [c]
      if !(← bumpSpace) then fail .escapeUnexpectedEnd (← pointSpan)
      return c :: (← hexDigits count)

/-- A character by its number, written with `count` digits or between braces. -/
def hexLiteral (count : Nat) : Reading Atom := do
  if !(← bumpSpace) then fail .escapeUnexpectedEnd (← pointSpan)
  if (← current) = some '\x7b' then
    let brace ← here
    let start := brace + 1
    let _ ← bumpSpace
    let digits ← takeSpaced (fun c => (hexDigit? c).isSome) (← budget)
    if ← atEnd then fail .escapeUnexpectedEnd ⟨brace, ← here⟩
    if (← current) != some '\x7d' then fail .escapeHexInvalidDigit (← charSpan)
    let stop ← here
    let _ ← bumpSpace
    if digits.isEmpty then fail .escapeHexEmpty ⟨brace, ← here⟩
    match hexChar? digits with
    | some c => return .literal c false
    | none => fail .escapeHexInvalid ⟨start, stop⟩
  else
    let start ← here
    let digits ← hexDigits count
    let _ ← bumpSpace
    match hexChar? digits with
    | some c => return .literal c (count == 2)
    | none => fail .escapeHexInvalid ⟨start, ← here⟩

/-- Cut a list of characters at the first occurrence of `sep`. -/
def cutAt? (sep : List Char) : List Char → Option (List Char × List Char)
  | [] => none
  | c :: cs =>
    match sep.isPrefixOf? (c :: cs) with
    | some rest => some ([], rest)
    | none => (cutAt? sep cs).map fun r => (c :: r.1, r.2)

/-- The query between the braces of a property class. -/
def propertyQuery (name : List Char) : PropertyQuery :=
  match cutAt? ['!', '='] name <|> cutAt? [':'] name <|> cutAt? ['='] name with
  | some (n, v) => .valued (String.ofList n) (String.ofList v)
  | none => .name (String.ofList name)

/-- A class by property, after the letter that announces it. -/
def propertyClass (negated : Bool) : Reading Atom := do
  if !(← bumpSpace) then fail .escapeUnexpectedEnd (← pointSpan)
  match ← current with
  | none => fail .escapeUnexpectedEnd (← pointSpan)
  | some '\x7b' =>
    let _ ← bumpSpace
    let name ← takeSpaced (· != '\x7d') (← budget)
    if ← atEnd then fail .escapeUnexpectedEnd (← pointSpan)
    let _ ← bump
    return .property (propertyQuery name) negated
  | some '\\' => fail .propertyClassInvalid (← charSpan)
  | some c =>
    let _ ← bumpSpace
    return .property (.name (String.singleton c)) negated

/-- The words between the braces of a special word boundary. -/
def boundaryWords : List String := ["start", "end", "start-half", "end-half"]

/-- What may follow a word boundary between braces, unless a repetition does. -/
def boundaryBraces (start : Nat) : Reading Unit := do
  let before ← get
  let brace ← here
  if !(← bumpSpace) then fail .wordBoundaryUnexpectedEnd ⟨start, ← here⟩
  let contents ← here
  let isWordChar := fun (c : Char) => c.isAlpha || c == '-'
  match ← current with
  | none => set before
  | some c =>
    if !isWordChar c then set before
    else
      let word ← takeSpaced isWordChar (← budget)
      if (← current) != some '\x7d' then fail .wordBoundaryUnclosed ⟨brace, ← here⟩
      let stop ← here
      let _ ← bump
      if !boundaryWords.contains (String.ofList word) then
        fail .wordBoundaryUnrecognized ⟨contents, stop⟩

/-- An escape that is a single letter or sign. -/
def shortEscape (start : Nat) (c : Char) : Reading Atom := do
  let _ ← bump
  if isEscapable c then return .literal c false
  match controls.lookup c with
  | some n => return .literal (Char.ofNat n) false
  | none =>
    match c with
    | 'A' | 'z' | 'B' | '<' | '>' => return .assertion
    | 'b' =>
      if (← current) = some '\x7b' then boundaryBraces start
      return .assertion
    | _ => fail .escapeUnrecognized ⟨start, ← here⟩

/-- A single letter escape that stands for a class. -/
def shortClass? : Char → Option Atom
  | 'd' => some (.short .digit false)
  | 's' => some (.short .space false)
  | 'w' => some (.short .word false)
  | 'D' => some (.short .digit true)
  | 'S' => some (.short .space true)
  | 'W' => some (.short .word true)
  | _ => none

def escape : Reading (Span × Atom) := do
  let start ← here
  if !(← bump) then fail .escapeUnexpectedEnd ⟨start, ← here⟩
  match ← current with
  | none => fail .escapeUnexpectedEnd ⟨start, ← here⟩
  | some c =>
    let atom ←
      if c.isDigit then fail .unsupportedBackreference ⟨start, (← here) + 1⟩
      else if c = 'x' then hexLiteral 2
      else if c = 'u' then hexLiteral 4
      else if c = 'U' then hexLiteral 8
      else if c = 'p' then propertyClass false
      else if c = 'P' then propertyClass true
      else
        match shortClass? c with
        | some a => do
          let _ ← bump
          pure a
        | none => shortEscape start c
    return (⟨start, ← here⟩, atom)

/-- An escape or a character that means itself. -/
def literalOrEscape (c : Char) : Reading (Span × Atom) := do
  if c = '\\' then escape
  else
    let span ← charSpan
    let _ ← bump
    return (span, .literal c false)

/-- A single character, an escape, a dot or an anchor. -/
def primitive (c : Char) : Reading (Span × Atom) := do
  let span ← charSpan
  match c with
  | '.' =>
    let _ ← bump
    return (span, .dot)
  | '^' | '$' =>
    let _ ← bump
    return (span, .assertion)
  | c => literalOrEscape c

end Reading

end AspectForms.Pattern
