import AspectForms.Yaml.Scalar.Fold

/-!
Scalars between quotes.  Between single quotes only the quote itself is written twice; between double
quotes a backslash starts an escape.
-/

namespace AspectForms.Yaml

def escapes : List (Char × Char) :=
  [('0', '\x00'), ('a', '\x07'), ('b', '\x08'), ('t', '\t'), ('\t', '\t'), ('n', '\n'),
    ('v', '\x0b'), ('f', '\x0c'), ('r', '\r'), ('e', '\x1b'), (' ', ' '), ('"', '"'),
    ('/', '/'), ('\\', '\\'), ('N', '\u0085'), ('_', '\u00a0'), ('L', '\u2028'), ('P', '\u2029')]

/-- The number of digits of an escape that gives a code point. -/
def escapeWidth? : Char → Option Nat
  | 'x' => some 2
  | 'u' => some 4
  | 'U' => some 8
  | _ => none

def hexDigit? (c : Char) : Option Nat :=
  if c.isDigit then some (c.toNat - '0'.toNat)
  else if 'a' ≤ c ∧ c ≤ 'f' then some (c.toNat - 'a'.toNat + 10)
  else if 'A' ≤ c ∧ c ≤ 'F' then some (c.toNat - 'A'.toNat + 10)
  else none

/-- The number that digits to base sixteen stand for. -/
def hexNumber? (digits : List Char) : Option Nat :=
  digits.foldlM (fun n c => (hexDigit? c).map (16 * n + ·)) 0

/-- The character of a code point. -/
def charOf? (n : Nat) : Option Char :=
  if n.isValidChar then some (Char.ofNat n) else none

namespace Reading

/-- The character that an escape stands for, whose backslash has been passed. -/
def escape : Reading Char := do
  let c ← current
  pass 1
  match escapes.find? (·.1 = c) with
  | some e => return e.2
  | none =>
    let width ← (c.bind escapeWidth? : Option Nat)
    let digits := (← rest).take width
    require (digits.length = width)
    pass width
    ((hexNumber? digits).bind charOf? : Option Char)

/-- Pass characters up to a blank, a line break or the closing quote; `word` holds what has been read, last
character first.  Also whether an escaped line break was passed last. -/
def quotedWord (double : Bool) : Nat → List Char → Reading (List Char × Bool)
  | 0, word => return (word, false)
  | fuel + 1, word => do
    match ← rest with
    | [] => return (word, false)
    | c :: more =>
      if isBlank c || isBreak c then return (word, false)
      else if c = (if double then '"' else '\'') then
        if !double && more.head? = some '\'' then
          pass 2
          quotedWord double fuel (c :: word)
        else return (word, false)
      else if double && c = '\\' then
        pass 1
        if more.head?.any isBreak then
          let _ ← lineBreak
          return (word, true)
        let e ← escape
        quotedWord double fuel (e :: word)
      else
        pass 1
        quotedWord double fuel (c :: word)

/-- Pass words and gaps up to and with the closing quote. -/
def quotedWords (double : Bool) : Nat → List Char → Reading (List Char)
  | 0, _ => failure
  | fuel + 1, text => do
    require !(← atDocumentMark)
    require !(← rest).isEmpty
    let (text, broken) ← quotedWord double (← budget) text
    if (← current) = some (if double then '"' else '\'') then
      pass 1
      return text.reverse
    let g ← gap 0 (← budget) { broken }
    quotedWords double fuel (g.text ++ text)

/-- The text of a scalar that starts with a quote. -/
def quoted (double : Bool) : Reading String := do
  pass 1
  return String.ofList (← quotedWords double (← budget) [])

end Reading

end AspectForms.Yaml
