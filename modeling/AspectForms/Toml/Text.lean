/-!
Characters and texts of TOML.
-/

namespace AspectForms.Toml

/-- What is left of a text.  A step of reading may fail. -/
abbrev Reading := StateT (List Char) Option

/-- Characters that may stand in comments and between quotes. -/
def isVisible (c : Char) : Bool := c = '\t' || (' ' ≤ c && c ≠ '\x7f')

/-- Blanks within a line. -/
def isBlank (c : Char) : Bool := c = ' ' || c = '\t'

/-- The characters of keys without quotes. -/
def isBareChar (c : Char) : Bool := c.isAlphanum || c = '_' || c = '-'

def hexDigit? (c : Char) : Option Nat :=
  if c.isDigit then some (c.toNat - '0'.toNat)
  else if 'a' ≤ c ∧ c ≤ 'f' then some (c.toNat - 'a'.toNat + 10)
  else if 'A' ≤ c ∧ c ≤ 'F' then some (c.toNat - 'A'.toNat + 10)
  else none

/-- The character of a code point given by digits to base sixteen. -/
def codePoint? (digits : List Char) : Option Char := do
  let n ← digits.foldlM (fun n c => (hexDigit? c).map (16 * n + ·)) 0
  if n.isValidChar then some (Char.ofNat n) else none

def escapes : List (Char × Char) :=
  [('b', '\x08'), ('t', '\t'), ('n', '\n'), ('f', '\x0c'), ('r', '\r'), ('e', '\x1b'),
    ('"', '"'), ('\\', '\\')]

/-- The number of digits of an escape that gives a code point. -/
def escapeWidth? : Char → Option Nat
  | 'x' => some 2
  | 'u' => some 4
  | 'U' => some 8
  | _ => none

namespace Reading

/-- Fail unless a condition holds. -/
def require (condition : Bool) : Reading Unit := if condition then return () else failure

/-- The next character. -/
def current : Reading (Option Char) := return (← get).head?

/-- Pass `n` characters. -/
def pass (n : Nat) : Reading Unit := modify (List.drop n)

/-- Pass a fixed text if it comes next. -/
def passIf (text : String) : Reading Bool := do
  match text.toList.isPrefixOf? (← get) with
  | some rest =>
    set rest
    return true
  | none => return false

/-- Pass a fixed text, which must come next. -/
def expect (text : String) : Reading Unit := do require (← passIf text)

/-- Pass characters as long as they satisfy `p`. -/
def takeWhile (p : Char → Bool) : Reading (List Char) := do
  let text ← get
  set (text.dropWhile p)
  return text.takeWhile p

def skipBlanks : Reading Unit := do
  let _ ← takeWhile isBlank

/-- Pass a line break; whether there was one. -/
def lineBreak : Reading Bool := do
  if ← passIf "\n" then return true else passIf "\r\n"

/-- Pass a comment, if one comes next. -/
def skipComment : Reading Unit := do
  if ← passIf "#" then
    let _ ← takeWhile isVisible

/-- Pass blanks, line breaks and comments. -/
def skipLines : Nat → Reading Unit
  | 0 => return ()
  | fuel + 1 => do
    skipBlanks
    skipComment
    if ← lineBreak then skipLines fuel

/-- Pass blanks, a comment and a line break, where a statement must end. -/
def finishLine : Reading Unit := do
  skipBlanks
  skipComment
  require ((← get).isEmpty || (← lineBreak))

/-- The character of an escape, whose backslash has been passed. -/
def escape : Reading Char := do
  let c ← current
  pass 1
  match escapes.find? (c = some ·.1) with
  | some e => return e.2
  | none =>
    let width ← (c.bind escapeWidth? : Option Nat)
    let digits := (← get).take width
    require (digits.length = width)
    pass width
    (codePoint? digits : Option Char)

/-- Pass a text on one line, up to and with its quote; `text` holds what has been read, last character
first. -/
def line (quote : Char) : Nat → List Char → Reading String
  | 0, _ => failure
  | fuel + 1, text => do
    let c ← ((← current) : Option Char)
    pass 1
    if c = quote then return String.ofList text.reverse
    else if c = '\\' && quote = '"' then line quote fuel ((← escape) :: text)
    else
      require (isVisible c)
      line quote fuel (c :: text)

/-- Pass what a backslash at the end of a line hides: all blanks and line breaks up to the next visible
character.  Nothing is passed unless the line ends. -/
def hiddenEnd : Reading Bool := do
  let text ← get
  skipBlanks
  if ← lineBreak then
    let _ ← takeWhile fun c => isBlank c || c = '\n' || c = '\r'
    return true
  else
    set text
    return false

/-- Pass a text of several lines, up to and with its three quotes, in front of which two more may
stand. -/
def lines (quote : Char) : Nat → List Char → Reading String
  | 0, _ => failure
  | fuel + 1, text => do
    let c ← ((← current) : Option Char)
    if c = quote then
      let quotes := ((← get).takeWhile (· = quote)).length
      pass (min quotes 5)
      if quotes < 3 then lines quote fuel (List.replicate quotes quote ++ text)
      else return String.ofList (List.replicate (min quotes 5 - 3) quote ++ text).reverse
    else if c = '\\' && quote = '"' then
      pass 1
      if ← hiddenEnd then lines quote fuel text else lines quote fuel ((← escape) :: text)
    else
      let before ← get
      if ← lineBreak then
        let taken := before.take (before.length - (← get).length)
        lines quote fuel (taken.reverse ++ text)
      else
        require (isVisible c)
        pass 1
        lines quote fuel (c :: text)

/-- Pass a text that starts with this quote, once, or three times if `long` ones are allowed. -/
def quoted (long : Bool) (quote : Char) (fuel : Nat) : Reading String := do
  if (← get).take 3 = [quote, quote, quote] && long then
    pass 3
    let _ ← lineBreak
    lines quote fuel []
  else
    pass 1
    line quote fuel []

end Reading

end AspectForms.Toml
