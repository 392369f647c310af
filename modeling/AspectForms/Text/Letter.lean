import AspectForms.Text.LetterTable

/-!
Classes and case maps of single characters.  Below `0x80` they are the usual ASCII rules; above it the
rows of `LetterTable` decide.
-/

namespace AspectForms.Text

/-- Letters and numbers, in any script. -/
def isAlphanumeric (c : Char) : Bool :=
  if c.toNat < 0x80 then c.isAlphanum
  else Letter.alphanumericSpans.any fun r => r.1 ≤ c.toNat && c.toNat ≤ r.2

/-- Letters, in any script. -/
def isAlphabetic (c : Char) : Bool :=
  if c.toNat < 0x80 then c.isAlpha
  else isAlphanumeric c && !Letter.numberSpans.any fun r => r.1 ≤ c.toNat && c.toNat ≤ r.2

/-- Lower-case letters, in any script. -/
def isLowercase (c : Char) : Bool :=
  if c.toNat < 0x80 then c.isLower else Letter.lowercaseSpans.any (·.covers c.toNat)

/-- Upper-case letters, in any script. -/
def isUppercase (c : Char) : Bool :=
  if c.toNat < 0x80 then c.isUpper else Letter.uppercaseSpans.any (·.covers c.toNat)

/-- The other case of a character beyond ASCII, itself if it has none. -/
def recase (shifts : List Letter.Shift) (expansions : List (Nat × List Nat)) (c : Char) :
    List Char :=
  match expansions.lookup c.toNat with
  | some points => points.map Char.ofNat
  | none =>
    match shifts.find? (·.covers c.toNat) with
    | some s => [Char.ofNat (c.toNat + s.offset).toNat]
    | none => [c]

/-- The full lower-case form of one character. -/
def lowerChar (c : Char) : List Char :=
  if c.toNat < 0x80 then [c.toLower] else recase Letter.lowerShifts Letter.lowerExpansions c

/-- The full upper-case form of one character. -/
def upperChar (c : Char) : List Char :=
  if c.toNat < 0x80 then [c.toUpper] else recase Letter.upperShifts Letter.upperExpansions c

/-- White space, in any script. -/
def isBlank (c : Char) : Bool :=
  c == ' ' || (9 ≤ c.toNat && c.toNat ≤ 13) ||
    [0x85, 0xA0, 0x1680, 0x2028, 0x2029, 0x202F, 0x205F, 0x3000].contains c.toNat ||
    (0x2000 ≤ c.toNat && c.toNat ≤ 0x200A)

/-- A text without the white space at its two ends. -/
def trim (s : String) : String :=
  String.ofList ((s.toList.dropWhile isBlank).reverse.dropWhile isBlank).reverse

end AspectForms.Text
