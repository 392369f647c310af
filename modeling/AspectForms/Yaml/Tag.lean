import AspectForms.Yaml.Scalar.Quoted
import AspectForms.Yaml.Token

/-!
Tags, anchors and directives, as they are written.
-/

namespace AspectForms.Yaml

/-- The characters of a tag; a flow mark counts only in a `whole` tag. -/
def isTagChar (whole : Bool) (c : Char) : Bool :=
  isNameChar c || ";/?:@&=+$.%!~*'()".toList.contains c ||
    (whole && (c = ',' || c = '[' || c = ']'))

/-- An octet written as `%` and two digits. -/
def octet? : List Char → Option (Nat × List Char)
  | '%' :: a :: b :: rest => do
    let high ← hexDigit? a
    let low ← hexDigit? b
    return (16 * high + low, rest)
  | _ => none

/-- `n` octets that continue a character, of which `code` has been read. -/
def continuation? : Nat → Nat → List Char → Option (Nat × List Char)
  | 0, code, rest => some (code, rest)
  | n + 1, code, rest => do
    let (o, rest) ← octet? rest
    if 0x80 ≤ o ∧ o < 0xc0 then continuation? n (64 * code + (o - 0x80)) rest else none

/-- A character written as octets. -/
def octetsChar? (text : List Char) : Option (Char × List Char) := do
  let (o, rest) ← octet? text
  let (n, code) ←
    if o < 0x80 then some (0, o)
    else if 0xc0 ≤ o ∧ o < 0xe0 then some (1, o - 0xc0)
    else if 0xe0 ≤ o ∧ o < 0xf0 then some (2, o - 0xe0)
    else if 0xf0 ≤ o ∧ o < 0xf8 then some (3, o - 0xf0)
    else none
  let (code, rest) ← continuation? n code rest
  return (Char.ofNat code, rest)

namespace Reading

/-- Pass the characters of a tag, of which `text` has been read, last character first. -/
def tagChars (whole : Bool) : Nat → List Char → Reading (List Char)
  | 0, text => return text
  | fuel + 1, text => do
    let before ← rest
    match before with
    | [] => return text
    | c :: _ =>
      if c = '%' then
        let (d, after) ← (octetsChar? before : Option (Char × List Char))
        pass (before.length - after.length)
        tagChars whole fuel (d :: text)
      else if isTagChar whole c then
        pass 1
        tagChars whole fuel (c :: text)
      else return text

/-- Pass the characters of a tag after those of `start`. -/
def tagText (whole : Bool) (start : List Char) : Reading String := do
  return String.ofList (← tagChars whole (← budget) start.reverse).reverse

/-- Pass the characters of a tag, of which there is at least one. -/
def someTagText (whole : Bool) : Reading String := do
  let text ← tagText whole []
  require !text.isEmpty
  return text

/-- Pass an exclamation mark, the name after it and the exclamation mark that closes it, if any. -/
def handle : Reading (List Char) := do
  require ((← current) = some '!')
  pass 1
  let name ← takeWhile isNameChar
  if (← current) = some '!' then
    pass 1
    return '!' :: name ++ ['!']
  else return '!' :: name

def isClosed (handle : List Char) : Bool :=
  1 < handle.length && handle.getLast? = some '!'

/-- Pass a tag: whole between angle brackets, or behind a handle. -/
def tag (flow : Bool) : Reading Token := do
  let token ← (do
    if (← rest).take 2 = ['!', '<'] then
      pass 2
      let text ← someTagText true
      require ((← current) = some '>')
      pass 1
      return Token.tag "" text
    let h ← handle
    if isClosed h then return .tag (String.ofList h) (← someTagText false)
    let text ← tagText false h.tail
    return if text.isEmpty then .tag "" "!" else .tag "!" text)
  require (endsWord (← rest) || (flow && (← current) = some ','))
  return token

/-- Pass the name of an anchor after its sign. -/
def anchorName : Reading String := do
  pass 1
  let name ← takeWhile isNameChar
  let after ← rest
  require (!name.isEmpty && (endsWord after || after.head?.any "?:,]\x7d%@`".toList.contains))
  return String.ofList name

/-- Pass a number of at most nine digits. -/
def versionNumber : Reading Nat := do
  let digits ← takeWhile Char.isDigit
  require (0 < digits.length && digits.length ≤ 9)
  return digits.foldl (fun n c => 10 * n + (c.toNat - '0'.toNat)) 0

/-- Pass a directive and its line. -/
def directive : Reading Directive := do
  pass 1
  let name := String.ofList (← takeWhile isNameChar)
  require (endsWord (← rest))
  skipBlanks
  let d ← (do
    if name = "YAML" then
      let major ← versionNumber
      require ((← current) = some '.')
      pass 1
      return Directive.version major (← versionNumber)
    else if name = "TAG" then
      let h ← handle
      require (isClosed h || h = ['!'])
      require ((← current).any isBlank)
      skipBlanks
      let start ← someTagText true
      require (endsWord (← rest))
      return .tag (String.ofList h) start
    else failure)
  finishLine
  return d

end Reading

end AspectForms.Yaml
