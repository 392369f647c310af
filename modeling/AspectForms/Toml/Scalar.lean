import AspectForms.Decimal.Nearest
import AspectForms.Toml.Node
import AspectForms.Toml.Text

/-!
Numbers, truth values and moments of TOML.
-/

namespace AspectForms.Toml

/-- The digits to a base, without the underscores between them; each underscore has digits on both sides. -/
def digits? (base : Nat) (text : List Char) : Option (List Nat) := do
  let value? (c : Char) : Option Nat := (hexDigit? c).filter (· < base)
  let rec go : Bool → List Char → Option (List Nat)
    | afterDigit, [] => if afterDigit then some [] else none
    | true, '_' :: rest => go false rest
    | _, c :: rest => do
      let d ← value? c
      return d :: (← go true rest)
  go false text

/-- The number of digits to a base. -/
def natural? (base : Nat) (text : List Char) : Option Nat :=
  (digits? base text).map fun ds => ds.foldl (fun n d => base * n + d) 0

/-- Decimal digits without a needless zero in front. -/
def decimalDigits? (text : List Char) : Option (List Nat) := do
  let ds ← digits? 10 text
  if 1 < ds.length && ds.head? = some 0 then none else some ds

/-- Whether a text starts with a minus sign, and what follows its sign. -/
def splitSign : List Char → Bool × List Char
  | '-' :: rest => (true, rest)
  | '+' :: rest => (false, rest)
  | text => (false, text)

/-- A whole number: a decimal, or without a sign one to base sixteen, eight or two. -/
def int? : List Char → Option Int
  | '0' :: 'x' :: digits => (natural? 16 digits).map Int.ofNat
  | '0' :: 'o' :: digits => (natural? 8 digits).map Int.ofNat
  | '0' :: 'b' :: digits => (natural? 2 digits).map Int.ofNat
  | text => do
    let (negative, digits) := splitSign text
    let n := Decimal.digitsValue (← decimalDigits? digits)
    return if negative then -(n : Int) else n

/-- A double without its sign: digits, a point with digits after it, an exponent. -/
def magnitude? (text : List Char) : Option Decimal.Written := do
  let isMark (c : Char) : Bool := c = 'e' || c = 'E'
  let number := text.takeWhile fun c => !isMark c
  let whole ← decimalDigits? (number.takeWhile (· ≠ '.'))
  let part ←
    match number.dropWhile (· ≠ '.') with
    | [] => some []
    | _ :: part => digits? 10 part
  let e ←
    match text.drop number.length with
    | [] => some 0
    | _ :: e => do
      let (negative, digits) := splitSign e
      let n ← natural? 10 digits
      some (if negative then -(n : Int) else (n : Int))
  return ⟨whole ++ part, e - part.length⟩

/-- A double; one that is too large is none. -/
def float? (text : List Char) : Option (Option Float) := do
  let (negative, rest) := splitSign text
  let signed (f : Float) : Float := if negative then -f else f
  if rest = "inf".toList then return some (signed (1.0 / 0.0))
  if rest = "nan".toList then return some (signed (0.0 / 0.0))
  let f := (← magnitude? rest).nearest
  return if f.isFinite then some (signed f) else none

/-- A number of so many digits, from the front of a text. -/
def fixed? (width : Nat) (text : List Char) : Option (Nat × List Char) := do
  let ds ← (text.take width).mapM Decimal.digitValue?
  if ds.length = width then some (Decimal.digitsValue ds, text.drop width) else none

/-- What follows a mark at the front of a text. -/
def after? (mark : Char → Bool) : List Char → Option (List Char)
  | c :: rest => if mark c then some rest else none
  | [] => none

def monthDays (year month : Nat) : Nat :=
  if month = 2 then if year % 4 = 0 ∧ (year % 100 ≠ 0 ∨ year % 400 = 0) then 29 else 28
  else if [4, 6, 9, 11].contains month then 30
  else 31

def afterDate? (text : List Char) : Option (List Char) := do
  let (year, rest) ← fixed? 4 text
  let (month, rest) ← fixed? 2 (← after? (· = '-') rest)
  let (day, rest) ← fixed? 2 (← after? (· = '-') rest)
  if 1 ≤ month ∧ month ≤ 12 ∧ 1 ≤ day ∧ day ≤ monthDays year month then some rest else none

/-- What follows the fraction of a second, if there is one. -/
def afterFraction? (text : List Char) : Option (List Char) :=
  match text with
  | '.' :: digits => if digits.head?.any Char.isDigit then some (digits.dropWhile Char.isDigit) else none
  | _ => some text

/-- What follows a time of day at the front of a text; the seconds may be missing. -/
def afterTime? (text : List Char) : Option (List Char) := do
  let (hour, rest) ← fixed? 2 text
  let (minute, rest) ← fixed? 2 (← after? (· = ':') rest)
  if 23 < hour ∨ 59 < minute then none
  else
    match rest with
    | ':' :: rest => do
      let (second, rest) ← fixed? 2 rest
      if 60 < second then none else afterFraction? rest
    | _ => some rest

/-- Whether a text is nothing or a distance from universal time. -/
def isOffset (text : List Char) : Bool :=
  match text with
  | [] => true
  | [c] => c = 'Z' || c = 'z'
  | c :: rest =>
    (c = '+' || c = '-') && (do
      let (hour, rest) ← fixed? 2 rest
      let (minute, rest) ← fixed? 2 (← after? (· = ':') rest)
      if hour ≤ 23 ∧ minute ≤ 59 then some rest else none) == some []

/-- Whether a text is a date, a time of day, or a date with a time of day. -/
def isMoment (text : List Char) : Bool :=
  match afterDate? text with
  | some [] => true
  | some rest =>
    match (after? (fun c => c = 'T' || c = 't' || c = ' ') rest).bind afterTime? with
    | some rest => isOffset rest
    | none => false
  | none => afterTime? text == some []

/-- The value of a text without quotes. -/
def Node.ofBare? (text : List Char) : Option Node :=
  if text = "true".toList then some (.bool true)
  else if text = "false".toList then some (.bool false)
  else if isMoment text then some .moment
  else
    match int? text with
    | some i => some (.int i)
    | none => (float? text).map .float

end AspectForms.Toml
