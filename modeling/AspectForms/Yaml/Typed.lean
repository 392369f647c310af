import AspectForms.Decimal.Nearest
import AspectForms.Yaml.Scalar.Quoted

/-!
What a scalar without quotes stands for.
-/

namespace AspectForms.Yaml

/-- A scalar with its type. -/
inductive Typed
  | null
  | bool (b : Bool)
  | int (i : Int)
  | float (f : Float)
  | text

/-- The words for nothing. -/
def isNull (s : String) : Bool := ["null", "Null", "NULL", "~"].contains s

/-- The words for truth values. -/
def bool? (s : String) : Option Bool :=
  if ["true", "True", "TRUE"].contains s then some true
  else if ["false", "False", "FALSE"].contains s then some false
  else none

/-- A whole number to this base. -/
def radix? (base : Nat) (digits : List Char) : Option Nat :=
  if digits.isEmpty then none
  else digits.foldlM (fun n c => (hexDigit? c).bind fun d =>
    if d < base then some (base * n + d) else none) 0

/-- A whole number without a sign: to base sixteen, eight or two, or a decimal, which does not start with a
needless zero. -/
def magnitude? : List Char → Option Nat
  | '0' :: 'x' :: digits => radix? 16 digits
  | '0' :: 'o' :: digits => radix? 8 digits
  | '0' :: 'b' :: digits => radix? 2 digits
  | '0' :: _ :: _ => none
  | digits => radix? 10 digits

/-- A whole number of at most 128 bits. -/
def int? (text : List Char) : Option Int :=
  match text with
  | '-' :: digits =>
    match magnitude? digits with
    | some n => if n ≤ Nat.pow 2 127 then some (-(n : Int)) else none
    | none => none
  | _ =>
    match magnitude? (if text.head? = some '+' then text.tail else text) with
    | some n => if n < Nat.pow 2 128 then some n else none
    | none => none

/-- Digits alone, of which the first is a needless zero. -/
def isPadded (text : List Char) : Bool :=
  let digits := if text.head? = some '-' || text.head? = some '+' then text.tail else text
  1 < digits.length && digits.head? = some '0' && digits.all Char.isDigit

/-- The double of a numeral with or without a minus sign, if it is finite. -/
def finite? (text : List Char) : Option Float := do
  let negative := text.head? = some '-'
  let w ← Decimal.Written.ofText? (if negative then text.tail else text)
  let f := w.nearest
  if f.isFinite then some (if negative then -f else f) else none

/-- A double, which may be infinite or no number. -/
def float? (text : List Char) : Option Float :=
  let s := String.ofList text
  let infinity : Float := 1.0 / 0.0
  if [".inf", ".Inf", ".INF", "+.inf", "+.Inf", "+.INF"].contains s then some infinity
  else if ["-.inf", "-.Inf", "-.INF"].contains s then some (-infinity)
  else if [".nan", ".NaN", ".NAN"].contains s then some (0.0 / 0.0)
  else
    match text with
    | '+' :: '-' :: _ => none
    | '+' :: rest => finite? rest
    | _ => finite? text

/-- What a scalar without quotes and without a tag stands for. -/
def Typed.ofPlain (s : String) : Typed :=
  let text := s.toList
  if s.isEmpty || isNull s then null
  else
    match bool? s with
    | some b => bool b
    | none =>
      match int? text with
      | some i => int i
      | none =>
        match if isPadded text then none else float? text with
        | some f => float f
        | none => .text

end AspectForms.Yaml
