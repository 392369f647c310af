import AspectForms.Json.Value

/-!
Numbers of JSON.  Integers that fit 64 bits stay integers.  Every other number gathers its digits into a
64-bit significand, drops the digits for which there is no room, and is scaled by one power of ten.
-/

namespace AspectForms.Json

def significandLimit : Nat := Nat.pow 2 64 - 1

def digit? (c : Char) : Option Nat :=
  if '0' ≤ c ∧ c ≤ '9' then some (c.toNat - 48) else none

/-- A number read from a text. -/
structure Numeral where
  /-- `none` if the number is too large for a double. -/
  value : Option Number
  /-- What follows it. -/
  rest : List Char

/-- `significand · 10^exponent` in doubles: one multiplication or division, after repeated division by
`10^308` for very small numbers.  `none` if the result is infinite. -/
def scaleFloat : Nat → Float → Int → Option Float
  | 0, f, _ => some f
  | fuel + 1, f, e =>
    if e.natAbs ≤ 308 then
      let power := Float.ofScientific 1 false e.natAbs
      if 0 ≤ e then
        let g := f * power
        if g.isInf then none else some g
      else some (f / power)
    else if f == 0.0 then some f
    else if 0 ≤ e then none
    else scaleFloat fuel (f / 1e308) (e + 308)

/-- The double with this sign, significand and decimal exponent. -/
def assemble (negative : Bool) (significand : Nat) (e : Int) : Option Number :=
  (scaleFloat 8 significand.toUInt64.toFloat e).map fun f =>
    .float (if negative then -f else f)

/-- The digits of an exponent; `none` once they exceed 31 bits. -/
def readExponent (acc : Option Nat) : List Char → Option Nat × List Char
  | [] => (acc, [])
  | c :: cs =>
    match digit? c with
    | none => (acc, c :: cs)
    | some d =>
      let next := acc.bind fun n => if n * 10 + d < Nat.pow 2 31 then some (n * 10 + d) else none
      readExponent next cs

/-- Keep an exponent within 32 bits. -/
def clampExponent (e : Int) : Int :=
  max (-(Nat.pow 2 31 : Int)) (min (Nat.pow 2 31 - 1 : Int) e)

/-- What follows the letter of an exponent; `none` if there is no digit. -/
def finishExponent (negative : Bool) (significand : Nat) (e : Int) (cs : List Char) :
    Option Numeral :=
  let (down, digits) :=
    match cs with
    | '+' :: cs => (false, cs)
    | '-' :: cs => (true, cs)
    | cs => (false, cs)
  match digits with
  | [] => none
  | c :: cs =>
    match digit? c with
    | none => none
    | some d =>
      let (exponent, rest) := readExponent (some d) cs
      match exponent with
      | some x =>
        some ⟨assemble negative significand (clampExponent (if down then e - x else e + x)), rest⟩
      | none =>
        if significand ≠ 0 ∧ ¬ down then some ⟨none, rest⟩
        else some ⟨some (.float (if negative then -0.0 else 0.0)), rest⟩

/-- After the digits of a number: an exponent or the end. -/
def finishFloat (negative : Bool) (significand : Nat) (e : Int) : List Char → Option Numeral
  | 'e' :: cs => finishExponent negative significand e cs
  | 'E' :: cs => finishExponent negative significand e cs
  | cs => some ⟨assemble negative significand e, cs⟩

/-- Digits after the point, as long as the significand has room; the count of those taken. -/
def readFraction (significand : Nat) (taken : Nat) : List Char → Nat × Nat × List Char
  | [] => (significand, taken, [])
  | c :: cs =>
    match digit? c with
    | none => (significand, taken, c :: cs)
    | some d =>
      if significandLimit < significand * 10 + d then (significand, taken, c :: cs)
      else readFraction (significand * 10 + d) (taken + 1) cs

/-- What follows the point; `none` if there is no digit. -/
def finishFraction (negative : Bool) (significand : Nat) (e : Int) (cs : List Char) :
    Option Numeral :=
  let (s, taken, rest) := readFraction significand 0 cs
  let dropped := rest.dropWhile fun c => (digit? c).isSome
  if taken = 0 ∧ dropped.length = rest.length then none
  else finishFloat negative s (e - taken) dropped

/-- After the integer digits when they did not all fit: each one left over raises the exponent. -/
def finishLong (negative : Bool) (significand : Nat) (e : Int) : List Char → Option Numeral
  | [] => finishFloat negative significand e []
  | '.' :: cs => finishFraction negative significand e cs
  | c :: cs =>
    if (digit? c).isSome then finishLong negative significand (e + 1) cs
    else finishFloat negative significand e (c :: cs)

/-- A whole number of either sign, as an integer if 64 bits hold it and as a double otherwise. -/
def wholeNumber (negative : Bool) (significand : Nat) : Number :=
  if negative then
    if significand = 0 ∨ Nat.pow 2 63 < significand then .float (-(significand.toUInt64.toFloat))
    else .int (-significand)
  else .int significand

/-- After the integer digits read so far. -/
def finishInteger (negative : Bool) (significand : Nat) : List Char → Option Numeral
  | [] => some ⟨some (wholeNumber negative significand), []⟩
  | '.' :: cs => finishFraction negative significand 0 cs
  | 'e' :: cs => finishExponent negative significand 0 cs
  | 'E' :: cs => finishExponent negative significand 0 cs
  | c :: cs =>
    match digit? c with
    | none => some ⟨some (wholeNumber negative significand), c :: cs⟩
    | some d =>
      if significandLimit < significand * 10 + d then finishLong negative significand 0 (c :: cs)
      else finishInteger negative (significand * 10 + d) cs

/-- Read a number; `none` if it is malformed.  A zero may not be followed by another digit. -/
def readNumeral (cs : List Char) : Option Numeral :=
  let (negative, digits) :=
    match cs with
    | '-' :: cs => (true, cs)
    | cs => (false, cs)
  match digits with
  | [] => none
  | '0' :: rest =>
    match rest with
    | c :: _ => if (digit? c).isSome then none else finishInteger negative 0 rest
    | [] => finishInteger negative 0 rest
  | c :: rest => (digit? c).bind fun d => finishInteger negative d rest

end AspectForms.Json
