/-!
The shortest decimal that reads back as a given double.

A double is `m · 2^q`.  The reals that round to it form an interval whose ends belong to it exactly when
`m` is even.  For one digit, two digits, and so on, the two neighbours of the value on that decimal
grid are tried; the first grid with a neighbour inside the interval wins, and of two the nearer one.
-/

namespace AspectForms.Decimal

/-- A positive finite double as `mantissa · 2^exponent`. -/
structure Binary where
  mantissa : Nat
  exponent : Int
  /-- The gap to the next smaller double is half the gap to the next larger one. -/
  narrowBelow : Bool
deriving Repr, DecidableEq

/-- A positive decimal `digits · 10^exponent`. -/
structure Scientific where
  digits : Nat
  exponent : Int
deriving Repr, DecidableEq

/-- The magnitude of a finite double, from its 64 bits. -/
def Binary.ofBits (bits : UInt64) : Binary :=
  let fraction : Nat := bits.toNat % Nat.pow 2 52
  let biased : Nat := bits.toNat / Nat.pow 2 52 % Nat.pow 2 11
  if biased = 0 then ⟨fraction, -1074, false⟩
  else ⟨Nat.pow 2 52 + fraction, (biased : Int) - 1075, fraction == 0 && biased != 1⟩

/-- A non-negative rational as numerator and denominator, from `n · 2^e`. -/
def scaled (n : Nat) (e : Int) : Nat × Nat :=
  if 0 ≤ e then (n * Nat.pow 2 e.toNat, 1) else (n, Nat.pow 2 (-e).toNat)

/-- How many decimal digits a natural number is written with. -/
def digitCount (n : Nat) : Nat := (Nat.toDigits 10 n).length

/-- The largest `k` with `10^k ≤ num / den`. -/
def floorLog10 (num den : Nat) : Int :=
  if den ≤ num then (digitCount (num / den) : Int) - 1
  else -(digitCount ((den + num - 1) / num - 1) : Int)

/-- The grid neighbours of `value` with `count` digits that lie inside the rounding interval, the nearer
one only. -/
def nearestOnGrid (b : Binary) (count : Nat) : Option Scientific :=
  let e := b.exponent - 2
  let value := scaled (4 * b.mantissa) e
  let low := scaled (4 * b.mantissa - if b.narrowBelow then 1 else 2) e
  let high := scaled (4 * b.mantissa + 2) e
  let k := floorLog10 value.1 value.2 - count + 1
  let up := Nat.pow 10 k.toNat
  let down := Nat.pow 10 (-k).toNat
  -- `d · 10^k` compared with `num / den`, both sides multiplied out
  let side (d : Nat) (bound : Nat × Nat) : Int := (d * up * bound.2 : Nat) - (bound.1 * down : Nat)
  let inside (d : Nat) : Bool :=
    let l := side d low
    let h := side d high
    if b.mantissa % 2 = 0 then 0 ≤ l && h ≤ 0 else 0 < l && h < 0
  let d := value.1 * down / (value.2 * up)
  let below := (side d value).natAbs
  let above := (side (d + 1) value).natAbs
  match inside d, inside (d + 1) with
  | true, true =>
    if below < above || (below == above && d % 2 == 0) then some ⟨d, k⟩ else some ⟨d + 1, k⟩
  | true, false => some ⟨d, k⟩
  | false, true => some ⟨d + 1, k⟩
  | false, false => none

/-- Drop trailing zeros of the digits, at most `fuel` of them. -/
def Scientific.strip : Nat → Scientific → Scientific
  | 0, d => d
  | fuel + 1, d =>
    if d.digits ≠ 0 ∧ d.digits % 10 = 0 then strip fuel ⟨d.digits / 10, d.exponent + 1⟩ else d

/-- The shortest decimal that reads back as `b`; seventeen digits always suffice. -/
def shortest (b : Binary) : Scientific :=
  match (List.range 17).findSome? fun i => nearestOnGrid b (i + 1) with
  | some d => d.strip 20
  | none => ⟨0, 0⟩

/-- Where positional notation is used and how it is written otherwise. -/
structure Style where
  /-- The least scientific exponent written positionally. -/
  least : Int
  /-- The first scientific exponent too large for positional notation. -/
  limit : Int
  /-- What stands in front of a non-negative exponent. -/
  plus : String
  /-- What follows the digits of a whole number. -/
  whole : String

/-- A positive decimal in the given style. -/
def Scientific.render (style : Style) (d : Scientific) : String :=
  let ds := Nat.toDigits 10 d.digits
  let e : Int := d.exponent + ds.length - 1
  if style.least ≤ e ∧ e < style.limit then
    if 0 ≤ d.exponent then
      String.ofList (ds ++ List.replicate d.exponent.toNat '0') ++ style.whole
    else if 0 ≤ e then
      String.ofList (ds.take (e.toNat + 1) ++ '.' :: ds.drop (e.toNat + 1))
    else
      String.ofList ('0' :: '.' :: List.replicate (-e - 1).toNat '0' ++ ds)
  else
    let mantissa :=
      match ds with
      | [] => []
      | [c] => [c]
      | c :: cs => c :: '.' :: cs
    String.ofList mantissa ++ "e" ++ (if 0 ≤ e then style.plus else "") ++ toString e

/-- A finite double in the given style. -/
def render (style : Style) (f : Float) : String :=
  let bits := f.toBits
  let sign := if bits.toNat ≥ Nat.pow 2 63 then "-" else ""
  let magnitude := UInt64.ofNat (bits.toNat % Nat.pow 2 63)
  if magnitude = 0 then sign ++ "0" ++ style.whole
  else sign ++ (shortest (Binary.ofBits magnitude)).render style

end AspectForms.Decimal
