/-!
The double nearest to a decimal.

A positive rational lies between two multiples of `2^q`, where `q` is the exponent that leaves 53 bits, or
the least exponent there is.  The nearer multiple is taken, and of two equally near ones the even one.
-/

namespace AspectForms.Decimal

def leastExponent : Int := -1074

/-- A positive rational divided by `2^q`. -/
def scaleDown (num den : Nat) (q : Int) : Nat × Nat :=
  if 0 ≤ q then (num, den * Nat.pow 2 q.toNat) else (num * Nat.pow 2 (-q).toNat, den)

/-- The whole number nearest to a rational; of two equally near ones the even one. -/
def roundEven (num den : Nat) : Nat :=
  let n := num / den
  let twice := 2 * (num % den)
  if twice < den ∨ (twice = den ∧ n % 2 = 0) then n else n + 1

/-- The exponent of the last of the 53 bits of a positive rational. -/
def lastBit (num den : Nat) : Int :=
  let q : Int := (num.log2 : Int) - den.log2 - 53
  let (n, d) := scaleDown num den q
  max leastExponent (if n / d < Nat.pow 2 53 then q else q + 1)

/-- The 64 bits of the double nearest to a rational; those of infinity if it is too large. -/
def nearestBits (num den : Nat) : Nat :=
  if num = 0 then 0
  else
    let q := lastBit num den
    let (n, d) := scaleDown num den q
    let m := roundEven n d
    -- the bits of the exponent are one less where the leading bit of `m` adds one to them
    min (m + (q - leastExponent).toNat * Nat.pow 2 52) (0x7ff * Nat.pow 2 52)

/-- Digits, read as one number, times a power of ten. -/
structure Written where
  digits : List Nat
  exponent : Int

def digitValue? (c : Char) : Option Nat :=
  if c.isDigit then some (c.toNat - '0'.toNat) else none

def digitsValue (digits : List Nat) : Nat := digits.foldl (fun n d => 10 * n + d) 0

/-- The whole number that a text of digits stands for. -/
def natural? (text : List Char) : Option Nat :=
  if text.isEmpty then none else (text.mapM digitValue?).map digitsValue

def exponent? : List Char → Option Int
  | '-' :: digits => (natural? digits).map fun n => -(n : Int)
  | '+' :: digits => (natural? digits).map Int.ofNat
  | digits => (natural? digits).map Int.ofNat

/-- What a numeral without a sign says: digits, perhaps around a point, and perhaps an exponent. -/
def Written.ofText? (text : List Char) : Option Written := do
  let isMark (c : Char) : Bool := c = 'e' || c = 'E'
  let number := text.takeWhile fun c => !isMark c
  let whole := number.takeWhile (· ≠ '.')
  let part := (number.dropWhile (· ≠ '.')).drop 1
  if whole.isEmpty && part.isEmpty then failure
  let digits ← (whole ++ part).mapM digitValue?
  let e ← if number.length < text.length then exponent? (text.drop (number.length + 1)) else some 0
  return ⟨digits, e - part.length⟩

/-- The double nearest to a numeral.  Far outside the range of doubles the digits do not matter. -/
def Written.nearest (w : Written) : Float :=
  let digits := w.digits.dropWhile (· = 0)
  let magnitude := (digits.length : Int) + w.exponent
  let bits :=
    if digits.isEmpty ∨ magnitude < -330 then 0
    else if 310 < magnitude then 0x7ff * Nat.pow 2 52
    else
      let n := digitsValue digits
      if 0 ≤ w.exponent then nearestBits (n * Nat.pow 10 w.exponent.toNat) 1
      else nearestBits n (Nat.pow 10 (-w.exponent).toNat)
  Float.ofBits (UInt64.ofNat bits)

end AspectForms.Decimal
