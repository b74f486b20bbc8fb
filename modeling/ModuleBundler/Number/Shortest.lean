import ModuleBundler.Number.Binary64

/-!
The fewest decimal digits that read back as a value. The reals that round to a finite value form
an interval around it, closed exactly when its significand is even. For one digit, two digits and
so on, the two multiples of a power of ten next to the value are tried against that interval; the
first power with a hit wins, and of two hits the nearer. Seventeen digits always suffice.

From the digits come two texts: the plain one, which never uses an exponent, and the scientific
one, which does so for very large and very small values.
-/

set_option autoImplicit false

namespace ModuleBundler.Binary64

/-! ## Digits -/

/-- A decimal `digits * 10 ^ power`. -/
structure Decimal where
  digits : Nat
  power : Int
deriving Repr, DecidableEq

/-- A fraction times a power of ten, kept as a fraction. -/
def scaleTen (num den : Nat) (power : Int) : Nat × Nat :=
  if 0 ≤ power then (num * tenTo power.toNat, den) else (num, den * tenTo (-power).toNat)

/-- The exponent of the power of ten at or below a positive fraction, given a guess that is at
most a few steps too small. -/
def decimalOrderFrom (num den : Nat) : Nat → Int → Int
  | 0, guess => guess
  | steps + 1, guess =>
    let (n, d) := scaleTen num den (-(guess + 1))
    if d ≤ n then decimalOrderFrom num den steps (guess + 1) else guess

/-- The exponent of the power of ten at or below a positive fraction. -/
def decimalOrder (num den : Nat) : Int :=
  decimalOrderFrom num den 4 ((binaryOrder num den * 30103 - 100000) / 100000 - 1)

/-- The interval of reals that round to `m * 2 ^ e`, as the numerators of its ends over a common
denominator, with the value between them. Below a power of two the neighbour is half as far. -/
def roundingInterval (m : Nat) (e : Int) : Nat × Nat × Nat × Nat :=
  let near := m = twoTo 52 && leastExponent < e
  let (v, d) := scale (4 * m) 4 e
  let (unit, _) := scale 1 1 e
  (v - (if near then unit else 2 * unit), v, v + 2 * unit, d)

/-- Tries the two multiples of `10 ^ power` next to the value `v / d`. -/
def hit? (low v high d : Nat) (closed : Bool) (power : Int) : Option Decimal :=
  let (a, b) := scaleTen v d (-power)
  let k := a / b
  let inside (n : Nat) : Bool :=
    let (x, y) := scaleTen n 1 power
    if closed then low * y ≤ x * d && x * d ≤ high * y else low * y < x * d && x * d < high * y
  let below := inside k && 0 < k
  let above := inside (k + 1)
  if below && above then
    some (if 2 * (a % b) < b || (2 * (a % b) = b && k % 2 = 0) then ⟨k, power⟩ else ⟨k + 1, power⟩)
  else if below then some ⟨k, power⟩
  else if above then some ⟨k + 1, power⟩
  else none

/-- The first of the given numbers of digits that has a hit. -/
def firstHit (low v high d : Nat) (closed : Bool) (order : Int) : Nat → Nat → Decimal
  | 0, _ => ⟨0, 0⟩
  | steps + 1, count =>
    match hit? low v high d closed (order - count + 1) with
    | some r => r
    | none => firstHit low v high d closed order steps (count + 1)

/-- Drops the zeros at the end of the digits. -/
def Decimal.trim (d : Decimal) : Nat → Decimal
  | 0 => d
  | steps + 1 =>
    if d.digits ≠ 0 ∧ d.digits % 10 = 0 then trim ⟨d.digits / 10, d.power + 1⟩ steps else d

/-- The shortest decimal of a positive finite value. -/
def shortest (m : Nat) (e : Int) : Decimal :=
  if m = 0 then ⟨0, 0⟩
  else
    let (low, v, high, d) := roundingInterval m e
    (firstHit low v high d (m % 2 == 0) (decimalOrder v d) 17 1).trim 17

/-! ## Texts -/

/-- A decimal without an exponent. -/
def Decimal.plain (d : Decimal) : List Char :=
  let ds := Nat.toDigits 10 d.digits
  if 0 ≤ d.power then (if d.digits = 0 then ds else ds ++ List.replicate d.power.toNat '0')
  else
    let places := (-d.power).toNat
    let ds := List.replicate (places + 1 - ds.length) '0' ++ ds
    ds.take (ds.length - places) ++ '.' :: ds.drop (ds.length - places)

/-- The plain text of a value; the caller writes infinities and values that are no numbers. -/
def plain : Binary64 → List Char
  | .nan => "NaN".toList
  | .infinite negative => (if negative then "-Infinity" else "Infinity").toList
  | .finite negative m e => (if negative then ['-'] else []) ++ (shortest m e).plain

/-- Decimal exponents that are written positionally: from this one … -/
def leastPositional : Int := -5

/-- … up to, and without, this one. -/
def positionalBound : Int := 16

/-- The text of a finite value with a point or an exponent in it, so that it reads as a
fractional number: `1.0`, `0.00001`, `1e16`, `1.5e300`. -/
def scientific : Binary64 → List Char
  | .finite negative m e =>
    let d := shortest m e
    let ds := Nat.toDigits 10 d.digits
    let order : Int := d.power + ds.length - 1
    let sign := if negative then ['-'] else []
    if m = 0 then sign ++ ['0', '.', '0']
    else if leastPositional ≤ order ∧ order < positionalBound then
      sign ++ d.plain ++ (if 0 ≤ d.power then ['.', '0'] else [])
    else
      let fraction := if ds.length ≤ 1 then [] else '.' :: ds.drop 1
      let exponent := (if order < 0 then ['-'] else []) ++ Nat.toDigits 10 order.natAbs
      sign ++ ds.take 1 ++ fraction ++ 'e' :: exponent
  | v => v.plain

end ModuleBundler.Binary64
