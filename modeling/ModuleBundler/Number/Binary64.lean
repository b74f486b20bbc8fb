/-!
Numbers in the 64-bit binary format, exactly. A finite value is `significand * 2 ^ exponent` with
a sign; every operation computes its exact rational result and rounds once, to the nearest value
and a tie to the even significand. Nothing here uses machine arithmetic, so each value is an open
book to a proof: an integer below `2 ^ 53` is its own significand, scaled.
-/

set_option autoImplicit false

namespace ModuleBundler

/-- The power of two with a natural exponent. -/
def twoTo (n : Nat) : Nat := Nat.pow 2 n

/-- The power of ten with a natural exponent. -/
def tenTo (n : Nat) : Nat := Nat.pow 10 n

/-- A value of the 64-bit binary format. A finite value has its significand below `2 ^ 53` and
its exponent from `-1074` to `971`; unless the exponent is the least one, the significand is at
least `2 ^ 52`. -/
inductive Binary64 where
  | nan
  | infinite (negative : Bool)
  | finite (negative : Bool) (significand : Nat) (exponent : Int)
deriving Repr, DecidableEq, Inhabited

namespace Binary64

/-! ## Rounding -/

/-- The quotient of two numbers rounded to the nearest integer, a tie going to the even one. -/
def roundDiv (num den : Nat) : Nat :=
  let q := num / den
  let twice := 2 * (num % den)
  if twice < den then q
  else if den < twice then q + 1
  else q + q % 2

/-- Scales a fraction by a power of two, up or down. -/
def scale (num den : Nat) (power : Int) : Nat × Nat :=
  if 0 ≤ power then (num * twoTo power.toNat, den) else (num, den * twoTo (-power).toNat)

/-- The exponent of the power of two at or below a positive fraction. -/
def binaryOrder (num den : Nat) : Int :=
  let guess : Int := (Nat.log2 num : Int) - (Nat.log2 den : Int)
  let (n, d) := scale num den (-guess)
  if n < d then guess - 1 else guess

/-- The least exponent of a finite value. -/
def leastExponent : Int := -1074

/-- The greatest exponent of a finite value. -/
def greatestExponent : Int := 971

/-- The value nearest to a fraction, with the given sign; too large a one is infinite. -/
def ofRatio (negative : Bool) (num den : Nat) : Binary64 :=
  if num = 0 then .finite negative 0 leastExponent
  else
    let q := max (binaryOrder num den - 52) leastExponent
    let (n, d) := scale num den (-q)
    let r := roundDiv n d
    let (r, q) := if r = twoTo 53 then (twoTo 52, q + 1) else (r, q)
    if greatestExponent < q then .infinite negative else .finite negative r q

/-- The value nearest to a natural number. -/
def ofNat (n : Nat) : Binary64 := ofRatio false n 1

/-- The value nearest to `digits * 10 ^ power`. -/
def ofDecimal (negative : Bool) (digits : Nat) (power : Int) : Binary64 :=
  if 0 ≤ power then ofRatio negative (digits * tenTo power.toNat) 1
  else ofRatio negative digits (tenTo (-power).toNat)

/-- Positive zero. -/
def zero : Binary64 := ofNat 0

/-! ## Arithmetic -/

/-- The value with the other sign. -/
def neg : Binary64 → Binary64
  | .nan => .nan
  | .infinite s => .infinite !s
  | .finite s m e => .finite (!s) m e

/-- The magnitude of a finite value as a fraction. -/
def magnitude (m : Nat) (e : Int) : Nat × Nat := scale m 1 e

/-- The product of two values. -/
def mul : Binary64 → Binary64 → Binary64
  | .finite s m e, .finite t n f =>
    let (a, b) := scale (m * n) 1 (e + f)
    ofRatio (s != t) a b
  | .infinite s, .finite t n _ => if n = 0 then .nan else .infinite (s != t)
  | .finite s m _, .infinite t => if m = 0 then .nan else .infinite (s != t)
  | .infinite s, .infinite t => .infinite (s != t)
  | _, _ => .nan

/-- The quotient of two values. -/
def div : Binary64 → Binary64 → Binary64
  | .finite s m e, .finite t n f =>
    if n = 0 then (if m = 0 then .nan else .infinite (s != t))
    else
      let (a, b) := scale m n (e - f)
      ofRatio (s != t) a b
  | .infinite s, .finite t _ _ => .infinite (s != t)
  | .finite s _ _, .infinite t => .finite (s != t) 0 leastExponent
  | _, _ => .nan

/-- No digit after the point is needed to write the value. -/
def isIntegral : Binary64 → Bool
  | .finite _ m e => let (a, b) := magnitude m e; a % b == 0
  | _ => false

/-- The value is infinite, of either sign. -/
def isInfinite : Binary64 → Bool
  | .infinite _ => true
  | _ => false

/-! ## Bits -/

/-- Reads a binary interchange format with the given width of the significand field and of the
exponent field, and widens it. -/
def ofBits (fraction exponent : Nat) (bits : Nat) : Binary64 :=
  let m := bits % twoTo fraction
  let e := bits / twoTo fraction % twoTo exponent
  let negative := bits / twoTo (fraction + exponent) % 2 == 1
  let bias : Int := twoTo (exponent - 1) - 1
  if e = twoTo exponent - 1 then (if m = 0 then .infinite negative else .nan)
  else
    let (m, e) : Nat × Int := if e = 0 then (m, 1) else (twoTo fraction + m, e)
    let (a, b) := scale m 1 (e - bias - fraction)
    ofRatio negative a b

/-- Reads the 64-bit format. -/
def ofBits64 (bits : Nat) : Binary64 := ofBits 52 11 bits

/-- Reads the 32-bit format; widening it is exact. -/
def ofBits32 (bits : Nat) : Binary64 := ofBits 23 8 bits

/-- The 64 bits of a value; all values that are not numbers share one pattern. -/
def toBits : Binary64 → Nat
  | .nan => 0x7ff8000000000000
  | .infinite negative => 0x7ff0000000000000 + (if negative then twoTo 63 else 0)
  | .finite negative m e =>
    let sign := if negative then twoTo 63 else 0
    if m < twoTo 52 then sign + m
    else sign + (e + 1075).toNat * twoTo 52 + (m - twoTo 52)

end Binary64

end ModuleBundler
