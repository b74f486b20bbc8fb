import ModuleBundler.Script.Lexer.Source
import ModuleBundler.Script.Token
import ModuleBundler.Text.Classes
import ModuleBundler.Text.Digit

/-!
Numbers. The value of a number is the 64-bit value nearest to what all of its digits write, point
and exponent included. Separators may stand between two digits and nowhere else; a run of digits
with one in another place is read all the same, with a complaint at the start of the run.
-/

set_option autoImplicit false

namespace ModuleBundler.Script

namespace Digits

/-- The value of a digit of any radix up to 16. -/
def valueOf? (radix : Nat) (c : Char) : Option Nat :=
  (Text.hexValue? c).bind fun d => if d < radix then some d else none

/-- Takes digits with separators among them, at most `limit` digits if there is a limit; `inside`
says that a digit came before. -/
def takeFrom (radix : Nat) (start : Position) :
    Nat → Option Nat → Bool → List Nat → Scan (List Nat)
  | 0, _, _, ds => return ds.reverse
  | fuel + 1, limit, inside, ds => do
    match ← Scan.rest with
    | '_' :: after =>
      unless inside && (after.head?.bind (valueOf? radix)).isSome do
        Scan.complain .misplacedNumericSeparator start
      Scan.skip 1
      takeFrom radix start fuel limit inside ds
    | c :: _ =>
      match valueOf? radix c with
      | some d =>
        Scan.skip 1
        if limit = some 1 then return (d :: ds).reverse
        takeFrom radix start fuel (limit.map (· - 1)) true (d :: ds)
      | none => return ds.reverse
    | [] => return ds.reverse

/-- Takes all digits of a radix. -/
def take (radix : Nat) : Scan (List Nat) := do
  takeFrom radix (← Scan.position) (← Scan.fuel) none false []

/-- Takes at most so many digits of a radix, and at least one if there is one. -/
def takeAtMost (radix limit : Nat) : Scan (List Nat) := do
  takeFrom radix (← Scan.position) (← Scan.fuel) (some limit) false []

/-- The number that digits write in a radix. -/
def value (radix : Nat) (ds : List Nat) : Nat := ds.foldl (fun n d => n * radix + d) 0

/-- Takes digits of a radix, of which there has to be one. -/
def takeSome (radix : Nat) : Scan (List Nat) := do
  let start ← Scan.position
  let ds ← take radix
  if ds.isEmpty then Scan.failAt (.expectedDigit radix) start
  return ds

end Digits

namespace Token

/-- No name may follow a number directly. -/
def endNumber (value : Token) : Scan Token := do
  match ← Scan.next? with
  | some c => if Text.isNameStart c then Scan.failAt .nameAfterNumber (← Scan.position)
  | none => pure ()
  return value

/-- The number that digits of a radix write: an integer of any size if an `n` follows. -/
def ofDigits (radix : Nat) (ds : List Nat) : Scan Token := do
  if ← Scan.accept 'n' then return .bigint (Digits.value radix ds)
  endNumber (.number (.ofNat (Digits.value radix ds)))

/-- A number with a radix mark such as `0x`. -/
def scanRadix (radix : Nat) : Scan Token := do
  Scan.skip 2
  ofDigits radix (← Digits.takeSome radix)

/-- The greatest power of ten that is told from greater ones. -/
def powerLimit : Nat := 400

/-- The 64-bit value nearest to `digits * 10 ^ power`. Powers that can only give zero or infinity
are cut short. -/
def nearest (ds : List Nat) (power : Int) : Binary64 :=
  let n := Digits.value 10 ds
  let bound : Int := powerLimit + ds.length
  if n = 0 then .zero else .ofDecimal false n (max (-bound) (min bound power))

/-- The digits after a point, if a point follows. -/
def scanFraction : Scan (List Nat) := do
  if ← Scan.accept '.' then Digits.take 10 else return []

/-- The exponent of a number, if one follows. -/
def scanExponent : Scan Int := do
  match ← Scan.next? with
  | some c =>
    if c = 'e' || c = 'E' then
      Scan.skip 1
      match ← Scan.next? with
      | none => Scan.failAt .expectedExponent (← Scan.position)
      | some sign =>
        if sign = '+' || sign = '-' then Scan.skip 1
        let e : Int := Digits.value 10 (← Digits.takeSome 10)
        return if sign = '-' then -e else e
    return 0
  | none => return 0

/-- A number from its point or exponent on, given the digits before. -/
def scanTail (whole : List Nat) : Scan Token := do
  let fraction ← scanFraction
  let exponent ← scanExponent
  endNumber (.number (nearest (whole ++ fraction) (exponent - fraction.length)))

/-- Complains at a position in strict code. -/
def complainStrict (strict : Bool) (e : SyntaxError) (p : Position) : Scan Unit := do
  if strict then Scan.complain e p

/-- A decimal number. With a leading zero it is read in the old way: as octal, unless it has a
digit eight or nine. -/
def scanDecimal (strict : Bool) : Scan Token := do
  let start ← Scan.position
  let (written, ds) ← Scan.taken (Digits.take 10)
  if ← Scan.accept 'n' then return .bigint (Digits.value 10 ds)
  if written.head? == some '0' && 1 < written.length then
    if ds.any (8 ≤ ·) then
      complainStrict strict .legacyDecimal start
      scanTail ds
    else
      let token ← endNumber (.number (.ofNat (Digits.value 8 ds)))
      complainStrict strict .legacyOctal start
      return token
  else scanTail ds

/-- A number. -/
def scanNumber (strict : Bool) : Scan Token := do
  match ← Scan.rest with
  | '.' :: _ => scanTail []
  | '0' :: c :: _ =>
    if c = 'x' || c = 'X' then scanRadix 16
    else if c = 'o' || c = 'O' then scanRadix 8
    else if c = 'b' || c = 'B' then scanRadix 2
    else scanDecimal strict
  | _ => scanDecimal strict

end Token

end ModuleBundler.Script
