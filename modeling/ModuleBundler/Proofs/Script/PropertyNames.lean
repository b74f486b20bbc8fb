import ModuleBundler.Data.Literal
import ModuleBundler.Proofs.Number.Naturals
import ModuleBundler.Proofs.Script.Evaluation
import ModuleBundler.Text.Digit

/-!
The names of properties. Whatever a key is written as, the property has a text for its name: a
number has the text that the language turns its value into, and a big integer has its digits. What
stands in brackets is turned into a text in the same way.

The literal of an integer is made so that its name is always the digits of the integer
(`nameAsKey?_integerLiteral`), as a number while values tell integers apart, and as a big integer
beyond. A key that is a number throughout has the digits of an integer only where its value is
written with them.
-/

set_option autoImplicit false

namespace ModuleBundler

/-! ## Texts of values -/

namespace Binary64

/-- Places of the point, counted from the first digit, up to which a value is written without an
exponent: from this one … -/
def leastPoint : Int := -5

/-- … to this one. -/
def greatestPoint : Int := 21

/-- The text that the language turns a value into. -/
def toText : Binary64 → List Char
  | .finite negative m e =>
    let d := shortest m e
    let ds := Nat.toDigits 10 d.digits
    let point : Int := d.power + ds.length
    let sign := if negative then ['-'] else []
    if m = 0 then ['0']
    else if leastPoint ≤ point ∧ point ≤ greatestPoint then sign ++ d.plain
    else
      let fraction := if ds.length ≤ 1 then [] else '.' :: ds.drop 1
      let exponent := (if point ≤ 0 then '-' else '+') :: Nat.toDigits 10 (point - 1).natAbs
      sign ++ ds.take 1 ++ fraction ++ 'e' :: exponent
  | v => v.plain

/-- A value that is a natural number of moderate size is written without an exponent. -/
theorem toText_of_isNatural {m : Nat} {e : Int} {n : Nat} (h : IsNatural m e n) :
    toText (.finite false m e) = plain (.finite false m e) := by
  have hm : m ≠ 0 := by
    have := h.normal.low
    omega
  obtain ⟨hdigits, hencloses⟩ := encloses_shortest hm (.normal h.normal)
  obtain ⟨k, hk⟩ := Int.eq_ofNat_of_zero_le (shortest_of_integral h.normal h.pos h.value)
  have hbound : (shortest m e).digits * 10 ^ k < 10 ^ 21 := by
    have hone : (1 : ℚ) ≤ m := by exact_mod_cast Nat.one_le_iff_ne_zero.2 hm
    have hunit : (2 : ℚ) ^ e ≤ m * 2 ^ e := le_mul_of_one_le_left (by positivity) hone
    have hn : (n : ℚ) < 2 ^ 66 := by exact_mod_cast h.bounded
    have hhigh := hencloses.high
    rw [Decimal.value, hk, zpow_natCast] at hhigh
    rw [← h.value] at hunit hhigh
    have hcast : (((shortest m e).digits * 10 ^ k : Nat) : ℚ) < ((10 ^ 21 : Nat) : ℚ) := by
      push_cast
      linarith
    exact_mod_cast hcast
  have hlength := (Nat.length_toDigits_le_iff (by decide) (by decide)).2 hbound
  rw [toDigits_mul_ten_pow hdigits, List.length_append, List.length_replicate] at hlength
  rw [toText, if_neg hm, if_pos ⟨by rw [leastPoint]; omega, by rw [greatestPoint]; omega⟩, plain]

theorem toText_ofNat {n : Nat} (hlarge : n < 2 ^ 64) : (ofNat n).toText = (ofNat n).plain := by
  by_cases hn : n = 0
  · rw [hn]
    rfl
  · obtain ⟨m, e, v, hvalue, hnatural⟩ := exists_isNatural hn hlarge
    rw [hvalue, toText_of_isNatural hnatural]

/-- A number of at most 53 bits is turned into its digits. -/
theorem toText_ofNat_of_lt {n : Nat} (hlt : n < 2 ^ 53) : (ofNat n).toText = Text.decimal n := by
  rw [toText_ofNat (by omega), plain_ofNat_of_lt hlt, Text.decimal]

/-- The value next to a larger number may have other digits. -/
example : (ofNat (2 ^ 53 + 1)).toText = Text.decimal (2 ^ 53) := by decide +kernel

end Binary64

namespace Script

/-! ## Names -/

/-- The name that data becomes as a key. Arrays and objects have none of their own: they are asked
for one by running code. -/
def Datum.asKey? : Datum → Option String
  | .null => some "null"
  | .bool b => some (if b then "true" else "false")
  | .number v => some (String.ofList v.toText)
  | .big i => some (String.ofList (Text.decimalInt i))
  | .string s => some s
  | .array _ | .object _ _ => none

/-- The name that the value of an expression becomes as a key. -/
def nameAsKey? (e : Expr) : Option String := (e.evaluate? : Option Datum).bind Datum.asKey?

/-- The name of the property that a key is written for. -/
def keyName? : Key → Option String
  | .nameKey name => some name
  | .stringKey s => some s.value
  | .numberKey v => some (String.ofList v.toText)
  | .bigKey i => some (String.ofList (Text.decimalInt i))
  | .computedKey e => nameAsKey? e
  | .privateKey _ | .bareKey _ => none

/-- The properties of an object literal that are written with a key and a value, by name. -/
def namedProperties : Expr → List (String × Expr)
  | .object properties => properties.toList.filterMap fun
    | .keyValue key value => (keyName? key).map fun name => (name, value)
    | _ => none
  | _ => []

/-- **The literal of an integer** names the property with its digits, however large it is. -/
theorem nameAsKey?_integerLiteral (i : Nat) :
    nameAsKey? (Data.integerLiteral i) = some (String.ofList (Text.decimal i)) := by
  have hnonneg : ¬ (i : Int) < 0 := Int.not_lt.mpr i.cast_nonneg
  rw [Data.integerLiteral, Int.natAbs_natCast, if_neg hnonneg]
  by_cases hsmall : i ≤ Data.exactIntegerLimit
  · have hlt : i < 2 ^ 53 := by
      rw [Data.exactIntegerLimit] at hsmall
      omega
    rw [if_pos hsmall]
    change some (String.ofList (Binary64.toText (.ofNat i))) = _
    rw [Binary64.toText_ofNat_of_lt hlt]
  · rw [if_neg hsmall]
    change some (String.ofList (Text.decimalInt i)) = _
    rw [Text.decimalInt, if_neg hnonneg, List.nil_append, Int.natAbs_natCast]

end Script

end ModuleBundler
