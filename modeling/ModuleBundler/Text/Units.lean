/-!
Text as UTF-16 code units. A character of the basic plane is one unit and every other character
is a surrogate pair, so `units (s ++ t) = units s ++ units t`: the units of a text are found one
character at a time, and whatever is computed from them left to right splits at any point.
-/

set_option autoImplicit false

namespace ModuleBundler.Text

/-- The code units of one character: itself, or a high and a low surrogate. -/
def charUnits (c : Char) : List Nat :=
  let n := c.toNat
  if n < 0x10000 then [n]
  else [0xD800 + (n - 0x10000) / 0x400, 0xDC00 + (n - 0x10000) % 0x400]

/-- The code units of a text, in order. -/
def units (s : List Char) : List Nat := s.flatMap charUnits

@[simp] theorem units_nil : units [] = [] := rfl

@[simp] theorem units_cons (c : Char) (s : List Char) :
    units (c :: s) = charUnits c ++ units s := rfl

theorem units_append (s t : List Char) : units (s ++ t) = units s ++ units t := by
  simp [units, List.flatMap_append]

/-! ## The 31-bit digest

A polynomial digest with multiplier 31. The running value is kept in a 64-bit word and brought
below `2 ^ 31` only when it has reached that bound; since it starts below it and one unit adds
less than `2 ^ 16`, a step stays below `2 ^ 36` and the word never wraps. -/

/-- Every digest lies below this bound. -/
def digestBound : UInt64 := 2147483648

/-- The running value after one more unit, before it is reduced. -/
def digestRaise (h : UInt64) (unit : Nat) : UInt64 := 31 * h + UInt64.ofNat unit

/-- One step of the digest: take in a unit, and reduce if the bound has been reached. -/
def digestStep (h : UInt64) (unit : Nat) : UInt64 :=
  if digestRaise h unit ≥ digestBound then digestRaise h unit % digestBound else digestRaise h unit

/-- The digest of a text. -/
def digest (s : List Char) : UInt64 := (units s).foldl digestStep 0

end ModuleBundler.Text
