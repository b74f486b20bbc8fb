import ModuleBundler.Proofs.Number.Naturals

/-!
Integers as values. A finite value is a rational number and has a sign, zero too. The value nearest
to an integer has the sign of the integer, so that of zero is the positive one; and it is the
integer itself if that has no more than 53 bits (`toRat?_ofInt`).
-/

set_option autoImplicit false

namespace ModuleBundler.Binary64

/-- The rational number that a finite value is. -/
def toRat? : Binary64 → Option ℚ
  | .finite negative m e => some ((if negative then -1 else 1) * (m * 2 ^ e))
  | _ => none

/-- The sign of a value. -/
def isNegative : Binary64 → Bool
  | .nan => false
  | .infinite negative => negative
  | .finite negative _ _ => negative

/-- The value nearest to an integer. -/
def ofInt (i : Int) : Binary64 := ofRatio (decide (i < 0)) i.natAbs 1

/-! ## Signs -/

/-- A fraction is rounded alike under both signs. -/
theorem neg_ofRatio (negative : Bool) (num den : Nat) :
    (ofRatio negative num den).neg = ofRatio (!negative) num den := by
  unfold ofRatio
  split
  · rfl
  · dsimp only
    split <;> exact apply_ite neg _ _ _

theorem isNegative_ofRatio (negative : Bool) (num : Nat) {den : Nat} (hden : den ≠ 0) :
    (ofRatio negative num den).isNegative = negative := by
  rcases ofRatio_eq_infinite_or_finite negative num hden with h | ⟨m, e, h, -⟩
  · rw [h, isNegative]
  · rw [h, isNegative]

theorem toRat?_neg (v : Binary64) : v.neg.toRat? = v.toRat?.map (- ·) := by
  cases v with
  | nan => rfl
  | infinite negative => rfl
  | finite negative m e => cases negative <;> simp [neg, toRat?]

theorem ofInt_of_nonneg {i : Int} (hi : 0 ≤ i) : ofInt i = ofNat i.natAbs := by
  rw [ofInt, decide_eq_false (by omega), ofNat]

theorem ofInt_of_neg {i : Int} (hi : i < 0) : ofInt i = (ofNat i.natAbs).neg := by
  rw [ofInt, decide_eq_true hi, ofNat, neg_ofRatio, Bool.not_false]

/-- Only a value that is nearest to a negative integer is negative. -/
theorem isNegative_ofInt (i : Int) : (ofInt i).isNegative = decide (i < 0) :=
  isNegative_ofRatio _ _ Nat.one_ne_zero

/-! ## Exact integers -/

theorem toRat?_ofNat {n : Nat} (hlt : n < 2 ^ 53) : (ofNat n).toRat? = some (n : ℚ) := by
  by_cases hn : n = 0
  · rw [hn]
    simp [ofNat, ofRatio, toRat?]
  · obtain ⟨m, e, hvalue, hnatural, -⟩ := isNatural_of_lt hn hlt
    rw [hvalue, toRat?, if_neg Bool.false_ne_true, one_mul, hnatural.value]

/-- **An integer of at most 53 bits** is the value next to it. -/
theorem toRat?_ofInt {i : Int} (hlt : i.natAbs < 2 ^ 53) : (ofInt i).toRat? = some (i : ℚ) := by
  by_cases hi : i < 0
  · have habs : (i.natAbs : ℚ) = -i := by
      rw [Nat.cast_natAbs, abs_of_neg hi, Int.cast_neg]
    rw [ofInt_of_neg hi, toRat?_neg, toRat?_ofNat hlt, Option.map_some, habs, neg_neg]
  · have hi := not_lt.mp hi
    have habs : (i.natAbs : ℚ) = i := by
      rw [Nat.cast_natAbs, abs_of_nonneg hi]
    rw [ofInt_of_nonneg hi, toRat?_ofNat hlt, habs]

/-- Values tell integers of at most 53 bits apart. -/
theorem ofInt_inj_of_lt {i j : Int} (hi : i.natAbs < 2 ^ 53) (hj : j.natAbs < 2 ^ 53) :
    ofInt i = ofInt j ↔ i = j := by
  refine ⟨fun h => ?_, fun h => by rw [h]⟩
  have hvalue : (ofInt i).toRat? = (ofInt j).toRat? := by rw [h]
  rw [toRat?_ofInt hi, toRat?_ofInt hj, Option.some.injEq] at hvalue
  exact_mod_cast hvalue

end ModuleBundler.Binary64
