import ModuleBundler.Proofs.Number.Rounding

/-!
Which reals round to a value. They lie around it, up to the middle between it and its neighbours,
and the middle itself counts when the significand is even. The neighbour below a power of two is
half as far as the others. A fraction in this interval is rounded to the value
(`ofRatio_eq_of_encloses`), also where it lies below the power of two itself and the rounding
carries.
-/

set_option autoImplicit false

namespace ModuleBundler.Binary64

/-! ## Rounded quotients -/

/-- How far a quotient is from an integer, without fractions. -/
theorem half_bounds_iff (m num : Nat) {den : Nat} (hden : den ≠ 0) :
    ((m : ℚ) - 1 / 2 ≤ num / den ↔ 2 * (m * den) ≤ 2 * num + den) ∧
      ((num : ℚ) / den ≤ m + 1 / 2 ↔ 2 * num ≤ 2 * (m * den) + den) ∧
      ((m : ℚ) - 1 / 2 < num / den ↔ 2 * (m * den) < 2 * num + den) ∧
      ((num : ℚ) / den < m + 1 / 2 ↔ 2 * num < 2 * (m * den) + den) := by
  have hpos : (0 : ℚ) < den := Nat.cast_pos.mpr (Nat.pos_of_ne_zero hden)
  rw [le_div_iff₀ hpos, div_le_iff₀ hpos, lt_div_iff₀ hpos, div_lt_iff₀ hpos]
  simp only [← Nat.cast_le (α := ℚ), ← Nat.cast_lt (α := ℚ)]
  push_cast
  refine ⟨?_, ?_, ?_, ?_⟩ <;> constructor <;> intro h <;> linarith

/-- The nearest integer, and of two the even one, is what a quotient is rounded to. -/
theorem roundDiv_eq_of_close {num den m : Nat} (hden : den ≠ 0)
    (hlow : (m : ℚ) - 1 / 2 ≤ num / den) (hhigh : (num : ℚ) / den ≤ m + 1 / 2)
    (hodd : m % 2 = 1 → (m : ℚ) - 1 / 2 < num / den ∧ (num : ℚ) / den < m + 1 / 2) :
    roundDiv num den = m := by
  obtain ⟨hbelow, habove, hbelow', habove'⟩ := half_bounds_iff m num hden
  rw [hbelow] at hlow
  rw [habove] at hhigh
  rw [hbelow', habove'] at hodd
  have hsplit := Nat.div_add_mod num den
  have hmod := Nat.mod_lt num (Nat.pos_of_ne_zero hden)
  rw [roundDiv]
  generalize num / den = q at *
  generalize num % den = r at *
  -- the quotient is the integer or the one below it
  have hle : q ≤ m := by
    by_contra hlt
    have hstep : (m + 1) * den ≤ den * q := by
      rw [Nat.mul_comm den]
      exact Nat.mul_le_mul_right den (by omega)
    rw [Nat.add_mul] at hstep
    omega
  have hge : m ≤ q + 1 := by
    by_contra hlt
    have hstep : den * (q + 2) ≤ m * den := by
      rw [Nat.mul_comm m]
      exact Nat.mul_le_mul_left den (by omega)
    rw [Nat.mul_add] at hstep
    omega
  rcases (by omega : m = q ∨ m = q + 1) with rfl | rfl
  · rw [Nat.mul_comm] at hsplit
    split
    · rfl
    · split
      · omega
      · omega
  · rw [Nat.add_mul, Nat.one_mul, Nat.mul_comm q] at hlow hhigh hodd
    split
    · omega
    · split
      · rfl
      · omega

/-! ## Intervals -/

/-- Half of the way from a value to the one below it. -/
def gapBelow (m : Nat) (e : Int) : ℚ :=
  if m = twoTo 52 ∧ leastExponent < e then 2 ^ e / 4 else 2 ^ e / 2

/-- A real is one of those that round to a value. -/
structure Encloses (m : Nat) (e : Int) (x : ℚ) : Prop where
  low : m * 2 ^ e - gapBelow m e ≤ x
  high : x ≤ m * 2 ^ e + 2 ^ e / 2
  /-- With an odd significand the ends do not count. -/
  odd : m % 2 = 1 → m * 2 ^ e - gapBelow m e < x ∧ x < m * 2 ^ e + 2 ^ e / 2

/-- A value with all of its bits, and none of the least ones. -/
structure IsNormal (m : Nat) (e : Int) : Prop where
  low : 2 ^ 52 ≤ m
  high : m < 2 ^ 53
  least : leastExponent < e
  greatest : e ≤ greatestExponent

/-- A finite value in the form that rounding gives it. -/
inductive IsValue (m : Nat) (e : Int) : Prop where
  | normal (h : IsNormal m e)
  /-- One of the least values may lack bits. -/
  | least (high : m < 2 ^ 53) (he : e = leastExponent)

theorem IsValue.high {m : Nat} {e : Int} (h : IsValue m e) : m < 2 ^ 53 := by
  cases h with
  | normal h => exact h.high
  | least high _ => exact high

section Normal

variable {m : Nat} {e : Int}

/-- A real that rounds to a value, in units of the last place. -/
theorem Encloses.scaled {x : ℚ} (h : Encloses m e x) :
    m - gapBelow m e / 2 ^ e ≤ x / 2 ^ e ∧ x / 2 ^ e ≤ m + 1 / 2 ∧
      (m % 2 = 1 → m - gapBelow m e / 2 ^ e < x / 2 ^ e ∧ x / 2 ^ e < m + 1 / 2) := by
  have hunit : (0 : ℚ) < 2 ^ e := by positivity
  have hlow : m - gapBelow m e / 2 ^ e = (m * 2 ^ e - gapBelow m e) / 2 ^ e := by
    field_simp
  have hhigh : m + 1 / 2 = (m * 2 ^ e + 2 ^ e / 2 : ℚ) / 2 ^ e := by
    field_simp
  rw [hlow, hhigh]
  exact ⟨div_le_div_of_nonneg_right h.low hunit.le, div_le_div_of_nonneg_right h.high hunit.le,
    fun hodd => ⟨div_lt_div_of_pos_right (h.odd hodd).1 hunit,
      div_lt_div_of_pos_right (h.odd hodd).2 hunit⟩⟩

/-- Rounding at an exponent gives the integer that is nearest to the real in units of it. -/
theorem roundDiv_scale_eq {num den r : Nat} {q : Int} (hden : den ≠ 0)
    (hlow : (r : ℚ) - 1 / 2 ≤ num / den / 2 ^ q) (hhigh : (num : ℚ) / den / 2 ^ q ≤ r + 1 / 2)
    (hodd : r % 2 = 1 → (r : ℚ) - 1 / 2 < num / den / 2 ^ q ∧
      (num : ℚ) / den / 2 ^ q < r + 1 / 2) :
    roundDiv (scale num den (-q)).1 (scale num den (-q)).2 = r := by
  obtain ⟨hscaled, hratio⟩ := ratio_scale num hden (-q)
  rw [zpow_neg, ← div_eq_mul_inv] at hratio
  rw [← hratio] at hlow hhigh hodd
  exact roundDiv_eq_of_close hscaled hlow hhigh hodd

/-- Rounding without a carry. -/
theorem ofRatio_of_lt (negative : Bool) {num den r : Nat} {q : Int} (hnum : num ≠ 0)
    (hq : max (binaryOrder num den - 52) leastExponent = q)
    (hr : roundDiv (scale num den (-q)).1 (scale num den (-q)).2 = r) (hlt : r < 2 ^ 53)
    (hgreatest : q ≤ greatestExponent) : ofRatio negative num den = .finite negative r q := by
  have hcarry : ¬ r = twoTo 53 := by
    rw [twoTo_eq]
    omega
  simp only [ofRatio, hnum, if_false, hq, hr, hcarry]
  exact if_neg (by omega)

/-- Rounding with a carry. -/
theorem ofRatio_of_carry (negative : Bool) {num den : Nat} {q : Int} (hnum : num ≠ 0)
    (hq : max (binaryOrder num den - 52) leastExponent = q)
    (hr : roundDiv (scale num den (-q)).1 (scale num den (-q)).2 = twoTo 53)
    (hgreatest : q + 1 ≤ greatestExponent) :
    ofRatio negative num den = .finite negative (twoTo 52) (q + 1) := by
  simp only [ofRatio, hnum, if_false, hq, hr, if_true]
  exact if_neg (by omega)

/-- Rounding beyond the greatest exponent. -/
theorem ofRatio_of_greatest (negative : Bool) {num den r : Nat} {q : Int} (hnum : num ≠ 0)
    (hq : max (binaryOrder num den - 52) leastExponent = q)
    (hr : roundDiv (scale num den (-q)).1 (scale num den (-q)).2 = r)
    (hlarge : greatestExponent < q ∨ (r = twoTo 53 ∧ greatestExponent < q + 1)) :
    ofRatio negative num den = .infinite negative := by
  simp only [ofRatio, hnum, if_false, hq, hr]
  by_cases hcarry : r = twoTo 53
  · rw [if_pos hcarry]
    exact if_pos (by omega)
  · rw [if_neg hcarry]
    exact if_pos (hlarge.resolve_right fun h => hcarry h.1)

/-- **Rounding gives a finite value or an infinite one.** -/
theorem ofRatio_eq_infinite_or_finite (negative : Bool) (num : Nat) {den : Nat} (hden : den ≠ 0) :
    ofRatio negative num den = .infinite negative ∨
      ∃ m e, ofRatio negative num den = .finite negative m e ∧ IsValue m e := by
  by_cases hnum : num = 0
  · exact .inr ⟨0, leastExponent, by rw [ofRatio, if_pos hnum], .least (by decide) rfl⟩
  generalize hq : max (binaryOrder num den - 52) leastExponent = q
  generalize hr : roundDiv (scale num den (-q)).1 (scale num den (-q)).2 = r
  obtain ⟨hle, hlt⟩ := binaryOrder_spec hnum hden
  obtain ⟨hscaled, hratio⟩ := ratio_scale num hden (-q)
  have hpos : (0 : ℚ) < (scale num den (-q)).2 := Nat.cast_pos.mpr (Nat.pos_of_ne_zero hscaled)
  -- the quotient has 53 bits at most, and as many unless the exponent is the least one
  have hhigh : r ≤ 2 ^ 53 := by
    have hquotient : ((scale num den (-q)).1 : ℚ) / (scale num den (-q)).2 < 2 ^ (53 : Int) := by
      rw [hratio]
      calc (num : ℚ) / den * 2 ^ (-q) < 2 ^ (binaryOrder num den + 1) * 2 ^ (-q) := by gcongr
        _ = 2 ^ (binaryOrder num den + 1 + -q) := by rw [← zpow_add₀ (by norm_num)]
        _ ≤ 2 ^ (53 : Int) := zpow_le_zpow_right₀ (by norm_num) (by omega)
    rw [div_lt_iff₀ hpos] at hquotient
    exact hr ▸ roundDiv_le (by exact_mod_cast hquotient)
  have hlow : q = leastExponent ∨ 2 ^ 52 ≤ r := by
    refine or_iff_not_imp_left.mpr fun hne => ?_
    have hquotient : (2 : ℚ) ^ (52 : Int) ≤ (scale num den (-q)).1 / (scale num den (-q)).2 := by
      rw [hratio]
      calc (2 : ℚ) ^ (52 : Int) = 2 ^ binaryOrder num den * 2 ^ (-q) := by
            rw [← zpow_add₀ (by norm_num)]
            congr 1
            omega
        _ ≤ num / den * 2 ^ (-q) := by gcongr
    rw [le_div_iff₀ hpos] at hquotient
    refine hr ▸ le_trans ?_ (div_le_roundDiv _ _)
    exact (Nat.le_div_iff_mul_le (Nat.pos_of_ne_zero hscaled)).2 (by exact_mod_cast hquotient)
  have hleast : leastExponent ≤ q := hq ▸ le_max_right _ _
  by_cases hcarry : r = twoTo 53
  · by_cases hlarge : greatestExponent < q + 1
    · exact .inl (ofRatio_of_greatest negative hnum hq hr (.inr ⟨hcarry, hlarge⟩))
    · refine .inr ⟨twoTo 52, q + 1, ofRatio_of_carry negative hnum hq (hr.trans hcarry) (by omega),
        .normal ⟨le_refl _, by decide, by omega, by omega⟩⟩
  · by_cases hlarge : greatestExponent < q
    · exact .inl (ofRatio_of_greatest negative hnum hq hr (.inl hlarge))
    · have hless : r < 2 ^ 53 := lt_of_le_of_ne hhigh hcarry
      refine .inr ⟨r, q, ofRatio_of_lt negative hnum hq hr hless (by omega), ?_⟩
      by_cases hmin : q = leastExponent
      · exact .least hless hmin
      · exact .normal ⟨hlow.resolve_left hmin, hless, by omega, by omega⟩

/-- What rounding gives is in its form. -/
theorem isValue_of_ofRatio {negative s : Bool} {num den m : Nat} {e : Int} (hden : den ≠ 0)
    (h : ofRatio negative num den = .finite s m e) : IsValue m e := by
  obtain hinfinite | ⟨m', e', hfinite, hvalue⟩ := ofRatio_eq_infinite_or_finite negative num hden
  · rw [hinfinite] at h
    cases h
  · rw [hfinite] at h
    cases h
    exact hvalue

/-- The gap below a value is half a unit at most. -/
theorem gapBelow_le (m : Nat) (e : Int) : gapBelow m e / 2 ^ e ≤ 1 / 2 := by
  have hunit : (0 : ℚ) < 2 ^ e := by positivity
  rw [gapBelow, div_le_iff₀ hunit]
  split <;> linarith

/-- A fraction that is enclosed by a value with all of its bits is rounded to it. -/
theorem ofRatio_eq_of_isNormal (negative : Bool) {num den : Nat} (hden : den ≠ 0)
    (hm : IsNormal m e) (h : Encloses m e (num / den)) :
    ofRatio negative num den = .finite negative m e := by
  have hunit : (0 : ℚ) < 2 ^ e := by positivity
  have hmlow : ((2 : ℚ) ^ (52 : Nat)) ≤ m := by exact_mod_cast hm.low
  have hmhigh : (m : ℚ) + 1 ≤ (2 : ℚ) ^ (53 : Nat) := by exact_mod_cast hm.high
  have hleast := hm.least
  have hgreatest := hm.greatest
  obtain ⟨hlow, hhigh, hodd⟩ := h.scaled
  have hgap := gapBelow_le m e
  have hnum : num ≠ 0 := by
    rintro rfl
    have hone : (1 : ℚ) ≤ m := le_trans (by norm_num) hmlow
    rw [Nat.cast_zero, zero_div, zero_div] at hlow
    linarith
  have hpow : ∀ k : Nat, (2 : ℚ) ^ ((k : Int) + e) = 2 ^ k * 2 ^ e := fun k => by
    rw [zpow_add₀ (by norm_num), zpow_natCast]
  by_cases hbinade : (2 : ℚ) ^ (52 : Nat) ≤ num / den / 2 ^ e
  · -- the real and the value lie between the same powers of two
    have horder : binaryOrder num den = (52 : Nat) + e := by
      refine binaryOrder_eq hnum hden ?_ ?_
      · rwa [hpow, ← le_div_iff₀ hunit]
      · rw [show ((52 : Nat) : Int) + e + 1 = (53 : Nat) + e by omega, hpow,
          ← div_lt_iff₀ hunit]
        linarith
    refine ofRatio_of_lt negative hnum (by rw [horder]; omega) ?_ hm.high hm.greatest
    refine roundDiv_scale_eq hden (by linarith) hhigh fun h => ?_
    exact ⟨by linarith [(hodd h).1], (hodd h).2⟩
  · -- the value is the power of two above the real, which is rounded up to it
    rw [not_le] at hbinade
    have hpower : m = 2 ^ 52 := by
      by_contra hne
      have hnext : ((2 : ℚ) ^ (52 : Nat)) + 1 ≤ m := by
        exact_mod_cast Nat.lt_of_le_of_ne hm.low (Ne.symm hne)
      linarith
    have hnear : gapBelow m e / 2 ^ e = 1 / 4 := by
      rw [gapBelow, if_pos ⟨hpower, hleast⟩, div_div, mul_comm, ← div_div, div_self hunit.ne']
    have hvalue : (m : ℚ) = 2 ^ (52 : Nat) := by exact_mod_cast hpower
    rw [hnear, hvalue] at hlow
    have horder : binaryOrder num den = (51 : Nat) + e := by
      refine binaryOrder_eq hnum hden ?_ ?_
      · rw [hpow, ← le_div_iff₀ hunit]
        linarith
      · rwa [show ((51 : Nat) : Int) + e + 1 = (52 : Nat) + e by omega, hpow,
          ← div_lt_iff₀ hunit]
    have hhalf : (num : ℚ) / den / 2 ^ (e - 1) = 2 * (num / den / 2 ^ e) := by
      rw [zpow_sub_one₀ (by norm_num)]
      field_simp
    have htop : ((twoTo 53 : Nat) : ℚ) = 2 * 2 ^ (52 : Nat) := by
      rw [twoTo_eq]
      norm_num
    rw [show e = e - 1 + 1 by omega, hpower]
    refine ofRatio_of_carry negative hnum (by rw [horder]; omega) ?_ (by omega)
    refine roundDiv_scale_eq hden ?_ ?_ fun hodd => absurd hodd (by decide)
    · rw [hhalf, htop]
      linarith
    · rw [hhalf, htop]
      linarith

/-- A fraction that is enclosed by one of the least values is rounded to it. -/
theorem ofRatio_eq_of_least (negative : Bool) {num den : Nat} (hden : den ≠ 0) (hm : m ≠ 0)
    (hhigh : m < 2 ^ 53) (h : Encloses m leastExponent (num / den)) :
    ofRatio negative num den = .finite negative m leastExponent := by
  have hunit : (0 : ℚ) < 2 ^ leastExponent := by positivity
  have hone : (1 : ℚ) ≤ m := by exact_mod_cast Nat.one_le_iff_ne_zero.mpr hm
  have hmhigh : (m : ℚ) + 1 ≤ (2 : ℚ) ^ (53 : Int) := by exact_mod_cast hhigh
  have hgap : gapBelow m leastExponent / 2 ^ leastExponent = 1 / 2 := by
    rw [gapBelow, if_neg fun h => lt_irrefl _ h.2]
    field_simp
  obtain ⟨hlow, hhigh', hodd⟩ := h.scaled
  rw [hgap] at hlow hodd
  have hnum : num ≠ 0 := by
    rintro rfl
    rw [Nat.cast_zero, zero_div, zero_div] at hlow
    linarith
  have horder : binaryOrder num den < 53 + leastExponent := by
    obtain ⟨hle, -⟩ := binaryOrder_spec hnum hden
    have hless : (num : ℚ) / den < 2 ^ (53 + leastExponent) := by
      rw [zpow_add₀ (by norm_num), ← div_lt_iff₀ hunit]
      linarith
    exact (zpow_lt_zpow_iff_right₀ (by norm_num : (1 : ℚ) < 2)).mp (hle.trans_lt hless)
  exact ofRatio_of_lt negative hnum (max_eq_right (by omega))
    (roundDiv_scale_eq hden hlow hhigh' hodd) hhigh (by decide)

/-- **A fraction that is enclosed by a value is rounded to it.** -/
theorem ofRatio_eq_of_encloses (negative : Bool) {num den : Nat} (hden : den ≠ 0) (hm₀ : m ≠ 0)
    (hm : IsValue m e) (h : Encloses m e (num / den)) :
    ofRatio negative num den = .finite negative m e := by
  cases hm with
  | normal hm => exact ofRatio_eq_of_isNormal negative hden hm h
  | least hhigh he =>
    rw [he] at h ⊢
    exact ofRatio_eq_of_least negative hden hm₀ hhigh h

end Normal

end ModuleBundler.Binary64
