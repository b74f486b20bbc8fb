import ModuleBundler.Proofs.Number.Shortest

/-!
Natural numbers as values, and what these are written as. The value nearest to a number of at most
64 bits is a natural number again, and the number itself if it has no more than 53 bits. The text
of the value is that of a natural number that rounds to it, the number itself where it has no more
than 53 bits (`plain_ofNat_of_lt`). So two such values have one text only if they are the same
(`plain_ofNat_inj`).
-/

set_option autoImplicit false

namespace ModuleBundler.Binary64

/-! ## Natural values -/

/-- A value that is a natural number of moderate size. -/
structure IsNatural (m : Nat) (e : Int) (n : Nat) : Prop where
  normal : IsNormal m e
  pos : n ≠ 0
  value : (n : ℚ) = m * 2 ^ e
  bounded : n < 2 ^ 66

theorem roundDiv_one (n : Nat) : roundDiv n 1 = n := by
  rw [roundDiv, Nat.div_one, Nat.mod_one]
  rfl

section Round

variable {n : Nat}

/-- The exponent of the last bit of a number. -/
theorem binaryOrder_one_bounds {k : Nat} (hn : n ≠ 0) (hlarge : n < 2 ^ k) :
    0 ≤ binaryOrder n 1 ∧ binaryOrder n 1 < k ∧ (2 : ℚ) ^ binaryOrder n 1 ≤ n ∧
      (n : ℚ) < 2 ^ (binaryOrder n 1 + 1) := by
  obtain ⟨hle, hlt⟩ := binaryOrder_spec hn Nat.one_ne_zero
  rw [Nat.cast_one, div_one] at hle hlt
  have hone : (1 : ℚ) ≤ n := by exact_mod_cast Nat.one_le_iff_ne_zero.2 hn
  have hpow : (n : ℚ) < 2 ^ (k : Int) := by
    rw [zpow_natCast]
    exact_mod_cast hlarge
  have hlow := (zpow_lt_zpow_iff_right₀ (by norm_num : (1 : ℚ) < 2)).1
    (((zpow_zero _).le.trans hone).trans_lt hlt)
  have hhigh := (zpow_lt_zpow_iff_right₀ (by norm_num : (1 : ℚ) < 2)).1 (hle.trans_lt hpow)
  exact ⟨by omega, hhigh, hle, hlt⟩

/-- A number of at most 53 bits is a value. -/
theorem isNatural_of_lt (hn : n ≠ 0) (hlt : n < 2 ^ 53) :
    ∃ m e, ofNat n = .finite false m e ∧ IsNatural m e n ∧ e ≤ 0 := by
  obtain ⟨hlow, hhigh, hle, hless⟩ := binaryOrder_one_bounds hn hlt
  obtain ⟨k, hk⟩ := Int.eq_ofNat_of_zero_le (show 0 ≤ 52 - binaryOrder n 1 by omega)
  have hq : max (binaryOrder n 1 - 52) leastExponent = -(k : Int) := by
    rw [leastExponent]
    omega
  have horder : binaryOrder n 1 = 52 - k := by omega
  have hround : roundDiv (scale n 1 (- -(k : Int))).1 (scale n 1 (- -(k : Int))).2 = n * 2 ^ k := by
    rw [neg_neg, scale, if_pos (Int.natCast_nonneg k)]
    exact roundDiv_one _
  have hvalue : (n : ℚ) = (n * 2 ^ k : Nat) * 2 ^ (-(k : Int)) := by
    rw [zpow_neg, zpow_natCast]
    push_cast
    field_simp
  have hscaled : ∀ t : Int, (2 : ℚ) ^ (t - k) * 2 ^ k = 2 ^ t := fun t => by
    rw [← zpow_natCast, ← zpow_add₀ (by norm_num), sub_add_cancel]
  rw [horder] at hle hless
  have hmlow : 2 ^ 52 ≤ n * 2 ^ k := by
    have hcast : (2 : ℚ) ^ (52 : Int) ≤ n * 2 ^ k := by
      rw [← hscaled 52]
      gcongr
    exact_mod_cast hcast
  have hmhigh : n * 2 ^ k < 2 ^ 53 := by
    have hcast : (n : ℚ) * 2 ^ k < 2 ^ (53 : Int) := by
      rw [← hscaled 53]
      rw [show (52 : Int) - k + 1 = 53 - k by ring] at hless
      gcongr
    exact_mod_cast hcast
  refine ⟨n * 2 ^ k, -(k : Int), ?_, ⟨⟨hmlow, hmhigh, ?_, ?_⟩, hn, hvalue, by omega⟩, by omega⟩
  · exact ofRatio_of_lt false hn hq hround hmhigh (by rw [greatestExponent]; omega)
  · rw [leastExponent]
    omega
  · rw [greatestExponent]
    omega

/-- A significand with all of its bits and a small exponent is a natural number. -/
theorem isNatural_mul_two_pow {m t : Nat} (ht : t ≤ 12) (hlow : 2 ^ 52 ≤ m) (hhigh : m < 2 ^ 53) :
    IsNatural m t (m * 2 ^ t) := by
  have htwo : 2 ^ t ≤ 2 ^ 12 := Nat.pow_le_pow_right (by decide) ht
  refine ⟨⟨hlow, hhigh, ?_, ?_⟩, Nat.mul_ne_zero (by omega) (by positivity), ?_, ?_⟩
  · rw [leastExponent]
    omega
  · rw [greatestExponent]
    omega
  · rw [zpow_natCast]
    push_cast
    rfl
  · calc m * 2 ^ t ≤ m * 2 ^ 12 := Nat.mul_le_mul_left m htwo
      _ < 2 ^ 66 := by omega

/-- In units of its last place a number of more than 53 bits is between two powers of two. -/
theorem scale_one_bounds {k : Nat} (hn : n ≠ 0) (horder : binaryOrder n 1 = 52 + k) :
    (scale n 1 (-(k : Int))).2 ≠ 0 ∧
      (2 : ℚ) ^ 52 ≤ (scale n 1 (-(k : Int))).1 / (scale n 1 (-(k : Int))).2 ∧
      ((scale n 1 (-(k : Int))).1 : ℚ) / (scale n 1 (-(k : Int))).2 < 2 ^ 53 := by
  obtain ⟨hbelow, habove⟩ := binaryOrder_spec hn Nat.one_ne_zero
  obtain ⟨hscaled, hratio⟩ := ratio_scale n Nat.one_ne_zero (-(k : Int))
  have hunit : (0 : ℚ) < 2 ^ (k : Int) := by positivity
  rw [zpow_neg, ← div_eq_mul_inv] at hratio
  have hnext : binaryOrder n 1 + 1 = 53 + k := by omega
  rw [horder, zpow_add₀ (by norm_num), ← le_div_iff₀ hunit, ← hratio] at hbelow
  rw [hnext, zpow_add₀ (by norm_num), ← div_lt_iff₀ hunit, ← hratio] at habove
  exact ⟨hscaled, hbelow, habove⟩

/-- A number of more bits is rounded to a natural number. -/
theorem exists_isNatural_of_le (hle : 2 ^ 53 ≤ n) (hlarge : n < 2 ^ 64) :
    ∃ m e v, ofNat n = .finite false m e ∧ IsNatural m e v := by
  have hn : n ≠ 0 := by omega
  obtain ⟨-, hhigh, -, habove⟩ := binaryOrder_one_bounds hn hlarge
  have hlow : 52 < binaryOrder n 1 := by
    have hpow : (2 : ℚ) ^ (53 : Int) ≤ n := by exact_mod_cast hle
    have := (zpow_lt_zpow_iff_right₀ (by norm_num : (1 : ℚ) < 2)).1 (hpow.trans_lt habove)
    omega
  obtain ⟨k, hk⟩ := Int.eq_ofNat_of_zero_le (show 0 ≤ binaryOrder n 1 - 52 by omega)
  have hq : max (binaryOrder n 1 - 52) leastExponent = (k : Int) := by
    rw [leastExponent]
    omega
  obtain ⟨hscaled, hfrom, hbelow⟩ := scale_one_bounds hn (show binaryOrder n 1 = 52 + k by omega)
  obtain ⟨hrlow, hrhigh⟩ := roundDiv_bounds hscaled hfrom hbelow
  generalize hround : roundDiv (scale n 1 (-(k : Int))).1 (scale n 1 (-(k : Int))).2 = r at *
  -- rounding up may carry into a bit more
  by_cases hcarry : r = 2 ^ 53
  · refine ⟨twoTo 52, (k : Int) + 1, _, ?_,
      isNatural_mul_two_pow (t := k + 1) (by omega) (le_refl _) (by decide)⟩
    exact ofRatio_of_carry false hn hq (hround.trans hcarry) (by rw [greatestExponent]; omega)
  · have hlt : r < 2 ^ 53 := by omega
    refine ⟨r, k, _, ?_, isNatural_mul_two_pow (by omega) hrlow hlt⟩
    exact ofRatio_of_lt false hn hq hround hlt (by rw [greatestExponent]; omega)

theorem exists_isNatural (hn : n ≠ 0) (hlarge : n < 2 ^ 64) :
    ∃ m e v, ofNat n = .finite false m e ∧ IsNatural m e v := by
  by_cases hlt : n < 2 ^ 53
  · obtain ⟨m, e, hvalue, hnatural, -⟩ := isNatural_of_lt hn hlt
    exact ⟨m, e, n, hvalue, hnatural⟩
  · exact exists_isNatural_of_le (by omega) hlarge

end Round

/-! ## Texts of numbers -/

section Text

variable {n n' : Nat}

/-- The text of the value of a number is that of a number that rounds to the same value. -/
theorem exists_plain_ofNat (hn : n ≠ 0) (hlarge : n < 2 ^ 64) :
    ∃ x, x ≠ 0 ∧ ofNat x = ofNat n ∧ (ofNat n).plain = Nat.toDigits 10 x := by
  obtain ⟨m, e, v, hvalue, hnatural⟩ := exists_isNatural hn hlarge
  obtain ⟨x, hx, hencloses, htext⟩ :=
    plain_of_integral hnatural.normal hnatural.pos hnatural.value
  refine ⟨x, hx, ?_, by rw [hvalue, htext]⟩
  rw [hvalue]
  refine ofRatio_eq_of_isNormal false Nat.one_ne_zero hnatural.normal ?_
  rwa [Nat.cast_one, div_one]

theorem plain_ofNat_zero : (ofNat 0).plain = Nat.toDigits 10 0 := rfl

/-- **A number of at most 53 bits** is written with its own digits. -/
theorem plain_ofNat_of_lt (hlt : n < 2 ^ 53) : (ofNat n).plain = Nat.toDigits 10 n := by
  by_cases hn : n = 0
  · rw [hn]
    exact plain_ofNat_zero
  · obtain ⟨m, e, hvalue, hnatural, he⟩ := isNatural_of_lt hn hlt
    obtain ⟨x, -, hencloses, htext⟩ :=
      plain_of_integral hnatural.normal hnatural.pos hnatural.value
    have hunit : (2 : ℚ) ^ e ≤ 1 := zpow_le_one_of_nonpos₀ (by norm_num) he
    have hlow := hencloses.low
    have hhigh := hencloses.high
    have hgap := gapBelow_le_half m e
    rw [← hnatural.value] at hlow hhigh
    -- no other integer is within half a unit
    have habove : (x : ℚ) < (n + 1 : Nat) := by
      push_cast
      linarith
    have hbelow : (n : ℚ) < (x + 1 : Nat) := by
      push_cast
      linarith
    have hsame : x = n := by
      have h₁ : x < n + 1 := by exact_mod_cast habove
      have h₂ : n < x + 1 := by exact_mod_cast hbelow
      omega
    rw [hvalue, htext, hsame]

/-- **Different values have different texts.** -/
theorem plain_ofNat_inj (hn : n < 2 ^ 64) (hn' : n' < 2 ^ 64) :
    (ofNat n).plain = (ofNat n').plain ↔ ofNat n = ofNat n' := by
  refine ⟨fun h => ?_, fun h => by rw [h]⟩
  have hread : ∀ i < 2 ^ 64, ∃ x, ofNat x = ofNat i ∧ (ofNat i).plain = Nat.toDigits 10 x := by
    intro i hi
    by_cases hzero : i = 0
    · exact ⟨0, by rw [hzero], by rw [hzero]; exact plain_ofNat_zero⟩
    · obtain ⟨x, -, hx⟩ := exists_plain_ofNat hzero hi
      exact ⟨x, hx⟩
  obtain ⟨x, hx, htext⟩ := hread n hn
  obtain ⟨x', hx', htext'⟩ := hread n' hn'
  rw [htext, htext'] at h
  rw [← hx, ← hx', toDigits_injective h]

/-- Values tell numbers of at most 53 bits apart. -/
theorem ofNat_inj_of_lt (hlt : n < 2 ^ 53) (hlt' : n' < 2 ^ 53) : ofNat n = ofNat n' ↔ n = n' := by
  refine ⟨fun h => ?_, fun h => by rw [h]⟩
  have htext : (ofNat n).plain = (ofNat n').plain := by rw [h]
  rw [plain_ofNat_of_lt hlt, plain_ofNat_of_lt hlt'] at htext
  exact toDigits_injective htext

end Text

end ModuleBundler.Binary64
