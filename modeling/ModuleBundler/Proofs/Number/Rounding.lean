import Mathlib.Algebra.Order.Field.Power
import Mathlib.Data.Nat.Log
import Mathlib.Data.Rat.Cast.Order
import Mathlib.Tactic.FieldSimp
import Mathlib.Tactic.Linarith
import Mathlib.Tactic.NormNum
import Mathlib.Tactic.Positivity
import Mathlib.Tactic.Ring
import ModuleBundler.Number.Binary64

/-!
Rounding of fractions to the 64-bit format. A fraction is rounded by its numerator and its
denominator, but nothing depends on them apart from their ratio: the binary order of a fraction is
the exponent of the power of two at or below the ratio (`binaryOrder_spec`), and a fraction that is
extended rounds as before (`ofRatio_mul_right`). So a decimal rounds the same however many zeros it
is written with.

What is too large for the format is infinite and what is too small is zero, which is why a lexer
may cut off powers of ten (`ofDecimal_of_large`, `ofDecimal_of_small`). What lies below the greatest
power of two is finite, and stays so in divisions (`exists_finite_div`).
-/

set_option autoImplicit false

namespace ModuleBundler.Binary64

theorem twoTo_eq (n : Nat) : twoTo n = 2 ^ n := rfl

theorem tenTo_eq (n : Nat) : tenTo n = 10 ^ n := rfl

/-! ## Orders -/

/-- Scaling multiplies the ratio by the power of two. -/
theorem ratio_scale (num : Nat) {den : Nat} (hden : den ≠ 0) (power : Int) :
    (scale num den power).2 ≠ 0 ∧
      ((scale num den power).1 : ℚ) / (scale num den power).2 = num / den * 2 ^ power := by
  rw [scale]
  split
  · rename_i hpower
    refine ⟨hden, ?_⟩
    obtain ⟨n, rfl⟩ := Int.eq_ofNat_of_zero_le hpower
    simp only [Int.toNat_natCast, twoTo_eq, Nat.cast_mul, Nat.cast_pow, Nat.cast_ofNat,
      zpow_natCast]
    ring
  · rename_i hpower
    obtain ⟨n, hn⟩ := Int.eq_ofNat_of_zero_le (show 0 ≤ -power by omega)
    have hpow : power = -(n : Int) := by omega
    subst hpow
    simp only [neg_neg, Int.toNat_natCast, twoTo_eq, Nat.cast_mul, Nat.cast_pow, Nat.cast_ofNat,
      zpow_neg, zpow_natCast]
    refine ⟨Nat.mul_ne_zero hden (by positivity), ?_⟩
    have hden' : (den : ℚ) ≠ 0 := Nat.cast_ne_zero.mpr hden
    field_simp

/-- A number lies between two powers of two. -/
theorem log2_bounds {n : Nat} (hn : n ≠ 0) :
    (2 : ℚ) ^ (Nat.log2 n : Int) ≤ n ∧ (n : ℚ) < 2 ^ ((Nat.log2 n : Int) + 1) := by
  have hle : (2 : Nat) ^ Nat.log2 n ≤ n := Nat.log2_self_le hn
  have hlt : n < 2 ^ (Nat.log2 n + 1) := Nat.lt_log2_self
  constructor
  · rw [zpow_natCast]
    exact_mod_cast hle
  · have hcast : ((Nat.log2 n : Int) + 1) = ((Nat.log2 n + 1 : Nat) : Int) := by push_cast; rfl
    rw [hcast, zpow_natCast]
    exact_mod_cast hlt

/-- **The binary order of a fraction** is the exponent of the power of two at or below it. -/
theorem binaryOrder_spec {num den : Nat} (hnum : num ≠ 0) (hden : den ≠ 0) :
    (2 : ℚ) ^ binaryOrder num den ≤ num / den ∧
      (num : ℚ) / den < 2 ^ (binaryOrder num den + 1) := by
  obtain ⟨hnumle, hnumlt⟩ := log2_bounds hnum
  obtain ⟨hdenle, hdenlt⟩ := log2_bounds hden
  have hdenpos : (0 : ℚ) < den := Nat.cast_pos.mpr (Nat.pos_of_ne_zero hden)
  -- the guess is at most one too large
  have hbelow : (2 : ℚ) ^ ((Nat.log2 num : Int) - Nat.log2 den - 1) < num / den := by
    rw [lt_div_iff₀ hdenpos]
    calc (2 : ℚ) ^ ((Nat.log2 num : Int) - Nat.log2 den - 1) * den
        < 2 ^ ((Nat.log2 num : Int) - Nat.log2 den - 1) * 2 ^ ((Nat.log2 den : Int) + 1) := by
          gcongr
      _ = 2 ^ (Nat.log2 num : Int) := by
          rw [← zpow_add₀ (by norm_num)]
          congr 1
          ring
      _ ≤ num := hnumle
  have habove : (num : ℚ) / den < 2 ^ ((Nat.log2 num : Int) - Nat.log2 den + 1) := by
    rw [div_lt_iff₀ hdenpos]
    calc (num : ℚ) < 2 ^ ((Nat.log2 num : Int) + 1) := hnumlt
      _ = 2 ^ ((Nat.log2 num : Int) - Nat.log2 den + 1) * 2 ^ (Nat.log2 den : Int) := by
          rw [← zpow_add₀ (by norm_num)]
          congr 1
          ring
      _ ≤ 2 ^ ((Nat.log2 num : Int) - Nat.log2 den + 1) * den := by gcongr
  obtain ⟨hscaled, hratio⟩ :=
    ratio_scale num hden (-((Nat.log2 num : Int) - Nat.log2 den))
  have hpos : (0 : ℚ) < ((scale num den (-((Nat.log2 num : Int) - Nat.log2 den))).2 : ℚ) :=
    Nat.cast_pos.mpr (Nat.pos_of_ne_zero hscaled)
  have hguess : (0 : ℚ) < 2 ^ ((Nat.log2 num : Int) - Nat.log2 den) := by positivity
  have hcompare : (scale num den (-((Nat.log2 num : Int) - Nat.log2 den))).1 <
      (scale num den (-((Nat.log2 num : Int) - Nat.log2 den))).2 ↔
      (num : ℚ) / den < 2 ^ ((Nat.log2 num : Int) - Nat.log2 den) := by
    rw [← Nat.cast_lt (α := ℚ), ← div_lt_one hpos, hratio, zpow_neg, ← div_eq_mul_inv,
      div_lt_one hguess]
  rw [binaryOrder]
  simp only [hcompare]
  split
  · rename_i hlt
    rw [sub_add_cancel]
    exact ⟨hbelow.le, hlt⟩
  · rename_i hle
    exact ⟨not_lt.mp hle, habove⟩

/-- There is one such exponent. -/
theorem binaryOrder_eq {num den : Nat} (hnum : num ≠ 0) (hden : den ≠ 0) {k : Int}
    (hle : (2 : ℚ) ^ k ≤ num / den) (hlt : (num : ℚ) / den < 2 ^ (k + 1)) :
    binaryOrder num den = k := by
  obtain ⟨hle', hlt'⟩ := binaryOrder_spec hnum hden
  have h₁ := (zpow_lt_zpow_iff_right₀ (by norm_num : (1 : ℚ) < 2)).mp (hle.trans_lt hlt')
  have h₂ := (zpow_lt_zpow_iff_right₀ (by norm_num : (1 : ℚ) < 2)).mp (hle'.trans_lt hlt)
  omega

/-! ## Ratios -/

theorem roundDiv_mul_right {num den k : Nat} (hk : k ≠ 0) :
    roundDiv (num * k) (den * k) = roundDiv num den := by
  have hpos := Nat.pos_of_ne_zero hk
  rw [roundDiv, roundDiv, Nat.mul_div_mul_right _ _ hpos, Nat.mul_mod_mul_right]
  have hless : 2 * (num % den * k) < den * k ↔ 2 * (num % den) < den := by
    rw [← Nat.mul_assoc]
    exact Nat.mul_lt_mul_right hpos
  have hmore : den * k < 2 * (num % den * k) ↔ den < 2 * (num % den) := by
    rw [← Nat.mul_assoc]
    exact Nat.mul_lt_mul_right hpos
  simp only [hless, hmore]

theorem scale_mul_right (num den k : Nat) (power : Int) :
    scale (num * k) (den * k) power =
      ((scale num den power).1 * k, (scale num den power).2 * k) := by
  rw [scale, scale]
  split
  · rw [Nat.mul_right_comm]
  · rw [Nat.mul_right_comm den]

theorem binaryOrder_mul_right {num den k : Nat} (hnum : num ≠ 0) (hden : den ≠ 0) (hk : k ≠ 0) :
    binaryOrder (num * k) (den * k) = binaryOrder num den := by
  obtain ⟨hle, hlt⟩ := binaryOrder_spec hnum hden
  have hratio : ((num * k : Nat) : ℚ) / (den * k : Nat) = num / den := by
    have hk' : (k : ℚ) ≠ 0 := Nat.cast_ne_zero.mpr hk
    push_cast
    rw [mul_div_mul_right _ _ hk']
  exact binaryOrder_eq (Nat.mul_ne_zero hnum hk) (Nat.mul_ne_zero hden hk)
    (by rw [hratio]; exact hle) (by rw [hratio]; exact hlt)

/-- **Rounding goes by the ratio.** -/
theorem ofRatio_mul_right (negative : Bool) (num : Nat) {den k : Nat} (hden : den ≠ 0)
    (hk : k ≠ 0) : ofRatio negative (num * k) (den * k) = ofRatio negative num den := by
  by_cases hnum : num = 0
  · rw [hnum, Nat.zero_mul, ofRatio, ofRatio, if_pos rfl, if_pos rfl]
  · simp only [ofRatio, hnum, Nat.mul_eq_zero, hk, or_self, if_false,
      binaryOrder_mul_right hnum hden hk, scale_mul_right, roundDiv_mul_right hk]

/-- Zero stays zero whatever power of ten it is multiplied by. -/
theorem ofDecimal_zero (negative : Bool) (power : Int) :
    ofDecimal negative 0 power = .finite negative 0 leastExponent := by
  rw [ofDecimal, Nat.zero_mul]
  split <;> rfl

/-- A decimal with zeros at the end of its digits. -/
theorem ofDecimal_mul_tenTo (negative : Bool) (digits k : Nat) (power : Int) :
    ofDecimal negative (digits * tenTo k) (power - k) = ofDecimal negative digits power := by
  have hten : ∀ n, tenTo n ≠ 0 := fun n => by rw [tenTo_eq]; positivity
  have hadd : ∀ a b, tenTo (a + b) = tenTo a * tenTo b := fun a b => Nat.pow_add 10 a b
  rw [ofDecimal, ofDecimal]
  by_cases hpower : 0 ≤ power
  · rw [if_pos hpower]
    obtain ⟨n, rfl⟩ := Int.eq_ofNat_of_zero_le hpower
    by_cases hle : k ≤ n
    · have hdiff : ((n : Int) - k).toNat = n - k := by omega
      rw [if_pos (by omega), hdiff, Int.toNat_natCast, Nat.mul_assoc, ← hadd,
        Nat.add_sub_cancel' hle]
    · have hdiff : (-((n : Int) - k)).toNat = k - n := by omega
      have hsplit : tenTo k = tenTo n * tenTo (k - n) := by
        rw [← hadd, Nat.add_sub_cancel' (by omega)]
      have hratio := ofRatio_mul_right negative (digits * tenTo n) Nat.one_ne_zero (hten (k - n))
      rw [Nat.one_mul] at hratio
      rw [if_neg (by omega), hdiff, Int.toNat_natCast, hsplit, ← Nat.mul_assoc]
      exact hratio
  · have hdiff : (-(power - k)).toNat = (-power).toNat + k := by omega
    rw [if_neg hpower, if_neg (by omega), hdiff, hadd, ofRatio_mul_right _ _ (hten _) (hten k)]

/-! ## The ends of the format -/

theorem ofRatio_of_large (negative : Bool) {num den : Nat} (hden : den ≠ 0)
    (h : (2 : ℚ) ^ (1024 : Int) ≤ num / den) : ofRatio negative num den = .infinite negative := by
  have hnum : num ≠ 0 := by
    rintro rfl
    rw [Nat.cast_zero, zero_div] at h
    exact absurd h (not_le.mpr (by positivity))
  obtain ⟨-, hlt⟩ := binaryOrder_spec hnum hden
  have horder := (zpow_lt_zpow_iff_right₀ (by norm_num : (1 : ℚ) < 2)).mp (h.trans_lt hlt)
  have hmax : max (binaryOrder num den - 52) leastExponent = binaryOrder num den - 52 :=
    max_eq_left (by rw [leastExponent]; omega)
  simp only [ofRatio, hnum, if_false, hmax]
  split <;> rw [if_pos (by rw [greatestExponent]; omega)]

/-- Below half of a unit the rounded quotient is zero. -/
theorem roundDiv_eq_zero {num den : Nat} (h : 2 * num < den) : roundDiv num den = 0 := by
  have hlt : num < den := by omega
  rw [roundDiv, Nat.div_eq_of_lt hlt, Nat.mod_eq_of_lt hlt]
  exact if_pos h

theorem ofRatio_of_small (negative : Bool) {num den : Nat} (hden : den ≠ 0)
    (h : (num : ℚ) / den < 2 ^ (-1076 : Int)) :
    ofRatio negative num den = .finite negative 0 leastExponent := by
  by_cases hnum : num = 0
  · rw [ofRatio, if_pos hnum]
  · obtain ⟨hle, -⟩ := binaryOrder_spec hnum hden
    have horder := (zpow_lt_zpow_iff_right₀ (by norm_num : (1 : ℚ) < 2)).mp (hle.trans_lt h)
    have hmax : max (binaryOrder num den - 52) leastExponent = leastExponent :=
      max_eq_right (by rw [leastExponent]; omega)
    obtain ⟨hscaled, hratio⟩ := ratio_scale num hden (-leastExponent)
    have hpos : (0 : ℚ) < ((scale num den (-leastExponent)).2 : ℚ) :=
      Nat.cast_pos.mpr (Nat.pos_of_ne_zero hscaled)
    have hzero : roundDiv (scale num den (-leastExponent)).1 (scale num den (-leastExponent)).2 =
        0 := by
      apply roundDiv_eq_zero
      have hquarter : ((scale num den (-leastExponent)).1 : ℚ) /
          (scale num den (-leastExponent)).2 < 1 / 4 := by
        rw [hratio, leastExponent]
        calc (num : ℚ) / den * 2 ^ (- -1074 : Int)
            < 2 ^ (-1076 : Int) * 2 ^ (- -1074 : Int) := by gcongr
          _ = 1 / 4 := by
              rw [← zpow_add₀ (by norm_num)]
              norm_num
      rw [div_lt_iff₀ hpos] at hquarter
      have hcast : ((2 * (scale num den (-leastExponent)).1 : Nat) : ℚ) <
          ((scale num den (-leastExponent)).2 : ℚ) := by
        push_cast
        linarith
      exact_mod_cast hcast
    simp only [ofRatio, hnum, if_false, hmax, hzero]
    rfl

/-- Powers of ten beyond the format. -/
theorem two_zpow_le_ten_pow {k : Int} (hk : k ≤ 1200) : (2 : ℚ) ^ k ≤ 10 ^ (400 : Nat) := by
  have hpow : (2 : ℚ) ^ (1200 : Int) = (2 ^ 3) ^ (400 : Nat) := by
    rw [← pow_mul]
    rfl
  have hle : (2 : ℚ) ^ k ≤ 2 ^ (1200 : Int) := zpow_le_zpow_right₀ (by norm_num) hk
  rw [hpow] at hle
  exact hle.trans (pow_le_pow_left₀ (by norm_num) (by norm_num) _)

theorem ofDecimal_of_large (negative : Bool) {digits : Nat} (hdigits : digits ≠ 0) {power : Int}
    (hpower : 400 ≤ power) : ofDecimal negative digits power = .infinite negative := by
  rw [ofDecimal, if_pos (by omega)]
  refine ofRatio_of_large negative Nat.one_ne_zero ?_
  have hone : (1 : ℚ) ≤ digits := by exact_mod_cast Nat.one_le_iff_ne_zero.mpr hdigits
  have hten : (10 : ℚ) ^ (400 : Nat) ≤ 10 ^ power.toNat := by
    gcongr
    · norm_num
    · omega
  rw [tenTo_eq, Nat.cast_one, div_one, Nat.cast_mul, Nat.cast_pow, Nat.cast_ofNat]
  refine (two_zpow_le_ten_pow (by norm_num)).trans (hten.trans ?_)
  exact le_mul_of_one_le_left (by positivity) hone

theorem ofDecimal_of_small (negative : Bool) {digits count : Nat} (hdigits : digits < 10 ^ count)
    {power : Int} (hpower : power ≤ -(400 + count)) :
    ofDecimal negative digits power = .finite negative 0 leastExponent := by
  have hten : tenTo (-power).toNat ≠ 0 := by
    rw [tenTo_eq]
    positivity
  rw [ofDecimal, if_neg (by omega)]
  refine ofRatio_of_small negative hten ?_
  have hsplit : (10 : ℚ) ^ (400 : Nat) * 10 ^ count ≤ 10 ^ (-power).toNat := by
    rw [← pow_add]
    gcongr
    · norm_num
    · omega
  have hcast : (digits : ℚ) < 10 ^ count := by exact_mod_cast hdigits
  have hcount : (0 : ℚ) < 10 ^ count := by positivity
  have htwo : (0 : ℚ) < 2 ^ (1076 : Int) := by positivity
  rw [tenTo_eq, Nat.cast_pow, Nat.cast_ofNat, div_lt_iff₀ (by positivity), zpow_neg,
    ← div_eq_inv_mul, lt_div_iff₀ htwo]
  refine (mul_lt_mul_of_pos_right hcast htwo).trans_le (le_trans ?_ hsplit)
  rw [mul_comm]
  exact mul_le_mul_of_nonneg_right (two_zpow_le_ten_pow (by norm_num)) hcount.le

/-! ## Finite values -/

/-- The exponent of the power of two at or below a finite value that is not zero is at most `k`. -/
def Below (m : Nat) (e k : Int) : Prop := m = 0 ∨ (Nat.log2 m : Int) + e ≤ k

/-- Rounding a quotient leaves no less than its integral part. -/
theorem div_le_roundDiv (num den : Nat) : num / den ≤ roundDiv num den := by
  rw [roundDiv]
  split
  · exact Nat.le_refl _
  · split
    · exact Nat.le_succ _
    · exact Nat.le_add_right _ _

/-- A quotient below a power of two rounds to that power at most. -/
theorem roundDiv_le {num den t : Nat} (h : num < 2 ^ t * den) : roundDiv num den ≤ 2 ^ t := by
  have hq : num / den < 2 ^ t := Nat.div_lt_of_lt_mul (by rwa [Nat.mul_comm] at h)
  rw [roundDiv]
  split
  · omega
  · split
    · omega
    · omega

/-- A quotient between two powers of two is rounded to what is between them. -/
theorem roundDiv_bounds {num den k : Nat} (hden : den ≠ 0) (hle : (2 : ℚ) ^ k ≤ num / den)
    (hlt : (num : ℚ) / den < 2 ^ (k + 1)) :
    2 ^ k ≤ roundDiv num den ∧ roundDiv num den ≤ 2 ^ (k + 1) := by
  have hpos : (0 : ℚ) < den := Nat.cast_pos.mpr (Nat.pos_of_ne_zero hden)
  rw [le_div_iff₀ hpos] at hle
  rw [div_lt_iff₀ hpos] at hlt
  have hlow : 2 ^ k ≤ num / den :=
    (Nat.le_div_iff_mul_le (Nat.pos_of_ne_zero hden)).2 (by exact_mod_cast hle)
  exact ⟨hlow.trans (div_le_roundDiv num den), roundDiv_le (by exact_mod_cast hlt)⟩

/-- A quotient below a power of two rounds to what is no larger, and to zero below one half. -/
theorem below_roundDiv {num den : Nat} (hden : den ≠ 0) {q l : Int}
    (h : (num : ℚ) / den < 2 ^ (l - q)) : Below (roundDiv num den) q l := by
  have hpos : (0 : ℚ) < den := Nat.cast_pos.mpr (Nat.pos_of_ne_zero hden)
  by_cases ht : 0 ≤ l - q
  · obtain ⟨t, ht⟩ := Int.eq_ofNat_of_zero_le ht
    rw [ht, zpow_natCast, div_lt_iff₀ hpos] at h
    have hle : roundDiv num den ≤ 2 ^ t := roundDiv_le (by exact_mod_cast h)
    by_cases hr : roundDiv num den = 0
    · exact .inl hr
    · right
      have hlog : Nat.log2 (roundDiv num den) < t + 1 :=
        (Nat.log2_lt hr).mpr (by rw [Nat.pow_succ]; omega)
      omega
  · left
    apply roundDiv_eq_zero
    have hhalf : (2 : ℚ) ^ (l - q) ≤ 2 ^ (-1 : Int) :=
      zpow_le_zpow_right₀ (by norm_num) (by omega)
    have hless := h.trans_le hhalf
    rw [zpow_neg_one, div_lt_iff₀ hpos] at hless
    have hcast : ((2 * num : Nat) : ℚ) < (den : ℚ) := by
      push_cast
      linarith
    exact_mod_cast hcast

/-- What is well below the greatest power of two is finite, and rounding doubles it at most. -/
theorem exists_finite_ofRatio (negative : Bool) {num den : Nat} (hden : den ≠ 0) {k : Int}
    (hk : k ≤ 1022) (h : num = 0 ∨ binaryOrder num den ≤ k) :
    ∃ m e, ofRatio negative num den = .finite negative m e ∧ Below m e (k + 1) := by
  by_cases hnum : num = 0
  · exact ⟨0, leastExponent, by rw [ofRatio, if_pos hnum], .inl rfl⟩
  · have horder := h.resolve_left hnum
    obtain ⟨-, hlt⟩ := binaryOrder_spec hnum hden
    generalize hq : max (binaryOrder num den - 52) leastExponent = q
    have hqle : q ≤ 970 := by
      rw [← hq, leastExponent]
      omega
    obtain ⟨hscaled, hratio⟩ := ratio_scale num hden (-q)
    generalize hparts : scale num den (-q) = parts at hscaled hratio
    -- the quotient that is rounded is below a power of two
    have hquotient : (parts.1 : ℚ) / parts.2 < 2 ^ (binaryOrder num den + 1 - q) := by
      rw [hratio, sub_eq_add_neg _ q, zpow_add₀ (by norm_num)]
      gcongr
    have hround : Below (roundDiv parts.1 parts.2) q (k + 1) :=
      (below_roundDiv hscaled hquotient).imp id fun hle => by omega
    simp only [ofRatio, hnum, if_false, hq, hparts]
    by_cases hcarry : roundDiv parts.1 parts.2 = twoTo 53
    · have hbelow : (53 : Int) + q ≤ k + 1 := by
        rw [hcarry, twoTo_eq] at hround
        have hsum := hround.resolve_left (by norm_num)
        rwa [Nat.log2_two_pow] at hsum
      refine ⟨twoTo 52, q + 1, ?_, .inr ?_⟩
      · rw [if_pos hcarry, if_neg (by rw [greatestExponent]; omega)]
      · rw [twoTo_eq, Nat.log2_two_pow]
        omega
    · refine ⟨roundDiv parts.1 parts.2, q, ?_, hround⟩
      rw [if_neg hcarry, if_neg (by rw [greatestExponent]; omega)]

/-- Rounding keeps the power of two below a fraction that is not too small. -/
theorem binaryOrder_le_of_ofRatio {negative s : Bool} {num den m : Nat} {e : Int} (hnum : num ≠ 0)
    (hden : den ≠ 0) (hsmall : leastExponent ≤ binaryOrder num den)
    (h : ofRatio negative num den = .finite s m e) :
    m ≠ 0 ∧ binaryOrder num den ≤ (Nat.log2 m : Int) + e := by
  obtain ⟨hle, -⟩ := binaryOrder_spec hnum hden
  generalize hq : max (binaryOrder num den - 52) leastExponent = q at h
  obtain ⟨t, ht⟩ := Int.eq_ofNat_of_zero_le (show 0 ≤ binaryOrder num den - q by
    rw [leastExponent] at hq hsmall
    omega)
  obtain ⟨hscaled, hratio⟩ := ratio_scale num hden (-q)
  generalize hparts : scale num den (-q) = parts at hscaled hratio
  have hpos : (0 : ℚ) < parts.2 := Nat.cast_pos.mpr (Nat.pos_of_ne_zero hscaled)
  have hround : 2 ^ t ≤ roundDiv parts.1 parts.2 := by
    have hquotient : (2 : ℚ) ^ t ≤ parts.1 / parts.2 := by
      rw [hratio, ← zpow_natCast, ← ht, sub_eq_add_neg, zpow_add₀ (by norm_num)]
      gcongr
    rw [le_div_iff₀ hpos] at hquotient
    have hnat : 2 ^ t * parts.2 ≤ parts.1 := by exact_mod_cast hquotient
    exact (Nat.le_div_iff_mul_le (Nat.pos_of_ne_zero hscaled)).mpr hnat |>.trans
      (div_le_roundDiv parts.1 parts.2)
  simp only [ofRatio, hnum, if_false, hq, hparts] at h
  by_cases hcarry : roundDiv parts.1 parts.2 = twoTo 53
  · rw [if_pos hcarry] at h
    dsimp only at h
    split at h
    · cases h
    · cases h
      rw [twoTo_eq, Nat.log2_two_pow]
      refine ⟨by positivity, ?_⟩
      omega
  · rw [if_neg hcarry] at h
    dsimp only at h
    split at h
    · cases h
    · cases h
      have hne : roundDiv parts.1 parts.2 ≠ 0 := by
        have hpow : 0 < 2 ^ t := by positivity
        omega
      refine ⟨hne, ?_⟩
      have hlog : t ≤ Nat.log2 (roundDiv parts.1 parts.2) := (Nat.le_log2 hne).mpr hround
      omega

/-- A number that is not too large is a finite value. -/
theorem exists_finite_ofNat {n : Nat} {k : Nat} (hk : k ≤ 1022) (h : n < 2 ^ (k + 1)) :
    ∃ m e, ofNat n = .finite false m e ∧ Below m e (k + 1) := by
  refine exists_finite_ofRatio false Nat.one_ne_zero (by omega) ?_
  by_cases hn : n = 0
  · exact .inl hn
  · right
    obtain ⟨hle, -⟩ := binaryOrder_spec hn Nat.one_ne_zero
    have hlt : (n : ℚ) / (1 : Nat) < 2 ^ ((k : Int) + 1) := by
      have hcast : ((k : Int) + 1) = ((k + 1 : Nat) : Int) := by push_cast; rfl
      rw [Nat.cast_one, div_one, hcast, zpow_natCast]
      exact_mod_cast h
    have horder := (zpow_lt_zpow_iff_right₀ (by norm_num : (1 : ℚ) < 2)).mp (hle.trans_lt hlt)
    omega

/-- Dividing by what is not below one makes no finite value infinite. -/
theorem exists_finite_div {s t : Bool} {m n : Nat} {e f k : Int} (hk : k ≤ 1022)
    (hm : Below m e k) (hn : n ≠ 0) (hf : 0 ≤ (Nat.log2 n : Int) + f) :
    ∃ m' e', (finite s m e).div (.finite t n f) = .finite (s != t) m' e' ∧
      Below m' e' (k + 1) := by
  obtain ⟨hscaled, hratio⟩ := ratio_scale m hn (e - f)
  have hdiv : (finite s m e).div (.finite t n f) =
      ofRatio (s != t) (scale m n (e - f)).1 (scale m n (e - f)).2 := by
    rw [div, if_neg hn]
  rw [hdiv]
  refine exists_finite_ofRatio _ hscaled hk ?_
  by_cases hzero : (scale m n (e - f)).1 = 0
  · exact .inl hzero
  · right
    have hm₀ : m ≠ 0 := by
      rintro rfl
      rw [scale] at hzero
      split at hzero
      · rw [Nat.zero_mul] at hzero
        exact hzero rfl
      · exact hzero rfl
    have hlog := hm.resolve_left hm₀
    obtain ⟨hle, -⟩ := binaryOrder_spec hzero hscaled
    obtain ⟨-, hmlt⟩ := log2_bounds hm₀
    obtain ⟨hnle, -⟩ := log2_bounds hn
    have hnpos : (0 : ℚ) < n := Nat.cast_pos.mpr (Nat.pos_of_ne_zero hn)
    have hbound : (m : ℚ) / n * 2 ^ (e - f) < 2 ^ (k + 1) := by
      have hquotient : (m : ℚ) / n < 2 ^ ((Nat.log2 m : Int) + 1 - Nat.log2 n) := by
        rw [div_lt_iff₀ hnpos]
        calc (m : ℚ) < 2 ^ ((Nat.log2 m : Int) + 1) := hmlt
          _ = 2 ^ ((Nat.log2 m : Int) + 1 - Nat.log2 n) * 2 ^ (Nat.log2 n : Int) := by
              rw [← zpow_add₀ (by norm_num)]
              congr 1
              ring
          _ ≤ 2 ^ ((Nat.log2 m : Int) + 1 - Nat.log2 n) * n := by gcongr
      calc (m : ℚ) / n * 2 ^ (e - f)
          < 2 ^ ((Nat.log2 m : Int) + 1 - Nat.log2 n) * 2 ^ (e - f) := by gcongr
        _ = 2 ^ ((Nat.log2 m : Int) + 1 - Nat.log2 n + (e - f)) := by
            rw [← zpow_add₀ (by norm_num)]
        _ ≤ 2 ^ (k + 1) := zpow_le_zpow_right₀ (by norm_num) (by omega)
    rw [← hratio] at hbound
    have horder := (zpow_lt_zpow_iff_right₀ (by norm_num : (1 : ℚ) < 2)).mp (hle.trans_lt hbound)
    omega

end ModuleBundler.Binary64
