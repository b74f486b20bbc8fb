import ModuleBundler.Number.Shortest
import ModuleBundler.Proofs.Number.Enclosing

/-!
The decimal that a value is written with. The search tests decimals against the interval of the
value, and the test is exact (`isInside_iff`): what it finds rounds to the value. It always finds
something, for multiples of the seventeenth digit lie closer together than the ends of the interval
(`encloses_shortest`). So the decimal of a value is read back as the value (`ofDecimal_shortest`).
For a value that is a natural number the search ends at the latest with the number itself, so it
finds an integer, and the plain text of the value is the text of this integer
(`plain_of_integral`).
-/

set_option autoImplicit false

namespace ModuleBundler.Binary64

/-! ## The interval -/

/-- The value of a decimal. -/
def Decimal.value (d : Decimal) : ℚ := d.digits * 10 ^ d.power

/-- Scaling multiplies the ratio by the power of ten. -/
theorem ratio_scaleTen (num : Nat) {den : Nat} (hden : den ≠ 0) (power : Int) :
    (scaleTen num den power).2 ≠ 0 ∧
      ((scaleTen num den power).1 : ℚ) / (scaleTen num den power).2 = num / den * 10 ^ power := by
  rw [scaleTen]
  split
  · rename_i hpower
    refine ⟨hden, ?_⟩
    obtain ⟨n, rfl⟩ := Int.eq_ofNat_of_zero_le hpower
    simp only [Int.toNat_natCast, tenTo_eq, Nat.cast_mul, Nat.cast_pow, Nat.cast_ofNat,
      zpow_natCast]
    ring
  · rename_i hpower
    obtain ⟨n, hn⟩ := Int.eq_ofNat_of_zero_le (show 0 ≤ -power by omega)
    have hpow : power = -(n : Int) := by omega
    subst hpow
    simp only [neg_neg, Int.toNat_natCast, tenTo_eq, Nat.cast_mul, Nat.cast_pow, Nat.cast_ofNat,
      zpow_neg, zpow_natCast]
    refine ⟨Nat.mul_ne_zero hden (by positivity), ?_⟩
    have hden' : (den : ℚ) ≠ 0 := Nat.cast_ne_zero.mpr hden
    field_simp

/-- The quarter of a unit over the common denominator. -/
theorem scale_quarter (m : Nat) (e : Int) :
    (scale (4 * m) 4 e).2 ≠ 0 ∧ (scale (4 * m) 4 e).1 = 4 * m * (scale 1 1 e).1 ∧
      ((scale 1 1 e).1 : ℚ) / (scale (4 * m) 4 e).2 = 2 ^ e / 4 := by
  obtain ⟨hne, hratio⟩ := ratio_scale 1 (show (4 : Nat) ≠ 0 by decide) e
  have hsame : (scale 1 4 e).1 = (scale 1 1 e).1 ∧ (scale 1 4 e).2 = (scale (4 * m) 4 e).2 := by
    rw [scale, scale, scale]
    split <;> exact ⟨rfl, rfl⟩
  refine ⟨hsame.2 ▸ hne, ?_, ?_⟩
  · rw [scale, scale]
    split
    · rw [Nat.one_mul]
    · rw [Nat.mul_one]
  · rw [← hsame.1, ← hsame.2, hratio]
    push_cast
    ring

/-- The interval over its common denominator. -/
structure IsInterval (m : Nat) (e : Int) (low v high d : Nat) : Prop where
  denominator : d ≠ 0
  low : (low : ℚ) / d = m * 2 ^ e - gapBelow m e
  value : (v : ℚ) / d = m * 2 ^ e
  high : (high : ℚ) / d = m * 2 ^ e + 2 ^ e / 2

theorem isInterval_roundingInterval {m : Nat} (hm : m ≠ 0) (e : Int) :
    IsInterval m e (roundingInterval m e).1 (roundingInterval m e).2.1
      (roundingInterval m e).2.2.1 (roundingInterval m e).2.2.2 := by
  obtain ⟨hne, hvalue, hunit⟩ := scale_quarter m e
  rw [roundingInterval]
  generalize hparts : scale (4 * m) 4 e = parts at *
  generalize hunits : scale 1 1 e = units at *
  obtain ⟨v, d⟩ := parts
  obtain ⟨unit, other⟩ := units
  dsimp only at *
  subst hvalue
  have hd : (d : ℚ) ≠ 0 := Nat.cast_ne_zero.mpr hne
  have hunit' : (unit : ℚ) = 2 ^ e / 4 * d := by rw [← hunit, div_mul_cancel₀ _ hd]
  have hless : 2 * unit ≤ 4 * m * unit := Nat.mul_le_mul_right unit (by omega)
  refine ⟨hne, ?_, ?_, ?_⟩
  · rw [gapBelow]
    by_cases hnear : m = twoTo 52 ∧ leastExponent < e
    · rw [if_pos (by simpa using hnear), if_pos hnear, Nat.cast_sub (by omega), div_eq_iff hd]
      push_cast
      rw [hunit']
      ring
    · rw [if_neg (by simpa using hnear), if_neg hnear, Nat.cast_sub hless, div_eq_iff hd]
      push_cast
      rw [hunit']
      ring
  · rw [div_eq_iff hd]
    push_cast
    rw [hunit']
    ring
  · rw [div_eq_iff hd]
    push_cast
    rw [hunit']
    ring

/-! ## Hits -/

/-- A decimal lies in the interval, as it is tested. -/
def isInside (low high d : Nat) (closed : Bool) (r : Decimal) : Bool :=
  let (x, y) := scaleTen r.digits 1 r.power
  if closed then low * y ≤ x * d && x * d ≤ high * y else low * y < x * d && x * d < high * y

theorem cast_div_le_iff (a c : Nat) {b d : Nat} (hb : b ≠ 0) (hd : d ≠ 0) :
    (a : ℚ) / b ≤ c / d ↔ a * d ≤ c * b := by
  have hb' : (0 : ℚ) < b := Nat.cast_pos.mpr (Nat.pos_of_ne_zero hb)
  have hd' : (0 : ℚ) < d := Nat.cast_pos.mpr (Nat.pos_of_ne_zero hd)
  rw [div_le_div_iff₀ hb' hd']
  exact_mod_cast Iff.rfl

theorem cast_div_lt_iff (a c : Nat) {b d : Nat} (hb : b ≠ 0) (hd : d ≠ 0) :
    (a : ℚ) / b < c / d ↔ a * d < c * b := by
  rw [← not_le, ← not_le, cast_div_le_iff c a hd hb]

section Hit

variable {m : Nat} {e : Int} {low v high d : Nat}

/-- The test is that the value encloses the decimal. -/
theorem isInside_iff (h : IsInterval m e low v high d) (r : Decimal) :
    isInside low high d (m % 2 == 0) r = true ↔ Encloses m e r.value := by
  obtain ⟨hscaled, hratio⟩ := ratio_scaleTen r.digits Nat.one_ne_zero r.power
  rw [Nat.cast_one, div_one, ← Decimal.value] at hratio
  rw [isInside]
  generalize scaleTen r.digits 1 r.power = parts at *
  obtain ⟨x, y⟩ := parts
  dsimp only at *
  have hlow := cast_div_le_iff low x h.denominator hscaled
  have hhigh := cast_div_le_iff x high hscaled h.denominator
  have hless := cast_div_lt_iff low x h.denominator hscaled
  have hmore := cast_div_lt_iff x high hscaled h.denominator
  rw [hratio, h.low] at hlow hless
  rw [hratio, h.high] at hhigh hmore
  rcases Nat.mod_two_eq_zero_or_one m with heven | hodd
  · rw [heven, if_pos (by rfl)]
    simp only [Bool.and_eq_true, decide_eq_true_eq, ← hlow, ← hhigh]
    exact ⟨fun hin => ⟨hin.1, hin.2, fun hodd => by omega⟩, fun hin => ⟨hin.low, hin.high⟩⟩
  · rw [hodd, if_neg (by decide)]
    simp only [Bool.and_eq_true, decide_eq_true_eq, ← hless, ← hmore]
    exact ⟨fun hin => ⟨hin.1.le, hin.2.le, fun _ => hin⟩, fun hin => hin.odd hodd⟩

/-- The greatest multiple of a power of ten that is not above a fraction. -/
def multipleBelow (v d : Nat) (power : Int) : Nat :=
  (scaleTen v d (-power)).1 / (scaleTen v d (-power)).2

/-- Of two multiples next to each other, one that passes a test: the first if it is nearer or the
other does not pass. Zero is none. -/
def choice (inside : Nat → Bool) (k : Nat) (power : Int) (nearer : Bool) : Option Decimal :=
  if (inside k && decide (0 < k)) && inside (k + 1) then
    some (if nearer then ⟨k, power⟩ else ⟨k + 1, power⟩)
  else if inside k && decide (0 < k) then some ⟨k, power⟩
  else if inside (k + 1) then some ⟨k + 1, power⟩
  else none

theorem hit?_eq_choice (low v high d : Nat) (closed : Bool) (power : Int) :
    ∃ nearer, hit? low v high d closed power =
      choice (fun n => isInside low high d closed ⟨n, power⟩) (multipleBelow v d power) power
        nearer := by
  let b := (scaleTen v d (-power)).2
  let rest := (scaleTen v d (-power)).1 % b
  exact ⟨2 * rest < b || (2 * rest = b && multipleBelow v d power % 2 = 0), rfl⟩

/-- What is chosen passes the test. -/
theorem inside_of_choice {inside : Nat → Bool} {k : Nat} {power : Int} {nearer : Bool} {r : Decimal}
    (h : choice inside k power nearer = some r) :
    r.power = power ∧ r.digits ≠ 0 ∧ inside r.digits = true := by
  rw [choice] at h
  split at h
  · rename_i hboth
    simp only [Bool.and_eq_true, decide_eq_true_eq] at hboth
    cases h
    split
    · exact ⟨rfl, hboth.1.2.ne', hboth.1.1⟩
    · exact ⟨rfl, Nat.succ_ne_zero k, hboth.2⟩
  · split at h
    · rename_i hbelow
      simp only [Bool.and_eq_true, decide_eq_true_eq] at hbelow
      cases h
      exact ⟨rfl, hbelow.2.ne', hbelow.1⟩
    · split at h
      · cases h
        exact ⟨rfl, Nat.succ_ne_zero k, ‹_›⟩
      · cases h

/-- If one passes the test, one is chosen. -/
theorem isSome_choice {inside : Nat → Bool} {k : Nat} (power : Int) (nearer : Bool)
    (h : (0 < k ∧ inside k = true) ∨ inside (k + 1) = true) :
    (choice inside k power nearer).isSome = true := by
  rw [choice]
  split
  · rfl
  · split
    · rfl
    · rename_i hbelow
      have habove : inside (k + 1) = true :=
        h.resolve_left fun hk => hbelow (by rw [hk.2, decide_eq_true hk.1]; rfl)
      rw [if_pos habove]
      rfl

/-- A hit is a multiple of its power and enclosed by the value. -/
theorem encloses_of_hit? (h : IsInterval m e low v high d) {power : Int} {r : Decimal}
    (hr : hit? low v high d (m % 2 == 0) power = some r) :
    r.power = power ∧ r.digits ≠ 0 ∧ Encloses m e r.value := by
  obtain ⟨nearer, hchoice⟩ := hit?_eq_choice low v high d (m % 2 == 0) power
  rw [hchoice] at hr
  obtain ⟨rfl, hdigits, hinside⟩ := inside_of_choice hr
  exact ⟨rfl, hdigits, (isInside_iff h r).1 hinside⟩

/-- There is a hit where one of the two multiples next to the value is enclosed. -/
theorem isSome_hit? (h : IsInterval m e low v high d) {power : Int}
    (hnext : (0 < multipleBelow v d power ∧
        Encloses m e (Decimal.value ⟨multipleBelow v d power, power⟩)) ∨
      Encloses m e (Decimal.value ⟨multipleBelow v d power + 1, power⟩)) :
    (hit? low v high d (m % 2 == 0) power).isSome = true := by
  obtain ⟨nearer, hchoice⟩ := hit?_eq_choice low v high d (m % 2 == 0) power
  rw [hchoice]
  rw [← isInside_iff h, ← isInside_iff h] at hnext
  exact isSome_choice power nearer hnext

end Hit

/-! ## Where there are hits -/

theorem multipleBelow_spec (v : Nat) {d : Nat} (hd : d ≠ 0) (power : Int) :
    multipleBelow v d power * (10 : ℚ) ^ power ≤ v / d ∧
      (v : ℚ) / d < (multipleBelow v d power + 1) * 10 ^ power := by
  obtain ⟨hscaled, hratio⟩ := ratio_scaleTen v hd (-power)
  have hten : (0 : ℚ) < 10 ^ power := by positivity
  rw [multipleBelow]
  generalize scaleTen v d (-power) = parts at *
  have hpos : (0 : ℚ) < parts.2 := Nat.cast_pos.mpr (Nat.pos_of_ne_zero hscaled)
  have hvalue : (v : ℚ) / d = parts.1 / parts.2 * 10 ^ power := by
    rw [hratio, mul_assoc, ← zpow_add₀ (by norm_num), neg_add_cancel, zpow_zero, mul_one]
  rw [hvalue, mul_le_mul_iff_left₀ hten, mul_lt_mul_iff_left₀ hten, le_div_iff₀ hpos,
    div_lt_iff₀ hpos]
  constructor
  · exact_mod_cast Nat.div_mul_le_self parts.1 parts.2
  · exact_mod_cast Nat.lt_mul_of_div_lt (Nat.lt_succ_self _) (Nat.pos_of_ne_zero hscaled)

section Exists

variable {m : Nat} {e : Int} {low v high d : Nat}

theorem gapBelow_pos (m : Nat) (e : Int) : 0 < gapBelow m e := by
  rw [gapBelow]
  split <;> positivity

theorem gapBelow_le_half (m : Nat) (e : Int) : gapBelow m e ≤ 2 ^ e / 2 := by
  have hunit : (0 : ℚ) < 2 ^ e := by positivity
  rw [gapBelow]
  split <;> linarith

theorem encloses_of_near {x : ℚ} (hlow : m * 2 ^ e - gapBelow m e < x)
    (hhigh : x < m * 2 ^ e + gapBelow m e) : Encloses m e x := by
  have hgap := gapBelow_le_half m e
  exact ⟨hlow.le, by linarith, fun _ => ⟨hlow, by linarith⟩⟩

/-- Multiples that lie closer together than the ends of the interval hit it. -/
theorem isSome_hit?_of_fine (h : IsInterval m e low v high d) {power : Int}
    (hfine : (10 : ℚ) ^ power / 2 < gapBelow m e) (hle : (10 : ℚ) ^ power ≤ m * 2 ^ e) :
    (hit? low v high d (m % 2 == 0) power).isSome = true := by
  have hten : (0 : ℚ) < 10 ^ power := by positivity
  obtain ⟨hbelow, habove⟩ := multipleBelow_spec v h.denominator power
  rw [h.value] at hbelow habove
  refine isSome_hit? h ?_
  by_cases hnear : m * 2 ^ e - 10 ^ power / 2 ≤ multipleBelow v d power * (10 : ℚ) ^ power
  · left
    have hpos : 0 < multipleBelow v d power := by
      rw [Nat.pos_iff_ne_zero]
      intro hzero
      rw [hzero] at habove
      norm_num at habove
      linarith
    exact ⟨hpos, encloses_of_near (by rw [Decimal.value]; linarith)
      (by rw [Decimal.value]; linarith [gapBelow_pos m e])⟩
  · right
    have hvalue : Decimal.value ⟨multipleBelow v d power + 1, power⟩ =
        multipleBelow v d power * (10 : ℚ) ^ power + 10 ^ power := by
      rw [Decimal.value]
      push_cast
      ring
    rw [hvalue]
    rw [add_mul, one_mul] at habove
    exact encloses_of_near (by linarith [gapBelow_pos m e]) (by linarith)

/-- An integral value is a hit without further digits. -/
theorem isSome_hit?_of_integral (h : IsInterval m e low v high d) {n : Nat} (hn : n ≠ 0)
    (hvalue : (n : ℚ) = m * 2 ^ e) : (hit? low v high d (m % 2 == 0) 0).isSome = true := by
  obtain ⟨hbelow, habove⟩ := multipleBelow_spec v h.denominator 0
  rw [h.value, ← hvalue, zpow_zero, mul_one] at hbelow habove
  have hsame : multipleBelow v d 0 = n := by
    have hle : multipleBelow v d 0 ≤ n := by exact_mod_cast hbelow
    have hlt : n < multipleBelow v d 0 + 1 := by exact_mod_cast habove
    omega
  refine isSome_hit? h (.inl ⟨by omega, ?_⟩)
  have hgap := gapBelow_pos m e
  rw [hsame, Decimal.value, zpow_zero, mul_one]
  exact encloses_of_near (by linarith) (by linarith)

end Exists

/-! ## Decimal orders -/

section Order

variable {num den : Nat}

theorem scaleTen_le_iff (num : Nat) (hden : den ≠ 0) (power : Int) :
    (scaleTen num den (-power)).2 ≤ (scaleTen num den (-power)).1 ↔
      (10 : ℚ) ^ power ≤ num / den := by
  obtain ⟨hscaled, hratio⟩ := ratio_scaleTen num hden (-power)
  have hpos : (0 : ℚ) < (scaleTen num den (-power)).2 :=
    Nat.cast_pos.mpr (Nat.pos_of_ne_zero hscaled)
  rw [← Nat.cast_le (α := ℚ), ← one_le_div hpos, hratio, zpow_neg, ← div_eq_mul_inv,
    one_le_div (by positivity)]

theorem decimalOrderFrom_succ (hden : den ≠ 0) (steps : Nat) (guess : Int) :
    decimalOrderFrom num den (steps + 1) guess =
      if (10 : ℚ) ^ (guess + 1) ≤ num / den then decimalOrderFrom num den steps (guess + 1)
      else guess := by
  rw [decimalOrderFrom]
  exact if_congr (scaleTen_le_iff num hden (guess + 1)) rfl rfl

/-- From a guess the order is corrected upwards: it is the guess, or a power of ten that is not
above the fraction. -/
theorem decimalOrderFrom_le (hden : den ≠ 0) (steps : Nat) (guess : Int) :
    decimalOrderFrom num den steps guess = guess ∨
      (10 : ℚ) ^ decimalOrderFrom num den steps guess ≤ num / den := by
  induction steps generalizing guess with
  | zero => exact .inl rfl
  | succ steps ih =>
    rw [decimalOrderFrom_succ hden]
    by_cases hstep : (10 : ℚ) ^ (guess + 1) ≤ num / den
    · rw [if_pos hstep]
      rcases ih (guess + 1) with hguess | hle
      · rw [hguess]
        exact .inr hstep
      · exact .inr hle
    · rw [if_neg hstep]
      exact .inl rfl

/-- A fraction that is not below one has no negative order, if there are steps enough. -/
theorem decimalOrderFrom_nonneg (hden : den ≠ 0) (hone : (1 : ℚ) ≤ num / den) (steps : Nat)
    (guess : Int) (hguess : 0 ≤ guess + steps) : 0 ≤ decimalOrderFrom num den steps guess := by
  induction steps generalizing guess with
  | zero =>
    rw [decimalOrderFrom]
    omega
  | succ steps ih =>
    rw [decimalOrderFrom_succ hden]
    by_cases hstep : (10 : ℚ) ^ (guess + 1) ≤ num / den
    · rw [if_pos hstep]
      exact ih (guess + 1) (by omega)
    · rw [if_neg hstep]
      by_contra hnegative
      have hle : (10 : ℚ) ^ (guess + 1) ≤ 10 ^ (0 : Int) :=
        zpow_le_zpow_right₀ (by norm_num) (by omega)
      exact hstep (hle.trans hone)

/-- The guess from the binary order is not too large. -/
theorem ten_zpow_guess_le {b : Int} (hlow : -1100 < b) (hhigh : b < 1100) :
    (10 : ℚ) ^ ((b * 30103 - 100000) / 100000 - 1) ≤ 2 ^ b := by
  obtain ⟨k, rfl | rfl⟩ := b.eq_nat_or_neg
  · have hcheck : ∀ k ∈ List.range 1100,
        10 ^ (((k : Int) * 30103 - 100000) / 100000 - 1).toNat ≤ 2 ^ k := by
      decide +kernel
    have hle : (10 : ℚ) ^ (((k : Int) * 30103 - 100000) / 100000 - 1) ≤
        10 ^ ((((k : Int) * 30103 - 100000) / 100000 - 1).toNat : Int) :=
      zpow_le_zpow_right₀ (by norm_num) (Int.self_le_toNat _)
    rw [zpow_natCast] at hle ⊢
    exact hle.trans (by exact_mod_cast hcheck k (List.mem_range.mpr (by omega)))
  · have hcheck : ∀ k ∈ List.range 1100,
        2 ^ k ≤ 10 ^ (-((-(k : Int) * 30103 - 100000) / 100000 - 1)).toNat := by
      decide +kernel
    obtain ⟨j, hj⟩ := Int.eq_ofNat_of_zero_le
      (show 0 ≤ -((-(k : Int) * 30103 - 100000) / 100000 - 1) by omega)
    have hle := hcheck k (List.mem_range.mpr (by omega))
    rw [hj, Int.toNat_natCast] at hle
    rw [← neg_neg ((-(k : Int) * 30103 - 100000) / 100000 - 1), hj, zpow_neg, zpow_neg,
      zpow_natCast, zpow_natCast]
    exact inv_anti₀ (by positivity) (by exact_mod_cast hle)

/-- **The decimal order** is not too large. -/
theorem ten_zpow_decimalOrder_le (hnum : num ≠ 0) (hden : den ≠ 0)
    (hlow : (2 : ℚ) ^ (-1074 : Int) ≤ num / den) (hhigh : (num : ℚ) / den < 2 ^ (1024 : Int)) :
    (10 : ℚ) ^ decimalOrder num den ≤ num / den := by
  obtain ⟨hle, hlt⟩ := binaryOrder_spec hnum hden
  have hleast := (zpow_lt_zpow_iff_right₀ (by norm_num : (1 : ℚ) < 2)).1 (hlow.trans_lt hlt)
  have hgreatest := (zpow_lt_zpow_iff_right₀ (by norm_num : (1 : ℚ) < 2)).1 (hle.trans_lt hhigh)
  rcases decimalOrderFrom_le hden 4 ((binaryOrder num den * 30103 - 100000) / 100000 - 1) with
    hguess | hcorrected
  · rw [decimalOrder, hguess]
    exact (ten_zpow_guess_le (by omega) (by omega)).trans hle
  · exact hcorrected

/-- What is not below one has no negative order. -/
theorem decimalOrder_nonneg (hden : den ≠ 0) (hone : (1 : ℚ) ≤ num / den) :
    0 ≤ decimalOrder num den := by
  have hnum : num ≠ 0 := by
    rintro rfl
    rw [Nat.cast_zero, zero_div] at hone
    linarith
  obtain ⟨-, hlt⟩ := binaryOrder_spec hnum hden
  have hlow := (zpow_lt_zpow_iff_right₀ (by norm_num : (1 : ℚ) < 2)).1
    (((zpow_zero _).le.trans hone).trans_lt hlt)
  exact decimalOrderFrom_nonneg hden hone 4 _ (by omega)

end Order

/-! ## The first hit -/

/-- The first number of digits that has a hit is found, if there is one within the steps. -/
theorem firstHit_spec {low v high d : Nat} {closed : Bool} {order : Int} {j steps : Nat}
    (hj : j < steps) (count : Nat)
    (hhit : (hit? low v high d closed (order - (count + j : Nat) + 1)).isSome = true) :
    ∃ i ≤ j, hit? low v high d closed (order - (count + i : Nat) + 1) =
      some (firstHit low v high d closed order steps count) := by
  induction steps generalizing count j with
  | zero => exact absurd hj (Nat.not_lt_zero j)
  | succ steps ih =>
    rw [firstHit]
    cases hfirst : hit? low v high d closed (order - count + 1) with
    | some r => exact ⟨0, Nat.zero_le j, by simpa using hfirst⟩
    | none =>
      have hpos : j ≠ 0 := by
        rintro rfl
        rw [Nat.add_zero, hfirst] at hhit
        cases hhit
      obtain ⟨k, rfl⟩ := Nat.exists_eq_succ_of_ne_zero hpos
      have hcount : ∀ i : Nat, count + (i + 1) = count + 1 + i := fun i => by omega
      rw [Nat.succ_eq_add_one, hcount] at hhit
      obtain ⟨i, hi, hresult⟩ := ih (by omega) (count + 1) hhit
      exact ⟨i + 1, by omega, by rw [hcount]; exact hresult⟩

/-! ## The shortest decimal -/

/-- Dropping zeros keeps the value. -/
theorem trim_spec (r : Decimal) (steps : Nat) :
    (r.trim steps).value = r.value ∧ r.power ≤ (r.trim steps).power ∧
      (r.digits ≠ 0 → (r.trim steps).digits ≠ 0) := by
  induction steps generalizing r with
  | zero => exact ⟨rfl, le_refl _, id⟩
  | succ steps ih =>
    rw [Decimal.trim]
    by_cases hzero : r.digits ≠ 0 ∧ r.digits % 10 = 0
    · rw [if_pos hzero]
      obtain ⟨hvalue, hpower, hdigits⟩ := ih ⟨r.digits / 10, r.power + 1⟩
      have hsplit : (r.digits : ℚ) = (r.digits / 10 : Nat) * 10 := by
        exact_mod_cast (Nat.div_mul_cancel (Nat.dvd_of_mod_eq_zero hzero.2)).symm
      have hquotient : r.digits / 10 ≠ 0 := by omega
      refine ⟨?_, (Int.le_add_one (le_refl _)).trans hpower, fun _ => hdigits hquotient⟩
      rw [hvalue, Decimal.value, Decimal.value, hsplit, zpow_add_one₀ (by norm_num)]
      ring
    · rw [if_neg hzero]
      exact ⟨rfl, le_refl _, id⟩

section Found

variable {m : Nat} {e : Int}

/-- The gap below a value is not small against the value. -/
theorem le_gapBelow (hm : m < 2 ^ 53) (e : Int) : m * 2 ^ e / 2 ^ (54 : Nat) ≤ gapBelow m e := by
  have hunit : (0 : ℚ) < 2 ^ e := by positivity
  rw [gapBelow, div_le_iff₀ (by positivity)]
  split
  · rename_i hnear
    rw [hnear.1, twoTo_eq]
    push_cast
    linarith
  · have hhigh : (m : ℚ) ≤ 2 ^ (53 : Nat) := by exact_mod_cast hm.le
    calc m * (2 : ℚ) ^ e ≤ 2 ^ (53 : Nat) * 2 ^ e := by gcongr
      _ = 2 ^ e / 2 * 2 ^ (54 : Nat) := by ring

/-- Seventeen digits are enough. -/
theorem isSome_hit?_of_order {low v high d : Nat} (h : IsInterval m e low v high d)
    (hm : m < 2 ^ 53) {order : Int} (horder : (10 : ℚ) ^ order ≤ m * 2 ^ e) :
    (hit? low v high d (m % 2 == 0) (order - 16)).isSome = true := by
  have hvalue : (0 : ℚ) < m * 2 ^ e := lt_of_lt_of_le (by positivity) horder
  have hten : (10 : ℚ) ^ order = 10 ^ (order - 16) * 10 ^ (16 : Nat) := by
    rw [← zpow_natCast, ← zpow_add₀ (by norm_num)]
    congr 1
    omega
  have hgap := le_gapBelow hm e
  rw [hten] at horder
  refine isSome_hit?_of_fine h (lt_of_lt_of_le ?_ hgap) ?_
  · rw [lt_div_iff₀ (by positivity)]
    norm_num at horder ⊢
    linarith
  · have hpos : (0 : ℚ) < 10 ^ (order - 16) := by positivity
    norm_num at horder
    linarith

/-- The interval that the shortest decimal is looked for in, and the decimal order of the value. -/
theorem exists_isInterval (hm : m ≠ 0) (e : Int) : ∃ low v high d, IsInterval m e low v high d ∧
    shortest m e = (firstHit low v high d (m % 2 == 0) (decimalOrder v d) 17 1).trim 17 := by
  have hinterval := isInterval_roundingInterval hm e
  rcases hparts : roundingInterval m e with ⟨low, v, high, d⟩
  rw [hparts] at hinterval
  exact ⟨low, v, high, d, hinterval, by rw [shortest, if_neg hm, hparts]⟩

/-- If one of the first seventeen digits leads to a hit, what is found is enclosed by the value. -/
theorem encloses_trim_firstHit {low v high d : Nat} (h : IsInterval m e low v high d) (j : Nat)
    (hj : j < 17) (hhit : (hit? low v high d (m % 2 == 0) (decimalOrder v d - j)).isSome = true)
    {r : Decimal} (hr : r = (firstHit low v high d (m % 2 == 0) (decimalOrder v d) 17 1).trim 17) :
    decimalOrder v d - j ≤ r.power ∧ r.digits ≠ 0 ∧ Encloses m e r.value := by
  have hcount : ∀ i : Nat, decimalOrder v d - (1 + i : Nat) + 1 = decimalOrder v d - i :=
    fun i => by omega
  rw [← hcount] at hhit
  obtain ⟨i, hi, hfirst⟩ := firstHit_spec hj 1 hhit
  rw [hcount] at hfirst
  obtain ⟨hfound, hdigits, hencloses⟩ := encloses_of_hit? h hfirst
  obtain ⟨htrimmed, hgrown, hkept⟩ :=
    trim_spec (firstHit low v high d (m % 2 == 0) (decimalOrder v d) 17 1) 17
  rw [hr, htrimmed]
  exact ⟨by omega, hkept hdigits, hencloses⟩

/-- What a value is between. -/
theorem value_bounds (hm₀ : m ≠ 0) (hm : IsValue m e) :
    (2 : ℚ) ^ (-1074 : Int) ≤ m * 2 ^ e ∧ (m : ℚ) * 2 ^ e < 2 ^ (1024 : Int) := by
  have hone : (1 : ℚ) ≤ m := by exact_mod_cast Nat.one_le_iff_ne_zero.mpr hm₀
  have hhigh : (m : ℚ) < 2 ^ (53 : Int) := by exact_mod_cast hm.high
  have hunit : (0 : ℚ) < 2 ^ e := by positivity
  have hexponent : -1074 ≤ e ∧ e ≤ 971 := by
    cases hm with
    | normal h =>
      have hleast := h.least
      have hgreatest := h.greatest
      rw [leastExponent] at hleast
      exact ⟨by omega, hgreatest⟩
    | least _ he =>
      rw [he]
      decide
  constructor
  · calc (2 : ℚ) ^ (-1074 : Int) ≤ 2 ^ e := zpow_le_zpow_right₀ (by norm_num) hexponent.1
      _ ≤ m * 2 ^ e := le_mul_of_one_le_left hunit.le hone
  · calc (m : ℚ) * 2 ^ e < 2 ^ (53 : Int) * 2 ^ e := by gcongr
      _ = 2 ^ (53 + e) := by rw [← zpow_add₀ (by norm_num)]
      _ ≤ 2 ^ (1024 : Int) := zpow_le_zpow_right₀ (by norm_num) (by omega)

/-- **The shortest decimal of a value** is enclosed by it. -/
theorem encloses_shortest (hm₀ : m ≠ 0) (hm : IsValue m e) :
    (shortest m e).digits ≠ 0 ∧ Encloses m e (shortest m e).value := by
  obtain ⟨low, v, high, d, hinterval, hshortest⟩ := exists_isInterval hm₀ e
  obtain ⟨hleast, hgreatest⟩ := value_bounds hm₀ hm
  have hv : v ≠ 0 := by
    rintro rfl
    have hzero := hinterval.value
    rw [Nat.cast_zero, zero_div] at hzero
    rw [← hzero] at hleast
    exact absurd hleast (not_le.mpr (by positivity))
  rw [← hinterval.value] at hleast hgreatest
  have horder := ten_zpow_decimalOrder_le hv hinterval.denominator hleast hgreatest
  rw [hinterval.value] at horder
  exact (encloses_trim_firstHit hinterval 16 (by decide)
    (isSome_hit?_of_order hinterval hm.high horder) hshortest).2

/-- The shortest decimal of an integral value is an integer. -/
theorem shortest_of_integral (hm : IsNormal m e) {n : Nat} (hn : n ≠ 0)
    (hvalue : (n : ℚ) = m * 2 ^ e) : 0 ≤ (shortest m e).power := by
  have hm₀ : m ≠ 0 := by
    have := hm.low
    omega
  obtain ⟨low, v, high, d, hinterval, hshortest⟩ := exists_isInterval hm₀ e
  have hone : (1 : ℚ) ≤ v / d := by
    rw [hinterval.value, ← hvalue]
    exact_mod_cast Nat.one_le_iff_ne_zero.2 hn
  have hnonneg := decimalOrder_nonneg hinterval.denominator hone
  -- a value with few digits is reached at the power zero, another one with the last digit
  by_cases hfew : decimalOrder v d ≤ 16
  · obtain ⟨k, hk⟩ := Int.eq_ofNat_of_zero_le hnonneg
    have hhit := isSome_hit?_of_integral hinterval hn hvalue
    have hfound := (encloses_trim_firstHit hinterval k (by omega)
      (by rw [hk, sub_self]; exact hhit) hshortest).1
    omega
  · obtain ⟨hleast, hgreatest⟩ := value_bounds hm₀ (.normal hm)
    rw [← hinterval.value] at hleast hgreatest
    have hv : v ≠ 0 := by
      rintro rfl
      rw [Nat.cast_zero, zero_div] at hone
      linarith
    have horder := ten_zpow_decimalOrder_le hv hinterval.denominator hleast hgreatest
    rw [hinterval.value] at horder
    have hfound := (encloses_trim_firstHit hinterval 16 (by decide)
      (isSome_hit?_of_order hinterval hm.high horder) hshortest).1
    omega

/-- A decimal as a fraction. -/
theorem exists_ofDecimal_eq (r : Decimal) : ∃ num den : Nat, den ≠ 0 ∧ (num : ℚ) / den = r.value ∧
    ∀ negative, ofDecimal negative r.digits r.power = ofRatio negative num den := by
  obtain ⟨hne, hratio⟩ := ratio_scaleTen r.digits Nat.one_ne_zero r.power
  refine ⟨_, _, hne, by rw [hratio, Nat.cast_one, div_one, Decimal.value], fun negative => ?_⟩
  rw [ofDecimal, scaleTen]
  split
  · rfl
  · rw [Nat.one_mul]

/-- **The shortest decimal is read back as the value.** -/
theorem ofDecimal_shortest (negative : Bool) (hm : IsValue m e) :
    ofDecimal negative (shortest m e).digits (shortest m e).power = .finite negative m e := by
  by_cases hm₀ : m = 0
  · have he : e = leastExponent := by
      cases hm with
      | normal h => exact absurd h.low (by rw [hm₀]; decide)
      | least _ he => exact he
    rw [shortest, if_pos hm₀, ofDecimal_zero, hm₀, he]
  · obtain ⟨num, den, hden, hvalue, hdecimal⟩ := exists_ofDecimal_eq (shortest m e)
    rw [hdecimal]
    exact ofRatio_eq_of_encloses negative hden hm₀ hm (hvalue ▸ (encloses_shortest hm₀ hm).2)

end Found

/-! ## Texts -/

theorem toDigits_mul_ten_pow {n : Nat} (hn : n ≠ 0) (k : Nat) :
    Nat.toDigits 10 (n * 10 ^ k) = Nat.toDigits 10 n ++ List.replicate k '0' := by
  induction k with
  | zero => rw [pow_zero, Nat.mul_one, List.replicate_zero, List.append_nil]
  | succ k ih =>
    have hpos : 0 < n * 10 ^ k := Nat.mul_pos (Nat.pos_of_ne_zero hn) (by positivity)
    have hstep := Nat.toDigits_append_toDigits (b := 10) (by decide) hpos (d := 0) (by decide)
    rw [Nat.add_zero, Nat.toDigits_zero, ih] at hstep
    rw [List.replicate_succ', ← List.append_assoc, hstep, Nat.pow_succ]
    congr 1
    ring

theorem toDigits_injective {n n' : Nat} (h : Nat.toDigits 10 n = Nat.toDigits 10 n') : n = n' := by
  rw [← Nat.ofDigitChars_ten_toDigits (n := n), h, Nat.ofDigitChars_ten_toDigits]

/-- The plain text of an integral decimal is that of the integer. -/
theorem plain_eq_toDigits {r : Decimal} (hpower : 0 ≤ r.power) (hdigits : r.digits ≠ 0) :
    ∃ x : Nat, x ≠ 0 ∧ (x : ℚ) = r.value ∧ r.plain = Nat.toDigits 10 x := by
  obtain ⟨k, hk⟩ := Int.eq_ofNat_of_zero_le hpower
  refine ⟨r.digits * 10 ^ k, Nat.mul_ne_zero hdigits (by positivity), ?_, ?_⟩
  · rw [Decimal.value, hk, zpow_natCast]
    push_cast
    rfl
  · rw [Decimal.plain, if_pos hpower, if_neg hdigits, toDigits_mul_ten_pow hdigits, hk]
    rfl

/-- **The text of an integral value** is that of an integer which the value encloses. -/
theorem plain_of_integral {m : Nat} {e : Int} (hm : IsNormal m e) {n : Nat} (hn : n ≠ 0)
    (hvalue : (n : ℚ) = m * 2 ^ e) :
    ∃ x : Nat, x ≠ 0 ∧ Encloses m e x ∧ plain (.finite false m e) = Nat.toDigits 10 x := by
  have hm₀ : m ≠ 0 := by
    have := hm.low
    omega
  obtain ⟨hdigits, hencloses⟩ := encloses_shortest hm₀ (.normal hm)
  obtain ⟨x, hx, hsame, htext⟩ := plain_eq_toDigits (shortest_of_integral hm hn hvalue) hdigits
  exact ⟨x, hx, hsame ▸ hencloses, htext⟩

end ModuleBundler.Binary64
