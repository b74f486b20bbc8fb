import ModuleBundler.Text.Units
import Mathlib.Algebra.BigOperators.Fin
import Mathlib.Data.Nat.Digits.Defs
import Mathlib.Data.Nat.ModEq

/-!
The digest of a text as a polynomial. A text has one sequence of code units (`encodes_iff`), and
its digest is the polynomial that has them as coefficients, the first one leading, taken at 31 and
reduced by `2 ^ 31`.

The loop gets there in words of 64 bits, and reduces a running value only when that has reached the
bound. Neither shows in the result, because of what one step does (`exactStep`): from a value below
the bound it reaches a natural number of at most 36 bits, so the word does not wrap, and what it
leaves is the remainder of this number, whether or not the loop has to take it. What a run makes of
a value below the bound follows by induction on the units (`toNat_foldl_digestStep`). From zero this
is the polynomial; from the digest of one text it is the digest of that text with another after it.
-/

set_option autoImplicit false

namespace ModuleBundler.Text

/-! ## Code units -/

/-- Units that a text is written in, by what they stand for: a unit alone for the character of its
number, and a high and a low surrogate together for a character beyond the basic plane. -/
inductive Encodes : List Nat → List Char → Prop
  | nil : Encodes [] []
  | basic {c : Char} {us : List Nat} {s : List Char} (hc : c.toNat < 0x10000) (h : Encodes us s) :
    Encodes (c.toNat :: us) (c :: s)
  | supplementary {c : Char} {high low : Nat} {us : List Nat} {s : List Char}
    (hhigh : 0xD800 ≤ high ∧ high < 0xDC00) (hlow : 0xDC00 ≤ low ∧ low < 0xE000)
    (hc : c.toNat = 0x10000 + 0x400 * (high - 0xD800) + (low - 0xDC00)) (h : Encodes us s) :
    Encodes (high :: low :: us) (c :: s)

theorem charUnits_basic {c : Char} (hc : c.toNat < 0x10000) : charUnits c = [c.toNat] := by
  unfold charUnits
  exact if_pos hc

theorem charUnits_supplementary {c : Char} (hc : ¬ c.toNat < 0x10000) :
    charUnits c =
      [0xD800 + (c.toNat - 0x10000) / 0x400, 0xDC00 + (c.toNat - 0x10000) % 0x400] := by
  unfold charUnits
  exact if_neg hc

theorem encodes_units (s : List Char) : Encodes (units s) s := by
  induction s with
  | nil => exact .nil
  | cons c s ih =>
    rw [units_cons]
    by_cases hc : c.toNat < 0x10000
    · rw [charUnits_basic hc]
      exact .basic hc ih
    · have hlt : c.toNat < 0x110000 := by
        rw [← Char.toNat_val]
        rcases c.valid with h | ⟨-, h⟩ <;> omega
      rw [charUnits_supplementary hc]
      apply Encodes.supplementary _ _ _ ih <;> omega

theorem Encodes.eq_units {us : List Nat} {s : List Char} (h : Encodes us s) : us = units s := by
  induction h with
  | nil => rfl
  | basic hc _ ih => rw [units_cons, charUnits_basic hc, ih, List.singleton_append]
  | @supplementary c high low us s hhigh hlow hc _ ih =>
    have hfar : ¬ c.toNat < 0x10000 := by omega
    have hhigh' : 0xD800 + (c.toNat - 0x10000) / 0x400 = high := by omega
    have hlow' : 0xDC00 + (c.toNat - 0x10000) % 0x400 = low := by omega
    rw [units_cons, charUnits_supplementary hfar, hhigh', hlow', ih]
    rfl

/-- **A text has one sequence of code units**, the one that is computed. -/
theorem encodes_iff {us : List Nat} {s : List Char} : Encodes us s ↔ us = units s := by
  constructor
  · exact Encodes.eq_units
  · intro h
    rw [h]
    exact encodes_units s

example : units ['b', '😀'] = [0x62, 0xD83D, 0xDE00] := by decide

/-- Code units have 16 bits. -/
theorem Encodes.lt {us : List Nat} {s : List Char} (h : Encodes us s) : ∀ u ∈ us, u < 2 ^ 16 := by
  induction h with
  | nil => simp
  | basic hc _ ih =>
    rw [List.forall_mem_cons]
    exact ⟨hc, ih⟩
  | supplementary hhigh hlow _ _ ih =>
    rw [List.forall_mem_cons, List.forall_mem_cons]
    exact ⟨by omega, by omega, ih⟩

/-! ## Steps -/

/-- A step of the digest that does in a word what it does for natural numbers. -/
structure ExactStep (h : UInt64) (unit : Nat) : Prop where
  /-- Neither the product nor the sum wraps. -/
  raised : (digestRaise h unit).toNat = 31 * h.toNat + unit
  /-- The value that is there to be reduced has at most 36 bits. -/
  bounded : 31 * h.toNat + unit < 2 ^ 36
  /-- A remainder is left, also by a step that takes none. -/
  reduced : (digestStep h unit).toNat = (31 * h.toNat + unit) % 2 ^ 31

section Step

variable {h : UInt64} {unit : Nat}

theorem toNat_digestRaise (hsmall : 31 * h.toNat + unit < 2 ^ 64) :
    (digestRaise h unit).toNat = 31 * h.toNat + unit := by
  have hunit : (UInt64.ofNat unit).toNat = unit := by
    rw [UInt64.toNat_ofNat']
    exact Nat.mod_eq_of_lt (by omega)
  have hproduct : (31 * h).toNat = 31 * h.toNat := by
    rw [UInt64.toNat_mul]
    exact Nat.mod_eq_of_lt (by show 31 * h.toNat < _; omega)
  unfold digestRaise
  rw [UInt64.toNat_add, hproduct, hunit]
  exact Nat.mod_eq_of_lt hsmall

/-- A value below the bound is its own remainder, so testing for the bound changes nothing. -/
theorem toNat_digestStep : (digestStep h unit).toNat = (digestRaise h unit).toNat % 2 ^ 31 := by
  unfold digestStep
  by_cases hbound : digestRaise h unit ≥ digestBound
  · rw [if_pos hbound, UInt64.toNat_mod]
    rfl
  · rw [if_neg hbound]
    have hlt : (digestRaise h unit).toNat < 2 ^ 31 := UInt64.not_le.mp hbound
    exact (Nat.mod_eq_of_lt hlt).symm

theorem exactStep (hh : h.toNat < 2 ^ 31) (hunit : unit < 2 ^ 16) : ExactStep h unit := by
  have hbounded : 31 * h.toNat + unit < 2 ^ 36 := by omega
  have hraised : (digestRaise h unit).toNat = 31 * h.toNat + unit :=
    toNat_digestRaise (by omega)
  refine ⟨hraised, hbounded, ?_⟩
  rw [toNat_digestStep, hraised]

theorem ExactStep.lt (hstep : ExactStep h unit) : (digestStep h unit).toNat < 2 ^ 31 := by
  rw [hstep.reduced]
  exact Nat.mod_lt _ (by omega)

end Step

/-! ## Runs -/

/-- A digit in front has the place of the length behind it. -/
theorem ofDigits_reverse_cons (b u : Nat) (rest : List Nat) :
    Nat.ofDigits b (u :: rest).reverse =
      u * b ^ rest.length + Nat.ofDigits b rest.reverse := by
  rw [List.reverse_cons, Nat.ofDigits_append, Nat.ofDigits_singleton, List.length_reverse]
  ring

/-- The value of the loop after some units. -/
def running (us : List Nat) : UInt64 := us.foldl digestStep 0

theorem digest_eq_running {us : List Nat} {s : List Char} (h : Encodes us s) :
    digest s = running us := by
  rw [h.eq_units]
  rfl

/-- **A run of the loop** from any value below the bound: one remainder, at the end, is enough. -/
theorem toNat_foldl_digestStep {us : List Nat} (hus : ∀ u ∈ us, u < 2 ^ 16) {h : UInt64}
    (hh : h.toNat < 2 ^ 31) :
    (us.foldl digestStep h).toNat =
      (h.toNat * 31 ^ us.length + Nat.ofDigits 31 us.reverse) % 2 ^ 31 := by
  induction us generalizing h with
  | nil =>
    rw [List.foldl_nil, List.length_nil, pow_zero, mul_one, List.reverse_nil, Nat.ofDigits_nil,
      add_zero, Nat.mod_eq_of_lt hh]
  | cons u rest ih =>
    rw [List.forall_mem_cons] at hus
    have hstep := exactStep hh hus.1
    -- the remainder that the step took can wait until the end
    have hpulled :
        (31 * h.toNat + u) % 2 ^ 31 * 31 ^ rest.length + Nat.ofDigits 31 rest.reverse ≡
          (31 * h.toNat + u) * 31 ^ rest.length + Nat.ofDigits 31 rest.reverse [MOD 2 ^ 31] :=
      ((Nat.mod_modEq _ _).mul_right _).add_right _
    rw [List.foldl_cons, ih hus.2 hstep.lt, hstep.reduced, hpulled, ofDigits_reverse_cons,
      List.length_cons]
    congr 1
    ring

theorem toNat_running {us : List Nat} (hus : ∀ u ∈ us, u < 2 ^ 16) :
    (running us).toNat = Nat.ofDigits 31 us.reverse % 2 ^ 31 := by
  have hzero : (0 : UInt64).toNat < 2 ^ 31 := by decide
  have hrun := toNat_foldl_digestStep hus hzero
  rwa [UInt64.toNat_zero, zero_mul, zero_add] at hrun

theorem running_lt {us : List Nat} (hus : ∀ u ∈ us, u < 2 ^ 16) :
    (running us).toNat < 2 ^ 31 := by
  rw [toNat_running hus]
  exact Nat.mod_lt _ (by omega)

/-! ## The polynomial -/

/-- Digits and their places, the leading one first. -/
theorem ofDigits_reverse (b : Nat) (us : List Nat) :
    Nat.ofDigits b us.reverse = ∑ i : Fin us.length, us[i] * b ^ (us.length - (i + 1)) := by
  induction us with
  | nil => rfl
  | cons u rest ih =>
    -- places are counted from the end, so a unit in front moves none of the others
    have hrest : ∀ i : Fin rest.length,
        (u :: rest)[i.succ] * b ^ (rest.length + 1 - (i.succ + 1)) =
          rest[i] * b ^ (rest.length - (i + 1)) := by
      intro i
      rw [Fin.val_succ, Nat.add_sub_add_right]
      rfl
    rw [ofDigits_reverse_cons, ih]
    show _ = ∑ i : Fin (rest.length + 1), (u :: rest)[i] * b ^ (rest.length + 1 - (i + 1))
    rw [Fin.sum_univ_succ, Finset.sum_congr rfl fun i _ => hrest i]
    rfl

/-- What it is for the digest of a text to be the polynomial of its code units. -/
structure DigestsAsPolynomial (s : List Char) : Prop where
  /-- The text has code units, and only one sequence of them. -/
  encoded : ∃! us, Encodes us s
  /-- The digest is the polynomial at 31, the first unit leading, and is reduced once. -/
  value : ∀ us, Encodes us s →
    (digest s).toNat = (∑ i : Fin us.length, us[i] * 31 ^ (us.length - (i + 1))) % 2 ^ 31
  /-- Wherever the loop is in the text, its next step stays in the word. -/
  steps : ∀ before unit after, Encodes (before ++ unit :: after) s →
    ExactStep (running before) unit
  /-- The digest of the text with another one after it is found from their two digests. -/
  append : ∀ t vs, Encodes vs t →
    (digest (s ++ t)).toNat =
      ((digest s).toNat * 31 ^ vs.length + (digest t).toNat) % 2 ^ 31

/-- **The digest is a polynomial.** -/
theorem digestsAsPolynomial (s : List Char) : DigestsAsPolynomial s where
  encoded := ⟨units s, encodes_iff.mpr rfl, fun _ h => encodes_iff.mp h⟩
  value us h := by
    rw [digest_eq_running h, toNat_running h.lt, ofDigits_reverse]
  steps before unit after h := by
    have hus := h.lt
    rw [List.forall_mem_append, List.forall_mem_cons] at hus
    exact exactStep (running_lt hus.1) hus.2.1
  append t vs h := by
    -- the digest of the whole goes on, through the units of `t`, from the digest of `s`
    have hrun : digest (s ++ t) = vs.foldl digestStep (digest s) := by
      rw [digest, units_append, List.foldl_append, h.eq_units]
      rfl
    have hdigest : (digest s).toNat < 2 ^ 31 := running_lt (encodes_units s).lt
    rw [hrun, toNat_foldl_digestStep h.lt hdigest, digest_eq_running h, toNat_running h.lt,
      Nat.add_mod_mod]

example : digest "bundle".toList = 769601666 := by decide

end ModuleBundler.Text
