import ModuleBundler.Json.Reader
import ModuleBundler.Proofs.Json.Expression
import ModuleBundler.Proofs.Number.Rounding

/-!
Reals of documents are finite. A number of a document is a significand of 64 bits that is scaled by
a power of ten, in one step or in several. A product that is infinite is refused. Quotients are not
looked at, but a quotient by a power of ten is no larger than what is divided, up to rounding, and
rounding at most doubles it: eight steps down from a word stay far below the bound of the format.
-/

set_option autoImplicit false

namespace ModuleBundler.Json

open Binary64

/-! ## Numbers -/

/-- A value is finite, in the form that rounding gives it. -/
def IsFiniteReal (r : Binary64) : Prop := ∃ negative m e, r = .finite negative m e ∧ IsValue m e

theorem IsFiniteReal.neg {r : Binary64} (hr : IsFiniteReal r) : IsFiniteReal r.neg := by
  obtain ⟨negative, m, e, rfl, hvalue⟩ := hr
  exact ⟨!negative, m, e, rfl, hvalue⟩

theorem isFiniteReal_zero : IsFiniteReal .zero :=
  ⟨false, 0, leastExponent, rfl, .least (by decide) rfl⟩

/-- The digits that are gathered fit a word. -/
theorem gather_lt {significand : Nat} (h : significand < wordBound) (cs : List Char) :
    (gather significand cs).1 < wordBound := by
  induction cs generalizing significand with
  | nil => exact h
  | cons c cs ih =>
    rw [gather]
    split
    · rename_i hnext
      exact ih hnext
    · exact h

/-- The powers of ten that a number is scaled by are finite and no less than one. -/
theorem exists_ofNat_tenTo {k : Nat} (hk : k ≤ greatestTen) :
    ∃ n f, ofNat (tenTo k) = .finite false n f ∧ n ≠ 0 ∧ 0 ≤ (Nat.log2 n : Int) + f := by
  have hpos : tenTo k ≠ 0 := by
    rw [tenTo_eq]
    positivity
  have hall : ∀ k ∈ List.range (greatestTen + 1), ofNat (tenTo k) ≠ .infinite false := by
    decide +kernel
  have hfinite := hall k (List.mem_range.mpr (Nat.lt_succ_of_le hk))
  obtain ⟨n, f, hofNat, -⟩ :=
    (ofRatio_eq_infinite_or_finite false (tenTo k) Nat.one_ne_zero).resolve_left hfinite
  obtain ⟨-, hlt⟩ := binaryOrder_spec hpos Nat.one_ne_zero
  have horder : 0 ≤ binaryOrder (tenTo k) 1 := by
    have hone : (2 : ℚ) ^ (0 : Int) ≤ (tenTo k : ℚ) / (1 : Nat) := by
      rw [zpow_zero, Nat.cast_one, div_one]
      exact_mod_cast Nat.one_le_iff_ne_zero.mpr hpos
    have hexponent := (zpow_lt_zpow_iff_right₀ (by norm_num : (1 : ℚ) < 2)).mp (hone.trans_lt hlt)
    omega
  obtain ⟨hn, hlog⟩ := binaryOrder_le_of_ofRatio hpos Nat.one_ne_zero
    (by rw [leastExponent]; omega) hofNat
  exact ⟨n, f, hofNat, hn, by omega⟩

/-- A quotient by a power of ten is a finite value again. -/
theorem exists_isValue_div {s : Bool} {m n : Nat} {e f k : Int} (hk : k ≤ 1022) (hm : Below m e k)
    (hn : n ≠ 0) (hf : 0 ≤ (Nat.log2 n : Int) + f) :
    ∃ m' e', (finite s m e).div (.finite false n f) = .finite (s != false) m' e' ∧
      IsValue m' e' ∧ Below m' e' (k + 1) := by
  obtain ⟨m', e', hdiv, hbelow⟩ := exists_finite_div (s := s) (t := false) hk hm hn hf
  refine ⟨m', e', hdiv, ?_, hbelow⟩
  rw [div, if_neg hn] at hdiv
  exact isValue_of_ofRatio (ratio_scale m hn (e - f)).1 hdiv

/-- One step up or down: a product that is infinite is refused, and a quotient is not larger. -/
theorem isFiniteReal_scaled_of_le {fuel : Nat} {negative : Bool} {m : Nat} {e k power : Int}
    {r : Binary64} (hm : Below m e k) (hk : k ≤ 1022) (hpower : power.natAbs ≤ greatestTen)
    (h : scaled fuel (.finite negative m e) power = some r) : IsFiniteReal r := by
  obtain ⟨n, f, hten, hn, hlog⟩ := exists_ofNat_tenTo hpower
  rw [scaled.eq_def, if_pos hpower, hten] at h
  dsimp only at h
  split at h
  · split at h
    · cases h
    · rename_i hproduct
      cases h
      obtain hinfinite | ⟨m', e', hfinite, hvalue⟩ := ofRatio_eq_infinite_or_finite
        (negative != false) (scale (m * n) 1 (e + f)).1
        (ratio_scale (m * n) Nat.one_ne_zero (e + f)).1
      · exact absurd (congrArg isInfinite hinfinite) hproduct
      · exact ⟨_, m', e', hfinite, hvalue⟩
  · cases h
    obtain ⟨m', e', hfinite, hvalue, -⟩ := exists_isValue_div (s := negative) hk hm hn hlog
    exact ⟨_, m', e', hfinite, hvalue⟩

/-- What is scaled stays finite, if what it begins with is small enough for the steps. -/
theorem isFiniteReal_scaled {fuel : Nat} {negative : Bool} {m : Nat} {e k power : Int}
    {r : Binary64} (hvalue : IsValue m e) (hm : Below m e k) (hk : k + fuel ≤ 1022)
    (h : scaled fuel (.finite negative m e) power = some r) : IsFiniteReal r := by
  induction fuel generalizing negative m e k power with
  | zero =>
    by_cases hpower : power.natAbs ≤ greatestTen
    · exact isFiniteReal_scaled_of_le hm (by omega) hpower h
    · rw [scaled.eq_def, if_neg hpower] at h
      split at h
      · cases h
        exact ⟨negative, m, e, rfl, hvalue⟩
      · split at h
        · cases h
        · cases h
          exact isFiniteReal_zero
  | succ fuel ih =>
    by_cases hpower : power.natAbs ≤ greatestTen
    · exact isFiniteReal_scaled_of_le hm (by omega) hpower h
    · rw [scaled.eq_def, if_neg hpower] at h
      split at h
      · cases h
        exact ⟨negative, m, e, rfl, hvalue⟩
      · split at h
        · cases h
        · -- a step down at most doubles the bound, and there are as many left as the fuel says
          obtain ⟨n, f, hten, hn, hlog⟩ := exists_ofNat_tenTo (Nat.le_refl greatestTen)
          obtain ⟨m', e', hquotient, hvalue', hm'⟩ :=
            exists_isValue_div (s := negative) (by omega) hm hn hlog
          dsimp only at h
          rw [hten, hquotient] at h
          exact ih hvalue' hm' (by push_cast at hk; omega) h

/-- The reals among the numbers of documents. -/
theorem isFinite_numberValue {negative : Bool} {whole fraction : List Char}
    {exponent : Option (Bool × List Char)} {v : Value}
    (h : numberValue negative whole fraction exponent = some v) : v.IsFinite := by
  have hreal : ∀ {r : Binary64}, IsFiniteReal r → (Value.real r).IsFinite := by
    rintro r ⟨negative, m, e, rfl, hvalue⟩
    exact .real negative hvalue
  have hsigned : ∀ {r : Binary64}, IsFiniteReal r →
      (Value.real (if negative then r.neg else r)).IsFinite := by
    intro r hr
    refine hreal ?_
    split
    · exact hr.neg
    · exact hr
  have hword : ∀ {n : Nat}, n < wordBound →
      ∃ m e, ofNat n = .finite false m e ∧ IsValue m e ∧ Below m e 64 := by
    intro n hn
    obtain ⟨m, e, hofNat, hm⟩ := exists_finite_ofNat (k := 63) (by decide) hn
    exact ⟨m, e, hofNat, isValue_of_ofRatio Nat.one_ne_zero hofNat, hm⟩
  have hwhole : (gather 0 whole).1 < wordBound := gather_lt (by decide) whole
  have hboth := gather_lt hwhole fraction
  -- the digits are gathered into a word, and what is left of the number is a power of ten
  have hfinish : ∀ {power : Int} {v : Value},
      ((scaled 8 (ofNat (gather (gather 0 whole).1 fraction).1) power).map fun r =>
        Value.real (if negative then r.neg else r)) = some v → v.IsFinite := by
    intro power v hv
    obtain ⟨r, hr, rfl⟩ := Option.map_eq_some_iff.mp hv
    obtain ⟨m, e, hofNat, hvalue, hm⟩ := hword hboth
    rw [hofNat] at hr
    exact hsigned (isFiniteReal_scaled hvalue hm (by decide) hr)
  simp only [numberValue] at h
  split at h
  · split at h
    · split at h
      · cases h
        obtain ⟨m, e, hofNat, hvalue, -⟩ := hword hwhole
        rw [hofNat]
        exact .real true hvalue
      · cases h
        exact .integer (by rwa [Int.natAbs_neg])
    · cases h
      exact .integer hwhole
  · split at h
    · exact hfinish h
    · split at h
      · split at h
        · cases h
        · cases h
          refine hreal ?_
          split
          · exact isFiniteReal_zero.neg
          · exact isFiniteReal_zero
      · exact hfinish h

theorem isFinite_number {negative : Bool} {cs rest : List Char} {v : Value}
    (h : number negative cs = some (v, rest)) : v.IsFinite := by
  have hparts : ∀ {whole fraction cs : List Char},
      (exponent cs >>= fun e => numberValue negative whole fraction e.1 >>= fun v =>
        pure (v, e.2)) = some (v, rest) → v.IsFinite := by
    intro whole fraction cs h
    obtain ⟨e, -, h⟩ := Option.bind_eq_some_iff.mp h
    obtain ⟨w, hw, h⟩ := Option.bind_eq_some_iff.mp h
    cases h
    exact isFinite_numberValue hw
  simp only [number] at h
  split at h
  · cases h
  · split at h
    · split at h
      · cases h
      · exact hparts h
    · exact hparts h

/-! ## Documents -/

theorem isFinite_literal {text cs rest : List Char} {v w : Value} (hv : v.IsFinite)
    (h : literal text v cs = some (w, rest)) : w.IsFinite := by
  rw [literal] at h
  split at h
  · cases h
    exact hv
  · cases h

/-- A step that reads values reads finite ones. -/
def ReadsFinite (step : Step Value) : Prop :=
  ∀ cs v rest, step cs = some (v, rest) → v.IsFinite

theorem isFinite_elements {step : Step Value} (hstep : ReadsFinite step) (fuel : Nat)
    {acc vs : List Value} {cs rest : List Char} (hacc : ∀ v ∈ acc, v.IsFinite)
    (h : elements step fuel acc cs = some (vs, rest)) : ∀ v ∈ vs, v.IsFinite := by
  induction fuel generalizing acc cs with
  | zero => cases h
  | succ fuel ih =>
    rw [elements] at h
    obtain ⟨⟨v, rest₁⟩, hv, h⟩ := Option.bind_eq_some_iff.mp h
    have hacc' : ∀ w ∈ v :: acc, w.IsFinite :=
      List.forall_mem_cons.mpr ⟨hstep cs v rest₁ hv, hacc⟩
    dsimp only at h
    split at h
    · exact ih hacc' h
    · cases h
      exact fun w hw => hacc' w (List.mem_reverse.mp hw)
    · cases h

theorem isFinite_fields {step : Step Value} (hstep : ReadsFinite step) (fuel : Nat)
    {acc fs : List (String × Value)} {cs rest : List Char} (hacc : ∀ f ∈ acc, f.2.IsFinite)
    (h : fields step fuel acc cs = some (fs, rest)) : ∀ f ∈ fs, f.2.IsFinite := by
  induction fuel generalizing acc cs with
  | zero => cases h
  | succ fuel ih =>
    rw [fields] at h
    split at h
    · obtain ⟨⟨k, rest₁⟩, -, h⟩ := Option.bind_eq_some_iff.mp h
      dsimp only at h
      split at h
      · rename_i rest₂ _
        obtain ⟨⟨v, rest₃⟩, hv, h⟩ := Option.bind_eq_some_iff.mp h
        have hacc' : ∀ f ∈ (k, v) :: acc, f.2.IsFinite :=
          List.forall_mem_cons.mpr ⟨hstep rest₂ v rest₃ hv, hacc⟩
        dsimp only at h
        split at h
        · exact ih hacc' h
        · cases h
          exact fun f hf => hacc' f (List.mem_reverse.mp hf)
        · cases h
      · cases h
    · cases h

theorem readsFinite_value (depth : Nat) : ReadsFinite (value depth) := by
  induction depth using Nat.strongRecOn with
  | ind depth ih =>
    intro cs v rest h
    rw [value.eq_def] at h
    dsimp only at h
    split at h
    · exact isFinite_literal .null h
    · exact isFinite_literal (.bool true) h
    · exact isFinite_literal (.bool false) h
    · obtain ⟨⟨s, rest⟩, -, h⟩ := Option.map_eq_some_iff.mp h
      cases h
      exact .string s
    · exact isFinite_number h
    · split at h
      · cases h
      · split at h
        · cases h
          exact .array fun v hv => absurd hv List.not_mem_nil
        · obtain ⟨⟨vs, rest⟩, hvs, h⟩ := Option.map_eq_some_iff.mp h
          cases h
          exact .array (isFinite_elements (ih _ (Nat.lt_succ_self _)) _
            (fun v hv => absurd hv List.not_mem_nil) hvs)
    · split at h
      · cases h
      · split at h
        · cases h
          exact .object fun f hf => absurd hf List.not_mem_nil
        · obtain ⟨⟨fs, rest⟩, hfs, h⟩ := Option.map_eq_some_iff.mp h
          cases h
          exact .object (isFinite_fields (ih _ (Nat.lt_succ_self _)) _
            (fun f hf => absurd hf List.not_mem_nil) hfs)
    · exact isFinite_number h

/-- **All reals of a document are finite.** -/
theorem isFinite_of_ofText? {cs : List Char} {v : Value} (h : Value.ofText? cs = some v) :
    v.IsFinite := by
  rw [Value.ofText?] at h
  split at h
  · rename_i w rest hw
    split at h
    · cases h
      exact readsFinite_value depthLimit cs _ rest hw
    · cases h
  · cases h

end ModuleBundler.Json
