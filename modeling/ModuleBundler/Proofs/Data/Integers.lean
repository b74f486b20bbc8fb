import ModuleBundler.Data.Literal
import ModuleBundler.Proofs.Number.Integers

/-!
Integers as literals. Data holds an integer, whatever type it came in; programs hold words. So the
literal of a word is also worked out here as it is done in words: a narrow word is widened to 64
bits, a signed one is taken apart into its magnitude and its sign, and the magnitude is compared
with the limit, made a number or a big integer, and given its sign back. No step of this leaves the
words it is done in, also for the least word of 64 bits, of which the magnitude is no signed word
(`IntegerWord.toNat_magnitude`). So the literal is that of the data, and it is exact
(`IntegerWord.writtenExactly`).
-/

set_option autoImplicit false

namespace ModuleBundler

open Script

/-! ## The literal of an integer -/

namespace Data

/-- The literal of an integer is the value next to it up to the limit, and the integer beyond. -/
theorem integerLiteral_eq (i : Int) :
    integerLiteral i =
      if i.natAbs ≤ exactIntegerLimit then .numberLiteral (.ofInt i) else .bigLiteral i := by
  unfold integerLiteral
  by_cases hi : i < 0
  · rw [if_pos hi, Binary64.ofInt_of_neg hi]
  · rw [if_neg hi, Binary64.ofInt_of_nonneg (not_lt.mp hi)]

theorem integerLiteral_of_le {i : Int} (h : i.natAbs ≤ exactIntegerLimit) :
    integerLiteral i = .numberLiteral (.ofInt i) := by
  rw [integerLiteral_eq, if_pos h]

theorem integerLiteral_of_lt {i : Int} (h : exactIntegerLimit < i.natAbs) :
    integerLiteral i = .bigLiteral i := by
  rw [integerLiteral_eq, if_neg (not_le.mpr h)]

theorem lt_of_le_exactIntegerLimit {n : Nat} (h : n ≤ exactIntegerLimit) : n < 2 ^ 53 := by
  rw [exactIntegerLimit] at h
  omega

/-- Different integers have different literals. -/
theorem integerLiteral_inj {i j : Int} : integerLiteral i = integerLiteral j ↔ i = j := by
  refine ⟨fun h => ?_, fun h => by rw [h]⟩
  by_cases hi : i.natAbs ≤ exactIntegerLimit
  · rw [integerLiteral_of_le hi] at h
    by_cases hj : j.natAbs ≤ exactIntegerLimit
    · rw [integerLiteral_of_le hj] at h
      exact (Binary64.ofInt_inj_of_lt (lt_of_le_exactIntegerLimit hi)
        (lt_of_le_exactIntegerLimit hj)).mp (Node.numberLiteral.inj h)
    · rw [integerLiteral_of_lt (not_le.mp hj)] at h
      cases h
  · rw [integerLiteral_of_lt (not_le.mp hi)] at h
    by_cases hj : j.natAbs ≤ exactIntegerLimit
    · rw [integerLiteral_of_le hj] at h
      cases h
    · rw [integerLiteral_of_lt (not_le.mp hj)] at h
      exact Node.bigLiteral.inj h

end Data

/-! ## Words -/

/-- A word of one of the integer types of at most 64 bits. -/
inductive IntegerWord where
  | i8 (v : Int8)
  | i16 (v : Int16)
  | i32 (v : Int32)
  | i64 (v : Int64)
  | u8 (v : UInt8)
  | u16 (v : UInt16)
  | u32 (v : UInt32)
  | u64 (v : UInt64)

namespace IntegerWord

/-- The integer that a word is. -/
def toInt : IntegerWord → Int
  | .i8 v => v.toInt
  | .i16 v => v.toInt
  | .i32 v => v.toInt
  | .i64 v => v.toInt
  | .u8 v => v.toNat
  | .u16 v => v.toNat
  | .u32 v => v.toNat
  | .u64 v => v.toNat

/-- A word as data. -/
def data (w : IntegerWord) : Data .value := .integer w.toInt

/-- A word in 64 bits, with or without sign. -/
def widened : IntegerWord → Int64 ⊕ UInt64
  | .i8 v => .inl v.toInt64
  | .i16 v => .inl v.toInt64
  | .i32 v => .inl v.toInt64
  | .i64 v => .inl v
  | .u8 v => .inr v.toUInt64
  | .u16 v => .inr v.toUInt64
  | .u32 v => .inr v.toUInt64
  | .u64 v => .inr v

/-- The integer that a word of 64 bits is. -/
def widenedInt : Int64 ⊕ UInt64 → Int
  | .inl v => v.toInt
  | .inr v => v.toNat

/-- The magnitude of a word, in 64 bits without sign. The opposite of the least signed word is this
word again, and has the right magnitude when it is read without sign. -/
def magnitude (w : IntegerWord) : UInt64 :=
  match w.widened with
  | .inl v => v.abs.toUInt64
  | .inr v => v

/-- The word has a sign and is below zero. -/
def isNegative (w : IntegerWord) : Bool :=
  match w.widened with
  | .inl v => decide (v < 0)
  | .inr _ => false

/-- The literal of a word, worked out in words up to the last step. -/
def literal (w : IntegerWord) : Expr :=
  if w.magnitude ≤ 9007199254740991 then
    let value := Binary64.ofNat w.magnitude.toNat
    .numberLiteral (if w.isNegative then value.neg else value)
  else
    let value : Int := w.magnitude.toNat
    .bigLiteral (if w.isNegative then -value else value)

/-! ## No step leaves its words -/

/-- Widening keeps the integer. -/
theorem widenedInt_widened (w : IntegerWord) : widenedInt w.widened = w.toInt := by
  cases w with
  | i8 v => exact v.toInt_toInt64
  | i16 v => exact v.toInt_toInt64
  | i32 v => exact v.toInt_toInt64
  | i64 v => rfl
  | u8 v => exact congrArg Nat.cast v.toNat_toUInt64
  | u16 v => exact congrArg Nat.cast v.toNat_toUInt64
  | u32 v => exact congrArg Nat.cast v.toNat_toUInt64
  | u64 v => rfl

/-- The magnitude of a signed word is a word without sign. -/
theorem toNat_abs_toUInt64 (v : Int64) : v.abs.toUInt64.toNat = v.toInt.natAbs := by
  -- on bits, where the opposite of the least word is not a special case
  have habs : v.abs.toUInt64.toNat = v.toBitVec.abs.toNat := rfl
  have hlt := v.toBitVec.isLt
  rw [habs, BitVec.toNat_abs, ← Int64.toInt_toBitVec, BitVec.toInt_eq_msb_cond]
  by_cases hmsb : v.toBitVec.msb = true
  · rw [if_pos hmsb, if_pos hmsb]
    omega
  · rw [if_neg hmsb, if_neg hmsb]
    omega

theorem toNat_magnitude (w : IntegerWord) : w.magnitude.toNat = w.toInt.natAbs := by
  rw [← widenedInt_widened, magnitude]
  cases w.widened with
  | inl v => exact toNat_abs_toUInt64 v
  | inr v => exact (Int.natAbs_natCast v.toNat).symm

theorem isNegative_eq (w : IntegerWord) : w.isNegative = decide (w.toInt < 0) := by
  rw [← widenedInt_widened, isNegative]
  cases w.widened with
  | inl v => exact decide_eq_decide.mpr Int64.lt_iff_toInt_lt
  | inr v => exact (decide_eq_false (not_lt.mpr (Int.natCast_nonneg v.toNat))).symm

/-- The magnitude with its sign is the integer. -/
theorem signed_natAbs (i : Int) : (if i < 0 then -(i.natAbs : Int) else i.natAbs) = i := by
  by_cases hi : i < 0
  · rw [if_pos hi]
    omega
  · rw [if_neg hi]
    omega

/-- The literal that is worked out in words is that of the integer. -/
theorem literal_eq (w : IntegerWord) : w.literal = Data.integerLiteral w.toInt := by
  have hle : w.magnitude ≤ 9007199254740991 ↔ w.toInt.natAbs ≤ Data.exactIntegerLimit := by
    rw [UInt64.le_iff_toNat_le, toNat_magnitude]
    rfl
  simp only [literal, Data.integerLiteral, hle, isNegative_eq, toNat_magnitude,
    decide_eq_true_eq, signed_natAbs]

/-! ## Exact literals -/

/-- The literal of a word's data is that of its integer. -/
theorem literal_data_eq_ok_iff {w : IntegerWord} {e : Expr} :
    w.data.literal = .ok e ↔ Data.integerLiteral w.toInt = e := by
  change (Except.ok (Data.integerLiteral w.toInt) : Except DataError Expr) = .ok e ↔ _
  rw [Except.ok.injEq]

/-- A word is written exactly: what its literal is, and that this is how it is worked out. -/
structure WrittenExactly (w : IntegerWord) : Prop where
  /-- Widening keeps the integer. -/
  widened : widenedInt w.widened = w.toInt
  /-- The magnitude is a word, also that of the least signed word. -/
  magnitude : w.magnitude.toNat = w.toInt.natAbs
  isNegative : w.isNegative = decide (w.toInt < 0)
  /-- The literal that is worked out in words is that of the data. -/
  literal : w.data.literal = .ok w.literal
  /-- The literal is a number that is the integer, exactly up to the limit. -/
  number : (∃ v, w.data.literal = .ok (.numberLiteral v) ∧ v.toRat? = some (w.toInt : ℚ)) ↔
    w.toInt.natAbs ≤ 2 ^ 53 - 1
  /-- Beyond the limit it is the big integer. -/
  big : w.data.literal = .ok (.bigLiteral w.toInt) ↔ 2 ^ 53 - 1 < w.toInt.natAbs
  /-- A number has the sign of the integer, so there is no negative zero. -/
  sign : ∀ v, w.data.literal = .ok (.numberLiteral v) → v.isNegative = decide (w.toInt < 0)

/-- The literal is a number up to the limit, and then it is the value next to the integer. -/
theorem literal_data_eq_number_iff {w : IntegerWord} {v : Binary64} :
    w.data.literal = .ok (.numberLiteral v) ↔
      w.toInt.natAbs ≤ Data.exactIntegerLimit ∧ v = .ofInt w.toInt := by
  rw [literal_data_eq_ok_iff, Data.integerLiteral_eq]
  by_cases h : w.toInt.natAbs ≤ Data.exactIntegerLimit
  · rw [if_pos h, Node.numberLiteral.injEq]
    exact ⟨fun hv => ⟨h, hv.symm⟩, fun hv => hv.2.symm⟩
  · rw [if_neg h]
    exact ⟨fun hv => (nomatch hv), fun hv => absurd hv.1 h⟩

theorem literal_data_eq_big_iff {w : IntegerWord} :
    w.data.literal = .ok (.bigLiteral w.toInt) ↔ Data.exactIntegerLimit < w.toInt.natAbs := by
  rw [literal_data_eq_ok_iff, Data.integerLiteral_eq]
  by_cases h : w.toInt.natAbs ≤ Data.exactIntegerLimit
  · rw [if_pos h]
    exact ⟨fun hv => (nomatch hv), fun hv => absurd h (not_le.mpr hv)⟩
  · rw [if_neg h]
    exact ⟨fun _ => not_le.mp h, fun _ => rfl⟩

/-- **Integers are written exactly.** For all words of all types, the literal is the integer, as a
number up to the limit and as a big integer beyond, and no step of working it out overflows; and two
words, be their types the same or not, have one literal exactly when they are one integer. -/
theorem writtenExactly :
    (∀ w : IntegerWord, w.WrittenExactly) ∧
      ∀ w w' : IntegerWord, w.data.literal = w'.data.literal ↔ w.toInt = w'.toInt := by
  have hlimit : Data.exactIntegerLimit = 2 ^ 53 - 1 := rfl
  refine ⟨fun w => ⟨w.widenedInt_widened, w.toNat_magnitude, w.isNegative_eq,
    literal_data_eq_ok_iff.mpr w.literal_eq.symm, ?_, ?_, ?_⟩, fun w w' => ?_⟩
  · rw [← hlimit]
    constructor
    · rintro ⟨v, hv, -⟩
      exact (literal_data_eq_number_iff.mp hv).1
    · intro h
      exact ⟨.ofInt w.toInt, literal_data_eq_number_iff.mpr ⟨h, rfl⟩,
        Binary64.toRat?_ofInt (Data.lt_of_le_exactIntegerLimit h)⟩
  · rw [← hlimit]
    exact literal_data_eq_big_iff
  · intro v hv
    rw [(literal_data_eq_number_iff.mp hv).2]
    exact Binary64.isNegative_ofInt w.toInt
  · constructor
    · intro h
      have hw : w.data.literal = .ok (Data.integerLiteral w.toInt) := rfl
      rw [h, literal_data_eq_ok_iff] at hw
      exact (Data.integerLiteral_inj.mp hw).symm
    · intro h
      rw [data, data, h]

/-- The least signed word is 2 ^ 63 below zero. -/
example : (IntegerWord.i64 Int64.minValue).literal = .bigLiteral (-9223372036854775808) := by
  decide

end IntegerWord

end ModuleBundler
