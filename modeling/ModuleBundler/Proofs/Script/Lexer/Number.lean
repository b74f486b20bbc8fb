import ModuleBundler.Number.Shortest
import ModuleBundler.Proofs.Number.Rounding
import ModuleBundler.Proofs.Script.Lexer.Tokens

/-!
Numbers that are scanned as they were written. A number in its written form is digits with a point,
more digits and an exponent as far as there are any (`Numeral`), and a script gives it the value
nearest to what all of its digits write, provided that something follows which ends the number
(`scans_scanNumber`).

The texts of integers and of finite values are such numbers. So what is printed as the shortest
decimal of a value is scanned as the value of that decimal (`exists_text_scientific`), however its
digits are spread over the number: with zeros put after them or before them, or with an exponent.
-/

set_option autoImplicit false

namespace ModuleBundler.Script

/-! ## Digits -/

theorem value_map_decimalValue (cs : List Char) :
    Digits.value 10 (cs.map Text.decimalValue) = Nat.ofDigitChars 10 cs 0 := by
  rw [Nat.ofDigitChars_eq_foldl, Digits.value, List.foldl_map]
  congr 1
  funext n c
  rw [Nat.mul_comm, Text.decimalValue]

theorem ofDigitChars_lt {cs : List Char} (hcs : ∀ c ∈ cs, Text.isAsciiDigit c = true) :
    Nat.ofDigitChars 10 cs 0 < 10 ^ cs.length := by
  induction cs with
  | nil => exact Nat.one_pos
  | cons c cs ih =>
    obtain ⟨hc, hcs⟩ := List.forall_mem_cons.mp hcs
    have hlt := ih hcs
    have hdigit := decimalValue_lt hc
    rw [Nat.ofDigitChars_cons, Nat.ofDigitChars_eq_ofDigitChars_zero, Nat.mul_zero, Nat.zero_add,
      List.length_cons, Nat.pow_succ]
    rw [Text.decimalValue] at hdigit
    have hle : 10 ^ cs.length * (c.toNat - '0'.toNat) ≤ 10 ^ cs.length * 9 :=
      Nat.mul_le_mul_left _ (by omega)
    omega

/-- Cutting off powers of ten does not change the value that is nearest. -/
theorem nearest_eq_ofDecimal {cs : List Char} (hcs : ∀ c ∈ cs, Text.isAsciiDigit c = true)
    (power : Int) :
    Token.nearest (cs.map Text.decimalValue) power =
      .ofDecimal false (Nat.ofDigitChars 10 cs 0) power := by
  have hlt := ofDigitChars_lt hcs
  simp only [Token.nearest, value_map_decimalValue, List.length_map, Token.powerLimit]
  by_cases hzero : Nat.ofDigitChars 10 cs 0 = 0
  · rw [if_pos hzero, hzero, Binary64.ofDecimal_zero]
    rfl
  · rw [if_neg hzero]
    by_cases hlarge : (400 + cs.length : Int) < power
    · rw [Binary64.ofDecimal_of_large false hzero (by omega),
        Binary64.ofDecimal_of_large false hzero (by omega)]
    · by_cases hsmall : power < -(400 + cs.length : Int)
      · rw [Binary64.ofDecimal_of_small false hlt (by push_cast; omega),
          Binary64.ofDecimal_of_small false hlt (by omega)]
      · congr 1
        push_cast
        omega

/-! ## Numbers as they are written -/

/-- A number as it is written, without a sign: digits, digits after a point if there are any, and
an exponent. The leading digit is a zero only if it stands alone. -/
structure Numeral where
  whole : List Char
  fraction : List Char
  exponent : Option (Bool × List Char)
  whole_digits : ∀ c ∈ whole, Text.isAsciiDigit c = true
  whole_ne_nil : whole ≠ []
  leading : whole.head? = some '0' → whole.length = 1
  fraction_digits : ∀ c ∈ fraction, Text.isAsciiDigit c = true
  exponent_digits : ∀ e ∈ exponent, e.2 ≠ [] ∧ ∀ c ∈ e.2, Text.isAsciiDigit c = true

namespace Numeral

/-- The text of an exponent. -/
def exponentText : Option (Bool × List Char) → List Char
  | none => []
  | some (down, digits) => 'e' :: (if down then ['-'] else []) ++ digits

/-- The text of a number. -/
def text (n : Numeral) : List Char :=
  n.whole ++ ((if n.fraction.isEmpty then [] else '.' :: n.fraction) ++ exponentText n.exponent)

/-- The value of an exponent. -/
def exponentValue : Option (Bool × List Char) → Int
  | none => 0
  | some (down, digits) =>
    let e : Int := Nat.ofDigitChars 10 digits 0
    if down then -e else e

/-- The value nearest to what all of the digits write. -/
def value (n : Numeral) : Binary64 :=
  .ofDecimal false (Nat.ofDigitChars 10 (n.whole ++ n.fraction) 0)
    (exponentValue n.exponent - n.fraction.length)

/-- A number begins with a digit. -/
theorem exists_text_eq_cons (n : Numeral) :
    ∃ c rest, n.text = c :: rest ∧ Text.isAsciiDigit c = true := by
  obtain ⟨d, ds, hwhole⟩ := List.exists_cons_of_ne_nil n.whole_ne_nil
  have hd := n.whole_digits d (by rw [hwhole]; exact List.mem_cons_self)
  exact ⟨d, _, by rw [text, hwhole, List.cons_append], hd⟩

end Numeral

/-- A character that closes something or ends a statement or a line, or a comma. -/
def isCloser (c : Char) : Bool := [',', ']', '\x7d', ')', ';', '\n'].contains c

/-- The text goes on with such a character. -/
def EndsToken (cs : List Char) : Prop := ∀ c ∈ cs.head?, isCloser c = true

theorem isCloser_iff {c : Char} : isCloser c = true ↔
    c = ',' ∨ c = ']' ∨ c = '\x7d' ∨ c = ')' ∨ c = ';' ∨ c = '\n' := by
  simp [isCloser]

theorem EndsToken.endsDigits {cs : List Char} (hcs : EndsToken cs) : EndsDigits 10 cs := by
  intro c hc
  rcases isCloser_iff.mp (hcs c hc) with rfl | rfl | rfl | rfl | rfl | rfl <;> decide

namespace Numeral

/-! ### Scanning -/

theorem endsDigits_exponentText (e : Option (Bool × List Char)) {cs : List Char}
    (hcs : EndsToken cs) : EndsDigits 10 (exponentText e ++ cs) := by
  cases e with
  | none => exact hcs.endsDigits
  | some e =>
    intro c hc
    cases hc
    decide

theorem scans_scanExponent {e : Option (Bool × List Char)} {cs : List Char}
    (he : ∀ d ∈ e, d.2 ≠ [] ∧ ∀ c ∈ d.2, Text.isAsciiDigit c = true) (hcs : EndsToken cs) :
    Scans Token.scanExponent (exponentText e ++ cs) (exponentValue e) cs := by
  refine (Scans.next? _).bind ?_
  cases e with
  | none =>
    rw [exponentText, List.nil_append, exponentValue]
    cases cs with
    | nil => exact .pure 0 _
    | cons c cs =>
      have hc : ¬ (decide (c = 'e') || decide (c = 'E')) = true := by
        rcases isCloser_iff.mp (hcs c rfl) with rfl | rfl | rfl | rfl | rfl | rfl <;> decide
      simp only [List.head?_cons, if_neg hc]
      exact .pure 0 _
  | some e =>
    obtain ⟨down, digits⟩ := e
    obtain ⟨hne, hdigits⟩ := he _ rfl
    have htake : ∀ start, Scans (do
        let ds ← Digits.take 10
        if ds.isEmpty then Scan.failAt (.expectedDigit 10) start
        return ds) (digits ++ cs) (digits.map Text.decimalValue) cs := by
      intro start
      refine (scans_take_decimal hdigits hcs.endsDigits).bind ?_
      rw [if_neg (by rw [List.isEmpty_iff, List.map_eq_nil_iff]; exact hne)]
      exact .pure _ cs
    have hsome : Scans (Digits.takeSome 10) (digits ++ cs) (digits.map Text.decimalValue) cs :=
      .ofPosition htake
    refine (Scans.skip 1 _).bind ((Scans.next? _).bind ?_)
    cases down with
    | true =>
      refine (Scans.skip 1 _).bind (hsome.bind ?_)
      simp only [exponentValue, value_map_decimalValue]
      exact .pure _ cs
    | false =>
      -- an exponent upwards is written without a sign
      obtain ⟨d, ds, rfl⟩ := List.exists_cons_of_ne_nil hne
      have hd := hdigits d List.mem_cons_self
      have hplus : d ≠ '+' := by rintro rfl; exact absurd hd (by decide)
      have hminus : d ≠ '-' := by rintro rfl; exact absurd hd (by decide)
      have hsign : ¬ (decide (d = '+') || decide (d = '-')) = true := by
        rw [Bool.or_eq_true, decide_eq_true_eq, decide_eq_true_eq, not_or]
        exact ⟨hplus, hminus⟩
      change Scans (do
        if (decide (d = '+') || decide (d = '-')) = true then Scan.skip 1
        let e : Int := Digits.value 10 (← Digits.takeSome 10)
        return if d = '-' then -e else e) _ _ _
      rw [if_neg hsign]
      refine hsome.bind ?_
      simp only [exponentValue, value_map_decimalValue, if_neg hminus]
      exact .pure _ cs

theorem scans_endNumber (t : Token) {cs : List Char} (hcs : EndsToken cs) :
    Scans (Token.endNumber t) cs t cs := by
  refine (Scans.next? cs).bind ?_
  cases cs with
  | nil => exact .pure t _
  | cons c cs =>
    have hc : ¬ Text.isNameStart c = true := by
      rcases isCloser_iff.mp (hcs c rfl) with rfl | rfl | rfl | rfl | rfl | rfl <;> decide
    simp only [List.head?_cons, if_neg hc]
    exact .pure t _

theorem scans_scanFraction (n : Numeral) {cs : List Char} (hcs : EndsToken cs) :
    Scans Token.scanFraction
      ((if n.fraction.isEmpty then [] else '.' :: n.fraction) ++ (exponentText n.exponent ++ cs))
      (n.fraction.map Text.decimalValue) (exponentText n.exponent ++ cs) := by
  have hends := endsDigits_exponentText n.exponent hcs
  by_cases hempty : n.fraction.isEmpty = true
  · rw [if_pos hempty, List.nil_append, List.isEmpty_iff.mp hempty]
    refine (Scans.accept_other ?_).bind (.pure _ _)
    intro hpoint
    cases he : n.exponent with
    | none =>
      rw [he] at hpoint
      exact absurd (hcs '.' hpoint) (by decide)
    | some e =>
      rw [he] at hpoint
      cases hpoint
  · rw [if_neg hempty]
    exact (Scans.accept_self '.' _).bind (scans_take_decimal n.fraction_digits hends)

/-- What follows the digits before the point, if anything does. -/
def FollowsWhole (c : Char) : Prop := c = '.' ∨ c = 'e' ∨ isCloser c = true

theorem followsWhole_head? (n : Numeral) {cs : List Char} (hcs : EndsToken cs) {c : Char}
    (hc : c ∈ ((if n.fraction.isEmpty then [] else '.' :: n.fraction) ++
      (exponentText n.exponent ++ cs)).head?) : FollowsWhole c := by
  split at hc
  · cases he : n.exponent with
    | none =>
      rw [he] at hc
      exact .inr (.inr (hcs c hc))
    | some e =>
      rw [he] at hc
      cases hc
      exact .inr (.inl rfl)
  · cases hc
    exact .inl rfl

theorem FollowsWhole.not_mem {c : Char} (hc : FollowsWhole c) :
    c ∉ ['n', 'x', 'X', 'o', 'O', 'b', 'B'] := by
  rcases hc with rfl | rfl | hc
  · decide
  · decide
  · rcases isCloser_iff.mp hc with rfl | rfl | rfl | rfl | rfl | rfl <;> decide

theorem endsDigits_whole (n : Numeral) {cs : List Char} (hcs : EndsToken cs) :
    EndsDigits 10
      ((if n.fraction.isEmpty then [] else '.' :: n.fraction) ++
        (exponentText n.exponent ++ cs)) := by
  intro c hc
  rcases n.followsWhole_head? hcs hc with rfl | rfl | hc
  · decide
  · decide
  · rcases isCloser_iff.mp hc with rfl | rfl | rfl | rfl | rfl | rfl <;> decide

theorem scans_scanTail (n : Numeral) {cs : List Char} (hcs : EndsToken cs) :
    Scans (Token.scanTail (n.whole.map Text.decimalValue))
      ((if n.fraction.isEmpty then [] else '.' :: n.fraction) ++ (exponentText n.exponent ++ cs))
      (.number n.value) cs := by
  refine (n.scans_scanFraction hcs).bind ((scans_scanExponent n.exponent_digits hcs).bind ?_)
  have hdigits : ∀ c ∈ n.whole ++ n.fraction, Text.isAsciiDigit c = true := fun c hc =>
    (List.mem_append.mp hc).elim (n.whole_digits c) (n.fraction_digits c)
  rw [← List.map_append, List.length_map, nearest_eq_ofDecimal hdigits]
  exact scans_endNumber _ hcs

theorem scans_scanDecimal (strict : Bool) (n : Numeral) {cs : List Char} (hcs : EndsToken cs) :
    Scans (Token.scanDecimal strict) (n.text ++ cs) (.number n.value) cs := by
  rw [text, List.append_assoc, List.append_assoc]
  refine .ofPosition fun start => ?_
  refine ((scans_take_decimal n.whole_digits (n.endsDigits_whole hcs)).taken).bind ?_
  refine (Scans.accept_other ?_).bind ?_
  · intro hn
    exact (n.followsWhole_head? hcs hn).not_mem (by decide)
  · have hleading : ¬ (n.whole.head? == some '0' && decide (1 < n.whole.length)) = true := by
      rw [Bool.and_eq_true, beq_iff_eq, decide_eq_true_eq]
      rintro ⟨hzero, hlong⟩
      rw [n.leading hzero] at hlong
      exact Nat.lt_irrefl 1 hlong
    simp only [if_neg hleading]
    exact n.scans_scanTail hcs

/-- **A written number is scanned as a number token** of the value that its digits write. -/
theorem scans_scanNumber (strict : Bool) (n : Numeral) {cs : List Char} (hcs : EndsToken cs) :
    Scans (Token.scanNumber strict) (n.text ++ cs) (.number n.value) cs := by
  refine (Scans.rest _).bind ?_
  have hdecimal := n.scans_scanDecimal strict hcs
  obtain ⟨d, ds, hwhole⟩ := List.exists_cons_of_ne_nil n.whole_ne_nil
  have hd := n.whole_digits d (by rw [hwhole]; exact List.mem_cons_self)
  split
  · rename_i h
    rw [text, hwhole] at h
    cases h
    exact absurd hd (by decide)
  · rename_i c rest h
    -- a leading zero stands alone, so no mark of a radix follows it
    have hc : FollowsWhole c := by
      rw [text, hwhole, List.cons_append, List.cons_append, List.cons.injEq] at h
      obtain ⟨rfl, htail⟩ := h
      have hone := n.leading (by rw [hwhole, List.head?_cons])
      rw [hwhole, List.length_cons, Nat.add_eq_right, List.length_eq_zero_iff] at hone
      rw [hone, List.nil_append, List.append_assoc] at htail
      exact n.followsWhole_head? hcs (by rw [htail, List.head?_cons]; rfl)
    have hmark := hc.not_mem
    simp only [List.mem_cons, List.not_mem_nil, or_false, not_or] at hmark
    obtain ⟨-, hx, hX, ho, hO, hb, hB⟩ := hmark
    simp only [hx, hX, ho, hO, hb, hB, decide_false, Bool.or_self, Bool.false_eq_true, if_false]
    exact hdecimal
  · exact hdecimal

end Numeral

/-! ## Texts of numbers -/

theorem isAsciiDigit_of_mem_toDigits {n : Nat} {c : Char} (hc : c ∈ Nat.toDigits 10 n) :
    Text.isAsciiDigit c = true := by
  have hdigit := Nat.isDigit_of_mem_toDigits (by decide) (by decide) hc
  rw [Char.isDigit, Bool.and_eq_true, decide_eq_true_eq, decide_eq_true_eq] at hdigit
  rw [Text.isAsciiDigit, Bool.and_eq_true, decide_eq_true_eq, decide_eq_true_eq]
  exact hdigit

/-- A number that is not zero has no leading zero. -/
theorem head?_toDigits_ne_zero {n : Nat} (hn : n ≠ 0) : (Nat.toDigits 10 n).head? ≠ some '0' := by
  induction n using Nat.strongRecOn with
  | ind n ih =>
    by_cases hlt : n < 10
    · rw [Nat.toDigits_of_lt_base hlt, List.head?_cons, Ne, Option.some.injEq,
        Nat.digitChar_eq_zero]
      exact hn
    · rw [Nat.toDigits_of_base_le (by decide) (by omega),
        List.head?_append_of_ne_nil _ Nat.toDigits_ne_nil]
      exact ih (n / 10) (by omega) (by omega)

theorem length_toDigits_of_head? {n : Nat} (h : (Nat.toDigits 10 n).head? = some '0') :
    (Nat.toDigits 10 n).length = 1 := by
  by_cases hn : n = 0
  · rw [hn]
    rfl
  · exact absurd h (head?_toDigits_ne_zero hn)

namespace Numeral

/-- A natural number as it is written. -/
def ofNat (n : Nat) : Numeral where
  whole := Nat.toDigits 10 n
  fraction := []
  exponent := none
  whole_digits _ := isAsciiDigit_of_mem_toDigits
  whole_ne_nil := Nat.toDigits_ne_nil
  leading := length_toDigits_of_head?
  fraction_digits := by simp
  exponent_digits := nofun

theorem text_ofNat (n : Nat) : (ofNat n).text = Text.decimal n := List.append_nil _

theorem value_ofNat (n : Nat) : (ofNat n).value = .ofNat n := by
  rw [value, ofNat, List.append_nil, Nat.ofDigitChars_ten_toDigits]
  exact congrArg (Binary64.ofRatio false · 1) (Nat.mul_one n)

theorem isAsciiDigit_of_mem_replicate {k : Nat} {c : Char} (hc : c ∈ List.replicate k '0') :
    Text.isAsciiDigit c = true := by
  rw [List.eq_of_mem_replicate hc]
  decide

/-- A decimal without places is written with its digits and zeros after them. -/
theorem exists_text_whole (d : Binary64.Decimal) (hpower : 0 ≤ d.power) :
    ∃ n : Numeral, n.fraction = [] ∧ n.exponent = none ∧ d.plain = n.text ∧
      n.value = .ofDecimal false d.digits d.power := by
  obtain ⟨p, hp⟩ := Int.eq_ofNat_of_zero_le hpower
  have hne : Nat.toDigits 10 d.digits ≠ [] := Nat.toDigits_ne_nil
  -- zero has no zeros put after it
  generalize hk : (if d.digits = 0 then 0 else p) = k
  have hplain : d.plain = Nat.toDigits 10 d.digits ++ List.replicate k '0' := by
    rw [Binary64.Decimal.plain, if_pos hpower, ← hk, hp, Int.toNat_natCast]
    split
    · rw [List.replicate_zero, List.append_nil]
    · rfl
  refine ⟨{
    whole := Nat.toDigits 10 d.digits ++ List.replicate k '0'
    fraction := []
    exponent := none
    whole_digits := fun c hc => (List.mem_append.mp hc).elim isAsciiDigit_of_mem_toDigits
      isAsciiDigit_of_mem_replicate
    whole_ne_nil := List.append_ne_nil_of_left_ne_nil hne _
    leading := ?_
    fraction_digits := by simp
    exponent_digits := nofun }, rfl, rfl, ?_, ?_⟩
  · intro hhead
    rw [List.head?_append_of_ne_nil _ hne] at hhead
    have hzero : d.digits = 0 := not_not.mp fun h => head?_toDigits_ne_zero h hhead
    rw [List.length_append, length_toDigits_of_head? hhead, List.length_replicate, ← hk,
      if_pos hzero]
  · rw [hplain]
    exact (List.append_nil _).symm
  · have hnumber : Nat.ofDigitChars 10
        (Nat.toDigits 10 d.digits ++ List.replicate k '0') 0 = d.digits * tenTo k := by
      rw [Nat.ofDigitChars_append, Nat.ofDigitChars_ten_toDigits, Nat.ofDigitChars_replicate_zero,
        Nat.mul_comm]
      rfl
    simp only [value, exponentValue, List.append_nil, hnumber]
    by_cases hzero : d.digits = 0
    · rw [hzero, Nat.zero_mul, Binary64.ofDecimal_zero, Binary64.ofDecimal_zero]
    · have hpk : p = k := by rw [← hk, if_neg hzero]
      rw [← Binary64.ofDecimal_mul_tenTo false d.digits k, hp, hpk]
      congr 1
      rw [List.length_nil, sub_self]
      rfl

/-- A number with a point and a zero after it is the same number. -/
theorem exists_text_point (n : Numeral) (hfraction : n.fraction = [])
    (hexponent : n.exponent = none) :
    ∃ n' : Numeral, n.text ++ ['.', '0'] = n'.text ∧ n'.value = n.value := by
  refine ⟨{ n with
    fraction := ['0']
    fraction_digits := List.forall_mem_singleton.mpr (by decide) }, ?_, ?_⟩
  · simp [text, hfraction, hexponent, exponentText]
  · have hdigits : Nat.ofDigitChars 10 (n.whole ++ ['0']) 0 =
        Nat.ofDigitChars 10 n.whole 0 * tenTo 1 := by
      rw [Nat.ofDigitChars_append]
      exact Nat.mul_comm _ _
    simp only [value, hfraction, hexponent, exponentValue, hdigits, List.append_nil]
    exact Binary64.ofDecimal_mul_tenTo false _ 1 _

/-- A decimal with places is written with as many digits after the point. -/
theorem exists_text_fractional (d : Binary64.Decimal) (hpower : ¬ 0 ≤ d.power) :
    ∃ n : Numeral, d.plain = n.text ∧ n.value = .ofDecimal false d.digits d.power := by
  obtain ⟨p, hp⟩ := Int.eq_ofNat_of_zero_le (show 0 ≤ -d.power by omega)
  generalize hds : Nat.toDigits 10 d.digits = ds
  generalize hzeros : p + 1 - ds.length = zeros
  generalize hfull : List.replicate zeros '0' ++ ds = full
  have hplain : d.plain = full.take (full.length - p) ++ '.' :: full.drop (full.length - p) := by
    simp only [Binary64.Decimal.plain, if_neg hpower, hp, Int.toNat_natCast, hds, hzeros, hfull]
  have hlength : full.length = zeros + ds.length := by
    rw [← hfull, List.length_append, List.length_replicate]
  have hdigits : ∀ c ∈ full, Text.isAsciiDigit c = true := by
    intro c hc
    rw [← hfull, ← hds, List.mem_append] at hc
    exact hc.elim isAsciiDigit_of_mem_replicate isAsciiDigit_of_mem_toDigits
  refine ⟨{
    whole := full.take (full.length - p)
    fraction := full.drop (full.length - p)
    exponent := none
    whole_digits := fun c hc => hdigits c (List.mem_of_mem_take hc)
    whole_ne_nil := ?_
    leading := ?_
    fraction_digits := fun c hc => hdigits c (List.mem_of_mem_drop hc)
    exponent_digits := nofun }, ?_, ?_⟩
  · rw [← List.length_pos_iff, List.length_take]
    omega
  · intro hhead
    rw [List.length_take]
    by_cases hzero : zeros = 0
    · -- the leading digit is that of the number, which is zero if it is a zero
      rw [List.head?_take, if_neg (by omega), ← hfull, hzero, List.replicate_zero,
        List.nil_append, ← hds] at hhead
      have hone := length_toDigits_of_head? hhead
      rw [hds] at hone
      omega
    · omega
  · have hplaces : (full.drop (full.length - p)).isEmpty = false := by
      rw [List.isEmpty_eq_false_iff, Ne, List.drop_eq_nil_iff]
      omega
    simp only [hplain, text, exponentText, hplaces, List.append_nil, Bool.false_eq_true, if_false]
  · have hnumber : Nat.ofDigitChars 10 full 0 = d.digits := by
      rw [← hfull, ← hds, Nat.ofDigitChars_append, Nat.ofDigitChars_replicate_zero, Nat.mul_zero,
        Nat.ofDigitChars_ten_toDigits]
    simp only [value, exponentValue, List.take_append_drop, List.length_drop, hnumber]
    congr 1
    omega

/-- **A plain text is a number** of the value that its decimal is nearest to. -/
theorem exists_text_plain (d : Binary64.Decimal) :
    ∃ n : Numeral, d.plain = n.text ∧ n.value = .ofDecimal false d.digits d.power := by
  by_cases hpower : 0 ≤ d.power
  · obtain ⟨n, -, -, htext, hvalue⟩ := exists_text_whole d hpower
    exact ⟨n, htext, hvalue⟩
  · exact exists_text_fractional d hpower

/-- A decimal without places is written with a point and a zero after it. -/
theorem exists_text_integral (d : Binary64.Decimal) (hpower : 0 ≤ d.power) :
    ∃ n : Numeral, d.plain ++ ['.', '0'] = n.text ∧
      n.value = .ofDecimal false d.digits d.power := by
  obtain ⟨n, hfraction, hexponent, htext, hvalue⟩ := exists_text_whole d hpower
  obtain ⟨n', htext', hvalue'⟩ := exists_text_point n hfraction hexponent
  exact ⟨n', htext ▸ htext', hvalue'.trans hvalue⟩

/-- A decimal that is written with an exponent. -/
theorem exists_text_exponent (d : Binary64.Decimal) (order : Int)
    (horder : order = d.power + (Nat.toDigits 10 d.digits).length - 1) :
    ∃ n : Numeral, (Nat.toDigits 10 d.digits).take 1 ++
        (if (Nat.toDigits 10 d.digits).length ≤ 1 then []
          else '.' :: (Nat.toDigits 10 d.digits).drop 1) ++
        'e' :: ((if order < 0 then ['-'] else []) ++ Nat.toDigits 10 order.natAbs) = n.text ∧
      n.value = .ofDecimal false d.digits d.power := by
  generalize hds : Nat.toDigits 10 d.digits = ds at horder ⊢
  have hne : ds ≠ [] := by rw [← hds]; exact Nat.toDigits_ne_nil
  have hdigits : ∀ c ∈ ds, Text.isAsciiDigit c = true := by
    rw [← hds]
    exact fun c => isAsciiDigit_of_mem_toDigits
  have hpos := List.length_pos_iff.mpr hne
  refine ⟨{
    whole := ds.take 1
    fraction := ds.drop 1
    exponent := some (decide (order < 0), Nat.toDigits 10 order.natAbs)
    whole_digits := fun c hc => hdigits c (List.mem_of_mem_take hc)
    whole_ne_nil := by simp [hne]
    leading := fun _ => by rw [List.length_take]; omega
    fraction_digits := fun c hc => hdigits c (List.mem_of_mem_drop hc)
    exponent_digits := by
      rintro e ⟨⟩
      exact ⟨Nat.toDigits_ne_nil, fun c => isAsciiDigit_of_mem_toDigits⟩ }, ?_, ?_⟩
  · simp only [text, exponentText, List.append_assoc, List.isEmpty_iff, List.drop_eq_nil_iff,
      decide_eq_true_eq, List.cons_append]
  · have hexponent : exponentValue (some (decide (order < 0), Nat.toDigits 10 order.natAbs)) =
        order := by
      simp only [exponentValue, Nat.ofDigitChars_ten_toDigits, decide_eq_true_eq]
      omega
    rw [value]
    simp only [hexponent, List.take_append_drop, List.length_drop]
    rw [← hds, Nat.ofDigitChars_ten_toDigits, hds]
    congr 1
    omega

/-- **The text of a finite value is its shortest decimal**, written as a number. -/
theorem exists_text_scientific (negative : Bool) (m : Nat) (e : Int) :
    ∃ n : Numeral, (Binary64.finite negative m e).scientific =
        (if negative then ['-'] else []) ++ n.text ∧
      n.value = .ofDecimal false (Binary64.shortest m e).digits (Binary64.shortest m e).power := by
  generalize hd : Binary64.shortest m e = d
  generalize horder : d.power + (Nat.toDigits 10 d.digits).length - 1 = order
  by_cases hm : m = 0
  · obtain ⟨n, htext, hvalue⟩ := exists_text_integral ⟨0, 0⟩ (Int.le_refl 0)
    refine ⟨n, ?_, ?_⟩
    · rw [← htext]
      simp only [Binary64.scientific, if_pos hm]
      rfl
    · rw [Binary64.shortest, if_pos hm] at hd
      rw [hvalue, ← hd]
  · by_cases hpositional :
        Binary64.leastPositional ≤ order ∧ order < Binary64.positionalBound
    · have hscientific : (Binary64.finite negative m e).scientific =
          (if negative then ['-'] else []) ++
            (d.plain ++ if 0 ≤ d.power then ['.', '0'] else []) := by
        simp only [Binary64.scientific, hd, if_neg hm, horder, if_pos hpositional,
          List.append_assoc]
      by_cases hpower : 0 ≤ d.power
      · obtain ⟨n, htext, hvalue⟩ := exists_text_integral d hpower
        exact ⟨n, by rw [hscientific, if_pos hpower, htext], hvalue⟩
      · obtain ⟨n, htext, hvalue⟩ := exists_text_fractional d hpower
        exact ⟨n, by rw [hscientific, if_neg hpower, List.append_nil, htext], hvalue⟩
    · obtain ⟨n, htext, hvalue⟩ := exists_text_exponent d order horder.symm
      refine ⟨n, ?_, hvalue⟩
      rw [← htext]
      simp only [Binary64.scientific, hd, if_neg hm, horder, if_neg hpositional,
        List.append_assoc]

end Numeral

end ModuleBundler.Script
