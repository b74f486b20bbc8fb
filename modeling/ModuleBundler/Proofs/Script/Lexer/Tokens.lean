import ModuleBundler.Json.Value
import ModuleBundler.Proofs.Script.Lexer.Scanning
import ModuleBundler.Script.LiteralText

/-!
Tokens that are scanned as they were written: words, punctuators of one character, runs of digits,
and strings in quotes. Documents and printed scripts escape different characters of a string, and in
different ways; either way each character is written as itself or as an escape that is scanned as
it, so a quoted string is scanned as the string (`scans_quoted`).
-/

set_option autoImplicit false

namespace ModuleBundler.Script

/-! ## Words -/

/-- A character that a word goes on with as it is. -/
def isPlainInWord (c : Char) : Bool := Token.continuesWord c && c != '\\'

theorem scans_scanWordBody {w cs : List Char} (hw : ∀ c ∈ w, isPlainInWord c = true)
    (hcs : ∀ c ∈ cs.head?, Token.continuesWord c = false ∧ c ≠ '\\') (escaped : Bool)
    (fuel : Nat) (hfuel : w.length < fuel) (name : List Char) :
    Scans (Token.scanWordBody fuel name escaped) (w ++ cs) (w.reverse ++ name, escaped) cs := by
  induction w generalizing fuel name with
  | nil =>
    obtain ⟨fuel, rfl⟩ := Nat.exists_eq_add_of_lt hfuel
    refine .ofPosition fun start => (Scans.rest _).bind ?_
    cases cs with
    | nil => exact .pure _ _
    | cons c cs =>
      obtain ⟨hc, hslash⟩ := hcs c rfl
      rw [List.nil_append]
      split
      · rename_i h
        exact absurd (List.cons.inj h).1 hslash
      · rename_i h
        cases h
        rw [if_neg (by rw [hc]; exact Bool.false_ne_true)]
        exact .pure _ _
      · rename_i h
        cases h
  | cons c w ih =>
    obtain ⟨hc, hw⟩ := List.forall_mem_cons.mp hw
    rw [isPlainInWord, Bool.and_eq_true, bne_iff_ne] at hc
    obtain ⟨fuel, rfl⟩ := Nat.exists_eq_add_of_lt hfuel
    refine .ofPosition fun start => (Scans.rest _).bind ?_
    rw [List.cons_append]
    split
    · rename_i h
      exact absurd (List.cons.inj h).1 hc.2
    · rename_i h
      cases h
      rw [if_pos hc.1]
      refine (Scans.skip 1 _).bind ?_
      rw [List.reverse_cons, List.append_assoc]
      exact ih hw _ (by rw [List.length_cons]; omega) _
    · rename_i h
      cases h

/-- A word that nothing continues is scanned whole. -/
theorem scans_scanWord (ctx : Context) {w cs : List Char} (hw : ∀ c ∈ w, isPlainInWord c = true)
    (hcs : ∀ c ∈ cs.head?, Token.continuesWord c = false ∧ c ≠ '\\') :
    Scans (Token.scanWord ctx) (w ++ cs) (.word (String.ofList w)) cs := by
  refine .ofPosition fun start => (Scans.fuel _).bind ?_
  refine (scans_scanWordBody hw hcs false _ (by rw [List.length_append]; omega) []).bind ?_
  simp only [List.append_nil, List.reverse_reverse, Bool.false_and]
  exact .pure _ _

/-! ## Punctuators -/

/-- The character is a punctuator and begins no other one. -/
def standsAlone (c : Char) : Bool :=
  Token.punctuators.contains (.singleton c) && Token.punctuators.all fun p =>
    p.toList.head?.any (· != c) || p == .singleton c

/-- The punctuator that a source goes on with, if no longer one fits. -/
theorem scans_scanPunctuator (p : String) (cs : List Char)
    (hp : ∀ s : Source, s.rest = p.toList ++ cs → Token.punctuators.find? s.startsWith = some p) :
    Scans Token.scanPunctuator (p.toList ++ cs) (.punctuator p) cs := by
  refine .ofSource fun s hs => ?_
  rw [hp s hs]
  refine (Scans.skip p.length _).bind ?_
  rw [← String.length_toList, List.drop_left]
  exact .pure _ cs

theorem find?_punctuators {c : Char} (hc : standsAlone c = true) {s : Source} {cs : List Char}
    (hs : s.rest = c :: cs) : Token.punctuators.find? s.startsWith = some (.singleton c) := by
  rw [standsAlone, Bool.and_eq_true, List.contains_iff_mem, List.all_eq_true] at hc
  obtain ⟨hmem, hall⟩ := hc
  -- of all punctuators the source begins with this one only
  have hstarts : ∀ p ∈ Token.punctuators, s.startsWith p = (p == String.singleton c) := by
    intro p hp
    have hone := hall p hp
    rw [Source.startsWith, hs]
    by_cases heq : p = String.singleton c
    · rw [heq, beq_self_eq_true, String.toList_singleton]
      simp
    · rw [beq_eq_false_iff_ne.mpr heq, Bool.or_false, Option.any_eq_true] at hone
      obtain ⟨d, hd, hne⟩ := hone
      rw [beq_eq_false_iff_ne.mpr heq]
      cases htext : p.toList with
      | nil =>
        rw [htext] at hd
        cases hd
      | cons e text =>
        rw [htext] at hd
        cases hd
        simp [List.isPrefixOf, bne_iff_ne.mp hne]
  cases hfind : Token.punctuators.find? s.startsWith with
  | none =>
    have hnone := List.find?_eq_none.mp hfind _ hmem
    rw [hstarts _ hmem, beq_self_eq_true] at hnone
    exact absurd rfl hnone
  | some p =>
    have hsome := List.find?_some hfind
    rw [hstarts p (List.mem_of_find?_eq_some hfind), beq_iff_eq] at hsome
    rw [hsome]

/-! ## Digits -/

/-- A digit is taken, unless it is the last one that the limit allows. -/
theorem scans_takeFrom_cons {radix : Nat} {start : Position} {fuel : Nat} {limit : Option Nat}
    {inside : Bool} {taken ns : List Nat} {c : Char} {d : Nat} {cs cs' : List Char} (hc : c ≠ '_')
    (hd : Digits.valueOf? radix c = some d) (hlimit : limit ≠ some 1)
    (hrest : Scans (Digits.takeFrom radix start fuel (limit.map (· - 1)) true (d :: taken)) cs ns
      cs') :
    Scans (Digits.takeFrom radix start (fuel + 1) limit inside taken) (c :: cs) ns cs' := by
  refine (Scans.rest _).bind ?_
  split
  · rename_i h
    exact absurd (List.cons.inj h).1 hc
  · rename_i h
    cases h
    simp only [hd, if_neg hlimit]
    exact (Scans.skip 1 _).bind hrest
  · rename_i h
    cases h

theorem scans_takeFrom_last {radix : Nat} {start : Position} {fuel : Nat} {inside : Bool}
    {taken : List Nat} {c : Char} {d : Nat} {cs : List Char} (hc : c ≠ '_')
    (hd : Digits.valueOf? radix c = some d) :
    Scans (Digits.takeFrom radix start (fuel + 1) (some 1) inside taken) (c :: cs)
      (taken.reverse ++ [d]) cs := by
  refine (Scans.rest _).bind ?_
  split
  · rename_i h
    exact absurd (List.cons.inj h).1 hc
  · rename_i h
    cases h
    simp only [hd]
    rw [← List.reverse_cons]
    exact (Scans.skip 1 _).bind (.pure _ cs)
  · rename_i h
    cases h

/-- No digits of a radix go on where the text does. -/
def EndsDigits (radix : Nat) (cs : List Char) : Prop :=
  ∀ c ∈ cs.head?, c ≠ '_' ∧ Digits.valueOf? radix c = none

theorem scans_takeFrom_end {radix : Nat} {cs : List Char} (hcs : EndsDigits radix cs)
    (start : Position) (fuel : Nat) (limit : Option Nat) (inside : Bool) (taken : List Nat) :
    Scans (Digits.takeFrom radix start fuel limit inside taken) cs taken.reverse cs := by
  cases fuel with
  | zero => exact .pure _ cs
  | succ fuel =>
    refine (Scans.rest _).bind ?_
    cases cs with
    | nil => exact .pure _ _
    | cons c cs =>
      obtain ⟨hc, hvalue⟩ := hcs c rfl
      split
      · rename_i h
        exact absurd (List.cons.inj h).1 hc
      · rename_i h
        cases h
        simp only [hvalue]
        exact .pure _ _
      · rename_i h
        cases h

theorem decimalValue_lt {c : Char} (hc : Text.isAsciiDigit c = true) :
    Text.decimalValue c < 10 := by
  rw [Text.isAsciiDigit, Bool.and_eq_true, decide_eq_true_eq, decide_eq_true_eq] at hc
  have hle : c.toNat ≤ '9'.toNat := hc.2
  have hnine : '9'.toNat = 57 := rfl
  have hzero : '0'.toNat = 48 := rfl
  rw [Text.decimalValue]
  omega

/-- What holds of the ten digits holds of a digit. -/
theorem of_isAsciiDigit {p : Char → Prop} (h : ∀ n < 10, p (Char.ofNat ('0'.toNat + n))) {c : Char}
    (hc : Text.isAsciiDigit c = true) : p c := by
  have hdigit := h (Text.decimalValue c) (decimalValue_lt hc)
  have hle : '0'.toNat ≤ c.toNat := by
    rw [Text.isAsciiDigit, Bool.and_eq_true, decide_eq_true_eq] at hc
    exact hc.1
  rwa [Text.decimalValue, Nat.add_sub_cancel' hle, Char.ofNat_toNat] at hdigit

theorem valueOf?_ten {c : Char} (hc : Text.isAsciiDigit c = true) :
    Digits.valueOf? 10 c = some (Text.decimalValue c) := by
  have hvalue : Text.hexValue? c = some (Text.decimalValue c) := if_pos hc
  rw [Digits.valueOf?, hvalue, Option.bind_some]
  exact if_pos (decimalValue_lt hc)

theorem scans_takeFrom_decimal {ds cs : List Char} (hds : ∀ c ∈ ds, Text.isAsciiDigit c = true)
    (hcs : EndsDigits 10 cs) (start : Position) (fuel : Nat) (hfuel : ds.length ≤ fuel)
    (inside : Bool) (taken : List Nat) :
    Scans (Digits.takeFrom 10 start fuel none inside taken) (ds ++ cs)
      (taken.reverse ++ ds.map Text.decimalValue) cs := by
  induction ds generalizing fuel inside taken with
  | nil =>
    rw [List.map_nil, List.append_nil]
    exact scans_takeFrom_end hcs start fuel none inside taken
  | cons c ds ih =>
    obtain ⟨hc, hds⟩ := List.forall_mem_cons.mp hds
    obtain ⟨fuel, rfl⟩ := Nat.exists_eq_add_of_lt hfuel
    have hline : c ≠ '_' := by
      rintro rfl
      exact absurd hc (by decide)
    have hrest := ih hds (ds.length + fuel) (Nat.le_add_right _ _) true
      (Text.decimalValue c :: taken)
    rw [List.reverse_cons, List.append_assoc] at hrest
    exact scans_takeFrom_cons hline (valueOf?_ten hc) (by simp) hrest

/-- The digits of a decimal number are taken up to where something else stands. -/
theorem scans_take_decimal {ds cs : List Char} (hds : ∀ c ∈ ds, Text.isAsciiDigit c = true)
    (hcs : EndsDigits 10 cs) :
    Scans (Digits.take 10) (ds ++ cs) (ds.map Text.decimalValue) cs := by
  refine .ofPosition fun start => (Scans.fuel _).bind ?_
  exact scans_takeFrom_decimal hds hcs start _ (by rw [List.length_append]; omega) false []

/-! ## Escapes -/

/-- A character that stands for itself or for a control character after a backslash. -/
theorem scans_escape {strict : Bool} {e : Char} {cs : List Char}
    (he : e ∈ ['"', '\\', 'b', 'f', 'n', 'r', 't', 'v']) :
    Scans (Escape.scan strict) ('\\' :: e :: cs) [(Escape.control? e).getD e] cs := by
  refine .ofPosition fun start => (Scans.skip 1 _).bind ((Scans.rest _).bind ?_)
  simp only [List.mem_cons, List.not_mem_nil, or_false] at he
  rcases he with rfl | rfl | rfl | rfl | rfl | rfl | rfl | rfl <;>
    exact (Scans.skip 1 _).bind (.pure _ cs)

theorem hexDigit_digit {n : Nat} (hn : n < 16) :
    Text.hexDigit n ≠ '_' ∧ Digits.valueOf? 16 (Text.hexDigit n) = some n := by
  decide +revert

theorem hexDigit_ne_brace {n : Nat} (hn : n < 16) : Text.hexDigit n ≠ '\x7b' := by
  decide +revert

/-- Hexadecimal digits that are counted are taken, whatever follows. -/
theorem scans_takeFrom_hexDigits {start : Position} {ns : List Nat} (hns : ∀ n ∈ ns, n < 16)
    (hne : ns ≠ []) (cs : List Char) {fuel : Nat} (hfuel : ns.length ≤ fuel) (inside : Bool)
    (taken : List Nat) :
    Scans (Digits.takeFrom 16 start fuel (some ns.length) inside taken)
      (ns.map Text.hexDigit ++ cs) (taken.reverse ++ ns) cs := by
  induction ns generalizing fuel inside taken with
  | nil => exact absurd rfl hne
  | cons n ns ih =>
    obtain ⟨hn, hns⟩ := List.forall_mem_cons.mp hns
    obtain ⟨hdigit, hvalue⟩ := hexDigit_digit hn
    obtain ⟨fuel, rfl⟩ := Nat.exists_eq_add_of_lt hfuel
    cases ns with
    | nil => exact scans_takeFrom_last hdigit hvalue
    | cons n' ns =>
      have hlength : (n' :: ns).length ≤ (n' :: ns).length + fuel := Nat.le_add_right _ _
      have hrest := ih hns (List.cons_ne_nil n' ns) hlength true (n :: taken)
      rw [List.reverse_cons, List.append_assoc] at hrest
      exact scans_takeFrom_cons hdigit hvalue (by simp) hrest

theorem scans_hexDigits {ns : List Nat} (hns : ∀ n ∈ ns, n < 16) (hne : ns ≠ []) (cs : List Char)
    (start : Position) : Scans (Escape.hexDigits ns.length start) (ns.map Text.hexDigit ++ cs)
      (Digits.value 16 ns) cs := by
  have hdigits : Scans (Digits.takeAtMost 16 ns.length) (ns.map Text.hexDigit ++ cs) ns cs := by
    refine .ofPosition fun inside => (Scans.fuel _).bind ?_
    refine scans_takeFrom_hexDigits hns hne cs ?_ false []
    rw [List.length_append, List.length_map]
    omega
  refine hdigits.bind ?_
  rw [if_pos rfl]
  exact .pure _ cs

/-- A character by the two digits of its code. -/
theorem scans_escape_hex {strict : Bool} {c : Char} (hc : c.toNat < 0x100) (cs : List Char) :
    Scans (Escape.scan strict)
      ('\\' :: 'x' :: Text.hexDigit (c.toNat / 16) :: Text.hexDigit (c.toNat % 16) :: cs) [c]
      cs := by
  refine .ofPosition fun start => (Scans.skip 1 _).bind ((Scans.rest _).bind ?_)
  have hns : ∀ n ∈ [c.toNat / 16, c.toNat % 16], n < 16 :=
    List.forall_mem_cons.mpr ⟨by omega, List.forall_mem_singleton.mpr (by omega)⟩
  have hvalue : Digits.value 16 [c.toNat / 16, c.toNat % 16] = c.toNat := by
    change (0 * 16 + c.toNat / 16) * 16 + c.toNat % 16 = c.toNat
    omega
  refine (Scans.skip 1 _).bind ((scans_hexDigits hns (List.cons_ne_nil _ _) cs start).bind ?_)
  rw [hvalue, Char.ofNat_toNat]
  exact .pure _ cs

/-- A character by the four digits of its code, if it is no half of a surrogate pair. -/
theorem scans_escape_unicode {strict : Bool} {c : Char} (hc : c.toNat < 0xD800) (cs : List Char) :
    Scans (Escape.scan strict)
      ('\\' :: 'u' :: Text.hexDigit (c.toNat / 4096) :: Text.hexDigit (c.toNat / 256 % 16) ::
        Text.hexDigit (c.toNat / 16 % 16) :: Text.hexDigit (c.toNat % 16) :: cs) [c] cs := by
  let ns := [c.toNat / 4096, c.toNat / 256 % 16, c.toNat / 16 % 16, c.toNat % 16]
  have hns : ∀ n ∈ ns, n < 16 := by
    simp only [ns, List.forall_mem_cons, List.not_mem_nil, false_imp_iff, implies_true, and_true]
    omega
  have hbrace : Text.hexDigit (c.toNat / 4096) ≠ '\x7b' :=
    hexDigit_ne_brace (hns _ List.mem_cons_self)
  refine .ofPosition fun start => (Scans.skip 1 _).bind ((Scans.rest _).bind ?_)
  refine (Scans.skip 1 _).bind ?_
  have hdigits : Scans (Escape.unicode start) (ns.map Text.hexDigit ++ cs) c.toNat cs := by
    refine (Scans.accept_other (by simp [ns, hbrace])).bind ?_
    have hvalue : Digits.value 16 ns = c.toNat := by
      change (((0 * 16 + c.toNat / 4096) * 16 + c.toNat / 256 % 16) * 16 + c.toNat / 16 % 16) * 16 +
        c.toNat % 16 = c.toNat
      omega
    rw [← hvalue]
    exact scans_hexDigits hns (List.cons_ne_nil _ _) cs start
  have hchar : Scans (Escape.character start c.toNat) cs c cs := by
    have hbelow : ¬ 0xD800 ≤ c.toNat := by omega
    rw [Escape.character]
    simp only [hbelow]
    have hsame : Scans (Pure.pure (Char.ofNat c.toNat) : Scan Char) cs c cs := by
      rw [Char.ofNat_toNat]
      exact .pure c cs
    exact hsame
  exact hdigits.bind (hchar.bind (.pure _ cs))

/-! ## Strings -/

/-- A text that stands for a character inside of a string: the character itself, or an escape. -/
inductive WritesChar : Char → List Char → Prop where
  | plain {c : Char} (hquote : c ≠ '"') (hslash : c ≠ '\\') (hline : c ≠ '\n')
      (hreturn : c ≠ '\r') : WritesChar c [c]
  | escape {c : Char} {text : List Char} (h : ∀ strict cs,
      Scans (Escape.scan strict) ('\\' :: (text ++ cs)) [c] cs) : WritesChar c ('\\' :: text)

theorem WritesChar.ofEscape {e c : Char} (he : e ∈ ['"', '\\', 'b', 'f', 'n', 'r', 't', 'v'])
    (hc : (Escape.control? e).getD e = c) : WritesChar c ['\\', e] :=
  .escape fun _ _ => hc ▸ scans_escape he

theorem WritesChar.length_pos {c : Char} {text : List Char} (h : WritesChar c text) :
    0 < text.length := by
  cases h <;> exact Nat.succ_pos _

/-- A character as documents have it in a string. -/
theorem writesChar_stringChar (c : Char) : WritesChar c (Json.stringChar c) := by
  unfold Json.stringChar
  split
  · exact .ofEscape (e := '"') (by decide) rfl
  · exact .ofEscape (e := '\\') (by decide) rfl
  · exact .ofEscape (e := 'b') (by decide) rfl
  · exact .ofEscape (e := 'f') (by decide) rfl
  · exact .ofEscape (e := 'n') (by decide) rfl
  · exact .ofEscape (e := 'r') (by decide) rfl
  · exact .ofEscape (e := 't') (by decide) rfl
  · rename_i hquote hslash _ _ hline hreturn _
    split
    · rename_i hcontrol
      have hdigits : c.toNat / 4096 = 0 ∧ c.toNat / 256 % 16 = 0 ∧
          c.toNat / 16 % 16 = c.toNat / 16 := by omega
      obtain ⟨hfirst, hsecond, hthird⟩ := hdigits
      refine .escape fun strict cs => ?_
      have hscan : Scans (Escape.scan strict) _ [c] cs := scans_escape_unicode (by omega) cs
      rw [hfirst, hsecond, hthird] at hscan
      exact hscan
    · exact .plain hquote hslash hline hreturn

/-- A character as a script is printed with it in a string that was not written. -/
theorem writesChar_escapedChar (c : Char) : WritesChar c (escapedChar c) := by
  unfold escapedChar
  split
  · exact .ofEscape (e := 'b') (by decide) rfl
  · exact .ofEscape (e := 'f') (by decide) rfl
  · exact .ofEscape (e := 'n') (by decide) rfl
  · exact .ofEscape (e := 'r') (by decide) rfl
  · exact .ofEscape (e := 't') (by decide) rfl
  · exact .ofEscape (e := 'v') (by decide) rfl
  · exact .ofEscape (e := '"') (by decide) rfl
  · exact .ofEscape (e := '\\') (by decide) rfl
  · exact .escape fun _ cs => scans_escape_unicode (c := '\u2028') (by decide) cs
  · exact .escape fun _ cs => scans_escape_unicode (c := '\u2029') (by decide) cs
  · rename_i _ _ hline hreturn _ _ hquote hslash _ _
    split
    · rename_i hcode
      rw [Bool.or_eq_true, Bool.and_eq_true, decide_eq_true_eq, decide_eq_true_eq,
        decide_eq_true_eq] at hcode
      exact .escape fun _ cs => scans_escape_hex (by omega) cs
    · exact .plain hquote hslash hline hreturn

/-- A character of a string is scanned as that character. -/
theorem scans_scanStringBody_cons {strict : Bool} {start : Position} {fuel : Nat} {c : Char}
    {text value v cs cs' : List Char} (hc : WritesChar c text)
    (hrest : Scans (Token.scanStringBody strict '"' start fuel (c :: value)) cs v cs') :
    Scans (Token.scanStringBody strict '"' start (fuel + 1) value) (text ++ cs) v cs' := by
  cases hc with
  | escape hescape => exact (Scans.next? _).bind ((hescape strict cs).bind hrest)
  | plain hquote hslash hline hreturn =>
    refine (Scans.next? _).bind ?_
    have hend : ¬ (decide (c = '\n') || decide (c = '\r')) = true := by
      rw [Bool.or_eq_true, decide_eq_true_eq, decide_eq_true_eq, not_or]
      exact ⟨hline, hreturn⟩
    rw [List.cons_append, List.nil_append, List.head?_cons]
    simp only [if_neg hquote, if_neg hslash, if_neg hend]
    exact (Scans.skip 1 _).bind hrest

/-- A string in quotes, each character as it is written. -/
def quoted (write : Char → List Char) (s : String) : List Char :=
  '"' :: s.toList.flatMap write ++ ['"']

section Quoted

variable {write : Char → List Char} (hwrite : ∀ c, WritesChar c (write c))
include hwrite

theorem scans_scanStringBody (strict : Bool) (start : Position) (s cs : List Char) {fuel : Nat}
    (hfuel : s.length < fuel) (value : List Char) :
    Scans (Token.scanStringBody strict '"' start fuel value)
      (s.flatMap write ++ '"' :: cs) (s.reverse ++ value) cs := by
  induction s generalizing fuel value with
  | nil =>
    obtain ⟨fuel, rfl⟩ := Nat.exists_eq_add_of_lt hfuel
    exact (Scans.next? _).bind ((Scans.skip 1 _).bind (.pure value cs))
  | cons c s ih =>
    obtain ⟨fuel, rfl⟩ := Nat.exists_eq_add_of_lt hfuel
    rw [List.flatMap_cons, List.append_assoc, List.reverse_cons, List.append_assoc]
    exact scans_scanStringBody_cons (hwrite c) (ih (by rw [List.length_cons]; omega) (c :: value))

theorem length_le_flatMap (s : List Char) : s.length ≤ (s.flatMap write).length := by
  induction s with
  | nil => exact Nat.le_refl 0
  | cons c s ih =>
    have hpos := (hwrite c).length_pos
    rw [List.flatMap_cons, List.length_append, List.length_cons]
    omega

/-- **A quoted string is scanned as a string token** of the same value. -/
theorem scans_quoted (strict : Bool) (s : String) (cs : List Char) :
    Scans (Token.scanString strict '"') (quoted write s ++ cs)
      (.string ⟨s, some (String.ofList (quoted write s))⟩) cs := by
  refine .ofPosition fun start => ?_
  have hbody : Scans (do Scan.skip 1; Token.scanStringBody strict '"' start (← Scan.fuel) [])
      (quoted write s ++ cs) s.toList.reverse cs := by
    rw [quoted, List.cons_append, List.cons_append, List.append_assoc]
    refine (Scans.skip 1 _).bind ((Scans.fuel _).bind ?_)
    rw [List.drop_succ_cons, List.drop_zero]
    have hfuel : s.toList.length < (s.toList.flatMap write ++ (['"'] ++ cs)).length + 1 := by
      have hle := length_le_flatMap hwrite s.toList
      rw [List.length_append]
      omega
    have hbody := scans_scanStringBody hwrite strict start s.toList cs hfuel []
    rw [List.append_nil] at hbody
    exact hbody
  refine hbody.taken.bind ?_
  simp only [List.reverse_reverse, String.ofList_toList]
  exact .pure _ cs

end Quoted

end ModuleBundler.Script
