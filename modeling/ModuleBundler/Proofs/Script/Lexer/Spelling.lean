import ModuleBundler.Proofs.Script.Lexer.Lexemes

/-!
Texts that spell tokens. Between tokens stand blanks and ends of lines, in any number; what a reader
makes of a text depends on its tokens alone, but for the end of a line after `return`, so a text
with such a line does not count. `Spells` is the border between scanning and reading: what
writes a text shows that it spells tokens, and what reads one is shown to read the tokens.
-/

set_option autoImplicit false

namespace ModuleBundler.Script

/-- What a list of tokens begins with. After the last one the text ends. -/
def firstToken (ts : List Token) : Token := ts.headD .endOfInput

@[simp] theorem firstToken_nil : firstToken [] = .endOfInput := rfl

@[simp] theorem firstToken_cons (t : Token) (ts : List Token) : firstToken (t :: ts) = t := rfl

/-- Before the first character that is no blank no line ends. -/
def StaysOnLine (cs : List Char) : Prop := (cs.dropWhile (· == ' ')).head? ≠ some '\n'

/-- A word without escapes. -/
def isWord (w : String) : Bool :=
  w.toList.head?.any startsWord && w.toList.all isPlainInWord

/-- A text goes on with nothing that belongs to a word. -/
def EndsWord (cs : List Char) : Prop := ∀ c ∈ cs.head?, Token.continuesWord c = false ∧ c ≠ '\\'

theorem endsWord_cons {c : Char} (hc : Token.continuesWord c = false ∧ c ≠ '\\') (cs : List Char) :
    EndsWord (c :: cs) := by
  rintro d ⟨⟩
  exact hc

theorem endsToken_cons {c : Char} (hc : isCloser c = true) (cs : List Char) :
    EndsToken (c :: cs) := by
  rintro d ⟨⟩
  exact hc

theorem EndsToken.endsWord {cs : List Char} (h : EndsToken cs) : EndsWord cs := by
  intro c hc
  rcases isCloser_iff.mp (h c hc) with rfl | rfl | rfl | rfl | rfl | rfl <;> decide

/-- A text spells tokens. -/
inductive Spells : List Char → List Token → Prop where
  | nil : Spells [] []
  | blank {cs : List Char} {ts : List Token} (h : Spells cs ts) : Spells (' ' :: cs) ts
  | line {cs : List Char} {ts : List Token} (h : Spells cs ts) : Spells ('\n' :: cs) ts
  | token {t : Token} {cs cs' : List Char} {ts : List Token} (ht : t.StandsAt cs cs')
      (hreturn : t = .word "return" → StaysOnLine cs') (h : Spells cs' ts) : Spells cs (t :: ts)

namespace Spells

variable {cs : List Char} {ts : List Token}

/-- There are no more tokens than characters. -/
theorem length_le (h : Spells cs ts) : ts.length ≤ cs.length := by
  induction h with
  | nil => exact Nat.le_refl 0
  | blank _ ih => exact ih.trans (Nat.le_succ _)
  | line _ ih => exact ih.trans (Nat.le_succ _)
  | token ht _ _ ih => exact Nat.succ_le_of_lt (ih.trans_lt ht.shorter)

/-- What stands before the first token is passed over. -/
theorem exists_scans_skip (h : Spells cs ts) : ∃ breaks cs₁,
    (∀ (isModule : Bool) (g : Gap) (fuel : Nat), cs.length < fuel → Scans
      (Gap.skip isModule fuel g) cs { g with hasLineBreak := g.hasLineBreak || breaks } cs₁) ∧
    (StaysOnLine cs → breaks = false) ∧
    ((ts = [] ∧ cs₁ = []) ∨ ∃ t ts' cs', ts = t :: ts' ∧ t.StandsAt cs₁ cs' ∧
      (t = .word "return" → StaysOnLine cs') ∧ Spells cs' ts') := by
  induction h with
  | nil =>
    refine ⟨false, [], fun isModule g fuel _ => ?_, fun _ => rfl, .inl ⟨rfl, rfl⟩⟩
    rw [Bool.or_false]
    exact scans_skip_end isModule fuel g
  | @blank cs ts h ih =>
    obtain ⟨breaks, cs₁, hskip, hstays, htoken⟩ := ih
    refine ⟨breaks, cs₁, fun isModule g fuel hfuel => ?_, hstays, htoken⟩
    rw [List.length_cons] at hfuel
    obtain ⟨fuel, rfl⟩ := Nat.exists_eq_add_of_lt hfuel
    exact scans_skip_blank (hskip isModule g _ (by omega))
  | @line cs ts h ih =>
    obtain ⟨breaks, cs₁, hskip, -, htoken⟩ := ih
    refine ⟨true, cs₁, fun isModule g fuel hfuel => ?_, fun hstays => absurd rfl hstays, htoken⟩
    rw [List.length_cons] at hfuel
    obtain ⟨fuel, rfl⟩ := Nat.exists_eq_add_of_lt hfuel
    rw [Bool.or_true]
    exact scans_skip_line (hskip isModule { g with hasLineBreak := true } _ (by omega))
  | @token t cs cs' ts ht hreturn h _ =>
    obtain ⟨c, rest, rfl, hc, hdouble⟩ := ht.first
    refine ⟨false, c :: rest, fun isModule g fuel _ => ?_, fun _ => rfl,
      .inr ⟨t, ts, cs', rfl, ht, hreturn, h⟩⟩
    rw [Bool.or_false]
    exact scans_skip_token isModule fuel g hc hdouble

/-- A text that spells tokens begins with the first of them and goes on with a text that spells the
others. -/
theorem begins (h : Spells cs ts) : ∃ breaks cs', (firstToken ts).Begins breaks cs cs' ∧
    Spells cs' ts.tail ∧ (StaysOnLine cs → breaks = false) ∧
    (firstToken ts = .word "return" → StaysOnLine cs') := by
  obtain ⟨breaks, cs₁, hskip, hstays, ⟨rfl, rfl⟩ | ⟨t, ts', cs', rfl, ht, hreturn, hrest⟩⟩ :=
    h.exists_scans_skip
  · exact ⟨breaks, [], Token.begins_of_scans (by decide)
      (fun isModule g => hskip isModule g _ (Nat.lt_succ_self _))
      fun _ _ => (Scans.rest []).bind (.pure _ []), .nil, hstays, nofun⟩
  · exact ⟨breaks, cs', Token.begins_of_scans ht.ne_template
      (fun isModule g => hskip isModule g _ (Nat.lt_succ_self _)) ht.scans, hrest, hstays, hreturn⟩

/-- What a text that spells tokens begins with: a blank, the end of a line or a character of the
first token. -/
theorem head?_eq (h : Spells cs ts) {c : Char} (hc : cs.head? = some c) :
    c = ' ' ∨ c = '\n' ∨ (beginsToken c = true ∧ ∃ cs', (firstToken ts).StandsAt cs cs') := by
  cases h with
  | nil => cases hc
  | blank _ =>
    cases hc
    exact .inl rfl
  | line _ =>
    cases hc
    exact .inr (.inl rfl)
  | token ht _ _ =>
    obtain ⟨d, rest, rfl, hd, -⟩ := ht.first
    cases hc
    exact .inr (.inr ⟨hd, _, ht⟩)

/-! ## Tokens as they are written -/

/-- A word that nothing continues. -/
theorem word {w : String} (hw : isWord w = true) (hcs : EndsWord cs)
    (hreturn : w = "return" → StaysOnLine cs) (h : Spells cs ts) :
    Spells (w.toList ++ cs) (.word w :: ts) := by
  obtain ⟨hstart, hrest⟩ := Bool.and_eq_true_iff.mp hw
  exact .token (.word hstart hrest hcs) (fun heq => hreturn (Token.word.inj heq)) h

/-- A punctuator of one character. -/
theorem mark {c : Char} (hc : isMark c = true) (h : Spells cs ts) :
    Spells (c :: cs) (.punctuator (.singleton c) :: ts) :=
  .token (.mark hc cs) nofun h

/-- A string in quotes. -/
theorem quoted {write : Char → List Char} (hwrite : ∀ c, WritesChar c (write c)) (s : String)
    (h : Spells cs ts) : Spells (Script.quoted write s ++ cs)
      (.string ⟨s, some (String.ofList (Script.quoted write s))⟩ :: ts) :=
  .token (.quoted hwrite s cs) nofun h

/-- A number that something ends. -/
theorem numeral (n : Numeral) (hcs : EndsToken cs) (h : Spells cs ts) :
    Spells (n.text ++ cs) (.number n.value :: ts) :=
  .token (.numeral n hcs) nofun h

/-- A number under a minus sign. -/
theorem negative (n : Numeral) (hcs : EndsToken cs) (h : Spells cs ts) :
    Spells ('-' :: (n.text ++ cs)) (.punctuator "-" :: .number n.value :: ts) := by
  have hn := numeral n hcs h
  obtain ⟨d, ds, htext, hd⟩ := n.exists_text_eq_cons
  rw [htext] at hn ⊢
  have hnone : (['-', '.', '=', '>'].all fun c => !Text.isAsciiDigit c) = true := by decide
  refine .token (.sign (p := "-") (by decide) (fun hmem => ?_) nofun _) nofun hn
  have hother := List.all_eq_true.mp hnone d hmem
  rw [hd] at hother
  exact Bool.false_ne_true hother

end Spells

end ModuleBundler.Script
