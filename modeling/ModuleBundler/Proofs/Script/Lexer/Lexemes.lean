import ModuleBundler.Proofs.Script.Lexer.Number

/-!
Tokens that a text begins with, wherever it stands. The token that a lexer yields depends on the
tokens before only in two ways: whether the text goes on inside a template, which it never does
where no template was begun (`Situation.IsPlain`), and whether a slash begins a regular expression.
A token that is not made of either is yielded wherever its text stands (`Token.StandsAt`), and
nothing is wrong with it.
-/

set_option autoImplicit false

namespace ModuleBundler.Script

/-! ## Situations -/

/-- The text goes on outside of templates, and in none that is open. -/
def Situation.IsPlain (s : Situation) : Prop := ∀ e ∈ s.enclosing, e.isTemplate = false

theorem Situation.IsPlain.template?_eq_none {s : Situation} (hs : s.IsPlain) :
    s.template? = none := by
  rw [template?, inside]
  split
  · rename_i start h
    exact absurd (hs _ (List.mem_of_mem_head? h)) Bool.noConfusion
  · rfl

theorem Situation.IsPlain.enter {s : Situation} (hs : s.IsPlain) {e : Enclosure}
    (he : e.isTemplate = false) (operandDue : Bool) : (s.enter e operandDue).IsPlain :=
  List.forall_mem_cons.mpr ⟨he, hs⟩

theorem Situation.IsPlain.leave {s : Situation} (hs : s.IsPlain) : s.leave.IsPlain := by
  rw [Situation.leave]
  split
  · rename_i outer h
    rw [IsPlain, h] at hs
    exact (List.forall_mem_cons.mp (List.forall_mem_cons.mp hs).2).2
  · rename_i outer h
    split
    · exact hs
    · rw [IsPlain, h] at hs
      exact (List.forall_mem_cons.mp hs).2
  · rename_i e next outer _ _ h
    rw [IsPlain, h] at hs
    exact (List.forall_mem_cons.mp hs).2
  · exact hs

theorem Situation.IsPlain.after {s : Situation} (hs : s.IsPlain) {t : Token}
    (ht : t ≠ .punctuator "`") (start : Position) (afterLineBreak lastAfterLineBreak : Bool) :
    (s.after t start afterLineBreak lastAfterLineBreak).IsPlain := by
  have hstep : (s.step t start afterLineBreak lastAfterLineBreak).IsPlain := by
    unfold Situation.step
    split
    · exact hs.leave
    · exact hs.leave
    · refine hs.enter ?_ true
      split <;> rfl
    · exact hs.enter rfl true
    · refine hs.enter ?_ true
      rw [parenthesis]
      split
      · rfl
      · split <;> rfl
    · exact hs
    · exact hs
    · exact absurd rfl ht
    · split
      · exact hs
      · split
        · split
          · exact hs.enter rfl false
          · exact hs
        · split
          · exact hs
          · split <;> exact hs
    · exact hs
  exact hstep

/-! ## Lexemes -/

/-- A lexeme of a token that nothing is wrong with. No comment stands before it. -/
structure Lexeme.IsClean (l : Lexeme) (t : Token) : Prop where
  token_eq : l.token = t
  fault_eq : l.fault = none
  complaints_eq : l.complaints = []
  commentBefore_eq : l.commentBefore = none

/-- What a lexer yields is a token that nothing is wrong with, after the end of a line or not, and
a lexer that goes on outside of templates. -/
structure Lexer.Yields (x : Lexer) (ctx : Context) (t : Token) (breaks : Bool) (cs : List Char) :
    Prop where
  clean : (x.next ctx).1.IsClean t
  afterLineBreak_eq : (x.next ctx).1.afterLineBreak = (x.atStart || breaks || t.isEnd)
  plain : (x.next ctx).2.situation.IsPlain
  rest_eq : (x.next ctx).2.source.rest = cs
  atStart_eq : (x.next ctx).2.atStart = false

/-- A text begins with a token and goes on with another text, wherever it stands. The mark says
whether a line ends before the token. -/
def Token.Begins (t : Token) (breaks : Bool) (cs cs' : List Char) : Prop :=
  ∀ (ctx : Context) (x : Lexer), x.situation.IsPlain → x.source.rest = cs →
    x.Yields ctx t breaks cs'

theorem Token.begins_of_scans {t : Token} {breaks : Bool} {cs₀ cs cs' : List Char}
    (ht : t ≠ .punctuator "`")
    (hgap : ∀ (isModule : Bool) (g : Gap), Scans (Gap.skip isModule (cs₀.length + 1) g) cs₀
      { g with hasLineBreak := g.hasLineBreak || breaks } cs)
    (hscan : ∀ ctx operandDue, Scans (Token.scan ctx operandDue) cs t cs') :
    t.Begins breaks cs₀ cs' := by
  intro ctx x hplain hrest
  have htemplate := hplain.template?_eq_none
  -- the gap before the token, and then the token itself
  obtain ⟨s₁, hrun₁, hrest₁, hcomplaints₁⟩ : ∃ s₁,
      (x.scanGap ctx).run { source := x.source } =
        (.ok { hasLineBreak := x.atStart || breaks }, s₁) ∧ s₁.source.rest = cs ∧
          s₁.complaints = [] := by
    have hskip : Scans (do Gap.skip ctx.isModule (← Scan.fuel) { hasLineBreak := x.atStart }) cs₀
        { hasLineBreak := x.atStart || breaks } cs := (Scans.fuel cs₀).bind (hgap _ _)
    rw [Lexer.scanGap]
    simp only [htemplate]
    exact hskip { source := x.source } hrest
  obtain ⟨s₂, hrun₂, hrest₂, hcomplaints₂⟩ : ∃ s₂,
      (x.scan ctx).run s₁ = (.ok t, s₂) ∧ s₂.source.rest = cs' ∧ s₂.complaints = [] := by
    have htoken : Scans (x.scan ctx) cs t cs' := by
      rw [Lexer.scan, htemplate]
      exact (Scans.rest cs).bind (hscan ctx _)
    rw [← hcomplaints₁]
    exact htoken s₁ hrest₁
  have hnext : x.next ctx =
      ({ token := t
         start := s₁.source.position
         stop := s₂.source.position
         afterLineBreak := x.atStart || breaks || t.isEnd
         complaints := s₂.complaints },
        x.after
          { token := t
            start := s₁.source.position
            stop := s₂.source.position
            afterLineBreak := x.atStart || breaks || t.isEnd
            complaints := s₂.complaints } s₂.source) := by
    simp only [Lexer.next, hrun₁, hrun₂]
    rfl
  refine ⟨?_, ?_, ?_, ?_, ?_⟩ <;> rw [hnext]
  · exact ⟨rfl, rfl, hcomplaints₂, rfl⟩
  · rw [Lexer.after]
    split
    · exact hplain
    · exact hplain.after ht _ _ _
  · exact hrest₂
  · rfl

/-- A text begins with a token and goes on with another text, and nothing stands before the
token. -/
structure Token.StandsAt (t : Token) (cs cs' : List Char) : Prop where
  first : ∃ c rest, cs = c :: rest ∧ beginsToken c = true ∧
    (c = '-' ∨ c = '=' → rest.head? ≠ some c)
  scans : ∀ ctx operandDue, Scans (Token.scan ctx operandDue) cs t cs'
  shorter : cs'.length < cs.length
  ne_template : t ≠ .punctuator "`"
  isEnd_eq : t.isEnd = false

/-! ## Tokens as they are written -/

/-- A character that begins words. -/
def startsWord (c : Char) : Bool :=
  beginsToken c && Text.isNameStart c && !Text.isAsciiDigit c

/-- A character that is a punctuator by itself and begins no other token. -/
def isMark (c : Char) : Bool :=
  standsAlone c && beginsToken c && !Text.isNameStart c && !Text.isAsciiDigit c &&
    !(['"', '\'', '\\', '.', '`'].contains c)

theorem beginsToken_of_isAsciiDigit {c : Char} (hc : Text.isAsciiDigit c = true) :
    beginsToken c = true :=
  of_isAsciiDigit (p := (beginsToken · = true)) (by decide) hc

namespace Token.StandsAt

/-- A word that nothing continues. -/
theorem word {w : String} {cs : List Char} (hstart : w.toList.head?.any startsWord = true)
    (hw : w.toList.all isPlainInWord = true)
    (hcs : ∀ c ∈ cs.head?, Token.continuesWord c = false ∧ c ≠ '\\') :
    (Token.word w).StandsAt (w.toList ++ cs) cs := by
  have hscan : ∀ ctx, Scans (Token.scanWord ctx) (w.toList ++ cs) (.word w) cs := by
    intro ctx
    have hscan := scans_scanWord ctx (List.all_eq_true.mp hw) hcs
    rwa [String.ofList_toList] at hscan
  rw [Option.any_eq_true] at hstart
  obtain ⟨c, hc, hstart⟩ := hstart
  obtain ⟨rest, hrest⟩ := List.head?_eq_some_iff.mp hc
  rw [startsWord, Bool.and_eq_true, Bool.and_eq_true, Bool.not_eq_true'] at hstart
  obtain ⟨⟨hbegins, hname⟩, hdigit⟩ := hstart
  rw [hrest] at hscan ⊢
  refine ⟨⟨c, rest ++ cs, rfl, hbegins, ?_⟩, fun ctx operandDue => ?_, ?_, Token.noConfusion, rfl⟩
  · rintro (rfl | rfl) <;> exact absurd hname (by decide)
  · have hquote : c ≠ '"' := by rintro rfl; exact absurd hname (by decide)
    have happly : c ≠ '\'' := by rintro rfl; exact absurd hname (by decide)
    have hpoint : c ≠ '.' := by rintro rfl; exact absurd hname (by decide)
    refine (Scans.rest _).bind ?_
    simp only [List.cons_append, hquote, happly, hpoint, hdigit, hname, decide_false, Bool.or_self,
      Bool.false_and, Bool.true_or, Bool.false_eq_true, if_false, if_true]
    exact hscan ctx
  · rw [List.length_append, List.length_cons]
    omega

/-- A punctuator of one character. -/
theorem mark {c : Char} (hc : isMark c = true) (cs : List Char) :
    (Token.punctuator (.singleton c)).StandsAt (c :: cs) cs := by
  simp only [isMark, Bool.and_eq_true, Bool.not_eq_true', List.contains_eq_mem,
    decide_eq_false_iff_not, List.mem_cons, List.not_mem_nil, or_false, not_or] at hc
  obtain ⟨⟨⟨⟨halone, hbegins⟩, hname⟩, hdigit⟩, hquote, happly, hslash, hpoint, htemplate⟩ := hc
  refine ⟨⟨c, cs, rfl, hbegins, ?_⟩, fun ctx operandDue => ?_, Nat.lt_succ_self _, ?_, rfl⟩
  · rintro (rfl | rfl) <;> exact absurd halone (by decide)
  · have hdivide : c ≠ '/' := by rintro rfl; exact absurd hbegins (by decide)
    refine (Scans.rest _).bind ?_
    simp only [hquote, happly, hpoint, hslash, hdivide, hdigit, hname, decide_false, Bool.or_self,
      Bool.false_and, Bool.false_eq_true, if_false]
    have hscan := scans_scanPunctuator (.singleton c) cs
      fun s hs => find?_punctuators halone (by rw [hs, String.toList_singleton]; rfl)
    rwa [String.toList_singleton] at hscan
  · intro heq
    have htext := congrArg String.toList (Token.punctuator.inj heq)
    rw [String.toList_singleton] at htext
    exact htemplate (List.cons.inj htext).1

/-- A sign that begins longer ones, before a character that none of them goes on with. -/
theorem sign {p : String} {d : Char} (hp : p ∈ ["-", ".", "="]) (hd : d ∉ ['-', '.', '=', '>'])
    (hdigit : p = "." → Text.isAsciiDigit d = false) (cs : List Char) :
    (Token.punctuator p).StandsAt (p.toList ++ d :: cs) (d :: cs) := by
  simp only [List.mem_cons, List.not_mem_nil, or_false, not_or] at hd
  obtain ⟨hminus, hpoint, hequal, hgreater⟩ := hd
  have hdouble : ∀ c, c = '-' ∨ c = '=' → (d :: cs).head? ≠ some c := by
    rintro c (rfl | rfl) h
    · exact hminus (Option.some.inj h)
    · exact hequal (Option.some.inj h)
  have hscan : Scans Token.scanPunctuator (p.toList ++ d :: cs) (.punctuator p) (d :: cs) := by
    refine scans_scanPunctuator p (d :: cs) fun s hs => ?_
    simp only [List.mem_cons, List.not_mem_nil, or_false] at hp
    rcases hp with rfl | rfl | rfl <;>
      simp [Token.punctuators, Source.startsWith, hs, List.isPrefixOf, Ne.symm hminus,
        Ne.symm hequal, Ne.symm hpoint, Ne.symm hgreater]
  simp only [List.mem_cons, List.not_mem_nil, or_false] at hp
  rcases hp with rfl | rfl | rfl
  · exact ⟨⟨'-', d :: cs, rfl, by decide, hdouble _⟩, fun _ _ => (Scans.rest _).bind hscan,
      Nat.lt_succ_self _, by decide, rfl⟩
  · have hnone : (d :: cs).head?.any Text.isAsciiDigit = false := hdigit rfl
    refine ⟨⟨'.', d :: cs, rfl, by decide, hdouble _⟩, fun _ _ => (Scans.rest _).bind ?_,
      Nat.lt_succ_self _, by decide, rfl⟩
    change Scans (if _ then _ else if _ then _ else if (true && (d :: cs).head?.any _) = true then _
      else _) _ _ _
    rw [hnone]
    exact hscan
  · exact ⟨⟨'=', d :: cs, rfl, by decide, hdouble _⟩, fun _ _ => (Scans.rest _).bind hscan,
      Nat.lt_succ_self _, by decide, rfl⟩

/-- A string in quotes. -/
theorem quoted {write : Char → List Char} (hwrite : ∀ c, WritesChar c (write c)) (s : String)
    (cs : List Char) :
    (Token.string ⟨s, some (String.ofList (Script.quoted write s))⟩).StandsAt
      (Script.quoted write s ++ cs) cs := by
  refine ⟨⟨'"', _, rfl, by decide, fun h => absurd h (by decide)⟩,
    fun ctx _ => (Scans.rest _).bind (scans_quoted hwrite ctx.strict s cs), ?_,
    Token.noConfusion, rfl⟩
  rw [List.length_append, Script.quoted, List.cons_append, List.length_cons]
  omega

/-- A number as it is written. -/
theorem numeral (n : Numeral) {cs : List Char} (hcs : EndsToken cs) :
    (Token.number n.value).StandsAt (n.text ++ cs) cs := by
  obtain ⟨d, ds, htext, hd⟩ := n.exists_text_eq_cons
  have hrest : n.text ++ cs = d :: (ds ++ cs) := by rw [htext, List.cons_append]
  refine ⟨⟨d, ds ++ cs, hrest, ?_, ?_⟩, fun ctx operandDue => (Scans.rest _).bind ?_, ?_,
    Token.noConfusion, rfl⟩
  · exact beginsToken_of_isAsciiDigit hd
  · rintro (rfl | rfl) <;> exact absurd hd (by decide)
  · have hscan := n.scans_scanNumber ctx.strict hcs
    rw [hrest] at hscan ⊢
    have hquote : d ≠ '"' := by rintro rfl; exact absurd hd (by decide)
    have happly : d ≠ '\'' := by rintro rfl; exact absurd hd (by decide)
    simp only [hquote, happly, hd, decide_false, Bool.or_self, Bool.false_eq_true, if_false,
      if_true]
    exact hscan
  · rw [hrest, List.length_cons, List.length_append]
    omega

end Token.StandsAt

end ModuleBundler.Script
