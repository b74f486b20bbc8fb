import ModuleBundler.Proofs.Script.Lexer.Spelling
import ModuleBundler.Proofs.Script.Reader.Yields
import ModuleBundler.Script.Reader

/-!
Reading that succeeds. Where a reading stands is told by the tokens that are left (`At`): the text
spells them, nothing has been complained of, and the current token, if it is held already, is the
first of them. `ReadsIn` says of a reading step that from where it starts it yields a value of a
kind and gets to where it ends, in all contexts of a kind; such steps chain (`ReadsIn.bind`).

Of the steps that look at the current token there are two lemmas each: one for the token that is
asked for, which is taken, and one for any other token, which stays.
-/

set_option autoImplicit false

namespace ModuleBundler.Script.Reader

/-! ## Where a reading stands -/

/-- Apart from the current token the reading stands before tokens, and nothing has been complained
of. The mark says whether a comma was taken last. -/
structure Rests (ts : List Token) (comma : Bool) (s : State) : Prop where
  following_eq : s.following = none
  complaints_eq : s.complaints = []
  plain : s.lexer.situation.IsPlain
  spelled : Spells s.lexer.source.rest ts
  lastIsComma_eq : s.lastIsComma = comma

/-- No token is held. -/
structure Fresh (ts : List Token) (comma : Bool) (s : State) : Prop extends Rests ts comma s where
  current_eq : s.current = none

/-- A token is held, with nothing wrong with it. What is returned stands on the line of `return`. -/
structure Held (t : Token) (ts : List Token) (comma : Bool) (s : State) : Prop
    extends Rests ts comma s where
  current_clean : ∃ l, s.current = some l ∧ l.IsClean t
  atStart_eq : s.lexer.atStart = false
  stays : t = .word "return" → StaysOnLine s.lexer.source.rest

/-- The current token may be held; it is the first of those that are left. -/
def At (ts : List Token) (comma : Bool) (s : State) : Prop :=
  Fresh ts comma s ∨ Held (firstToken ts) ts.tail comma s

/-- No token is held, and the first one stands on the line of the one before it. -/
structure OnLine (ts : List Token) (comma : Bool) (s : State) : Prop
    extends Fresh ts comma s where
  atStart_eq : s.lexer.atStart = false
  stays : StaysOnLine s.lexer.source.rest

theorem Fresh.at {ts : List Token} {comma : Bool} {s : State} (h : Fresh ts comma s) :
    At ts comma s := .inl h

theorem At.complaints_eq {ts : List Token} {comma : Bool} {s : State} (h : At ts comma s) :
    s.complaints = [] := by
  obtain h | h := h
  · exact h.complaints_eq
  · exact h.complaints_eq

/-! ## Steps -/

/-- In all contexts of a kind a reading step yields, from where it starts, a value of a kind and
gets to where it ends. -/
def ReadsIn (C : Context → Prop) {α : Type} (P : State → Prop) (x : Reading α) (A : α → Prop)
    (Q : State → Prop) : Prop :=
  ∀ ctx s, C ctx → P s → ∃ a s', (x ctx).run s = (.ok a, s') ∧ A a ∧ Q s'

/-- A context outside of generators. -/
def OutsideGenerators (ctx : Context) : Prop := ctx.inGenerator = false

/-- Reading outside of generators. -/
abbrev Reads {α : Type} (P : State → Prop) (x : Reading α) (A : α → Prop) (Q : State → Prop) :
    Prop :=
  ReadsIn OutsideGenerators P x A Q

section Steps

variable {C : Context → Prop} {α β : Type} {P Q R : State → Prop} {A : α → Prop} {B : β → Prop}

namespace ReadsIn

theorem pure {a : α} (ha : A a) (hPQ : ∀ s, P s → Q s) : ReadsIn C P (Pure.pure a) A Q :=
  fun _ s _ hs => ⟨a, s, rfl, ha, hPQ s hs⟩

theorem bind {x : Reading α} {f : α → Reading β} (hx : ReadsIn C P x A Q)
    (hf : ∀ a, A a → ReadsIn C Q (f a) B R) : ReadsIn C P (x >>= f) B R := by
  intro ctx s hctx hs
  obtain ⟨a, s₁, hrun₁, ha, hs₁⟩ := hx ctx s hctx hs
  obtain ⟨b, s₂, hrun₂, hb, hs₂⟩ := hf a ha ctx s₁ hctx hs₁
  refine ⟨b, s₂, ?_, hb, hs₂⟩
  rw [run_bind, hrun₁]
  exact hrun₂

theorem mono {P' Q' : State → Prop} {A' : α → Prop} {x : Reading α} (hx : ReadsIn C P x A Q)
    (hP : ∀ s, P' s → P s) (hA : ∀ a, A a → A' a) (hQ : ∀ s, Q s → Q' s) :
    ReadsIn C P' x A' Q' := by
  intro ctx s hctx hs
  obtain ⟨a, s', hrun, ha, hs'⟩ := hx ctx s hctx (hP s hs)
  exact ⟨a, s', hrun, hA a ha, hQ s' hs'⟩

theorem map {x : Reading α} {f : α → β} (hx : ReadsIn C P x A Q) (hf : ∀ a, A a → B (f a)) :
    ReadsIn C P (f <$> x) B Q := by
  intro ctx s hctx hs
  obtain ⟨a, s', hrun, ha, hs'⟩ := hx ctx s hctx hs
  refine ⟨f a, s', ?_, hf a ha, hs'⟩
  rw [map_eq_pure_bind, run_bind, hrun]
  rfl

/-- A weaker statement about what is read. -/
theorem imp {A' : α → Prop} {x : Reading α} (hx : ReadsIn C P x A Q) (hA : ∀ a, A a → A' a) :
    ReadsIn C P x A' Q :=
  hx.mono (fun _ h => h) hA fun _ h => h

/-- What is read in more contexts. -/
theorem inside {C' : Context → Prop} {x : Reading α} (hx : ReadsIn C' P x A Q)
    (hC : ∀ ctx, C ctx → C' ctx) : ReadsIn C P x A Q :=
  fun ctx s hctx hs => hx ctx s (hC ctx hctx) hs

/-- A step that may start with a token held may start without one. -/
theorem fresh {ts : List Token} {comma : Bool} {x : Reading α}
    (hx : ReadsIn C (At ts comma) x A Q) : ReadsIn C (Fresh ts comma) x A Q :=
  hx.mono (fun _ h => h.at) (fun _ h => h) fun _ h => h

/-- A choice that is not made. -/
theorem ofFalse {b : Bool} {x y : Reading α} (hb : b = false) (hy : ReadsIn C P y A Q) :
    ReadsIn C P (if b then x else y) A Q := by
  rw [hb]
  exact hy

/-- A choice that is made. -/
theorem ofTrue {b : Bool} {x y : Reading α} (hb : b = true) (hx : ReadsIn C P x A Q) :
    ReadsIn C P (if b then x else y) A Q := by
  rw [hb]
  exact hx

/-- A step that asks for the context. -/
theorem ofContext {f : Context → Reading β} (hf : ∀ ctx, C ctx → ReadsIn C P (f ctx) B R) :
    ReadsIn C P (read >>= f) B R := by
  intro ctx s hctx hs
  rw [run_bind]
  exact hf ctx hctx ctx s hctx hs

/-- A step in another context. -/
theorem withContext {C' : Context → Prop} {f : Context → Context} {x : Reading α}
    (hx : ReadsIn C' P x A Q) (hf : ∀ ctx, C ctx → C' (f ctx)) :
    ReadsIn C P (withReader f x) A Q :=
  fun ctx s hctx hs => hx (f ctx) s (hf ctx hctx) hs

/-- A step that is ready for a failure which does not come. -/
theorem «catch» {x : Reading α} {handle : Fault → Reading α} (hx : ReadsIn C P x A Q) :
    ReadsIn C P (tryCatch x handle) A Q := by
  intro ctx s hctx hs
  obtain ⟨a, s', hrun, ha, hs'⟩ := hx ctx s hctx hs
  refine ⟨a, s', ?_, ha, hs'⟩
  rw [run_tryCatch, hrun]

end ReadsIn

theorem Reads.withIn {x : Reading α} (hx : Reads P x A Q) : Reads P (Reader.withIn x) A Q :=
  ReadsIn.withContext hx fun _ hctx => hctx

theorem Reads.withStrict {x : Reading α} (hx : Reads P x A Q) (strict : Bool) :
    Reads P (Reader.withStrict strict x) A Q :=
  ReadsIn.withContext hx fun _ hctx => hctx

end Steps

/-! ## The current token -/

section CurrentToken

variable {C : Context → Prop} {t : Token} {ts : List Token} {comma : Bool}

/-- Without a token held one is scanned; whether a line ends before it is told by the text. -/
theorem exists_run_look (ctx : Context) {s : State} (hs : Fresh ts comma s) : ∃ l s',
    (look ctx).run s = (.ok l, s') ∧ l.IsClean (firstToken ts) ∧
      Held (firstToken ts) ts.tail comma s' ∧
      (StaysOnLine s.lexer.source.rest →
        l.afterLineBreak = (s.lexer.atStart || (firstToken ts).isEnd)) := by
  obtain ⟨⟨hfollowing, hcomplaints, hplain, hspelled, hcomma⟩, hcurrent⟩ := hs
  obtain ⟨breaks, cs', hbegins, htail, hline, hreturn⟩ := hspelled.begins
  obtain ⟨hclean, hbreak, hplain', hrest', hstart'⟩ := hbegins ctx s.lexer hplain rfl
  refine ⟨(s.lexer.next ctx).1, { s with
    lexer := (s.lexer.next ctx).2
    current := some (s.lexer.next ctx).1
    complaints := s.complaints ++ (s.lexer.next ctx).1.complaints }, ?_, hclean,
    ⟨⟨hfollowing, ?_, hplain', hrest' ▸ htail, hcomma⟩, ⟨_, rfl, hclean⟩, hstart',
      hrest' ▸ hreturn⟩, fun hstays => ?_⟩
  · obtain ⟨lexer, current, following, lastStart, lastStop, lastIsComma, complaints⟩ := s
    cases hfollowing
    cases hcurrent
    rfl
  · rw [hclean.complaints_eq, List.append_nil]
    exact hcomplaints
  · rw [hbreak, hline hstays, Bool.or_false]

theorem reads_look_held :
    ReadsIn C (At ts comma) look (·.IsClean (firstToken ts))
      (Held (firstToken ts) ts.tail comma) := by
  rintro ctx s - (hfresh | hheld)
  · obtain ⟨l, s', hrun, hclean, hheld, -⟩ := exists_run_look ctx hfresh
    exact ⟨l, s', hrun, hclean, hheld⟩
  · obtain ⟨l, hcurrent, hclean⟩ := hheld.current_clean
    refine ⟨l, s, ?_, hclean, hheld⟩
    obtain ⟨lexer, current, following, lastStart, lastStop, lastIsComma, complaints⟩ := s
    cases hcurrent
    rfl

theorem reads_look : ReadsIn C (At ts comma) look (·.IsClean (firstToken ts)) (At ts comma) :=
  reads_look_held.mono (fun _ h => h) (fun _ h => h) fun _ h => .inr h

/-- The token is taken. -/
theorem reads_advance :
    ReadsIn C (At (t :: ts) comma) advance (fun _ => True) (Fresh ts (t.is ",")) := by
  refine reads_look_held.bind fun l hl => ?_
  rintro ctx s - ⟨⟨hfollowing, hcomplaints, hplain, hspelled, -⟩, -⟩
  refine ⟨(), _, rfl, trivial, ⟨hfollowing, hcomplaints, hplain, hspelled, ?_⟩, rfl⟩
  exact congrArg (Token.is · ",") hl.token_eq

theorem reads_current :
    ReadsIn C (At ts comma) current (·.IsClean (firstToken ts)) (At ts comma) := by
  refine reads_look.bind fun l hl => ?_
  rw [hl.fault_eq]
  exact .pure hl fun _ h => h

theorem reads_at? (text : String) :
    ReadsIn C (At ts comma) (at? text) (· = (firstToken ts).is text) (At ts comma) :=
  reads_look.bind fun _ hl => .pure (congrArg (Token.is · text) hl.token_eq) fun _ h => h

theorem reads_atAny? (texts : List String) :
    ReadsIn C (At ts comma) (atAny? texts) (· = texts.any (firstToken ts).is) (At ts comma) :=
  reads_look.bind fun _ hl => .pure (by rw [hl.token_eq]) fun _ h => h

theorem reads_atEnd? :
    ReadsIn C (At ts comma) atEnd? (· = (firstToken ts).isEnd) (At ts comma) :=
  reads_current.bind fun _ hl => .pure (congrArg Token.isEnd hl.token_eq) fun _ h => h

theorem reads_afterLineBreak? :
    ReadsIn C (At ts comma) afterLineBreak? (fun _ => True) (At ts comma) :=
  reads_look.bind fun _ _ => .pure trivial fun _ h => h

theorem reads_here : ReadsIn C (At ts comma) here (fun _ => True) (At ts comma) := by
  refine reads_look.bind fun l hl => ?_
  split
  · exact fun ctx s _ hs => ⟨s.lastStop, s, rfl, trivial, hs⟩
  · exact .pure trivial fun _ h => h

theorem reads_required (hend : (firstToken ts).isEnd = false) :
    ReadsIn C (At ts comma) required (·.IsClean (firstToken ts)) (At ts comma) :=
  reads_atEnd?.bind fun _ hb => .ofFalse (hb.trans hend) reads_current

/-- The token that is asked for is taken. -/
theorem reads_accept_self {text : String} (hself : t.is text = true) :
    ReadsIn C (At (t :: ts) comma) (accept text) (· = true) (Fresh ts (t.is ",")) :=
  (reads_at? text).bind fun _ hb =>
    .ofTrue (hb.trans hself) (reads_advance.bind fun _ _ => .pure rfl fun _ h => h)

/-- Another token stays. -/
theorem reads_accept_other {text : String} (hother : (firstToken ts).is text = false) :
    ReadsIn C (At ts comma) (accept text) (· = false) (At ts comma) :=
  (reads_at? text).bind fun _ hb => .ofFalse (hb.trans hother) (.pure rfl fun _ h => h)

section Choices

variable {α : Type} {x y : Reading α} {A : α → Prop} {Q : State → Prop} {text : String}

/-- What is done at another token is left out. -/
theorem reads_if_at (hother : (firstToken ts).is text = false)
    (hy : ReadsIn C (At ts comma) y A Q) :
    ReadsIn C (At ts comma) (at? text >>= fun b => if b = true then x else y) A Q :=
  (reads_at? text).bind fun _ hb => .ofFalse (hb.trans hother) hy

/-- What is done after another token is left out. -/
theorem reads_if_accept (hother : (firstToken ts).is text = false)
    (hy : ReadsIn C (At ts comma) y A Q) :
    ReadsIn C (At ts comma) (accept text >>= fun b => if b = true then x else y) A Q :=
  (reads_accept_other hother).bind fun _ hb => .ofFalse hb hy

/-- What is done after the token that is asked for. -/
theorem reads_accept_then (hself : t.is text = true) (hx : ReadsIn C (Fresh ts (t.is ",")) x A Q) :
    ReadsIn C (At (t :: ts) comma) (accept text >>= fun b => if b = true then x else y) A Q :=
  (reads_accept_self hself).bind fun _ hb => .ofTrue hb hx

end Choices

theorem reads_expect {text : String} (hself : t.is text = true) :
    ReadsIn C (At (t :: ts) comma) (expect text) (fun _ => True) (Fresh ts (t.is ",")) :=
  reads_accept_then hself (.pure trivial fun _ h => h)

/-- A bound on the tokens is one. -/
theorem reads_tokensLeft : ReadsIn C (At ts comma) tokensLeft (ts.length < ·) (At ts comma) := by
  intro ctx s _ hs
  refine ⟨_, s, rfl, ?_, hs⟩
  obtain hfresh | hheld := hs
  · have hle := hfresh.spelled.length_le
    omega
  · have hle := hheld.spelled.length_le
    rw [List.length_tail] at hle
    omega

/-- No comment stands before the token, so what counts is the token before. -/
theorem reads_afterComma? : ReadsIn C (At ts comma) afterComma? (· = comma) (At ts comma) := by
  refine reads_look.bind fun l hl => ?_
  rw [hl.commentBefore_eq]
  intro ctx s _ hs
  refine ⟨s.lastIsComma, s, rfl, ?_, hs⟩
  obtain hfresh | hheld := hs
  · exact hfresh.lastIsComma_eq
  · exact hheld.lastIsComma_eq

/-- The end of a statement. -/
theorem reads_acceptEnd :
    ReadsIn C (At (.punctuator ";" :: ts) comma) acceptEnd (· = true) (Fresh ts false) :=
  reads_accept_then (by decide) (.pure rfl fun _ h => h)

theorem reads_expectEnd :
    ReadsIn C (At (.punctuator ";" :: ts) comma) expectEnd (fun _ => True) (Fresh ts false) :=
  reads_acceptEnd.bind fun _ hb => .ofTrue hb (.pure trivial fun _ h => h)

/-! ## What is returned -/

/-- After `return` no line ends. -/
theorem reads_advance_return :
    ReadsIn C (At (.word "return" :: ts) comma) advance (fun _ => True) (OnLine ts false) := by
  refine reads_look_held.bind fun l hl => ?_
  rintro ctx s - ⟨⟨hfollowing, hcomplaints, hplain, hspelled, -⟩, -, hstart, hstays⟩
  refine ⟨(), _, rfl, trivial, ⟨⟨hfollowing, hcomplaints, hplain, hspelled, ?_⟩, rfl⟩, hstart,
    hstays rfl⟩
  change l.token.is "," = false
  rw [hl.token_eq]
  rfl

/-- A statement does not end before a token on its line. -/
theorem reads_endsStatement? (hend : (firstToken ts).isEnd = false)
    (hother : ∀ text ∈ [";", "\x7d"], (firstToken ts).is text = false) :
    ReadsIn C (OnLine ts comma) endsStatement? (· = false) (At ts comma) := by
  have hlook : ReadsIn C (OnLine ts comma) look
      (fun l => l.IsClean (firstToken ts) ∧ l.afterLineBreak = false) (At ts comma) := by
    rintro ctx s - hs
    obtain ⟨l, s', hrun, hclean, hheld, hline⟩ := exists_run_look ctx hs.toFresh
    exact ⟨l, s', hrun, ⟨hclean, by rw [hline hs.stays, hs.atStart_eq, hend]; rfl⟩, .inr hheld⟩
  refine hlook.bind fun l hl => .pure ?_ fun _ h => h
  rw [hl.1.token_eq, hl.2, hother _ (by decide), hother _ (by decide)]
  rfl

end CurrentToken

/-! ## Whole texts -/

/-- A text that spells tokens does not name its interpreter, unless it begins with the mark that
does. -/
theorem interpreterOf_eq {text : List Char} {ts : List Token} (htext : Spells text ts)
    (hts : firstToken ts ≠ .punctuator "#") :
    interpreterOf (Source.ofText text) = (none, ⟨text, ⟨1, 1⟩⟩) := by
  have hsource : Source.ofText text = ⟨text, ⟨1, 1⟩⟩ := by
    unfold Source.ofText
    split
    · obtain h | h | ⟨h, -⟩ := htext.head?_eq rfl
      · exact absurd h (by decide)
      · exact absurd h (by decide)
      · exact absurd h (by decide)
    · rfl
  have hmark : (⟨text, ⟨1, 1⟩⟩ : Source).startsWith "#!" = false := by
    rw [Source.startsWith, ← Bool.not_eq_true, List.isPrefixOf_iff_prefix]
    rintro ⟨rest, hrest⟩
    obtain rfl : '#' :: '!' :: rest = text := hrest
    obtain h | h | ⟨-, cs', ht⟩ := htext.head?_eq rfl
    · exact absurd h (by decide)
    · exact absurd h (by decide)
    · have hpunctuator := Token.StandsAt.mark (c := '#') (by decide) ('!' :: rest)
      exact hts ((ht.scans { isModule := false, strict := false } true).unique
        (hpunctuator.scans _ true))
  rw [hsource, interpreterOf, hmark]
  rfl

/-- A reading of all tokens is a reading of the text that spells them, without a complaint. -/
theorem exists_run_eq_ok {α : Type} {ctx : Context} {x : Reading α} {A : α → Prop}
    {text : List Char} {ts : List Token} {comma : Bool} (hctx : OutsideGenerators ctx)
    (htext : Spells text ts) (hts : firstToken ts ≠ .punctuator "#")
    (hx : Reads (At ts false) x A (At [] comma)) :
    ∃ a, run ctx x text = .ok (none, a, []) ∧ A a := by
  have hfresh : Fresh ts false { lexer := .ofSource ⟨text, ⟨1, 1⟩⟩ } := by
    refine ⟨⟨rfl, rfl, ?_, htext, rfl⟩, rfl⟩
    intro e he
    rw [List.mem_singleton.mp he]
    rfl
  obtain ⟨a, s, hrun, ha, hs⟩ := hx ctx _ hctx hfresh.at
  refine ⟨a, ?_, ha⟩
  simp only [run, interpreterOf_eq htext hts, hrun]
  rw [← hs.complaints_eq]
  rfl

end ModuleBundler.Script.Reader
