import ModuleBundler.Script.Lexer

/-!
Scanning that succeeds. A step of scanning depends on the characters that are left and, for its
messages, on where they stand; `Scans` says that a step takes one text down to another, wherever it
stands, that it yields a value and that it complains of nothing. Such steps chain (`Scans.bind`), so
what a token's scanner does on a text is put together from what its parts do.
-/

set_option autoImplicit false

namespace ModuleBundler.Script

/-! ## Steps -/

/-- A step takes a text down to another one, yields a value and complains of nothing. -/
def Scans {α : Type} (x : Scan α) (cs : List Char) (a : α) (cs' : List Char) : Prop :=
  ∀ s : Scanner, s.source.rest = cs →
    ∃ s', x.run s = (.ok a, s') ∧ s'.source.rest = cs' ∧ s'.complaints = s.complaints

/-- A step yields one value at most. -/
theorem Scans.unique {α : Type} {x : Scan α} {cs cs₁ cs₂ : List Char} {a b : α}
    (ha : Scans x cs a cs₁) (hb : Scans x cs b cs₂) : a = b := by
  obtain ⟨s₁, hrun₁, -⟩ := ha { source := ⟨cs, ⟨1, 1⟩⟩ } rfl
  obtain ⟨s₂, hrun₂, -⟩ := hb { source := ⟨cs, ⟨1, 1⟩⟩ } rfl
  rw [hrun₁] at hrun₂
  exact Except.ok.inj (congrArg Prod.fst hrun₂)

section Steps

variable {α β : Type}

theorem run_scan_bind (x : Scan α) (f : α → Scan β) (s : Scanner) :
    (x >>= f).run s =
      match x.run s with
      | (.ok a, s') => (f a).run s'
      | (.error e, s') => (.error e, s') := by
  change (match x.run s with
    | (a, s') => (ExceptT.bindCont f a : StateM Scanner (Except Fault β)) s') = _
  rcases x.run s with ⟨_ | _, _⟩ <;> rfl

namespace Scans

theorem pure (a : α) (cs : List Char) : Scans (Pure.pure a) cs a cs :=
  fun s hs => ⟨s, rfl, hs, rfl⟩

theorem bind {x : Scan α} {f : α → Scan β} {cs cs₁ cs₂ : List Char} {a : α} {b : β}
    (hx : Scans x cs a cs₁) (hf : Scans (f a) cs₁ b cs₂) : Scans (x >>= f) cs b cs₂ := by
  intro s hs
  obtain ⟨s₁, hrun, hs₁, hcomplaints₁⟩ := hx s hs
  obtain ⟨s₂, hrun₂, hs₂, hcomplaints₂⟩ := hf s₁ hs₁
  refine ⟨s₂, ?_, hs₂, hcomplaints₂.trans hcomplaints₁⟩
  rw [run_scan_bind, hrun]
  exact hrun₂

/-- A step that asks for the source goes on alike wherever the text stands. -/
theorem ofSource {f : Source → Scan α} {cs cs' : List Char} {a : α}
    (hf : ∀ s : Source, s.rest = cs → Scans (f s) cs a cs') :
    Scans (Scan.source >>= f) cs a cs' := by
  intro s hs
  rw [run_scan_bind]
  exact hf s.source hs s hs

/-- A step that asks for a position does not depend on it. -/
theorem ofPosition {f : Position → Scan α} {cs cs' : List Char} {a : α}
    (hf : ∀ p, Scans (f p) cs a cs') : Scans (Scan.position >>= f) cs a cs' := by
  intro s hs
  rw [run_scan_bind]
  exact hf s.source.position s hs

theorem rest (cs : List Char) : Scans Scan.rest cs cs cs :=
  fun s hs => ⟨s, by rw [← hs]; rfl, hs, rfl⟩

theorem next? (cs : List Char) : Scans Scan.next? cs cs.head? cs :=
  fun s hs => ⟨s, by rw [← hs]; rfl, hs, rfl⟩

theorem fuel (cs : List Char) : Scans Scan.fuel cs (cs.length + 1) cs :=
  fun s hs => ⟨s, by rw [← hs]; rfl, hs, rfl⟩

theorem rest_drop (s : Source) (n : Nat) : (s.drop n).rest = s.rest.drop n := by
  induction n generalizing s with
  | zero => rfl
  | succ n ih =>
    rw [Source.drop, ih, Source.next]
    split
    · rename_i c rest hrest
      rw [hrest, List.drop_succ_cons]
    · rename_i hrest
      rw [hrest, List.drop_nil, List.drop_nil]

theorem skip (n : Nat) (cs : List Char) : Scans (Scan.skip n) cs () (cs.drop n) :=
  fun s hs => ⟨{ s with source := s.source.drop n }, rfl, by rw [rest_drop, hs], rfl⟩

theorem accept_self (c : Char) (cs : List Char) : Scans (Scan.accept c) (c :: cs) true cs := by
  refine (next? _).bind ?_
  rw [List.head?_cons, if_pos (beq_self_eq_true _)]
  exact (skip 1 _).bind (pure true cs)

theorem accept_other {c : Char} {cs : List Char} (h : cs.head? ≠ some c) :
    Scans (Scan.accept c) cs false cs := by
  refine (next? cs).bind ?_
  rw [if_neg (by rw [beq_iff_eq]; exact h)]
  exact pure false cs

/-- What a step takes is the text up to where it leaves off. -/
theorem taken {x : Scan α} {text cs : List Char} {a : α} (hx : Scans x (text ++ cs) a cs) :
    Scans (Scan.taken x) (text ++ cs) (text, a) cs := by
  refine (rest _).bind (hx.bind ((rest cs).bind ?_))
  rw [List.length_append, Nat.add_sub_cancel, List.take_left]
  exact pure _ cs

end Scans

end Steps

/-! ## Gaps -/

/-- A character that neither separates nor begins a comment. -/
def beginsToken (c : Char) : Bool :=
  !Text.isLineBreak c && !Text.isBlank c && !(['/', '<', '>'].contains c)

theorem startsWith_eq_false {s : Source} {c d : Char} {cs rest : List Char} (hs : s.rest = c :: cs)
    (hc : c = d → cs.head? ≠ some d) {text : String} (htext : text.toList = d :: d :: rest) :
    s.startsWith text = false := by
  rw [Source.startsWith, hs, htext, List.isPrefixOf, Bool.and_eq_false_iff, beq_eq_false_iff_ne]
  by_cases hsame : d = c
  · right
    cases cs with
    | nil => rfl
    | cons e cs =>
      have he : d ≠ e := fun h => hc hsame.symm (by rw [h, List.head?_cons])
      rw [List.isPrefixOf, beq_eq_false_iff_ne.mpr he, Bool.false_and]
  · exact .inl hsame

/-- Nothing lies before a token. Two minus signs could begin a comment of old, and two signs of
equality could begin the mark of a merge. -/
theorem scans_skip_token (isModule : Bool) (fuel : Nat) (g : Gap) {c : Char} {cs : List Char}
    (hc : beginsToken c = true) (hdouble : c = '-' ∨ c = '=' → cs.head? ≠ some c) :
    Scans (Gap.skip isModule fuel g) (c :: cs) g (c :: cs) := by
  cases fuel with
  | zero => exact .pure g _
  | succ fuel =>
    rw [beginsToken, Bool.and_eq_true, Bool.and_eq_true, Bool.not_eq_true', Bool.not_eq_true',
      Bool.not_eq_true'] at hc
    obtain ⟨⟨hbreak, hblank⟩, hother⟩ := hc
    have hslash : c ≠ '/' := by rintro rfl; exact absurd hother (by decide)
    have hless : c ≠ '<' := by rintro rfl; exact absurd hother (by decide)
    have hgreater : c ≠ '>' := by rintro rfl; exact absurd hother (by decide)
    refine .ofSource fun s hs => ?_
    have hdash : s.startsWith "-->" = false :=
      startsWith_eq_false hs (fun h => h ▸ hdouble (.inl h)) rfl
    have hequals : s.startsWith "=======" = false :=
      startsWith_eq_false hs (fun h => h ▸ hdouble (.inr h)) rfl
    -- comments of old and marks of merging count where a line begins, which is not asked here
    have hlegacy : g.atLegacyComment s = false := by
      have hopen : s.startsWith "<!--" = false := by
        simp [Source.startsWith, hs, List.isPrefixOf, Ne.symm hless]
      rw [Gap.atLegacyComment, hopen, hdash, Bool.and_false, Bool.or_false]
    have hconflict : g.atConflict s = false := by
      have hopen : s.startsWith "<<<<<<< " = false :=
        startsWith_eq_false hs (fun h => absurd h hless) rfl
      have hclose : s.startsWith ">>>>>>> " = false :=
        startsWith_eq_false hs (fun h => absurd h hgreater) rfl
      simp [Gap.atConflict, Gap.conflictMarkers, hopen, hequals, hclose]
    simp only [hs, hlegacy, hconflict]
    -- the end of the text, the two kinds of comment, and any other character
    split
    · rename_i h
      cases h
    · rename_i h
      exact absurd (List.cons.inj h).1 hslash
    · rename_i h
      exact absurd (List.cons.inj h).1 hslash
    · rename_i h
      cases h
      simp only [hbreak, hblank, Bool.false_eq_true, if_false]
      exact .pure g _

/-- Nothing lies before the end of a text. -/
theorem scans_skip_end (isModule : Bool) (fuel : Nat) (g : Gap) :
    Scans (Gap.skip isModule fuel g) [] g [] := by
  cases fuel with
  | zero => exact .pure g _
  | succ fuel =>
    refine .ofSource fun s hs => ?_
    simp only [hs]
    exact .pure g _

/-- A blank is passed over. -/
theorem scans_skip_blank {isModule : Bool} {fuel : Nat} {g g' : Gap} {cs cs' : List Char}
    (hrest : Scans (Gap.skip isModule fuel g) cs g' cs') :
    Scans (Gap.skip isModule (fuel + 1) g) (' ' :: cs) g' cs' := by
  refine .ofSource fun s hs => ?_
  simp only [hs]
  exact (Scans.skip 1 _).bind hrest

/-- The end of a line is passed over and noted. -/
theorem scans_skip_line {isModule : Bool} {fuel : Nat} {g g' : Gap} {cs cs' : List Char}
    (hrest : Scans (Gap.skip isModule fuel { g with hasLineBreak := true }) cs g' cs') :
    Scans (Gap.skip isModule (fuel + 1) g) ('\n' :: cs) g' cs' := by
  refine .ofSource fun s hs => ?_
  simp only [hs]
  exact (Scans.skip 1 _).bind hrest

end ModuleBundler.Script
