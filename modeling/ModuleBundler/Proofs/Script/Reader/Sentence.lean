import ModuleBundler.Proofs.Script.Reader.Phrase

/-!
Plain statements are read back, and so are scripts of them. A statement is known by its first token:
a plain name or a string begins an expression, and a variable is declared after the word for it. An
expression that is complete is looked through for properties that belong in patterns, of which a
plain one has none.
-/

set_option autoImplicit false

namespace ModuleBundler.Script

/-! ## Complete expressions -/

theorem Node.defaultsIn_ofList {c : Category} {ns : List (Node c)}
    (hns : ∀ n ∈ ns, n.defaultsIn = []) : (Node.ofList ns).defaultsIn = [] := by
  induction ns with
  | nil => rfl
  | cons n ns ih =>
    obtain ⟨hn, hns⟩ := List.forall_mem_cons.mp hns
    exact List.append_eq_nil_iff.mpr ⟨hn, ih hns⟩

/-- No property with a default stands in a phrase. -/
theorem Phrase.defaultsIn_eq_nil {form : Form} {e : Expr} {ts : List Token}
    (h : Phrase form e ts) : e.asWritten.defaultsIn = [] := by
  induction h with
  | name _ _ => rfl
  | member _ _ _ ih => exact ih
  | index _ _ ih ihk => exact List.append_eq_nil_iff.mpr ⟨ih, ihk⟩
  | @call _ _ arguments _ _ ih iharguments =>
    refine List.append_eq_nil_iff.mpr ⟨ih, ?_⟩
    rw [Node.asWritten_ofList, List.map_map]
    exact Node.defaultsIn_ofList (List.forall_mem_map.mpr iharguments)
  | path _ ih => exact ih
  | @array elements _ ih =>
    change (Node.ofList _).asWritten.defaultsIn = []
    rw [Node.asWritten_ofList, List.map_map]
    exact Node.defaultsIn_ofList (List.forall_mem_map.mpr ih)
  | @object fields hkeys _ ih =>
    change (Node.ofList _).asWritten.defaultsIn = []
    rw [Node.asWritten_ofList, List.map_map]
    refine Node.defaultsIn_ofList (List.forall_mem_map.mpr fun f hf => ?_)
    have hkey : ∀ {k : Key}, IsPlainKey k → k.asWritten.defaultsIn = [] := by
      rintro k (_ | _) <;> rfl
    exact List.append_eq_nil_iff.mpr ⟨hkey (hkeys f hf), ih f hf⟩
  | _ => rfl

namespace Reader

variable {r : Readers} {ts us : List Token} {comma : Bool} {e : Expr}

theorem reads_checked (he : e.defaultsIn = []) :
    Reads (At ts comma) (checked e) (· = e) (At ts comma) := by
  intro ctx s _ hs
  refine ⟨e, { s with complaints := s.complaints ++ [] }, ?_, rfl, ?_⟩
  · rw [checked, he]
    rfl
  · rwa [List.append_nil]

/-! ## Expressions -/

/-- An expression before a semicolon. -/
theorem reads_expressionEnd {c : Cover} (hc : Covers e c) :
    Reads (At (.punctuator ";" :: us) comma) (expressionEnd r c) (· = .expressionStatement e)
      (Fresh us false) :=
  reads_acceptEnd.bind fun _ hb => .ofTrue hb (.pure (by rw [hc.value_eq]) fun _ h => h)

theorem reads_expressionStatement (he : ReadsValue r e ts) (hdefaults : e.defaultsIn = []) :
    Reads (At (ts ++ .punctuator ";" :: us) comma) (expressionStatement r)
      (· = .expressionStatement e) (Fresh us false) := by
  refine (reads_expressionCover r rfl (he.reads _ comma rfl)).withIn.bind fun c hc => ?_
  split
  · exact reads_if_accept rfl (reads_expressionEnd hc)
  · rw [hc.value_eq]
    exact (reads_checked hdefaults).bind fun _ _ => reads_expressionEnd hc

/-! ## Variables -/

section Variables

variable {w : String} (hw : isPlainName w = true)
include hw

theorem reads_bindingName :
    Reads (At (.word w :: ts) comma) bindingName (· = w) (At ts false) := by
  have hne : ∀ text ∈ ["enum", "eval", "arguments", "await", "yield"], (w == text) = false :=
    fun text htext => beq_eq_false_of_isPlainName hw (by revert text; decide)
  have hname : Reads (At (.word w :: ts) comma) (name true true) (· = w) (At ts false) := by
    refine reads_here.bind fun start _ => ?_
    refine (reads_anyName (isWord_of_isPlainName hw)).bind fun n hn => ?_
    rw [hn]
    refine .ofFalse ?_ (.ofFalse (contains_eq_false hw (by decide)) ?_)
    · rw [contains_eq_false hw (by decide), hne _ (by decide), Bool.or_self]
    refine .ofContext fun ctx _ => .ofFalse ?_
      (.ofFalse (Bool.and_false _) (.pure rfl fun _ h => h))
    rw [hne _ (by decide), Bool.false_and]
  refine reads_here.bind fun start _ => hname.bind fun n hn => ?_
  rw [hn]
  refine .ofContext fun ctx _ => ?_
  refine .ofFalse (by rw [hne _ (by decide), hne _ (by decide)]; rfl) ?_
  refine .ofFalse (by rw [hne _ (by decide)]; rfl) (.ofFalse (by rw [hne _ (by decide)]; rfl) ?_)
  exact .pure rfl fun _ h => h

theorem reads_bindingTarget :
    Reads (At (.word w :: ts) comma) (bindingTarget r) (· = .binding w) (At ts false) := by
  refine (reads_required rfl).bind fun l hl => ?_
  rw [hl.token_eq]
  exact (reads_bindingName hw).bind fun n hn => .pure (by rw [hn]) fun _ h => h

theorem reads_declarator {d : Nat} (he : ReadsValue (readers (d + 1)) e ts)
    (hdefaults : e.defaultsIn = []) :
    Reads (At (.word w :: .punctuator "=" :: (ts ++ .punctuator ";" :: us)) comma)
      (declarator (readers (d + 1)) false)
      (fun p => p.2 = .declarator (.binding w) (.present e))
      (At (.punctuator ";" :: us) false) := by
  have hvalue : Reads (At (ts ++ .punctuator ";" :: us) false)
      (assignmentValue (readers (d + 1))) (· = e) (At (.punctuator ";" :: us) false) :=
    (he.reads _ _ rfl).bind fun c hc => .pure hc.value_eq fun _ h => h
  refine reads_here.bind fun start _ => (reads_bindingTarget hw).bind fun target htarget => ?_
  refine (reads_atAny? ["in", "of"]).bind fun b _ => .ofFalse (Bool.false_and b) ?_
  refine reads_accept_then (by decide) (ReadsIn.fresh (hvalue.bind fun a ha => ?_))
  rw [ha]
  exact (reads_checked hdefaults).bind fun v hv => .pure (by rw [hv, htarget]) fun _ h => h

theorem reads_variablesStatement {d : Nat} (he : ReadsValue (readers (d + 1)) e ts)
    (hdefaults : e.defaultsIn = []) :
    Reads (At (.word "var" :: .word w :: .punctuator "=" :: (ts ++ .punctuator ";" :: us)) comma)
      (variablesStatement (readers (d + 1)) .var) (· = Build.var w e) (Fresh us false) := by
  have hfrom : Reads (At (.word w :: .punctuator "=" :: (ts ++ .punctuator ";" :: us)) false)
      (do declaratorsFrom (readers (d + 1)) false (← tokensLeft) [])
      (fun ds => ds.map (·.2) = [.declarator (.binding w) (.present e)])
      (At (.punctuator ";" :: us) false) := by
    refine reads_tokensLeft.bind fun fuel hfuel => ?_
    obtain ⟨fuel, rfl⟩ := Nat.exists_eq_add_of_lt hfuel
    refine (reads_at? ";").bind fun b hb => reads_atEnd?.bind fun b' hb' => ?_
    refine .ofFalse ?_ ?_
    · have hbegins : (Token.word w).beginsPath = true := hw
      rw [hb, hb', firstToken_cons, Token.is_eq_false hbegins (by decide) rfl]
      rfl
    refine (reads_declarator hw he hdefaults).bind fun declared hdeclared => ?_
    exact reads_if_accept rfl (.pure (congrArg (fun d => [d]) hdeclared) fun _ h => h)
  have hdeclarators : Reads
      (At (.word "var" :: .word w :: .punctuator "=" :: (ts ++ .punctuator ";" :: us)) comma)
      (declarators (readers (d + 1)) .var false)
      (fun ds => ds.map (·.2) = [.declarator (.binding w) (.present e)])
      (At (.punctuator ";" :: us) false) :=
    reads_advance.bind fun _ _ => ReadsIn.fresh (hfrom.withContext fun _ h => h)
  refine hdeclarators.bind fun ds hds => reads_acceptEnd.bind fun b hb => .ofTrue hb ?_
  exact .pure (by rw [hds]; rfl) fun _ h => h

end Variables

/-! ## Statements -/

theorem reads_statement_of_path (he : ReadsValue r e ts)
    (hfirst : ∃ t us, ts = t :: us ∧ t.beginsPath = true) (hdefaults : e.defaultsIn = []) :
    Reads (At (ts ++ .punctuator ";" :: us) comma) (statement r true) (· = .expressionStatement e)
      (Fresh us false) := by
  have hexpression : Reads (At (ts ++ .punctuator ";" :: us) comma) _ _ _ :=
    reads_expressionStatement he hdefaults
  obtain ⟨t, ts, rfl, ht⟩ := hfirst
  cases t with
  | word w =>
    have hne : ∀ text ∈ grammarWords, w ≠ text := fun text htext =>
      beq_eq_false_iff_ne.mp (beq_eq_false_of_isPlainName ht htext)
    refine (reads_required rfl).bind fun l hl => ?_
    rw [hl.token_eq, List.cons_append, firstToken_cons]
    -- a plain name is none of the words that begin other statements
    dsimp only
    split
    all_goals try exact hexpression
    all_goals rename_i heq
    all_goals try exact absurd (Token.word.inj heq) (hne _ (by decide))
    all_goals cases heq
  | _ => cases ht

/-- **Plain statements are read** as the trees with the marks of their texts. -/
theorem reads_statement {s : Statement} (hs : Sentence s ts) {d : Nat} (hd : 3 * ts.length ≤ d) :
    Reads (At (ts ++ us) comma) (statement (readers d) true) (· = s.asWritten)
      (Fresh us false) := by
  cases hs with
  | @path e ts he =>
    rw [List.length_append, List.length_singleton] at hd
    rw [List.append_assoc]
    exact reads_statement_of_path (readsForm_of_phrase he.path d (by omega)) he.exists_first_path
      he.defaultsIn_eq_nil
  | @string s hs =>
    rw [List.length_cons, List.length_singleton] at hd
    have hstring := readsForm_of_phrase (.string hs) d (by rw [List.length_singleton]; omega)
    refine (reads_required rfl).bind fun l hl => ?_
    rw [hl.token_eq]
    exact reads_expressionStatement hstring rfl
  | @var w e ts hw he =>
    simp only [List.length_append, List.length_cons, List.length_nil] at hd
    obtain ⟨d, rfl⟩ : ∃ k, d = k + 1 := ⟨d - 1, by omega⟩
    have hvalue := readsForm_of_phrase he (d + 1) (by omega)
    refine (reads_required rfl).bind fun l hl => ?_
    rw [hl.token_eq, List.cons_append, List.cons_append, List.cons_append, List.append_assoc]
    exact reads_variablesStatement hw hvalue he.defaultsIn_eq_nil

/-! ## Scripts -/

theorem reads_outermostStatement {s : Statement} (hs : Sentence s ts) {d : Nat}
    (hd : 3 * ts.length ≤ d) :
    Reads (At (ts ++ us) comma) (outermostStatement (readers d)) (· = s.asWritten)
      (Fresh us false) := by
  obtain ⟨t, rest, htokens, ht⟩ := hs.exists_first
  have hawait : (firstToken (ts ++ us)).is "await" = false := by
    rw [htokens]
    exact Token.is_eq_false ht (by decide) rfl
  exact reads_if_at hawait (reads_statement hs hd)

/-- A statement stands here, so the script goes on. -/
theorem reads_atEnd?_sentence {s : Statement} (hs : Sentence s ts) :
    Reads (At (ts ++ us) comma) atEnd? (· = false) (At (ts ++ us) comma) := by
  obtain ⟨t, rest, rfl, ht⟩ := hs.exists_first
  refine reads_atEnd?.imp fun b hb => hb.trans ?_
  cases t with
  | endOfInput => cases ht
  | _ => rfl

theorem length_le_flatten {body : List Statement} {parts : List (List Token)}
    (hbody : List.Forall₂ Sentence body parts) : parts.length ≤ parts.flatten.length := by
  induction hbody with
  | nil => exact Nat.le_refl 0
  | cons hs _ ih =>
    obtain ⟨t, us, rfl, -⟩ := hs.exists_first
    rw [List.flatten_cons, List.length_append, List.length_cons, List.length_cons]
    omega

theorem reads_scriptFrom {body : List Statement} {parts : List (List Token)}
    (hbody : List.Forall₂ Sentence body parts) {d : Nat}
    (hd : ∀ ts ∈ parts, 3 * ts.length ≤ d) {fuel : Nat} (hfuel : parts.length < fuel)
    (acc : List Statement) :
    Reads (At parts.flatten false) (scriptFrom (readers d) fuel acc)
      (· = acc.reverse ++ body.map Node.asWritten) (At [] false) := by
  induction hbody generalizing fuel acc with
  | nil =>
    obtain ⟨fuel, rfl⟩ := Nat.exists_eq_add_of_lt hfuel
    exact reads_atEnd?.bind fun b hb => .ofTrue hb (.pure (List.append_nil _).symm fun _ h => h)
  | @cons s ts body parts hs _ ih =>
    obtain ⟨fuel, rfl⟩ := Nat.exists_eq_add_of_lt hfuel
    obtain ⟨hts, hd⟩ := List.forall_mem_cons.mp hd
    rw [List.flatten_cons]
    refine (reads_atEnd?_sentence hs).bind fun b hb => .ofFalse hb ?_
    refine (reads_outermostStatement hs hts).bind fun s' hs' => ReadsIn.fresh ?_
    refine (ih hd (by rw [List.length_cons]; omega) (s' :: acc)).imp ?_
    rintro _ rfl
    rw [hs', List.reverse_cons, List.append_assoc]
    rfl

theorem reads_script {body : List Statement} {parts : List (List Token)}
    (hbody : List.Forall₂ Sentence body parts) {d : Nat}
    (hd : ∀ ts ∈ parts, 3 * ts.length ≤ d) :
    Reads (At parts.flatten false) (script (readers d)) (· = body.map Node.asWritten)
      (At [] false) := by
  cases hbody with
  | nil => exact reads_atEnd?.bind fun b hb => .ofTrue hb (.pure rfl fun _ h => h)
  | @cons s ts body parts hs hbody =>
    obtain ⟨hts, hd⟩ := List.forall_mem_cons.mp hd
    rw [List.flatten_cons]
    refine (reads_atEnd?_sentence hs).bind fun b hb => .ofFalse hb ?_
    refine (reads_outermostStatement hs hts).bind fun first hfirst => ReadsIn.fresh ?_
    have hothers : Reads (At parts.flatten false)
        (do scriptFrom (readers d) (← tokensLeft) [first]) (· = [first] ++ body.map Node.asWritten)
        (At [] false) := by
      refine reads_tokensLeft.bind fun fuel hfuel => ?_
      exact reads_scriptFrom hbody hd ((length_le_flatten hbody).trans_lt hfuel) [first]
    refine (hothers.withStrict _).imp ?_
    rintro _ rfl
    rw [hfirst]
    rfl

end Reader

/-- **A text that spells the tokens of plain statements is read as them.** -/
theorem Program.ofText_of_spells {body : List Statement} {parts : List (List Token)}
    (hbody : List.Forall₂ Sentence body parts) {text : List Char}
    (htext : Spells text parts.flatten) :
    Program.ofText text = .ok ⟨none, body.map Node.asWritten⟩ := by
  have hmark : firstToken parts.flatten ≠ .punctuator "#" := by
    cases hbody with
    | nil => exact nofun
    | cons hs _ =>
      obtain ⟨t, us, rfl, ht⟩ := hs.exists_first
      rintro rfl
      exact absurd ht (by decide)
  have hd : ∀ ts ∈ parts, 3 * ts.length ≤ 3 * text.length + 12 := by
    intro ts hts
    have hle := (List.sublist_flatten_of_mem hts).length_le.trans htext.length_le
    omega
  have hscript : Reader.OutsideGenerators { isModule := false, strict := false } := rfl
  obtain ⟨statements, hrun, rfl⟩ :=
    Reader.exists_run_eq_ok hscript htext hmark (Reader.reads_script hbody hd)
  rw [Program.ofText, Reader.readersFor, hrun]
  rfl

end ModuleBundler.Script
