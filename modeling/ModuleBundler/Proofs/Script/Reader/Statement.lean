import ModuleBundler.Proofs.Script.Reader.Expression
import ModuleBundler.Script.Reader.Statement

/-!
What the readers of statements yield is written. What is read only to be skipped does not count.
-/

set_option autoImplicit false

namespace ModuleBundler.Script.Reader

variable {r : Readers} (hr : r.YieldWritten)

include hr

/-! ## Parts -/

theorem yields_condition : Yields (condition r) :=
  yields_parenthesized (yields_withIn (yields_expression hr))

theorem yields_loopBody : Yields (loopBody r) := .withReader _ (hr.statement false)

theorem yields_blockStatements : Yields (blockStatements r) := yields_braced hr

/-! ## Variables -/

theorem yields_declarator (inHead : Bool) : Yields (declarator r inHead) := by
  refine .step fun start => hr.bindingTarget.bind fun target htarget => .step fun _ => ?_
  have hplain : Written (Node.declarator target .absent) :=
    written_of_pair rfl rfl htarget written_absent
  refine .ite (.pure ⟨trivial, hplain⟩) (.step fun _ => .ite ?_ ?_)
  · refine (yields_assignmentValue hr).bind fun e he => (yields_checked he).bind fun e he => ?_
    exact .pure ⟨trivial, written_of_pair rfl rfl htarget (written_present he)⟩
  · split
    · exact .pure ⟨trivial, hplain⟩
    · exact yields_failAt _ start

theorem yields_declaratorsFrom (inHead : Bool) (fuel : Nat) {ds : List (Position × Declarator)}
    (hds : Written ds) : Yields (declaratorsFrom r inHead fuel ds) := by
  induction fuel generalizing ds with
  | zero => exact yields_failEnd
  | succ fuel ih =>
    rw [declaratorsFrom]
    refine .step fun _ => .step fun _ => .ite (.step fun _ => .step fun _ => ?_) ?_
    · exact .pure (written_reverse hds)
    · refine (yields_declarator hr inHead).bind fun d hd => .step fun _ => ?_
      exact .ite (ih (written_cons hd hds)) (.pure (written_reverse (written_cons hd hds)))

theorem yields_declarators (kind : DeclarationKind) (inHead : Bool) :
    Yields (declarators r kind inHead) :=
  .step fun _ => .withReader _ (.step fun _ => yields_declaratorsFrom hr inHead _ written_nil)

omit hr in
theorem written_declarators {ds : List (Position × Declarator)} (hds : Written ds) :
    Written (Node.ofList (ds.map (·.2))) := written_ofList (written_map hds fun _ hd => hd.2)

theorem yields_variablesStatement (kind : DeclarationKind) :
    Yields (variablesStatement r kind) := by
  refine (yields_declarators hr kind false).bind fun ds hds => .step fun _ => ?_
  have hresult : Written (Node.variableDeclaration kind (.ofList (ds.map (·.2)))) :=
    written_of_child rfl rfl (written_declarators hds)
  refine .ite (.pure hresult) (.step fun _ => .step fun _ => .step fun _ => .step fun _ => ?_)
  exact .step fun _ => .pure hresult

/-! ## Jumps -/

omit hr in
theorem yields_breakStatement (start : Position) : Yields (breakStatement start) := by
  refine .step fun _ => .step fun label => .step fun ctx => ?_
  have hresult : Yields (pure (.breakStatement label) : Reading Statement) :=
    .pure (written_of_leaf rfl rfl)
  cases label with
  | some l => exact .ite (.step fun _ => hresult) (.ite hresult (.step fun _ => hresult))
  | none => exact .ite hresult (.step fun _ => hresult)

omit hr in
theorem yields_continueStatement (start : Position) : Yields (continueStatement start) := by
  refine .step fun _ => .step fun label => .step fun ctx => ?_
  have hresult : Yields (pure (.continueStatement label) : Reading Statement) :=
    .pure (written_of_leaf rfl rfl)
  refine .ite (.step fun _ => hresult) ?_
  cases label with
  | some l => exact .ite hresult (.step fun _ => hresult)
  | none => exact hresult

theorem yields_returnStatement (start : Position) : Yields (returnStatement r start) := by
  have hrest : ∀ value : Option Expr, Written value → Yields (do
      expectEnd
      unless (← read).inFunction do complain .returnOutsideFunction start
      return .returnStatement (.ofOption value) : Reading Statement) :=
    fun value hvalue => .step fun _ => .step fun _ => .otherwise fun _ =>
      .pure (written_of_child rfl rfl (written_ofOption hvalue))
  refine .step fun _ => .step fun _ => .ite (.bind (.pure written_none) hrest) ?_
  exact .bind (.map (yields_withIn (yields_expression hr)) fun e he => written_some he) hrest

theorem yields_throwStatement : Yields (throwStatement r) :=
  .step fun _ => .step fun _ => .sometimesWith fun _ =>
    (yields_withIn (yields_expression hr)).bind fun _ he =>
      .step fun _ => .pure (written_of_child rfl rfl he)

/-! ## Choices -/

instance : HasTrees Branch := ⟨fun b => Written b.test ∧ Written b.yes⟩

theorem yields_branch : Yields (branch r) := by
  refine .step fun _ => (yields_withIn (yields_expression hr)).bind fun test htest => ?_
  refine .step fun _ => .ite ((hr.statement false).bind fun yes hyes => .pure ⟨htest, hyes⟩) ?_
  have hunreadable : Written (Node.expressionStatement .unreadable) :=
    written_of_child rfl rfl (written_of_leaf rfl rfl)
  exact .step fun _ => .step fun _ => .pure ⟨htest, hunreadable⟩

omit hr in
theorem written_chain {last : Node (.option .statement)} (hlast : Written last)
    {branches : List Branch} (hbranches : Written branches) : Written (chain last branches) := by
  induction branches with
  | nil => exact hlast
  | cons b rest ih =>
    obtain ⟨htest, hyes⟩ := hbranches b List.mem_cons_self
    have hrest := ih fun b' hb' => hbranches b' (List.mem_cons_of_mem b hb')
    exact written_present (written_of_three rfl rfl htest hyes hrest)

theorem yields_branchesFrom (fuel : Nat) {bs : List Branch} (hbs : Written bs) :
    Yields (branchesFrom r fuel bs) := by
  induction fuel generalizing bs with
  | zero => exact .pure ⟨written_reverse hbs, written_none⟩
  | succ fuel ih =>
    refine .step fun _ => .ite ?_ (.pure ⟨written_reverse hbs, written_none⟩)
    refine .step fun _ => .ite ((yields_branch hr).bind fun b hb => ih (written_cons hb hbs)) ?_
    exact (hr.statement false).bind fun s hs => .pure ⟨written_reverse hbs, written_some hs⟩

theorem yields_ifStatement : Yields (ifStatement r) := by
  refine .step fun _ => (yields_branch hr).bind fun first hfirst => .ite (.step fun _ => ?_) ?_
  · exact (yields_branchesFrom hr _ written_nil).bind fun others hothers =>
      .pure (written_of_three rfl rfl hfirst.1 hfirst.2
        (written_chain (written_ofOption hothers.2) hothers.1))
  · exact .pure (written_of_three rfl rfl hfirst.1 hfirst.2 written_absent)

theorem yields_caseBodyFrom (fuel : Nat) {body : List Statement} (hbody : Written body) :
    Yields (caseBodyFrom r fuel body) := by
  induction fuel generalizing body with
  | zero => exact yields_failEnd
  | succ fuel ih =>
    exact .step fun _ => .step fun _ => .ite (.pure (written_reverse hbody))
      ((hr.statement true).bind fun _ hs => ih (written_cons hs hbody))

theorem yields_casesFrom (fuel : Nat) (hasDefault : Bool) {cases : List SwitchCase}
    (hcases : Written cases) : Yields (casesFrom r fuel hasDefault cases) := by
  induction fuel generalizing hasDefault cases with
  | zero => exact yields_failEnd
  | succ fuel ih =>
    rw [casesFrom]
    refine .step fun start => .step fun _ => .ite ?_ (.step fun _ => .ite ?_ ?_)
    · refine (yields_withIn (yields_expression hr)).bind fun test htest => .step fun _ => ?_
      refine .step fun _ => (yields_caseBodyFrom hr _ written_nil).bind fun body hbody => ?_
      exact ih _ (written_cons
        (written_of_pair rfl rfl (written_present htest) (written_ofList hbody)) hcases)
    · refine .sometimes fun _ => .step fun _ => .step fun _ => ?_
      refine (yields_caseBodyFrom hr _ written_nil).bind fun body hbody => ?_
      exact ih _ (written_cons
        (written_of_pair rfl rfl written_absent (written_ofList hbody)) hcases)
    · exact .pure (written_reverse hcases)

theorem yields_switchStatement : Yields (switchStatement r) := by
  refine .step fun _ => (yields_condition hr).bind fun value hvalue => .step fun _ => ?_
  refine .bind (.withReader _ (.step fun _ => yields_casesFrom hr _ false written_nil)) ?_
  exact fun cases hcases => .step fun _ =>
    .pure (written_of_pair rfl rfl hvalue (written_ofList hcases))

/-! ## Exceptions -/

theorem yields_handlerParameter : Yields (handlerParameter r) :=
  .step fun _ => .ite
    ((yields_parenthesized hr.bindingTarget).bind fun _ hp => .pure (written_some hp))
    (.pure written_none)

theorem yields_handler? : Yields (handler? r) := by
  refine .step fun _ => .ite ?_ (.pure written_none)
  refine (yields_handlerParameter hr).bind fun p hp => ?_
  exact (yields_blockStatements hr).bind fun body hbody =>
    .pure (written_some (written_of_pair rfl rfl (written_ofOption hp) (written_ofList hbody)))

theorem yields_finalizer? : Yields (finalizer? r) :=
  .step fun _ => .ite
    ((yields_blockStatements hr).bind fun _ hbody => .pure (written_some (written_ofList hbody)))
    (.pure written_none)

theorem yields_tryStatement : Yields (tryStatement r) := by
  refine .step fun _ => (yields_blockStatements hr).bind fun body hbody => .step fun _ => ?_
  refine (yields_handler? hr).bind fun handler hhandler => ?_
  refine (yields_finalizer? hr).bind fun finalizer hfinalizer => .sometimes fun _ => .pure ?_
  exact written_of_three rfl rfl (written_ofList hbody) (written_ofOption hhandler)
    (written_ofOption hfinalizer)

omit hr in
theorem yields_strayHandler (start : Position) : Yields (strayHandler r start) :=
  .step fun _ => .step fun _ => .step fun _ =>
    .pure (written_of_child rfl rfl (written_of_leaf rfl rfl))

/-! ## Loops -/

theorem yields_whileLoop : Yields (whileLoop r) :=
  .step fun _ => (yields_condition hr).bind fun _ htest =>
    (yields_loopBody hr).bind fun _ hbody => .pure (written_of_pair rfl rfl htest hbody)

theorem yields_doLoop : Yields (doLoop r) :=
  .step fun _ => (yields_loopBody hr).bind fun _ hbody => .step fun _ =>
    (yields_condition hr).bind fun _ htest => .step fun _ =>
      .pure (written_of_pair rfl rfl hbody htest)

/-- All trees in the head of a loop are written. -/
def ForHead.IsWritten : ForHead → Prop
  | .steps init test next => Written init ∧ Written test ∧ Written next
  | .keys head holder => Written head ∧ Written holder
  | .values head sequence => Written head ∧ Written sequence

instance : HasTrees ForHead := ⟨ForHead.IsWritten⟩

theorem yields_stepsHead {init : Option LoopHead} (hinit : Written init) :
    Yields (stepsHead r init) := by
  have hsome := fun (e : Expr) (he : Written e) => written_some he
  have hrest : ∀ test : Option Expr, Written test → Yields (do
      let next ← if ← at? ")" then pure none else some <$> withIn (expression r)
      return .steps init test next : Reading ForHead) := by
    intro test htest
    have hend : ∀ next : Option Expr, Written next →
        Yields (pure (.steps init test next) : Reading ForHead) :=
      fun next hnext => .pure ⟨hinit, htest, hnext⟩
    exact .step fun _ => .ite (.bind (.pure written_none) hend)
      (.bind (.map (yields_withIn (yields_expression hr)) hsome) hend)
  refine .step fun _ => .ite (.bind (.pure written_none) hrest) ?_
  exact (yields_withIn (yields_expression hr)).bind fun e he => .step fun _ =>
    .bind (.pure (written_some he)) hrest

theorem yields_eachHead {head : LoopHead} (hhead : Written head) : Yields (eachHead r head) :=
  .step fun _ => .ite
    ((yields_withIn (yields_assignmentValue hr)).bind fun _ he => .pure ⟨hhead, he⟩)
    (.step fun _ => (yields_withIn (yields_expression hr)).bind fun _ he => .pure ⟨hhead, he⟩)

theorem yields_declaringHead (kind : DeclarationKind) : Yields (declaringHead r kind) := by
  refine (yields_declarators hr kind true).bind fun ds hds => ?_
  have hhead : Written (Node.declarationHead kind (.ofList (ds.map (·.2)))) :=
    written_of_child rfl rfl (written_declarators hds)
  refine .step fun _ => .ite (.step fun _ => yields_eachHead hr hhead) (.step fun _ => ?_)
  exact yields_stepsHead hr (written_some hhead)

theorem yields_forHead : Yields (forHead r) := by
  refine .step fun l => ?_
  have hother : Yields (do
      if ← accept ";" then return ← stepsHead r none
      let c ← withReader (fun ctx => { ctx with inAllowed := false }) (expressionCover r)
      if ← atAny? ["in", "of"] then return ← eachHead r (.patternHead (← c.asTarget))
      expect ";"
      stepsHead r (some (.expressionHead (← checked c.value)))) := by
    refine .step fun _ => .ite (yields_stepsHead hr written_none) ?_
    refine .bind (.withReader _ (yields_expressionCover hr)) fun c hc => .step fun _ => .ite ?_ ?_
    · exact (yields_asTarget hc).bind fun p hp =>
        yields_eachHead hr (written_of_child rfl rfl hp)
    · exact .step fun _ => (yields_checked (Cover.IsWritten.value hc)).bind fun e he =>
        yields_stepsHead hr (written_some (written_of_child rfl rfl he))
  split
  · refine .step fun _ => .sometimesWith fun _ => .step fun _ => ?_
    exact .ite (yields_declaringHead hr .lexical) hother
  · exact yields_declaringHead hr _
  · exact hother

theorem yields_forLoop : Yields (forLoop r) := by
  refine .step fun _ => .step fun start => .step fun isAwait => .step fun _ => ?_
  refine (yields_forHead hr).bind fun head hhead => .step fun _ => ?_
  refine (yields_loopBody hr).bind fun body hbody => ?_
  cases head with
  | steps init test next =>
    obtain ⟨hinit, htest, hnext⟩ := hhead
    exact .sometimes fun _ => .pure (written_of_four rfl rfl (written_ofOption hinit)
      (written_ofOption htest) (written_ofOption hnext) hbody)
  | keys head holder =>
    exact .sometimes fun _ => .pure (written_of_three rfl rfl hhead.1 hhead.2 hbody)
  | values head sequence => exact .pure (written_of_three rfl rfl hhead.1 hhead.2 hbody)

/-! ## Other statements -/

theorem yields_withStatement (start : Position) : Yields (withStatement r start) :=
  .step fun _ => .step fun _ => (yields_condition hr).bind fun _ hholder =>
    .bind (.withReader _ (hr.statement false)) fun _ hbody =>
      .pure (written_of_pair rfl rfl hholder hbody)

theorem yields_functionDeclaration (isAsync : Bool) : Yields (functionDeclaration r isAsync) :=
  .step fun _ => (yields_functionAfterWord hr isAsync true false).bind fun _ hf =>
    .pure (written_of_child rfl rfl hf.2)

theorem yields_classDeclaration : Yields (classDeclaration r) :=
  .step fun _ => (yields_classAfterWord hr true).bind fun _ hparts =>
    .pure (written_of_pair rfl rfl (written_ofOption hparts.2.1) (written_ofList hparts.2.2))

theorem yields_labelledBody : Yields (labelledBody r) := by
  refine .step fun start => .step fun _ => .ite ?_ (hr.statement false)
  refine (yields_functionDeclaration hr false).bind fun s hs => ?_
  split
  · exact .step fun _ => hr.statement false
  · exact .pure hs

theorem yields_labelled (start : Position) (label : String) : Yields (labelled r start label) :=
  .step fun _ => .bind (.withReader _ (yields_labelledBody hr)) fun _ hbody =>
    .sometimes fun _ => .pure (written_of_child rfl rfl hbody)

theorem yields_expressionEnd {c : Cover} (hc : Written c) : Yields (expressionEnd r c) := by
  refine .step fun _ => .ite (.pure (written_of_child rfl rfl hc.value)) (.step fun l => ?_)
  refine .ite (.step fun _ => ?_) (yields_failAt _ _)
  exact (yields_operations hr hc).bind fun c' hc' => .pure (written_of_child rfl rfl hc'.value)

theorem yields_expressionStatement : Yields (expressionStatement r) := by
  refine (yields_withIn (yields_expressionCover hr)).bind fun c hc => ?_
  split
  · exact .step fun _ => .ite (yields_labelled hr c.start _) (yields_expressionEnd hr hc)
  · exact .step fun _ => yields_expressionEnd hr hc

theorem yields_importStatement (start : Position) : Yields (importStatement r start) := by
  refine .step fun _ => .ite (.step fun next => .ite ?_ (yields_failAt _ _)) (yields_failAt _ _)
  exact (yields_withIn (yields_expression hr)).bind fun e he => .step fun _ =>
    .pure (written_of_child rfl rfl he)

theorem yields_statement (declarations : Bool) : Yields (statement r declarations) := by
  have hexpression := yields_expressionStatement hr
  refine .step fun l => ?_
  extract_lets start checkDeclaration
  split
  · exact (yields_blockStatements hr).bind fun body hbody =>
      .pure (written_of_child rfl rfl (written_ofList hbody))
  · exact .step fun _ => .pure (written_of_leaf rfl rfl)
  · exact yields_importStatement hr start
  · exact yields_importStatement hr start
  · exact yields_breakStatement start
  · exact yields_continueStatement start
  · exact .step fun _ => .step fun _ => .pure (written_of_leaf rfl rfl)
  · exact yields_doLoop hr
  · exact yields_forLoop hr
  · exact .step fun _ => yields_functionDeclaration hr false
  · exact .step fun _ => yields_classDeclaration hr
  · exact yields_ifStatement hr
  · exact yields_returnStatement hr start
  · exact yields_switchStatement hr
  · exact yields_throwStatement hr
  · exact yields_strayHandler start
  · exact yields_strayHandler start
  · exact yields_tryStatement hr
  · exact yields_withStatement hr start
  · exact yields_whileLoop hr
  · exact yields_variablesStatement hr .var
  · exact .ite (yields_variablesStatement hr .constant) hexpression
  · exact .ite (.step fun _ => .ite (yields_variablesStatement hr .lexical) hexpression) hexpression
  · exact .step fun _ => .ite (.step fun _ => yields_functionDeclaration hr true) hexpression
  · exact hexpression

theorem yields_outermostStatement : Yields (outermostStatement r) := by
  refine .step fun _ => .ite ?_ (yields_statement hr true)
  exact (yields_awaited hr).bind fun c hc => .step fun _ =>
    .pure (written_of_child rfl rfl hc.value)

end ModuleBundler.Script.Reader
