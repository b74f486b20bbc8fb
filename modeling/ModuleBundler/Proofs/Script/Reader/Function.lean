import ModuleBundler.Proofs.Script.Reader.Cover
import ModuleBundler.Script.Reader.Function

/-!
What the readers of names, keys, binding patterns and functions yield is written, if it is so for
the readers that they call.
-/

set_option autoImplicit false

namespace ModuleBundler.Script.Reader

/-- All trees in what these readers yield are written. -/
structure Readers.YieldWritten (r : Readers) : Prop where
  assignment : Yields r.assignment
  operand : ∀ arrowAllowed, Yields (r.operand arrowAllowed)
  leftHand : Yields r.leftHand
  callee : Yields r.callee
  statement : ∀ declarations, Yields (r.statement declarations)
  bindingTarget : Yields r.bindingTarget

variable {r : Readers} (hr : r.YieldWritten)

include hr

/-! ## Expressions in general -/

theorem yields_assignmentValue : Yields (assignmentValue r) :=
  hr.assignment.bind fun _ hc => .pure hc.value

theorem yields_sequenceFrom (fuel : Nat) {parts : List Cover} (hparts : Written parts) :
    Yields (sequenceFrom r fuel parts) := by
  induction fuel generalizing parts with
  | zero => exact .pure (written_reverse hparts)
  | succ fuel ih =>
    exact .step fun _ =>
      .ite (hr.assignment.bind fun _ hc => ih (written_cons hc hparts))
        (.pure (written_reverse hparts))

omit hr in
theorem written_sequenceOf {first : Cover} {others : List Cover} (hfirst : Written first)
    (hothers : Written others) : Written (sequenceOf first others) := by
  rw [sequenceOf]
  split
  · exact hfirst
  · have hvalues := written_map (written_cons hfirst hothers) fun _ hc => Cover.IsWritten.value hc
    exact written_ofOther _ false (written_of_child rfl rfl (written_ofList hvalues))

theorem yields_expressionCover : Yields (expressionCover r) :=
  hr.assignment.bind fun _ hfirst => .step fun _ =>
    (yields_sequenceFrom hr _ written_nil).bind fun _ hothers =>
      .pure (written_sequenceOf hfirst hothers)

theorem yields_expression : Yields (expression r) :=
  (yields_expressionCover hr).bind fun _ hc => .pure hc.value

/-! ## Keys -/

theorem yields_key : Yields (key r) := by
  refine .step fun l => ?_
  split
  · exact .step fun _ => .pure (written_of_leaf rfl rfl)
  · exact .step fun _ => .pure (written_of_leaf rfl rfl)
  · exact .step fun _ => .pure (written_of_leaf rfl rfl)
  · exact .step fun _ => .pure (written_of_leaf rfl rfl)
  · refine .step fun _ => .ite ?_ (yields_failUnexpected _)
    exact (yields_withIn (yields_assignmentValue hr)).bind fun e he =>
      .step fun _ => .pure (written_of_child rfl rfl he)

/-! ## Binding patterns -/

theorem yields_bindingElement : Yields (bindingElement r) :=
  hr.bindingTarget.bind fun _ htarget => .step fun _ =>
    .ite ((yields_withIn (yields_assignmentValue hr)).bind fun _ he =>
      .pure (written_of_pair rfl rfl htarget he)) (.pure htarget)

theorem yields_arrayBindingFrom (fuel : Nat) {elements : List (Node (.option .pattern))}
    (helements : Written elements) : Yields (arrayBindingFrom r fuel elements) := by
  induction fuel generalizing elements with
  | zero => exact yields_failEnd
  | succ fuel ih =>
    rw [arrayBindingFrom]
    refine .step fun _ => .step fun _ => .ite (.pure (written_reverse helements)) ?_
    refine .step fun _ => .ite (ih (written_cons written_absent helements)) ?_
    refine .step fun _ => .ite ?_ ?_
    · exact hr.bindingTarget.bind fun p hp => .pure (written_reverse
        (written_cons (written_present (written_of_child rfl rfl hp)) helements))
    · exact (yields_bindingElement hr).bind fun p hp =>
        .step fun _ => ih (written_cons (written_present hp) helements)

theorem yields_arrayBinding : Yields (arrayBinding r) := by
  refine .step fun _ => (yields_arrayBindingFrom hr _ written_nil).bind fun elements helements => ?_
  refine .step fun _ => .step fun _ => .pure (written_of_child rfl rfl (written_ofList ?_))
  -- what is kept is among the elements
  intro element helement
  have hkept := (List.dropWhile_sublist isLeftOut).subset (List.mem_reverse.mp helement)
  exact helements element (List.mem_reverse.mp hkept)

theorem yields_propertyBinding : Yields (propertyBinding r) := by
  refine .step fun start => .step fun _ => .ite ?_ ?_
  · exact hr.bindingTarget.bind fun p hp => .pure ⟨trivial, written_of_child rfl rfl hp⟩
  · refine (yields_key hr).bind fun k hk => .step fun _ => .ite ?_ ?_
    · exact (yields_bindingElement hr).bind fun p hp =>
        .pure ⟨trivial, written_of_pair rfl rfl hk hp⟩
    · split
      · rename_i n
        have hplain : Written (Node.namePattern n .absent) := written_of_child rfl rfl written_absent
        refine .step fun _ => .ite ?_ (.step fun _ => ?_)
        · exact (yields_withIn (yields_assignmentValue hr)).bind fun e he =>
            .pure ⟨trivial, written_of_child rfl rfl (written_present he)⟩
        · exact .sometimes fun _ => .pure ⟨trivial, hplain⟩
      · exact yields_failUnexpected _

theorem yields_objectBinding : Yields (objectBinding r) := by
  refine (yields_terminated _ (yields_propertyBinding hr)).bind fun properties hproperties => ?_
  have hpatterns : Written (properties.1.map (·.2)) :=
    written_map hproperties.1 fun _ hp => hp.2
  exact .step fun _ => .pure (written_of_child rfl rfl (written_ofList hpatterns))

theorem yields_bindingTarget : Yields (bindingTarget r) := by
  refine .step fun l => ?_
  split
  · exact .step fun _ => .pure (written_of_leaf rfl rfl)
  · exact .step fun _ => .ite (yields_arrayBinding hr)
      (.step fun _ => .ite (yields_objectBinding hr) (yields_failUnexpected _))

/-! ## Bodies -/

theorem yields_statementsFrom (fuel : Nat) {body : List Statement} (hbody : Written body) :
    Yields (statementsFrom r fuel body) := by
  induction fuel generalizing body with
  | zero => exact yields_failEnd
  | succ fuel ih =>
    exact .step fun _ => .ite (.pure (written_reverse hbody))
      ((hr.statement true).bind fun _ hs => ih (written_cons hs hbody))

theorem yields_braced : Yields (braced r) :=
  .step fun _ => .step fun _ => (yields_statementsFrom hr _ written_nil).bind fun _ hbody =>
    .step fun _ => .pure hbody

theorem yields_bracedWithDirective : Yields (bracedWithDirective r) := by
  have hclose : ∀ body : List Statement, Written body →
      Yields (do expect "\x7d"; return body) := fun _ hbody => .step fun _ => .pure hbody
  refine .step fun _ => .step fun _ => .ite (.bind (.pure written_nil) hclose) ?_
  refine (hr.statement true).bind fun first hfirst => .bind (.withReader _ ?_) hclose
  exact .step fun _ => yields_statementsFrom hr _ (written_singleton hfirst)

theorem yields_functionBody (isAsync isGenerator : Bool) :
    Yields (functionBody r isAsync isGenerator) :=
  .withReader _ (yields_withIn (yields_bracedWithDirective hr))

/-! ## Parameters -/

theorem yields_parameter : Yields (parameter r) :=
  hr.bindingTarget.bind fun _ htarget => .step fun _ =>
    .ite ((yields_assignmentValue hr).bind fun _ he =>
      .pure (written_of_pair rfl rfl htarget he)) (.pure htarget)

theorem yields_restParameter : Yields (restParameter r) := by
  refine .step fun _ => (yields_parameter hr).bind fun p hp => ?_
  have hgathered : Written (Node.gathered p) := written_of_child rfl rfl hp
  cases p with
  | defaulted => exact .step fun _ => .pure hgathered
  | _ => exact .pure hgathered

theorem yields_parametersFrom (fuel : Nat) (rest : Option Position)
    {ps : List (Position × Pattern)} (hps : Written ps) :
    Yields (parametersFrom r fuel rest ps) := by
  induction fuel generalizing rest ps with
  | zero => exact yields_failEnd
  | succ fuel ih =>
    rw [parametersFrom]
    refine .step fun _ => .step fun _ => .ite (.pure (written_reverse hps)) ?_
    extract_lets next
    have hnext : ∀ u, Yields (next u) := by
      intro u
      refine .step fun start => .step fun _ => .ite ?_ ?_
      · exact (yields_restParameter hr).bind fun p hp => ih _ (written_cons ⟨trivial, hp⟩ hps)
      · exact (yields_parameter hr).bind fun p hp => ih _ (written_cons ⟨trivial, hp⟩ hps)
    exact .ite (hnext ()) (.step fun _ => .step fun _ =>
      .ite (.pure (written_reverse hps)) (hnext ()))

theorem yields_constructorParametersFrom (fuel : Nat) {ps : List Pattern} (hps : Written ps) :
    Yields (constructorParametersFrom r fuel ps) := by
  induction fuel generalizing ps with
  | zero => exact yields_failEnd
  | succ fuel ih =>
    rw [constructorParametersFrom]
    refine .step fun _ => .step fun _ => .ite (.pure (written_reverse hps)) ?_
    extract_lets next
    have hnext : ∀ u, Yields (next u) := by
      intro u
      refine .step fun _ => .ite ?_ ?_
      · exact hr.bindingTarget.bind fun p hp =>
          .pure (written_reverse (written_cons (written_of_child rfl rfl hp) hps))
      · exact (yields_parameter hr).bind fun p hp => ih (written_cons hp hps)
    exact .ite (hnext ()) (.step fun _ => .step fun _ =>
      .ite (.pure (written_reverse hps)) (hnext ()))

omit hr in
theorem yields_parenthesized {α : Type} [HasTrees α] {x : Reading α} (hx : Yields x) :
    Yields (parenthesized x) := .step fun _ => hx.bind fun _ ha => .step fun _ => .pure ha

theorem yields_constructorParameters : Yields (constructorParameters r) :=
  yields_parenthesized (.step fun _ => yields_constructorParametersFrom hr _ written_nil)

/-! ## Functions -/

omit hr in
theorem written_function (isAsync isGenerator : Bool) {ps : List Pattern} {body : List Statement}
    (hps : Written ps) (hbody : Written body) :
    Written (Node.function isAsync isGenerator (.ofList ps) (.ofList body)) :=
  written_of_pair rfl rfl (written_ofList hps) (written_ofList hbody)

theorem yields_methodTail (kind : MethodKind) (isAsync isGenerator : Bool) (start : Position) :
    Yields (methodTail r kind isAsync isGenerator start) := by
  refine .bind (yields_parenthesized (.withReader _ (.step fun _ => ?_))) fun ps hps =>
    (yields_functionBody hr isAsync isGenerator).bind fun body hbody => .pure ⟨hps, hbody⟩
  exact (yields_parametersFrom hr _ none written_nil).bind fun ps hps =>
    .step fun _ => .pure (written_map hps fun _ hp => hp.2)

theorem yields_functionTail (isAsync isGenerator : Bool) :
    Yields (functionTail r isAsync isGenerator) :=
  .step fun _ => (yields_methodTail hr _ isAsync isGenerator _).bind fun _ hparts =>
    .pure (written_function isAsync isGenerator hparts.1 hparts.2)

theorem yields_functionAfterWord (isAsync nameRequired isValue : Bool) :
    Yields (functionAfterWord r isAsync nameRequired isValue) :=
  .step fun _ => .step fun _ => (yields_functionTail hr isAsync _).bind fun _ hf =>
    .pure ⟨fun _ _ => trivial, hf⟩

end ModuleBundler.Script.Reader
