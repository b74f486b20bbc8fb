import ModuleBundler.Proofs.Script.Reader.Class
import ModuleBundler.Script.Reader.Expression

/-!
What the readers of expressions yield is written. The only names that they make up themselves are
marked as written, and what stands for an expression that could not be read holds no name.
-/

set_option autoImplicit false

namespace ModuleBundler.Script.Reader

variable {r : Readers} (hr : r.YieldWritten)

/-! ## Elements and arguments -/

instance : HasTrees Item := ⟨fun i => Written i.cover⟩

theorem written_element {i : Item} (hi : Written i) : Written i.element := by
  rw [Item.element]
  split <;> exact written_of_child rfl rfl (Cover.IsWritten.value hi)

theorem yields_itemParameter {i : Item} (hi : Written i) : Yields i.parameter := by
  refine (yields_asBinding hi).bind fun p hp => .pure ?_
  split
  · exact written_of_child rfl rfl hp
  · exact hp

include hr

theorem yields_item : Yields (item r) :=
  .step fun _ => .step fun _ => (yields_withIn hr.assignment).bind fun _ hc => .pure hc

theorem yields_argumentsFrom (importStart : Option Position) (fuel : Nat) {items : List Item}
    (hitems : Written items) : Yields (argumentsFrom r importStart fuel items) := by
  induction fuel generalizing items with
  | zero => exact yields_failEnd
  | succ fuel ih =>
    rw [argumentsFrom]
    refine .step fun _ => .step fun _ => .ite (.pure (written_reverse hitems)) ?_
    have hnext : Yields
        (do argumentsFrom r importStart fuel ((← item r) :: items) : Reading (List Item)) :=
      (yields_item hr).bind fun _ hi => ih (written_cons hi hitems)
    refine .ite hnext (.step fun _ => .step fun _ => .ite ?_ hnext)
    cases importStart with
    | some start => exact .step fun _ => hnext
    | none => exact .pure (written_reverse hitems)

theorem yields_arguments (isImport : Bool) : Yields (arguments r isImport) :=
  .step fun _ => .bind
    (yields_parenthesized (.step fun _ => yields_argumentsFrom hr _ _ written_nil))
    fun _ hitems => .pure (written_map hitems fun _ => written_element)

/-! ## Arrays -/

theorem yields_arrayItemsFrom (fuel : Nat) {items : List Cover.ArrayItem}
    (hitems : Written items) : Yields (arrayItemsFrom r fuel items) := by
  induction fuel generalizing items with
  | zero => exact yields_failEnd
  | succ fuel ih =>
    rw [arrayItemsFrom]
    refine .step fun _ => .step fun _ => .ite (.pure (written_reverse hitems)) ?_
    refine .step fun _ => .ite (ih (written_cons written_none hitems)) ?_
    refine (yields_item hr).bind fun i hi => .step fun _ => ih (written_cons ?_ hitems)
    split <;> exact written_some hi

theorem yields_array : Yields (array r) :=
  .step fun start => .step fun _ => .step fun _ =>
    (yields_arrayItemsFrom hr _ written_nil).bind fun _ hitems => .step fun trailing =>
      .step fun _ => .pure (written_ofArray start hitems trailing)

/-! ## Objects -/

omit hr in
theorem written_accessorParameters (kind : MethodKind) {ps : List Pattern} (hps : Written ps) :
    Written (accessorParameters kind ps) := by
  cases kind with
  | method => exact hps
  | getter => exact written_nil
  | setter =>
    cases ps with
    | nil => exact written_singleton (written_of_child rfl rfl (written_of_leaf rfl rfl))
    | cons p ps => exact written_singleton (hps p List.mem_cons_self)

theorem yields_objectMethod (start : Position) (kind : MethodKind) (isAsync isGenerator : Bool) :
    Yields (objectMethod r start kind isAsync isGenerator) := by
  refine .step fun keyStart => (yields_key hr).bind fun k hk => ?_
  refine (yields_methodTail hr kind isAsync isGenerator keyStart).bind fun parts hparts => .pure ?_
  have hf := written_function isAsync isGenerator (written_accessorParameters kind hparts.1) hparts.2
  exact written_of_pair (n := .objectMethod kind k _) rfl rfl hk hf

theorem yields_shorthandItem (start : Position) (n : String) :
    Yields (shorthandItem r start n) :=
  .step fun _ => .sometimes fun _ => .step fun _ =>
    .ite ((yields_withIn (yields_assignmentValue hr)).bind fun _ he => .pure he) (.pure trivial)

theorem yields_namedItem (start : Position) (n : String) : Yields (namedItem r start n) := by
  refine .step fun _ => .ite (.step fun _ => .step fun _ => .step fun _ => ?_) ?_
  -- what is left to read is the same with a complaint and without
  all_goals
    refine .step fun _ => .ite (yields_shorthandItem hr start n) ?_
    split
    · exact yields_objectMethod hr start .getter false false
    · exact yields_objectMethod hr start .setter false false
    · exact .step fun isGenerator => yields_objectMethod hr start .method true isGenerator
    · exact yields_failUnexpected _

theorem yields_objectItem : Yields (objectItem r) := by
  refine .step fun start => .step fun _ => .ite ?_ (.step fun _ => .ite ?_ ?_)
  · exact (yields_withIn hr.assignment).bind fun _ hc => .pure hc
  · exact yields_objectMethod hr start .method false true
  · refine (yields_key hr).bind fun k hk => .step fun _ => .ite ?_ (.step fun _ => .ite ?_ ?_)
    · exact (yields_withIn hr.assignment).bind fun _ hc => .pure ⟨hk, hc⟩
    · refine (yields_methodTail hr .method false false start).bind fun parts hparts => .pure ?_
      exact written_of_pair (n := .objectMethod .method k _) rfl rfl hk
        (written_function false false hparts.1 hparts.2)
    · split
      · exact yields_namedItem hr start _
      · exact yields_failUnexpected _

theorem yields_object : Yields (object r) :=
  .step fun start => .step fun _ =>
    (yields_terminated _ (yields_objectItem hr)).bind fun items hitems =>
      .pure (written_ofObject start hitems.1 items.2)

/-! ## Templates -/

theorem yields_templateFrom (fuel : Nat) (texts : List String) {values : List Expr}
    (hvalues : Written values) : Yields (templateFrom r fuel texts values) := by
  have htexts : ∀ texts : List String, Written texts := fun _ _ _ => trivial
  induction fuel generalizing texts values with
  | zero => exact yields_failEnd
  | succ fuel ih =>
    rw [templateFrom]
    refine .step fun l => ?_
    split
    · refine .step fun _ => .step fun _ => .ite (.pure ⟨htexts _, written_reverse hvalues⟩) ?_
      exact .step fun _ => (yields_withIn (yields_expression hr)).bind fun e he =>
        .step fun _ => ih _ (written_cons he hvalues)
    · exact yields_failUnexpected _

theorem yields_template : Yields (template r) :=
  .step fun _ => .step fun _ => (yields_templateFrom hr _ [] written_nil).bind fun _ hpieces =>
    .step fun _ => .pure hpieces

/-! ## Unary operators -/

theorem yields_awaited : Yields (awaited r) := by
  refine .step fun start => .step fun _ => .step fun _ => .sometimesWith fun _ => ?_
  refine .step fun ctx => .step fun _ => .ite (.pure (written_ofName _ start _)) ?_
  exact .sometimes fun _ => (hr.operand false).bind fun c hc =>
    .pure (written_ofOther start false (written_of_child rfl rfl hc.value))

omit hr in
theorem written_unreadable (e : Fault) : Written (unreadable e) :=
  written_ofOther e.position false (written_of_leaf rfl rfl)

theorem yields_unary (op : UnaryOperator) : Yields (Reader.unary r op) := by
  refine .step fun start => .step fun _ => ?_
  have hoperand : Yields (tryCatch (r.operand false) fun e => do
      complainAll [e]
      return unreadable e) :=
    (hr.operand false).catch fun e => .step fun _ => .pure (written_unreadable e)
  refine hoperand.bind fun c hc => ?_
  have hresult : Yields (pure (Cover.ofOperation start (.unary op c.value)) : Reading Cover) :=
    .pure (written_ofOperation start (written_of_child rfl rfl hc.value))
  split
  · exact .step fun _ => hresult
  · exact hresult

theorem yields_operandWith {leftHand : Reading Cover} (hleftHand : Yields leftHand) :
    Yields (operandWith r leftHand) := by
  have hupdate : ∀ (start : Position) (op : UpdateOperator) (before : Bool) (c : Cover),
      Written c → Written (Cover.ofOperation start (.update op before c.value)) :=
    fun start _ _ _ hc => written_ofOperation start (written_of_child rfl rfl hc.value)
  refine .step fun l => ?_
  split
  · exact .step fun _ => (hr.operand false).bind fun c hc =>
      .step fun _ => .pure (hupdate _ _ true c hc)
  · split
    · exact yields_unary hr _
    · refine .step fun _ => .ite (yields_awaited hr) (hleftHand.bind fun c hc => ?_)
      refine .ite (.pure hc) (.step fun next => ?_)
      split
      · exact .ite (.pure hc) (.step fun _ => .step fun _ => .pure (hupdate _ _ false c hc))
      · exact .pure hc

/-! ## Binary operators -/

theorem yields_operationsFrom (fuel : Nat) {left : Cover} (hleft : Written left) (bound : Nat) :
    Yields (operationsFrom r fuel left bound) := by
  induction fuel generalizing left bound with
  | zero => exact .pure hleft
  | succ fuel ih =>
    rw [operationsFrom]
    refine .step fun l => .step fun ctx => ?_
    split
    · exact .pure hleft
    · refine .ite (.pure hleft) (.sometimes fun _ => .step fun _ => ?_)
      refine (hr.operand false).bind fun first hfirst => (ih hfirst _).bind fun right hright => ?_
      exact .step fun _ =>
        ih (written_ofOperation _ (written_of_pair rfl rfl hleft.value hright.value)) bound

theorem yields_operations {c : Cover} (hc : Written c) : Yields (operations r c) :=
  .step fun _ => yields_operationsFrom hr _ hc 0

theorem yields_firstOperand (arrowAllowed : Bool) : Yields (firstOperand r arrowAllowed) := by
  refine (hr.operand arrowAllowed).catch fun e => .step fun l => .step fun ctx => ?_
  exact .otherwise fun _ => .step fun _ => .pure (written_unreadable e)

theorem yields_operation (arrowAllowed : Bool) : Yields (operation r arrowAllowed) :=
  (yields_firstOperand hr arrowAllowed).bind fun _ hc => .ite (.pure hc) (yields_operations hr hc)

/-! ## Arrow functions and parentheses -/

theorem yields_arrowResult (isAsync : Bool) (start : Position) {ps : List Pattern}
    (hps : Written ps) : Yields (arrowResult r isAsync start ps) :=
  (yields_assignmentValue hr).bind fun _ he =>
    .pure (written_ofArrow start (written_of_pair rfl rfl (written_ofList hps) he))

theorem yields_arrowTail (isAsync : Bool) (start : Position) {ps : List Pattern}
    (hps : Written ps) : Yields (arrowTail r isAsync start ps) :=
  .withReader _ (.step fun _ => .ite
    ((yields_braced hr).bind fun _ hbody =>
      .pure (written_ofArrow start
        (written_of_pair rfl rfl (written_ofList hps) (written_ofList hbody))))
    (yields_arrowResult hr isAsync start hps))

theorem yields_operationsAfterArrow {c : Cover} (hc : Written c) :
    Yields (operationsAfterArrow r c) := by
  unfold operationsAfterArrow
  split
  · refine .step fun l => .ite (.pure hc) (.step fun _ => ?_)
    refine (yields_operations hr hc).bind fun whole hwhole => .step fun _ => ?_
    exact .ite (.pure hwhole) (.step fun _ => .step fun _ => .pure hwhole)
  · exact .pure hc

theorem yields_arrowOfItem {i : Item} (hi : Written i) : Yields (arrowOfItem r i) := by
  unfold arrowOfItem
  split
  · exact (yields_itemParameter hi).bind fun p hp =>
      (yields_arrowTail hr false _ (written_singleton hp)).bind fun c hc => .pure hc
  · exact .pure hi

theorem yields_firstItem : Yields (firstItem r) :=
  (yields_item hr).bind fun _ hi => .step fun _ => .ite (yields_arrowOfItem hr hi) (.pure hi)

theorem yields_itemsInParentheses : Yields (itemsInParentheses r) := by
  refine .step fun _ => .step fun _ => .ite (.step fun start => ?_) ?_
  · exact hr.assignment.bind fun c hc => .step fun _ => .pure (written_singleton hc)
  · refine .step fun _ => .step fun _ => .ite (.step fun _ => .pure written_nil) ?_
    refine (yields_firstItem hr).bind fun first hfirst => .step fun _ => ?_
    exact (yields_separatedFrom _ (yields_item hr) _ (written_singleton hfirst)).bind
      fun others hothers => .step fun _ => .pure hothers

omit hr in
theorem yields_parenthesizedValue (start : Position) {items : List Item} (hitems : Written items) :
    Yields (parenthesizedValue start items) := by
  have hcovers : Written (items.map (·.cover)) := written_map hitems fun _ hi => hi
  unfold parenthesizedValue
  cases items.find? (·.isSpread)
  case' some => refine .step fun _ => ?_
  all_goals
    split
    · exact yields_failAt _ start
    · rename_i first others hsplit
      rw [hsplit] at hcovers
      have hc := written_sequenceOf (hcovers first List.mem_cons_self)
        fun c hc => hcovers c (List.mem_cons_of_mem first hc)
      exact .pure (written_ofOther start _ (written_of_child rfl rfl hc.value))

omit hr in
theorem yields_mapM_parameter {items : List Item} (hitems : Written items) :
    Yields (items.mapM (·.parameter)) := by
  induction items with
  | nil => exact .pure written_nil
  | cons i items ih =>
    rw [List.mapM_cons]
    refine (yields_itemParameter (hitems i List.mem_cons_self)).bind fun p hp => ?_
    refine (ih fun i' hi' => hitems i' (List.mem_cons_of_mem i hi')).bind fun ps hps => ?_
    exact .pure (written_cons hp hps)

theorem yields_parentheses (arrowAllowed isAsync : Bool) (start : Position) :
    Yields (parentheses r arrowAllowed isAsync start) := by
  refine (yields_withIn (yields_itemsInParentheses hr)).bind fun items hitems => ?_
  refine .step fun _ => .ite ?_ (.ite ?_ (yields_parenthesizedValue start hitems))
  · refine .step fun _ => .sometimes fun _ => .otherwise fun _ => .step fun _ => .step fun _ => ?_
    refine (yields_mapM_parameter hitems).bind fun ps hps => ?_
    exact (yields_arrowTail hr isAsync start hps).bind fun c hc =>
      yields_operationsAfterArrow hr hc
  · have helements := written_map hitems fun _ => written_element
    exact .pure (written_ofValue start
      (written_of_pair rfl rfl (written_of_leaf rfl rfl) (written_ofList helements)))

/-! ## Primary expressions -/

theorem yields_functionValue (isAsync : Bool) : Yields (functionValue r isAsync) :=
  .step fun _ => (yields_functionAfterWord hr isAsync false true).bind fun _ hf =>
    .pure (written_of_child rfl rfl hf.2)

theorem yields_classValue : Yields (classValue r) :=
  .step fun _ => (yields_classAfterWord hr false).bind fun _ hparts =>
    .pure (written_of_pair rfl rfl (written_ofOption hparts.2.1) (written_ofList hparts.2.2))

theorem yields_nameOrArrow (arrowAllowed : Bool) : Yields (nameOrArrow r arrowAllowed) := by
  have hbinding : ∀ w, Written [Node.binding w] := fun w =>
    written_singleton (written_of_leaf rfl rfl)
  refine .step fun start => .step fun w? => ?_
  cases w? with
  | none => exact yields_failUnexpected _
  | some w =>
    refine .step fun ctx => .sometimes fun _ => .sometimes fun _ => .step fun _ => ?_
    have hname : Yields (pure (Cover.ofName ctx.strict start w) : Reading Cover) :=
      .pure (written_ofName _ start w)
    refine .ite (.step fun _ => .ite ?_ (.step fun _ => .ite hname (.step fun _ => ?_))) hname
    · exact .step fun parameter => .step fun _ => yields_arrowTail hr true start (hbinding parameter)
    · exact .ite (yields_arrowTail hr false start (hbinding w)) hname

theorem yields_primary (arrowAllowed : Bool) : Yields (primary r arrowAllowed) := by
  refine .step fun l => ?_
  have hliteral : ∀ e : Expr, Written e →
      Yields (do advance; return Cover.ofValue l.start e : Reading Cover) :=
    fun e he => .step fun _ => .pure (written_ofValue l.start he)
  have hvalue : ∀ x : Reading Expr, Yields x →
      Yields (do return Cover.ofValue l.start (← x) : Reading Cover) :=
    fun x hx => hx.bind fun e he => .pure (written_ofValue l.start he)
  split
  · exact hliteral _ (written_of_leaf rfl rfl)
  · exact hliteral _ (written_of_leaf rfl rfl)
  · exact hliteral _ (written_of_leaf rfl rfl)
  · exact hliteral _ (written_of_leaf rfl rfl)
  · exact yields_parentheses hr arrowAllowed false l.start
  · exact yields_array hr
  · exact yields_object hr
  · exact (yields_template hr).bind fun pieces hpieces =>
      .pure (written_ofValue l.start (written_of_child rfl rfl (written_ofList hpieces.2)))
  · exact .step fun _ => .pure (written_ofOther l.start false (written_of_leaf rfl rfl))
  · exact hliteral _ (written_of_leaf rfl rfl)
  · exact hliteral _ (written_of_leaf rfl rfl)
  · exact hliteral _ (written_of_leaf rfl rfl)
  · exact hvalue _ (yields_functionValue hr false)
  · exact hvalue _ (yields_classValue hr)
  · refine .step fun _ => .ite (.step fun _ => hvalue _ (yields_functionValue hr true)) ?_
    have hname := yields_nameOrArrow hr arrowAllowed
    refine .ite (.step fun _ => .ite (.step fun _ => ?_) hname) hname
    exact yields_parentheses hr arrowAllowed true l.start
  · exact yields_nameOrArrow hr arrowAllowed
  all_goals exact yields_failUnexpected _

/-! ## Accesses and calls -/

omit hr in
theorem yields_memberAfterPoint (optional : Bool) {holder : Expr} (hholder : Written holder) :
    Yields (memberAfterPoint optional holder) :=
  .step fun _ => .ite (.step fun _ => .pure (written_of_child rfl rfl hholder))
    (.step fun _ => .pure (written_of_child rfl rfl hholder))

theorem yields_indexAfterBracket (optional : Bool) {holder : Expr} (hholder : Written holder) :
    Yields (indexAfterBracket r optional holder) :=
  (yields_withIn (yields_expression hr)).bind fun _ hk =>
    .step fun _ => .pure (written_of_pair rfl rfl hholder hk)

theorem yields_optionalAccess {c : Cover} (hc : Written c) : Yields (optionalAccess r c) := by
  refine .step fun _ => .ite ?_ (.step fun _ => .ite ?_ ?_)
  · exact (yields_indexAfterBracket hr true hc.value).bind fun e he =>
      .pure (written_ofOther c.start true he)
  · exact (yields_arguments hr false).bind fun elements helements =>
      .pure (written_ofOther c.start false
        (written_of_pair rfl rfl hc.value (written_ofList helements)))
  · exact (yields_memberAfterPoint true hc.value).bind fun e he =>
      .pure (written_ofOther c.start true he)

theorem yields_access? (callsAllowed : Bool) {c : Cover} (hc : Written c) :
    Yields (access? r callsAllowed c) := by
  refine .step fun l => .step fun _ => .ite (.step fun _ => .step fun _ => ?_) ?_
  · exact (yields_optionalAccess hr hc).bind fun c' hc' => .pure (written_some hc')
  · refine .step fun _ => .ite ?_ (.ite ?_ (.step fun _ => .ite ?_ (.pure written_none)))
    · exact (yields_indexAfterBracket hr false hc.value).bind fun e he =>
        .pure (written_some (written_ofMember c.start he))
    · exact (yields_arguments hr _).bind fun elements helements =>
        .pure (written_some (written_ofValue c.start
          (written_of_pair rfl rfl hc.value (written_ofList helements))))
    · exact (yields_memberAfterPoint false hc.value).bind fun e he =>
        .pure (written_some (written_ofMember c.start he))

theorem yields_accessesFrom (callsAllowed : Bool) (fuel : Nat) {c : Cover} (hc : Written c) :
    Yields (accessesFrom r callsAllowed fuel c) := by
  induction fuel generalizing c with
  | zero => exact .pure hc
  | succ fuel ih =>
    rw [accessesFrom]
    refine (yields_access? hr callsAllowed hc).bind fun next hnext => ?_
    cases next with
    | some c' => exact ih (hnext c' rfl)
    | none =>
      refine .step fun _ => .ite ?_ (.pure hc)
      exact (yields_template hr).bind fun pieces hpieces =>
        ih (written_ofOther c.start false
          (written_of_pair rfl rfl hc.value (written_ofList hpieces.2)))

theorem yields_accesses (callsAllowed : Bool) {c : Cover} (hc : Written c) :
    Yields (accesses r callsAllowed c) := by
  unfold accesses
  split
  · exact .pure hc
  · exact .step fun _ => yields_accessesFrom hr callsAllowed _ hc

theorem yields_superAccess (callsAllowed : Bool) (start : Position) :
    Yields (superAccess r callsAllowed start) := by
  have hsuper := written_ofOther start false (written_of_leaf (n := .superValue) rfl rfl)
  refine .step fun _ => (yields_access? hr callsAllowed hsuper).bind fun next hnext => ?_
  cases next with
  | some c => exact yields_accesses hr callsAllowed (hnext c rfl)
  | none => exact .step fun _ => yields_failAt _ _

theorem yields_importAccess (callsAllowed : Bool) (start : Position) :
    Yields (importAccess r callsAllowed start) := by
  refine .step fun _ => .step fun _ => .ite (.step fun _ => .otherwise fun _ => ?_) ?_
  · exact yields_accesses hr callsAllowed (written_ofOther start false (written_of_leaf rfl rfl))
  · exact yields_accesses hr callsAllowed (written_ofOther start false (written_of_leaf rfl rfl))

theorem yields_construction (start : Position) : Yields (construction r start) := by
  refine .step fun _ => .step fun _ => .ite (.step fun _ => .otherwise fun _ => ?_) ?_
  · exact .pure ⟨trivial, written_ofOther start false (written_of_leaf rfl rfl)⟩
  · refine hr.callee.bind fun c hc => .step fun _ => .ite ?_ ?_
    · exact (yields_arguments hr false).bind fun elements helements =>
        .pure ⟨trivial, written_ofValue start
          (written_of_pair rfl rfl hc.value (written_present (written_ofList helements)))⟩
    · exact .pure ⟨trivial, written_ofValue start
        (written_of_pair rfl rfl hc.value written_absent)⟩

theorem yields_accessed (callsAllowed arrowAllowed : Bool) :
    Yields (accessed r callsAllowed arrowAllowed) := by
  refine .step fun start => .step fun _ => .ite ?_ ?_
  · refine (yields_construction hr start).bind fun result hresult => ?_
    exact .ite (.pure hresult.2) (yields_accesses hr callsAllowed hresult.2)
  · refine .step fun _ => .ite (yields_superAccess hr callsAllowed start) ?_
    refine .step fun _ => .ite (yields_importAccess hr callsAllowed start) ?_
    exact (yields_primary hr arrowAllowed).bind fun c hc => yields_accesses hr callsAllowed hc

theorem yields_operand (arrowAllowed : Bool) : Yields (operand r arrowAllowed) :=
  yields_operandWith hr (yields_accessed hr true arrowAllowed)

/-! ## Conditionals and assignments -/

theorem yields_conditional (arrowAllowed : Bool) : Yields (conditional r arrowAllowed) := by
  refine (yields_operation hr arrowAllowed).bind fun c hc => .ite (.pure hc) ?_
  refine .step fun _ => .ite ?_ (.pure hc)
  refine (yields_withIn (yields_assignmentValue hr)).bind fun yes hyes => .step fun _ => ?_
  exact (yields_assignmentValue hr).bind fun no hno =>
    .pure (written_ofOperation c.start (written_of_three rfl rfl hc.value hyes hno))

omit hr in
theorem yields_assignmentTarget (op : AssignOperator) {c : Cover} (hc : Written c) :
    Yields (assignmentTarget op c) := by
  cases op with
  | plain => exact yields_asTarget hc
  | compound => exact .step fun _ => .pure (written_place hc.value)

theorem yields_yielded : Yields (yielded r) := by
  refine .step fun start => .step fun _ => .step fun ctx => .sometimes fun _ => .step fun _ => ?_
  have hnone : Written (Cover.ofOther start (.yield false .absent) false) :=
    written_ofOther start false (written_of_child rfl rfl written_absent)
  refine .ite (.pure hnone) (.step fun l => .ite (.step fun delegates => ?_) (.pure hnone))
  exact (yields_assignmentValue hr).bind fun e he =>
    .pure (written_ofOther start false (written_of_child rfl rfl (written_present he)))

theorem yields_assignment : Yields (assignment r) := by
  refine .step fun _ => .step fun _ => .ite (yields_yielded hr) (.step fun _ => ?_)
  refine (yields_conditional hr _).bind fun c hc => ?_
  split
  · exact .pure hc
  · exact .pure hc
  all_goals
    refine .step fun l => ?_
    split
    · exact .pure hc
    · refine (yields_assignmentTarget _ hc).bind fun target htarget => .step fun _ => ?_
      exact (yields_assignmentValue hr).bind fun e he =>
        .pure (written_ofAssignment c.start _ htarget he)

end ModuleBundler.Script.Reader
