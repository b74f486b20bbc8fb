import ModuleBundler.Proofs.Script.Phrase
import ModuleBundler.Proofs.Script.Reader.Standing

/-!
The layers of the expression grammar. Each of them looks for what it could add: accesses and calls,
unary operators, operators with two operands, conditions and assignments, and parts after a comma.
What begins a plain value begins no operator, and what closes something continues no expression. So
a primary expression before a closing token passes unchanged through all layers
(`reads_assignment_of_leftHand`), and a path does once its accesses are read.
-/

set_option autoImplicit false

namespace ModuleBundler.Script.Reader

variable {ts us : List Token} {comma : Bool} {e : Expr} (r : Readers)

/-- A cover of an expression that is no arrow function. -/
structure Covers (e : Expr) (c : Cover) : Prop where
  value_eq : c.value = e
  ne_arrow : c.kind ≠ .arrow

/-! ## What does not follow -/

section NoOperator

variable {t : Token}

theorem updateOf?_eq_none (ht : ∀ op : UpdateOperator, t.is op.text = false) :
    updateOf? t = none := by
  rw [updateOf?, List.find?_eq_none]
  intro op _
  rw [ht op]
  exact Bool.false_ne_true

theorem unaryOf?_eq_none (ht : ∀ op : UnaryOperator, t.is op.text = false) :
    unaryOf? t = none := by
  rw [unaryOf?, List.find?_eq_none]
  intro op _
  rw [ht op]
  exact Bool.false_ne_true

theorem binaryOf?_eq_none (ht : ∀ op : BinaryOperator, t.is op.text = false)
    (inAllowed : Bool) : binaryOf? inAllowed t = none := by
  rw [binaryOf?, List.find?_eq_none]
  intro op _
  rw [ht op, Bool.false_and]
  exact Bool.false_ne_true

theorem assignmentOf?_eq_none (ht : ∀ op : AssignOperator, t.is op.text = false) :
    assignmentOf? t = none := by
  rw [assignmentOf?, List.find?_eq_none]
  intro op _
  rw [ht op]
  exact Bool.false_ne_true

end NoOperator

/-! ## Operands -/

/-- No access and no call follows. -/
theorem reads_accessesFrom (hts : (firstToken ts).closes = true) (fuel : Nat) (c : Cover) :
    Reads (At ts comma) (accessesFrom r true fuel c) (· = c) (At ts comma) := by
  cases fuel with
  | zero => exact .pure rfl fun _ h => h
  | succ fuel =>
    have haccess : Reads (At ts comma) (access? r true c) (· = none) (At ts comma) := by
      refine reads_current.bind fun l hl => ?_
      have hoptional : Reads (At ts comma) atOptional? (· = false) (At ts comma) :=
        reads_if_at (Token.is_eq_false hts rfl rfl) (.pure rfl fun _ h => h)
      refine hoptional.bind fun b hb => .ofFalse hb ?_
      refine reads_if_accept (Token.is_eq_false hts rfl rfl) (.ofFalse ?_ ?_)
      · rw [hl.token_eq, Bool.true_and]
        exact Token.is_eq_false hts rfl rfl
      · exact reads_if_accept (Token.is_eq_false hts rfl rfl) (.pure rfl fun _ h => h)
    refine haccess.bind fun o ho => ?_
    rw [ho]
    exact reads_if_at (Token.is_eq_false hts rfl rfl) (.pure rfl fun _ h => h)

/-- The accesses of a cover that is no arrow function. -/
theorem reads_accesses {A : Cover → Prop} {Q : State → Prop} {c : Cover} (hc : Covers e c)
    (hfrom : ∀ fuel, ts.length < fuel → Reads (At ts comma) (accessesFrom r true fuel c) A Q) :
    Reads (At ts comma) (accesses r true c) A Q := by
  rw [accesses]
  split
  · rename_i harrow
    exact absurd harrow hc.ne_arrow
  · exact reads_tokensLeft.bind hfrom

/-- A primary expression with its accesses is an operand without operators. -/
theorem reads_leftHand {A : Cover → Prop} {Q : State → Prop}
    (hts : (firstToken ts).beginsPrimary = true) {arrowAllowed : Bool}
    (haccessed : Reads (At ts comma) (primary r arrowAllowed >>= accesses r true) A Q) :
    Reads (At ts comma) (leftHand r arrowAllowed) A Q := by
  refine reads_here.bind fun start _ => ?_
  refine reads_if_at (Token.is_eq_false hts (by decide) rfl) ?_
  refine reads_if_at (Token.is_eq_false hts (by decide) rfl) ?_
  exact reads_if_at (Token.is_eq_false hts (by decide) rfl) haccessed

/-- No operator stands before an operand without operators, and none follows it. -/
theorem reads_operandWith (hts : (firstToken ts).beginsPrimary = true)
    (hus : (firstToken us).closes = true) {leftHand : Reading Cover}
    (hleft : Reads (At ts comma) leftHand (Covers e) (At us false)) :
    Reads (At ts comma) (operandWith r leftHand) (Covers e) (At us false) := by
  refine reads_look.bind fun l hl => ?_
  have hupdate : updateOf? l.token = none := by
    rw [hl.token_eq]
    exact updateOf?_eq_none fun op =>
      Token.is_eq_false hts (by cases op <;> decide) (by cases op <;> rfl)
  have hunary : unaryOf? l.token = none := by
    rw [hl.token_eq]
    exact unaryOf?_eq_none fun op =>
      Token.is_eq_false hts (by cases op <;> decide) (by cases op <;> rfl)
  simp only [hupdate, hunary]
  refine reads_if_at (Token.is_eq_false hts (by decide) rfl) (hleft.bind fun c hc => ?_)
  rw [if_neg hc.ne_arrow]
  refine reads_look.bind fun next hnext => ?_
  have hnone : updateOf? next.token = none := by
    rw [hnext.token_eq]
    exact updateOf?_eq_none fun op => Token.is_eq_false hus rfl (by cases op <;> rfl)
  simp only [hnone]
  exact .pure hc fun _ h => h

/-! ## Operations, conditions and assignments -/

/-- No operator with two operands follows. -/
theorem reads_operations (hts : (firstToken ts).closes = true) (c : Cover) :
    Reads (At ts comma) (operations r c) (· = c) (At ts comma) := by
  refine reads_tokensLeft.bind fun fuel _ => ?_
  cases fuel with
  | zero => exact .pure rfl fun _ h => h
  | succ fuel =>
    refine reads_current.bind fun l hl => .ofContext fun ctx _ => ?_
    rw [hl.token_eq, binaryOf?_eq_none fun op =>
      Token.is_eq_false hts rfl (by cases op <;> decide)]
    exact .pure rfl fun _ h => h

/-- An operand is an expression before what closes. -/
theorem reads_assignment (hts : (firstToken ts).isEnd = false)
    (hus : (firstToken us).closes = true)
    (hoperand : ∀ arrowAllowed,
      Reads (At ts comma) (r.operand arrowAllowed) (Covers e) (At us false)) :
    Reads (At ts comma) (assignment r) (Covers e) (At us false) := by
  have hoperation : ∀ arrowAllowed,
      Reads (At ts comma) (operation r arrowAllowed) (Covers e) (At us false) := by
    intro arrowAllowed
    have hfirst : Reads (At ts comma) (firstOperand r arrowAllowed) (Covers e) (At us false) :=
      (hoperand arrowAllowed).catch
    refine hfirst.bind fun c hc => ?_
    rw [if_neg hc.ne_arrow]
    exact (reads_operations r hus c).imp (by rintro _ rfl; exact hc)
  have hconditional : ∀ arrowAllowed,
      Reads (At ts comma) (conditional r arrowAllowed) (Covers e) (At us false) := by
    intro arrowAllowed
    refine (hoperation arrowAllowed).bind fun c hc => ?_
    rw [if_neg hc.ne_arrow]
    exact reads_if_accept (Token.is_eq_false hus rfl rfl) (.pure hc fun _ h => h)
  -- the layers from here: no generator, a condition without branches, and no assignment
  refine .ofContext fun ctx hctx => (reads_at? "yield").bind fun b _ => ?_
  refine .ofFalse (by rw [hctx, Bool.false_and]) ?_
  refine (reads_required hts).bind fun l _ => (hconditional _).bind fun c hc => ?_
  split
  · exact .pure hc fun _ h => h
  · exact .pure hc fun _ h => h
  all_goals
    refine reads_current.bind fun l hl => ?_
    rw [hl.token_eq, assignmentOf?_eq_none]
    · exact .pure hc fun _ h => h
    · intro op
      refine Token.is_eq_false hus rfl ?_
      cases op with
      | plain => rfl
      | compound op => cases op <;> decide

/-- **A left-hand side is an expression** before what closes, read by the readers of one level from
those of the level below. -/
theorem reads_assignment_of_leftHand {d : Nat} (hts : (firstToken ts).beginsPrimary = true)
    (hus : (firstToken us).closes = true)
    (haccessed : ∀ arrowAllowed, Reads (At ts comma)
      (primary (readers d) arrowAllowed >>= accesses (readers d) true) (Covers e) (At us false)) :
    Reads (At ts comma) (readers (d + 2)).assignment (Covers e) (At us false) :=
  reads_assignment (readers (d + 1))
    (Token.isEnd_of_beginsValue (Token.beginsValue_of_beginsPrimary hts)) hus fun arrowAllowed =>
      reads_operandWith (readers d) hts hus
        (reads_leftHand (readers d) hts (haccessed arrowAllowed))

/-- An expression without commas is an expression before what closes, unless that is a comma. -/
theorem reads_expressionCover (hus : (firstToken us).is "," = false)
    (hassignment : Reads (At ts comma) r.assignment (Covers e) (At us false)) :
    Reads (At ts comma) (expressionCover r) (Covers e) (At us false) := by
  refine hassignment.bind fun c hc => reads_tokensLeft.bind fun fuel _ => ?_
  have hsequence : Reads (At us false) (sequenceFrom r fuel []) (· = []) (At us false) := by
    cases fuel with
    | zero => exact .pure rfl fun _ h => h
    | succ fuel => exact reads_if_accept hus (.pure rfl fun _ h => h)
  refine hsequence.bind fun parts hparts => .pure ?_ fun _ h => h
  rw [hparts]
  exact hc

theorem reads_expression (hus : (firstToken us).is "," = false)
    (hassignment : Reads (At ts comma) r.assignment (Covers e) (At us false)) :
    Reads (At ts comma) (expression r) (· = e) (At us false) :=
  (reads_expressionCover r hus hassignment).bind fun _ hc => .pure hc.value_eq fun _ h => h

end ModuleBundler.Script.Reader
