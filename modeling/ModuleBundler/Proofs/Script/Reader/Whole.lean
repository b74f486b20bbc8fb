import ModuleBundler.Proofs.Script.Reader.Statement
import ModuleBundler.Script.Reader

/-!
Whole scripts that are read are written. The readers for one level of nesting call those for the
level below, so the induction is on the levels.
-/

set_option autoImplicit false

namespace ModuleBundler.Script

open Reader

namespace Reader

theorem yieldWritten_readers (depth : Nat) : (readers depth).YieldWritten := by
  induction depth with
  | zero =>
    exact
      { assignment := yields_failEnd
        operand := fun _ => yields_failEnd
        leftHand := yields_failEnd
        callee := yields_failEnd
        statement := fun _ => yields_failEnd
        bindingTarget := yields_failEnd }
  | succ depth ih =>
    exact
      { assignment := yields_assignment ih
        operand := yields_operand ih
        leftHand := yields_accessed ih true false
        callee := yields_accessed ih false false
        statement := yields_statement ih
        bindingTarget := yields_bindingTarget ih }

theorem yieldWritten_readersFor (text : List Char) : (readersFor text).YieldWritten :=
  yieldWritten_readers _

theorem yields_scriptFrom {r : Readers} (hr : r.YieldWritten) (fuel : Nat) {body : List Statement}
    (hbody : Written body) : Yields (scriptFrom r fuel body) := by
  induction fuel generalizing body with
  | zero => exact yields_failEnd
  | succ fuel ih =>
    exact .step fun _ => .ite (.pure (written_reverse hbody))
      ((yields_outermostStatement hr).bind fun _ hs => ih (written_cons hs hbody))

theorem yields_script {r : Readers} (hr : r.YieldWritten) : Yields (script r) :=
  .step fun _ => .ite (.pure written_nil) ((yields_outermostStatement hr).bind fun _ hfirst =>
    .withReader _ (.step fun _ => yields_scriptFrom hr _ (written_singleton hfirst)))

/-- What is read of a whole text is what its reader yields. -/
theorem written_of_run {α : Type} [HasTrees α] {ctx : Context} {x : Reading α} (hx : Yields x)
    {text : List Char} {interpreter : Option String} {a : α} {complaints : List Fault}
    (h : run ctx x text = .ok (interpreter, a, complaints)) : Written a := by
  rw [run] at h
  split at h
  rename_i interpreter' source _
  cases hrun : (x ctx).run { lexer := .ofSource source } with
  | mk result s =>
    rw [hrun] at h
    cases result with
    | ok b =>
      cases h
      exact hx _ _ _ _ hrun
    | error e => cases h

end Reader

/-- Each statement of a script that is read is written. -/
theorem Program.isWritten_of_ofText {text : List Char} {p : Program}
    (h : Program.ofText text = .ok p) : ∀ s ∈ p.body, Tree.IsWritten ⟨_, s⟩ := by
  rw [ofText] at h
  cases hrun : run { isModule := false, strict := false } (script (readersFor text)) text with
  | error e =>
    rw [hrun] at h
    cases h
  | ok result =>
    rw [hrun] at h
    cases h
    exact written_of_run (yields_script (yieldWritten_readersFor text)) hrun

end ModuleBundler.Script
