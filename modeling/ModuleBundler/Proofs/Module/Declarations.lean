import Mathlib.Logic.Basic
import ModuleBundler.Proofs.Module.Rewriting
import ModuleBundler.Proofs.Script.Scoping

/-!
What a script declares is not changed by replacing the references in it. So the names that are
declared around a position are the same before and after.
-/

set_option autoImplicit false

namespace ModuleBundler

open Script

namespace Script.Node

/-! ## Bound names -/

theorem boundNames_expr (e : Expr) : e.boundNames = [] := by
  cases e <;> rfl

theorem boundNames_property (p : Property) : p.boundNames = [] := by
  cases p <;> rfl

theorem boundNames_relink {c : Category} (n : Node c) (l : Links) :
    (n.relink l).boundNames = n.boundNames := by
  induction n generalizing l with
  | cons head tail ihhead ihtail => exact congrArg₂ (· ++ ·) (ihhead _) (ihtail _)
  | present n ih => exact ih _
  | arrayPattern elements trailingComma ih => exact ih _
  | objectPattern properties trailingComma ih => exact ih _
  | defaulted target value ihtarget ihvalue => exact ihtarget _
  | gathered target ih => exact ih _
  | keyPattern key target ihkey ihtarget => exact ihtarget _
  | gatheredProperty target ih => exact ih _
  | declarator target init ihtarget ihinit => exact ihtarget _
  | identifier => exact boundNames_expr _
  | shorthand => exact boundNames_property _
  | declarationHead kind => cases kind <;> rfl
  | _ => rfl

/-! ## Declared names -/

theorem varNames_expr (e : Expr) : e.varNames = [] := by
  cases e <;> rfl

theorem varNames_property (p : Property) : p.varNames = [] := by
  cases p <;> rfl

theorem varNames_relink {c : Category} (n : Node c) (l : Links) :
    (n.relink l).varNames = n.varNames := by
  induction n generalizing l with
  | cons head tail ihhead ihtail => exact congrArg₂ (· ++ ·) (ihhead _) (ihtail _)
  | present n ih => exact ih _
  | variableDeclaration kind declarators =>
    cases kind with
    | var => exact boundNames_relink declarators l
    | _ => rfl
  | block body ih => exact ih _
  | withStatement holder body ihholder ihbody => exact ihbody _
  | labelled label body ih => exact ih _
  | ifStatement test yes no ihtest ihyes ihno => exact congrArg₂ (· ++ ·) (ihyes _) (ihno _)
  | switchStatement value cases ihvalue ihcases => exact ihcases _
  | switchCase test body ihtest ihbody => exact ihbody _
  | tryStatement body handling finalizer ihbody ihhandling ihfinalizer =>
    exact congrArg₂ (· ++ ·) (congrArg₂ (· ++ ·) (ihbody _) (ihhandling _)) (ihfinalizer _)
  | handler parameter body ihparameter ihbody => exact ihbody _
  | whileLoop test body ihtest ihbody => exact ihbody _
  | doLoop body test ihbody ihtest => exact ihbody _
  | forLoop init test next body ihinit ihtest ihnext ihbody =>
    exact congrArg₂ (· ++ ·) (ihinit _) (ihbody _)
  | forIn head holder body ihhead ihholder ihbody =>
    exact congrArg₂ (· ++ ·) (ihhead _) (ihbody _)
  | forOf isAwait head values body ihhead ihvalues ihbody =>
    exact congrArg₂ (· ++ ·) (ihhead _) (ihbody _)
  | declarationHead kind declarators =>
    cases kind with
    | var => exact boundNames_relink declarators l
    | _ => rfl
  | identifier => exact varNames_expr _
  | shorthand => exact varNames_property _
  | _ => rfl

theorem lexicalNames_expr (e : Expr) : e.lexicalNames = [] := by
  cases e <;> rfl

theorem lexicalNames_property (p : Property) : p.lexicalNames = [] := by
  cases p <;> rfl

theorem lexicalNames_relink {c : Category} (n : Node c) (l : Links) :
    (n.relink l).lexicalNames = n.lexicalNames := by
  induction n generalizing l with
  | cons head tail ihhead ihtail => exact congrArg₂ (· ++ ·) (ihhead _) (ihtail _)
  | present n ih => exact ih _
  | variableDeclaration kind declarators =>
    cases kind with
    | var => rfl
    | _ => exact boundNames_relink declarators l
  | labelled label body ih => exact ih _
  | switchCase test body ihtest ihbody => exact ihbody _
  | declarationHead kind => cases kind <;> rfl
  | identifier => exact lexicalNames_expr _
  | shorthand => exact lexicalNames_property _
  | _ => rfl

theorem headNames_expr (e : Expr) : e.headNames = [] := by
  cases e <;> rfl

theorem headNames_property (p : Property) : p.headNames = [] := by
  cases p <;> rfl

theorem headNames_relink {c : Category} (n : Node c) (l : Links) :
    (n.relink l).headNames = n.headNames := by
  induction n generalizing l with
  | present n ih => exact ih _
  | declarationHead kind declarators =>
    cases kind with
    | var => rfl
    | _ => exact boundNames_relink declarators _
  | identifier => exact headNames_expr _
  | shorthand => exact headNames_property _
  | _ => rfl

theorem functionNames_relink (parameters : Node (.list .pattern)) (body : Node (.list .statement))
    (l l' : Links) :
    functionNames (parameters.relink l) (body.relink l') = functionNames parameters body := by
  rw [functionNames, boundNames_relink, varNames_relink, lexicalNames_relink]
  rfl

/-- A tree with children declares the same names for them. -/
theorem declares_relink {c : Category} (n : Node c) (l : Links) (hn : n.children ≠ []) (i : Nat) :
    (n.relink l).declares i = n.declares i := by
  cases n with
  | identifier => exact absurd rfl hn
  | shorthand => exact absurd rfl hn
  | arrow => exact boundNames_relink _ _
  | arrowBlock =>
    cases i with
    | zero => exact boundNames_relink _ _
    | succ i => exact functionNames_relink _ _ _ _
  | function =>
    cases i with
    | zero => exact congrArg _ (boundNames_relink _ _)
    | succ i => exact congrArg _ (functionNames_relink _ _ _ _)
  | constructor =>
    cases i with
    | zero => exact congrArg _ (boundNames_relink _ _)
    | succ i => exact congrArg _ (functionNames_relink _ _ _ _)
  | block => exact lexicalNames_relink _ _
  | switchStatement =>
    rcases i with _ | _ | i
    · rfl
    · exact lexicalNames_relink _ _
    · rfl
  | tryStatement =>
    rcases i with _ | _ | _ | i
    · exact lexicalNames_relink _ _
    · rfl
    · exact lexicalNames_relink _ _
    · rfl
  | handler =>
    cases i with
    | zero => exact boundNames_relink _ _
    | succ i => exact congrArg₂ (· ++ ·) (boundNames_relink _ _) (lexicalNames_relink _ _)
  | forLoop => exact headNames_relink _ _
  | forIn => exact headNames_relink _ _
  | forOf => exact headNames_relink _ _
  | declarationHead kind => cases kind <;> rfl
  | _ => rfl

end Script.Node

/-- The names that are declared around a position of a tree are declared around it when the
references in the tree are replaced. -/
theorem Script.Tree.declaredAt_relinkAs {t part : Tree} {π : List Nat} (hπ : t.at? π = some part)
    (role : Role) (l : Links) : (t.relinkAs role l).declaredAt π = t.declaredAt π := by
  induction π generalizing t role l with
  | nil => rfl
  | cons i π ih =>
    obtain ⟨child, hchild, hrest⟩ := at?_cons_eq_some.mp hπ
    have hchildren : t.2.children ≠ [] := by
      intro hnil
      rw [child?, hnil] at hchild
      cases hchild
    rw [declaredAt_cons (child?_relinkAs hchild role l), declaredAt_cons hchild, ih hrest, relinkAs,
      t.2.relinkAs_of_children role l hchildren, t.2.declares_relink l hchildren]

end ModuleBundler
