import Mathlib.Data.List.Basic
import ModuleBundler.Module.Lowering
import ModuleBundler.Proofs.Script.Scoping

/-!
The names in generated code, piece by piece. What is said of each name is said together with the
names that are declared around it (`Node.References`), so that the pieces can be put together
without looking into them again.
-/

set_option autoImplicit false

namespace ModuleBundler

open Script

variable {Q : String → List String → Prop}

/-! ## Trees -/

namespace Script.Node

theorem references_iff {c : Category} {n : Node c} :
    n.References Q ↔ (∀ name, n.generatedName? = some name → Q name []) ∧
      ∀ i child, Tree.child? ⟨c, n⟩ i = some child →
        child.2.References fun name names => Q name (names ++ n.declares i) := by
  constructor
  · intro h
    refine ⟨fun name hname => h [] name hname, ?_⟩
    intro i child hchild π name hname
    have hQ := h (i :: π) name ((Tree.generatedAt?_cons hchild π).trans hname)
    rw [Tree.declaredAt_cons hchild] at hQ
    exact hQ
  · rintro ⟨hself, hchildren⟩ π name hname
    cases π with
    | nil => exact hself name hname
    | cons i π =>
      obtain ⟨child, hchild, hrest⟩ :=
        Tree.at?_cons_eq_some.mp (Tree.generatedAt?_eq_some.mp hname)
      rw [Tree.declaredAt_cons hchild]
      exact hchildren i child hchild π name (Tree.generatedAt?_eq_some.mpr hrest)

/-- The names in a tree that declares nothing for its children are those in its children. -/
theorem references_of_children {c : Category} {n : Node c} (hname : n.generatedName? = none)
    (hdeclares : ∀ i, n.declares i = []) (h : ∀ child ∈ n.children, child.2.References Q) :
    n.References Q := by
  refine references_iff.mpr ⟨?_, ?_⟩
  · intro name hsome
    rw [hname] at hsome
    cases hsome
  · intro i child hchild
    simp only [hdeclares, List.append_nil]
    exact h child (List.mem_of_getElem? hchild)

theorem references_of_leaf {c : Category} {n : Node c} (hname : n.generatedName? = none)
    (hn : n.children = []) : n.References Q := by
  refine references_iff.mpr ⟨?_, ?_⟩
  · intro name hsome
    rw [hname] at hsome
    cases hsome
  · intro i child hchild
    rw [Tree.child?, hn] at hchild
    cases hchild

theorem references_of_child {c c' : Category} {n : Node c} {child : Node c'}
    (hn : n.children = [⟨c', child⟩]) (hname : n.generatedName? = none)
    (hdeclares : ∀ i, n.declares i = []) (h : child.References Q) : n.References Q := by
  refine references_of_children hname hdeclares fun part hpart => ?_
  rw [hn] at hpart
  rw [List.mem_singleton.mp hpart]
  exact h

theorem references_of_pair {c c' c'' : Category} {n : Node c} {first : Node c'} {second : Node c''}
    (hn : n.children = [⟨c', first⟩, ⟨c'', second⟩]) (hname : n.generatedName? = none)
    (hdeclares : ∀ i, n.declares i = []) (hfirst : first.References Q)
    (hsecond : second.References Q) : n.References Q := by
  refine references_of_children hname hdeclares fun part hpart => ?_
  rw [hn] at hpart
  rcases List.mem_pair.mp hpart with rfl | rfl
  · exact hfirst
  · exact hsecond

theorem references_ofList {c : Category} {ns : List (Node c)} (h : ∀ n ∈ ns, n.References Q) :
    (ofList ns).References Q := by
  induction ns with
  | nil => exact references_of_leaf rfl rfl
  | cons n ns ih =>
    exact references_of_pair rfl rfl (fun _ => rfl) (h n List.mem_cons_self)
      (ih fun n' hn' => h n' (List.mem_cons_of_mem n hn'))

end Script.Node

open Script.Node

/-! ## Building blocks -/

section Build

theorem references_name {s : String} (h : Q s []) : (Build.name s).References Q := by
  refine references_iff.mpr ⟨?_, ?_⟩
  · intro name hname
    cases hname
    exact h
  · intro i child hchild
    cases hchild

theorem references_str (s : String) : (Build.str s).References Q := references_of_leaf rfl rfl

theorem references_call {callee : Expr} {arguments : List Expr} (hcallee : callee.References Q)
    (harguments : ∀ e ∈ arguments, e.References Q) :
    (Build.call callee arguments).References Q := by
  refine references_of_pair rfl rfl (fun _ => rfl) hcallee (references_ofList ?_)
  intro element helement
  obtain ⟨e, he, rfl⟩ := List.mem_map.mp helement
  exact references_of_child rfl rfl (fun _ => rfl) (harguments e he)

theorem references_dot {holder : Expr} (key : String) (h : holder.References Q) :
    (Build.dot holder key).References Q :=
  references_of_child rfl rfl (fun _ => rfl) h

theorem references_itemAt {holder key : Expr} (hholder : holder.References Q)
    (hkey : key.References Q) : (Build.itemAt holder key).References Q :=
  references_of_pair rfl rfl (fun _ => rfl) hholder hkey

theorem references_object {fields : List (String × Expr)}
    (h : ∀ field ∈ fields, field.2.References Q) : (Build.object fields).References Q := by
  refine references_of_child rfl rfl (fun _ => rfl) (references_ofList ?_)
  intro property hproperty
  obtain ⟨field, hfield, rfl⟩ := List.mem_map.mp hproperty
  exact references_of_pair rfl rfl (fun _ => rfl) (references_of_leaf rfl rfl) (h field hfield)

theorem references_run {e : Expr} (h : e.References Q) : (Build.run e).References Q :=
  references_of_child rfl rfl (fun _ => rfl) h

theorem references_var (s : String) {init : Expr} (h : init.References Q) :
    (Build.var s init).References Q := by
  refine references_of_child rfl rfl (fun _ => rfl) (references_ofList ?_)
  intro declarator hdeclarator
  rw [List.mem_singleton.mp hdeclarator]
  exact references_of_pair rfl rfl (fun _ => rfl) (references_of_leaf rfl rfl)
    (references_of_child rfl rfl (fun _ => rfl) h)

theorem references_returns {e : Expr} (h : e.References Q) : (Build.returns e).References Q :=
  references_of_child rfl rfl (fun _ => rfl) (references_of_child rfl rfl (fun _ => rfl) h)

/-- A function without parameters that only returns a value declares its arguments for it. -/
theorem references_lambda_returns {e : Expr}
    (h : e.References fun name names => Q name (names ++ ["arguments"])) :
    (Build.lambda [] [Build.returns e]).References Q := by
  refine references_of_child rfl rfl (fun _ => rfl) (references_iff.mpr ⟨?_, ?_⟩)
  · intro name hname
    cases hname
  · intro i child hchild
    rcases i with _ | _ | i
    · cases hchild
      exact references_of_leaf rfl rfl
    · cases hchild
      refine references_ofList fun s hs => ?_
      rw [List.mem_singleton.mp hs]
      exact references_returns h
    · cases hchild

end Build

end ModuleBundler
