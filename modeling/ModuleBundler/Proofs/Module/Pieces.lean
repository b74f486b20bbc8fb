import ModuleBundler.Proofs.Module.Introduced

/-!
What the code consists of that lowering generates. It is made of few kinds of trees: those that the
functions for building trees make, and lookups. What holds of a tree because of its kind is read off
from that, with no second walk through the code. The helpers are the exception; each is one fixed
tree, to be looked at as it is.
-/

set_option autoImplicit false

namespace ModuleBundler

open Script

/-- A tree is itself of a kind that getters and the loading of modules consist of. -/
def Script.Node.isPiece : {c : Category} → Node c → Bool
  | _, .identifier .. | _, .stringLiteral _ | _, .boolLiteral _ | _, .object _ | _, .call ..
  | _, .member .. | _, .index .. | _, .functionValue .. | _, .plainElement _ | _, .keyValue ..
  | _, .nameKey _ | _, .function .. | _, .binding _ | _, .expressionStatement _
  | _, .returnStatement _ | _, .variableDeclaration .. | _, .declarator .. | _, .present _
  | _, .nil | _, .cons .. => true
  | _, _ => false

/-- All parts of a tree are of these kinds. -/
def Script.Tree.IsPieces (t : Tree) : Prop := t.All (·.2.isPiece = true)

theorem Script.Tree.isPieces_ofList {c : Category} {ns : List (Node c)} :
    IsPieces ⟨_, .ofList ns⟩ ↔ ∀ n ∈ ns, IsPieces ⟨_, n⟩ :=
  all_ofList (fun ns => by cases ns <;> rfl)

/-! ## Building blocks -/

section Build

open Script.Tree

theorem isPieces_call {callee : Expr} {arguments : List Expr} (hcallee : IsPieces ⟨_, callee⟩)
    (harguments : ∀ e ∈ arguments, IsPieces ⟨_, e⟩) :
    IsPieces ⟨_, Build.call callee arguments⟩ := by
  refine all_of_pair rfl rfl hcallee (isPieces_ofList.2 ?_)
  exact List.forall_mem_map.2 (fun e he => all_of_child rfl rfl (harguments e he))

theorem isPieces_run {e : Expr} (h : IsPieces ⟨_, e⟩) : IsPieces ⟨_, Build.run e⟩ :=
  all_of_child rfl rfl h

theorem isPieces_var (s : String) {init : Expr} (h : IsPieces ⟨_, init⟩) :
    IsPieces ⟨_, Build.var s init⟩ := by
  refine all_of_child rfl rfl (isPieces_ofList.2 (List.forall_mem_singleton.2 ?_))
  exact all_of_pair rfl rfl (all_of_leaf rfl rfl) (all_of_child rfl rfl h)

theorem isPieces_object {fields : List (String × Expr)}
    (h : ∀ field ∈ fields, IsPieces ⟨_, field.2⟩) : IsPieces ⟨_, Build.object fields⟩ := by
  refine all_of_child rfl rfl (isPieces_ofList.2 (List.forall_mem_map.2 ?_))
  intro field hfield
  exact all_of_pair rfl rfl (all_of_leaf rfl rfl) (h field hfield)

theorem isPieces_lambda_returns {e : Expr} (h : IsPieces ⟨_, e⟩) :
    IsPieces ⟨_, Build.lambda [] [Build.returns e]⟩ := by
  refine all_of_child rfl rfl (all_of_pair rfl rfl (all_of_leaf rfl rfl) ?_)
  refine isPieces_ofList.2 (List.forall_mem_singleton.2 ?_)
  exact all_of_child rfl rfl (all_of_child rfl rfl h)

theorem isPieces_requireCall (source : String) : IsPieces ⟨_, requireCall source⟩ :=
  isPieces_call (all_of_leaf rfl rfl) (List.forall_mem_singleton.2 (all_of_leaf rfl rfl))

theorem isPieces_requireThrough (helper : Option InteropHelper) (source : String) :
    IsPieces ⟨_, requireThrough helper source⟩ := by
  cases helper with
  | none => exact isPieces_requireCall source
  | some h =>
    exact isPieces_call (all_of_leaf rfl rfl)
      (List.forall_mem_singleton.2 (isPieces_requireCall source))

theorem isPieces_defineExport (exported : String) {descriptor : Expr}
    (h : IsPieces ⟨_, descriptor⟩) : IsPieces ⟨_, defineExport exported descriptor⟩ := by
  refine isPieces_run (isPieces_call (all_of_child rfl rfl (all_of_leaf rfl rfl)) ?_)
  exact List.forall_mem_cons.2 ⟨all_of_leaf rfl rfl,
    List.forall_mem_cons.2 ⟨all_of_leaf rfl rfl, List.forall_mem_singleton.2 h⟩⟩

theorem isPieces_getterOf {value : Expr} (h : IsPieces ⟨_, value⟩) :
    IsPieces ⟨_, getterOf value⟩ :=
  isPieces_object (List.forall_mem_cons.2 ⟨all_of_leaf rfl rfl,
    List.forall_mem_singleton.2 (isPieces_lambda_returns h)⟩)

theorem ImportClause.isPieces_prescribed (clause : ImportClause) (record : String) :
    IsPieces ⟨_, clause.prescribed record⟩ := by
  cases clause with
  | «namespace» => exact all_of_leaf rfl rfl
  | _ => exact all_of_pair rfl rfl (all_of_leaf rfl rfl) (all_of_leaf rfl rfl)

end Build

namespace Module

/-! ## Generated statements -/

section Generated

open Script.Tree

variable {m : Module} {s : Statement}

theorem isPieces_relink_identifier (origin : Origin) (name : String) :
    IsPieces ⟨_, (Node.identifier origin name).relink m.links⟩ := by
  change IsPieces ⟨_, m.links.identifier origin name⟩
  rw [Links.identifier]
  cases hresolve : m.links.resolve? name with
  | none => exact all_of_leaf rfl rfl
  | some e =>
    have himports := imports_of_find? (Links.find?_of_resolve? hresolve)
    obtain ⟨clause, record, rfl⟩ := himports.exists_prescribed
    exact clause.isPieces_prescribed record

theorem isPieces_relink_getter {g : String × Expr} (hg : g ∈ m.getters) :
    IsPieces ⟨_, g.2.relink m.links⟩ := by
  obtain ⟨c, hc, hg⟩ := List.mem_flatMap.1 hg
  obtain ⟨before, item, after, -, rfl⟩ := mem_contributions.1 hc
  rcases ModuleItem.getter_cases hg with ⟨origin, name, hvalue⟩ | ⟨imported, hvalue⟩
  · rw [hvalue]
    exact isPieces_relink_identifier origin name
  · rw [hvalue]
    exact all_of_pair rfl rfl (isPieces_relink_identifier .generated _) (all_of_leaf rfl rfl)

theorem isPieces_requires (hs : s ∈ m.requires) : IsPieces ⟨_, s⟩ := by
  obtain ⟨c, hc, hs⟩ := List.mem_flatMap.1 hs
  obtain ⟨before, item, after, -, rfl⟩ := mem_contributions.1 hc
  rcases ModuleItem.require_cases hs with ⟨source, rfl⟩ | ⟨helper, source, rfl⟩ | ⟨source, rfl⟩
  · exact isPieces_run (isPieces_requireCall source)
  · exact isPieces_var _ (isPieces_requireThrough helper source)
  · refine isPieces_run (isPieces_call (all_of_leaf rfl rfl) ?_)
    exact List.forall_mem_cons.2 ⟨isPieces_requireCall source,
      List.forall_mem_singleton.2 (all_of_leaf rfl rfl)⟩

/-- What lowering generates are helpers, and statements of these kinds. -/
theorem isPieces_generatedStatements (hs : s ∈ m.generatedStatements) :
    (∃ h : InteropHelper, s = h.declaration) ∨ IsPieces ⟨_, s⟩ := by
  rw [generatedStatements, prologue, List.mem_append, List.mem_append, List.mem_append] at hs
  rcases hs with ((hfixed | hhelper) | hgetter) | hrequire
  · right
    rcases List.mem_pair.1 hfixed with rfl | rfl
    · exact isPieces_run (all_of_leaf rfl rfl)
    · refine isPieces_defineExport _ (isPieces_object ?_)
      exact List.forall_mem_singleton.2 (all_of_leaf rfl rfl)
  · obtain ⟨h, -, rfl⟩ := List.mem_map.1 hhelper
    exact Or.inl ⟨h, rfl⟩
  · obtain ⟨g, hg, rfl⟩ := List.mem_map.1 hgetter
    exact Or.inr (isPieces_defineExport g.1 (isPieces_getterOf (isPieces_relink_getter hg)))
  · exact Or.inr (isPieces_requires hrequire)

end Generated

end Module

end ModuleBundler
