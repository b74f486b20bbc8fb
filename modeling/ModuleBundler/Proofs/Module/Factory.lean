import Mathlib.Data.List.Basic
import ModuleBundler.Module.Lowering
import ModuleBundler.Proofs.Script.Scoping

/-!
The function that a lowered module is the body of, as a tree with scopes. Between the function and
the statements of its body nothing is declared, so a name in a statement means what the statement
says, or else what the function says: a parameter, or a declaration among the statements.
-/

set_option autoImplicit false

namespace ModuleBundler

open Script

/-! ## Lists of trees -/

namespace Script.Tree

variable {c : Category}

/-- Each name that was generated is in one of the trees of a list. -/
theorem exists_of_generatedAt?_ofList {ns : List (Node c)} {π : List Nat} {name : String}
    (h : generatedAt? ⟨_, .ofList ns⟩ π = some name) :
    ∃ i n ρ, ns[i]? = some n ∧ π = List.replicate i 1 ++ 0 :: ρ ∧
      generatedAt? ⟨_, n⟩ ρ = some name := by
  induction ns generalizing π with
  | nil =>
    have hleaf := at?_of_leaf rfl (generatedAt?_eq_some.mp h)
    cases hleaf.2
  | cons n ns ih =>
    cases π with
    | nil => cases h
    | cons i π =>
      obtain ⟨child, hchild, hrest⟩ := at?_cons_eq_some.mp (generatedAt?_eq_some.mp h)
      have hname := generatedAt?_eq_some.mpr hrest
      rcases i with _ | _ | i
      · cases hchild
        exact ⟨0, n, π, rfl, rfl, hname⟩
      · cases hchild
        obtain ⟨i, n', ρ, hn', rfl, hρ⟩ := ih hname
        exact ⟨i + 1, n', ρ, hn', rfl, hρ⟩
      · cases hchild

/-- Where the parts of a tree of a list stand in the list. -/
theorem at?_ofList {ns : List (Node c)} {i : Nat} {n : Node c} (hn : ns[i]? = some n)
    (ρ : List Nat) : at? ⟨_, .ofList ns⟩ (List.replicate i 1 ++ 0 :: ρ) = at? ⟨_, n⟩ ρ := by
  induction ns generalizing i with
  | nil => cases hn
  | cons n' ns ih =>
    cases i with
    | zero =>
      cases hn
      rfl
    | succ i => exact ih hn

/-- A list declares nothing for its trees. -/
theorem scopeOf?_ofList {ns : List (Node c)} {i : Nat} {n : Node c} (hn : ns[i]? = some n)
    (name : String) (ρ : List Nat) :
    scopeOf? name ⟨_, .ofList ns⟩ (List.replicate i 1 ++ 0 :: ρ) =
      (scopeOf? name ⟨_, n⟩ ρ).map (List.replicate i 1 ++ 0 :: ·) := by
  have hlist : ∀ (head : Node c) (tail : Node (.list c)) (k : Nat),
      (if name ∈ (Node.cons head tail).declares k then some ([] : List Nat) else none) = none :=
    fun _ _ _ => rfl
  induction ns generalizing i with
  | nil => cases hn
  | cons n' ns ih =>
    cases i with
    | zero =>
      cases hn
      rw [List.replicate_zero, List.nil_append, Node.ofList, scopeOf?_cons rfl, hlist,
        Option.or_none]
      rfl
    | succ i =>
      rw [List.replicate_succ, List.cons_append, Node.ofList, scopeOf?_cons rfl, hlist,
        Option.or_none, ih hn, Option.map_map]
      rfl

end Script.Tree

/-! ## Names declared among statements -/

namespace Script.Node

/-- The names that a statement declares for the function that it is a statement of. -/
def topNames (s : Statement) : List String := s.varNames ++ s.lexicalNames

theorem mem_varNames_ofList {name : String} {c : Category} {ns : List (Node c)} :
    name ∈ (ofList ns).varNames ↔ ∃ n ∈ ns, name ∈ n.varNames := by
  induction ns with
  | nil => exact iff_of_false List.not_mem_nil (by rintro ⟨_, h, -⟩; cases h)
  | cons n ns ih =>
    rw [List.exists_mem_cons_iff, ← ih]
    exact List.mem_append

theorem mem_lexicalNames_ofList {name : String} {c : Category} {ns : List (Node c)} :
    name ∈ (ofList ns).lexicalNames ↔ ∃ n ∈ ns, name ∈ n.lexicalNames := by
  induction ns with
  | nil => exact iff_of_false List.not_mem_nil (by rintro ⟨_, h, -⟩; cases h)
  | cons n ns ih =>
    rw [List.exists_mem_cons_iff, ← ih]
    exact List.mem_append

theorem boundNames_parameters (names : List String) :
    (ofList (names.map Node.binding)).boundNames = names := by
  induction names with
  | nil => rfl
  | cons name names ih => exact congrArg (name :: ·) ih

theorem mem_functionNames {name : String} {parameters : List String} {body : List Statement} :
    name ∈ functionNames (ofList (parameters.map .binding)) (ofList body) ↔
      name ∈ parameters ∨ ∃ s ∈ body, name ∈ s.topNames := by
  rw [functionNames, List.append_assoc, List.mem_append, boundNames_parameters, List.mem_append,
    mem_varNames_ofList, mem_lexicalNames_ofList, ← exists_or]
  refine or_congr_right (exists_congr fun s => ?_)
  rw [← and_or_left, topNames, List.mem_append]

end Script.Node

/-! ## Factories -/

/-- What a lowered module finds in scope. -/
def factoryParameters : List String := ["require", "module", "exports"]

/-- The function that statements are the body of. -/
def factoryOf (body : List Statement) : Tree := ⟨_, Build.lambda factoryParameters body⟩

/-- Where a statement of the body of a function stands in the function. -/
def statementPosition (i : Nat) : List Nat := [0, 1] ++ List.replicate i 1 ++ [0]

theorem statementPosition_append (i : Nat) (ρ : List Nat) :
    statementPosition i ++ ρ = 0 :: 1 :: (List.replicate i 1 ++ 0 :: ρ) := by
  rw [statementPosition, List.append_assoc, List.append_assoc]
  rfl

theorem statementPosition_append_inj {i k : Nat} {ρ σ : List Nat} :
    statementPosition i ++ ρ = statementPosition k ++ σ ↔ i = k ∧ ρ = σ := by
  rw [statementPosition_append, statementPosition_append, List.cons.injEq, List.cons.injEq]
  induction i generalizing k with
  | zero => cases k <;> simp [List.replicate_succ]
  | succ i ih =>
    cases k with
    | zero => simp [List.replicate_succ]
    | succ k => simpa [List.replicate_succ] using ih

/-- Whether the function itself declares a name: always those of its parameters, and those that
its statements declare. -/
def DeclaredByFactory (body : List Statement) (name : String) : Prop :=
  name ∈ "arguments" :: factoryParameters ∨ ∃ s ∈ body, name ∈ s.topNames

instance (body : List Statement) (name : String) : Decidable (DeclaredByFactory body name) :=
  inferInstanceAs (Decidable (_ ∨ _))

section Factory

variable {body : List Statement} {i : Nat} {s : Statement}

/-- Names that were generated stand in the statements of a function. -/
theorem exists_of_generatedAt?_factoryOf {π : List Nat} {name : String}
    (h : (factoryOf body).generatedAt? π = some name) :
    ∃ i s ρ, body[i]? = some s ∧ π = statementPosition i ++ ρ ∧
      Tree.generatedAt? ⟨_, s⟩ ρ = some name := by
  cases π with
  | nil => cases h
  | cons j π =>
    obtain ⟨function, hfunction, hrest⟩ := Tree.at?_cons_eq_some.mp (Tree.generatedAt?_eq_some.mp h)
    rcases j with _ | j
    · cases hfunction
      cases π with
      | nil => cases hrest
      | cons k π =>
        obtain ⟨part, hpart, hlist⟩ := Tree.at?_cons_eq_some.mp hrest
        have hname := Tree.generatedAt?_eq_some.mpr hlist
        rcases k with _ | _ | k
        · -- a parameter is no name in expression position
          cases hpart
          obtain ⟨i, n, ρ, hn, -, hρ⟩ := Tree.exists_of_generatedAt?_ofList hname
          obtain ⟨parameter, -, rfl⟩ := List.mem_map.mp (List.mem_of_getElem? hn)
          have hleaf := Tree.at?_of_leaf rfl (Tree.generatedAt?_eq_some.mp hρ)
          cases hleaf.2
        · cases hpart
          obtain ⟨i, s, ρ, hs, rfl, hρ⟩ := Tree.exists_of_generatedAt?_ofList hname
          exact ⟨i, s, ρ, hs, (statementPosition_append i ρ).symm, hρ⟩
        · cases hpart
    · cases hfunction

/-- Where the parts of a statement of a function stand in the function. -/
theorem at?_factoryOf (hs : body[i]? = some s) (ρ : List Nat) :
    (factoryOf body).at? (statementPosition i ++ ρ) = Tree.at? ⟨_, s⟩ ρ := by
  rw [statementPosition_append]
  exact Tree.at?_ofList hs ρ

/-- **What a name in a statement of a function means.** What the statement says; or else the
function decides. -/
theorem scopeOf?_factoryOf (hs : body[i]? = some s) (name : String) (ρ : List Nat) :
    (factoryOf body).scopeOf? name (statementPosition i ++ ρ) =
      ((Tree.scopeOf? name ⟨_, s⟩ ρ).map (statementPosition i ++ ·)).or
        (if DeclaredByFactory body name then some [0] else none) := by
  have hmem : name ∈ "arguments" :: Node.functionNames
        (.ofList (factoryParameters.map .binding)) (.ofList body) ↔
      DeclaredByFactory body name := by
    rw [List.mem_cons, Node.mem_functionNames, ← or_assoc, DeclaredByFactory, List.mem_cons]
  have hstatements : Tree.child? ⟨_, Build.function factoryParameters body⟩ 1 =
      some ⟨_, .ofList body⟩ := rfl
  have hfunction : Tree.scopeOf? name ⟨_, Build.function factoryParameters body⟩
        (1 :: (List.replicate i 1 ++ 0 :: ρ)) =
      ((Tree.scopeOf? name ⟨_, s⟩ ρ).map fun σ => 1 :: (List.replicate i 1 ++ 0 :: σ)).or
        (if DeclaredByFactory body name then some [] else none) := by
    rw [Tree.scopeOf?_cons hstatements, Tree.scopeOf?_ofList hs, Option.map_map]
    congr 1
    exact if_congr hmem rfl rfl
  have hchild : Tree.child? ⟨_, Build.lambda factoryParameters body⟩ 0 =
      some ⟨_, Build.function factoryParameters body⟩ := rfl
  have hvalue : (if name ∈ (Build.lambda factoryParameters body).declares 0 then
      some ([] : List Nat) else none) = none := rfl
  rw [statementPosition_append, factoryOf, Tree.scopeOf?_cons hchild, hfunction, hvalue,
    Option.or_none]
  simp only [statementPosition_append]
  cases Tree.scopeOf? name ⟨_, s⟩ ρ with
  | some σ => rfl
  | none => by_cases hname : DeclaredByFactory body name <;> simp [hname]

end Factory

end ModuleBundler
