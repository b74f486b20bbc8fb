import ModuleBundler.Proofs.Script.Scoping

/-!
Trees that a text can stand for. A program can make two trees that no text is read as: a name in
expression position that is marked as generated, and an expression that stands where the key of a
property is due.
-/

set_option autoImplicit false

namespace ModuleBundler.Script

/-- A tree is itself none of those that only a program makes. -/
def Node.isWritten : {c : Category} → Node c → Bool
  | _, .identifier .generated _ => false
  | _, .bareKey _ => false
  | _, _ => true

/-- A tree is itself an expression that stands where a key is due. -/
def Node.isBareKey : {c : Category} → Node c → Bool
  | _, .bareKey _ => true
  | _, _ => false

theorem Node.isBareKey_of_isWritten {c : Category} {n : Node c} (h : n.isWritten = true) :
    n.isBareKey = false := by
  cases n with
  | bareKey => cases h
  | _ => rfl

namespace Tree

/-- No part of a tree is one that only a program makes. -/
def IsWritten (t : Tree) : Prop := t.All fun part => part.2.isWritten = true

theorem isWritten_iff {t : Tree} :
    t.IsWritten ↔ t.2.isWritten = true ∧ ∀ child ∈ t.2.children, child.IsWritten := all_iff

theorem isWritten_ofList {c : Category} {ns : List (Node c)} :
    IsWritten ⟨_, .ofList ns⟩ ↔ ∀ n ∈ ns, IsWritten ⟨_, n⟩ :=
  all_ofList fun ns => by cases ns <;> rfl

/-- No name in a written tree is one that a program made. -/
theorem IsWritten.generatedAt? {t : Tree} (ht : t.IsWritten) (π : List Nat) :
    t.generatedAt? π = none := by
  rw [Option.eq_none_iff_forall_ne_some]
  intro name hname
  have hwritten := ht π _ (generatedAt?_eq_some.mp hname)
  cases hwritten

/-! ## Keys -/

/-- Wherever the key of a property is due there is one. -/
def IsKeyed (t : Tree) : Prop := t.All fun part => part.2.isBareKey = false

theorem isKeyed_ofList {c : Category} {ns : List (Node c)} :
    IsKeyed ⟨_, .ofList ns⟩ ↔ ∀ n ∈ ns, IsKeyed ⟨_, n⟩ :=
  all_ofList fun ns => by cases ns <;> rfl

theorem IsWritten.isKeyed {t : Tree} (ht : t.IsWritten) : t.IsKeyed :=
  fun π part hπ => Node.isBareKey_of_isWritten (ht π part hπ)

end Tree

end ModuleBundler.Script
