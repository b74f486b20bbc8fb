import ModuleBundler.Proofs.Script.Reads

/-!
Which declaration a name refers to. The innermost tree around a position that declares the name
decides; where none does, the name is global. Of the names in expression position those that a
program made are told apart from those that were written: what a property says of the former is
said with the names that are declared around them (`Tree.References`).
-/

set_option autoImplicit false

namespace ModuleBundler.Script

/-! ## Scopes -/

namespace Tree

/-- The position of the innermost tree around a position that declares a name for it. -/
def scopeOf? (name : String) : Tree → List Nat → Option (List Nat)
  | _, [] => none
  | t, i :: π =>
    match t.child? i with
    | some child =>
      ((scopeOf? name child π).map (i :: ·)).or (if name ∈ t.2.declares i then some [] else none)
    | none => none

theorem along_declares_eq (t : Tree) (π : List Nat) (names : List String) :
    t.along (fun n i names => n.declares i ++ names) π names = t.declaredAt π ++ names := by
  induction π generalizing t names with
  | nil => rfl
  | cons i π ih =>
    rw [declaredAt]
    cases hchild : t.child? i with
    | none => simp [along, hchild]
    | some child =>
      rw [along_cons _ hchild, along_cons _ hchild, ih, ih child (_ ++ []), List.append_nil,
        List.append_assoc]

theorem declaredAt_cons {t child : Tree} {i : Nat} (hchild : t.child? i = some child)
    (π : List Nat) : t.declaredAt (i :: π) = child.declaredAt π ++ t.2.declares i := by
  rw [declaredAt, along_cons _ hchild, along_declares_eq, List.append_nil]

theorem declaredAt_append {t part : Tree} {π : List Nat} (hπ : t.at? π = some part)
    (ρ : List Nat) : t.declaredAt (π ++ ρ) = part.declaredAt ρ ++ t.declaredAt π := by
  rw [declaredAt, along_append _ hπ, along_declares_eq]
  rfl

theorem scopeOf?_cons {t child : Tree} {i : Nat} (hchild : t.child? i = some child)
    (name : String) (π : List Nat) :
    t.scopeOf? name (i :: π) = ((child.scopeOf? name π).map (i :: ·)).or
      (if name ∈ t.2.declares i then some [] else none) := by
  rw [scopeOf?, hchild]

/-- A name is global where nothing declares it. -/
theorem scopeOf?_eq_none_iff {t part : Tree} {π : List Nat} (hπ : t.at? π = some part)
    {name : String} : t.scopeOf? name π = none ↔ name ∉ t.declaredAt π := by
  induction π generalizing t with
  | nil => exact iff_of_true rfl List.not_mem_nil
  | cons i π ih =>
    obtain ⟨child, hchild, hrest⟩ := at?_cons_eq_some.mp hπ
    rw [scopeOf?_cons hchild, declaredAt_cons hchild, Option.or_eq_none_iff,
      Option.map_eq_none_iff, ih hrest, List.mem_append, not_or]
    refine and_congr_right fun _ => ?_
    split
    · exact iff_of_false (Option.some_ne_none _) (not_not_intro ‹_›)
    · exact iff_of_true rfl ‹_›

end Tree

/-! ## Names that were not written -/

/-- The name that a tree is, if it is one in expression position that a program made. -/
def Node.generatedName? : {c : Category} → Node c → Option String
  | _, .identifier .generated name => some name
  | _, _ => none

namespace Tree

/-- The name at a position, if there is one that a program made. -/
def generatedAt? (t : Tree) (π : List Nat) : Option String := (t.at? π).bind (·.2.generatedName?)

theorem generatedAt?_eq_some {t : Tree} {π : List Nat} {name : String} :
    t.generatedAt? π = some name ↔ t.at? π = some ⟨_, .identifier .generated name⟩ := by
  rw [generatedAt?, Option.bind_eq_some_iff]
  constructor
  · rintro ⟨⟨c, n⟩, hπ, hname⟩
    cases n with
    | identifier origin name' =>
      cases origin with
      | written => cases hname
      | generated =>
        cases hname
        exact hπ
    | _ => cases hname
  · intro hπ
    exact ⟨_, hπ, rfl⟩

theorem generatedAt?_nil (t : Tree) : t.generatedAt? [] = t.2.generatedName? := rfl

theorem generatedAt?_cons {t child : Tree} {i : Nat} (hchild : t.child? i = some child)
    (π : List Nat) : t.generatedAt? (i :: π) = child.generatedAt? π := by
  rw [generatedAt?, at?_cons, hchild]
  rfl

end Tree

/-- What holds of each name in a tree that a program made, and of the names that the tree declares
around it. -/
def Node.References {c : Category} (Q : String → List String → Prop) (n : Node c) : Prop :=
  ∀ π name, Tree.generatedAt? ⟨c, n⟩ π = some name → Q name (Tree.declaredAt ⟨c, n⟩ π)

end ModuleBundler.Script
