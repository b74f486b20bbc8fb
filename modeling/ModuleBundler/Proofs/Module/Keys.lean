import ModuleBundler.Proofs.Module.Names
import ModuleBundler.Proofs.Module.Pieces
import ModuleBundler.Proofs.Script.Written

/-!
Where lowering puts an expression in place of a key. In the code that it generates it never does,
and in the statements of a module only for the names of fields that are named like imports.
-/

set_option autoImplicit false

namespace ModuleBundler

open Script

/-! ## What is replaced -/

theorem Script.Node.isBareKey_of_isLookupPart {c : Category} {n : Node c}
    (h : n.isLookupPart = true) : n.isBareKey = false := by
  cases n with
  | bareKey => cases h
  | _ => rfl

theorem isKeyed_of_isLookupPart {t : Tree} (ht : t.All (·.2.isLookupPart = true)) : t.IsKeyed :=
  fun π part hπ => Node.isBareKey_of_isLookupPart (ht π part hπ)

theorem Script.Node.isBareKey_relink {c : Category} (n : Node c) (l : Links)
    (hn : n.children ≠ []) : (n.relink l).isBareKey = n.isBareKey := by
  cases n with
  | identifier => exact absurd rfl hn
  | shorthand => exact absurd rfl hn
  | declarationHead kind => cases kind <;> rfl
  | _ => rfl

namespace Module

section Replaced

variable {m : Module} {t : Tree}

theorem isKeyed_replacement {l : Links} (hl : ∀ name e, l.find? name = some e → m.Imports name e)
    {role : Role} {part result : Tree} (h : Tree.Replacement l role part result) :
    result.IsKeyed ∨ role = .fieldName ∧ ∃ name e, part = ⟨_, .nameKey name⟩ ∧
      l.find? name = some e := by
  have hlookup : ∀ {name e}, l.resolve? name = some e →
      Tree.All (·.2.isLookupPart = true) ⟨_, e⟩ :=
    fun hsome => (hl _ _ (Links.find?_of_resolve? hsome)).all_isLookupPart
  cases h with
  | name hsome => exact .inl (isKeyed_of_isLookupPart (hlookup hsome))
  | callee hsome => exact .inl (isKeyed_of_isLookupPart (all_isLookupPart_detached (hlookup hsome)))
  | shorthand hsome =>
    exact .inl (Tree.all_of_pair rfl rfl (Tree.all_of_leaf rfl rfl)
      (isKeyed_of_isLookupPart (hlookup hsome)))
  | fieldName hsome => exact .inr ⟨rfl, _, _, rfl, hsome⟩

/-- **Keys of what is lowered.** They stay keys exactly where no field is named like an import. -/
theorem isKeyed_relink_iff (ht : t.IsKeyed) :
    Tree.IsKeyed ⟨t.1, t.2.relink m.links⟩ ↔ ¬ m.NamesFieldLikeImport t := by
  constructor
  · intro hkeyed hfield
    obtain ⟨π, name, e, -, hbare⟩ := hfield.exists_bareKey
    cases hkeyed π _ hbare
  · intro hfield π part' hπ
    obtain ⟨ρ, σ, part, rfl, hρ, hσ, hpart'⟩ := Tree.at?_relink_eq_some hπ
    by_cases hleaf : part.2.children = []
    · rcases Tree.relinkAs_of_leaf hleaf (t.roleAt ρ) (t.linksAt ρ m.links) with hsame | hreplaced
      · rw [hsame] at hpart'
        obtain ⟨-, rfl⟩ := Tree.at?_of_leaf hleaf hpart'
        exact ht ρ part' hρ
      · rcases isKeyed_replacement (fun _ _ h => imports_of_find?_linksAt h) hreplaced with
          hkeyed | ⟨hrole, name, e, rfl, hfind⟩
        · exact hkeyed σ part' hpart'
        · exact absurd hrole (not_fieldName_of_not_namesField hfield hρ hfind)
    · obtain rfl := hσ.resolve_right hleaf
      cases hpart'
      rw [Tree.relinkAs, part.2.relinkAs_of_children _ _ hleaf, part.2.isBareKey_relink _ hleaf]
      exact ht ρ part hρ

end Replaced

end Module

/-! ## Generated code -/

theorem Script.Node.isBareKey_of_isPiece {c : Category} {n : Node c} (h : n.isPiece = true) :
    n.isBareKey = false := by
  cases n with
  | bareKey => cases h
  | _ => rfl

theorem isKeyed_declaration (h : InteropHelper) : Tree.IsKeyed ⟨_, h.declaration⟩ := by
  have hcheck : ((Tree.positions 60 ⟨_, h.declaration⟩).all fun π => π.length < 60 &&
      (Tree.at? ⟨_, h.declaration⟩ π).all fun part => !part.2.isBareKey) = true := by
    cases h <;> decide +kernel
  intro π part hpart
  have hπ := Tree.of_all_positions hcheck hpart
  rw [hpart, Option.all_some, Bool.not_eq_true'] at hπ
  exact hπ

namespace Module

section Lowered

variable {m : Module}

/-- In what lowering generates, keys are keys. -/
theorem isKeyed_generatedStatements {s : Statement} (hs : s ∈ m.generatedStatements) :
    Tree.IsKeyed ⟨_, s⟩ := by
  rcases isPieces_generatedStatements hs with ⟨h, rfl⟩ | hpieces
  · exact isKeyed_declaration h
  · exact fun π part hπ => Node.isBareKey_of_isPiece (hpieces π part hπ)

/-- **Where a lowered module has keys.** In a lowered module keys are keys exactly where none of
its fields is named like an import. -/
theorem isKeyed_lower_iff (hm : ∀ s ∈ m.statements, Tree.IsKeyed ⟨_, s⟩) :
    (∀ s ∈ m.lower.body, Tree.IsKeyed ⟨_, s⟩) ↔
      ∀ s ∈ m.statements, ¬ m.NamesFieldLikeImport ⟨_, s⟩ := by
  cases hscript : m.isScript with
  | true =>
    have hbody : m.lower.body = m.statements := by
      rw [lower, hscript]
      exact (statements_of_isScript hscript).1
    rw [hbody]
    exact iff_of_true hm fun s _ => not_namesField_of_isScript hscript ⟨_, s⟩
  | false =>
    rw [lower_body_eq hscript, List.forall_mem_append, List.forall_mem_map,
      and_iff_right fun s hs => isKeyed_generatedStatements hs]
    exact forall₂_congr fun s hs => isKeyed_relink_iff (hm s hs)

end Lowered

end Module

end ModuleBundler
