import ModuleBundler.Module.Reader
import ModuleBundler.Proofs.Module.Links
import ModuleBundler.Proofs.Module.OwnStatements
import ModuleBundler.Proofs.Script.Names

/-!
What lowering does to the names of a module that refer to no variable: keys, labels, names behind a
point, names that are declared. They stay, position by position, and no new ones appear, but that
a shorthand property is written out. The names of class fields are the exception. They are looked
up as references are, so a field that is named like an import loses its name; and where no field
is, all names stay.
-/

set_option autoImplicit false

namespace ModuleBundler

open Script

/-! ## What is replaced -/

/-- A tree is itself of a kind that lookups consist of. -/
def Script.Node.isLookupPart : {c : Category} → Node c → Bool
  | _, .identifier .generated _ | _, .index .. | _, .stringLiteral _ | _, .numberLiteral _
  | _, .paren _ | _, .sequence _ | _, .nil | _, .cons .. => true
  | _, _ => false

/-- Lookups carry no names but those of variables. -/
theorem Script.Node.fixedName?_of_isLookupPart {c : Category} {n : Node c}
    (h : n.isLookupPart = true) : n.fixedName? = none := by
  cases n with
  | identifier | index | stringLiteral | numberLiteral | paren | sequence | nil | cons => rfl
  | _ => cases h

theorem all_fixedName?_of_isLookupPart {t : Tree} (ht : t.All (·.2.isLookupPart = true)) :
    t.All (·.2.fixedName? = none) :=
  fun π part hπ => Node.fixedName?_of_isLookupPart (ht π part hπ)

theorem ImportClause.all_isLookupPart (clause : ImportClause) (record : String) :
    Tree.All (·.2.isLookupPart = true) ⟨_, clause.prescribed record⟩ := by
  cases clause with
  | «namespace» => exact Tree.all_of_leaf rfl rfl
  | _ => exact Tree.all_of_pair rfl rfl (Tree.all_of_leaf rfl rfl) (Tree.all_of_leaf rfl rfl)

/-- A callee that passes no receiver is a lookup as its expression is. -/
theorem all_isLookupPart_detached {e : Expr} (he : Tree.All (·.2.isLookupPart = true) ⟨_, e⟩) :
    Tree.All (·.2.isLookupPart = true) ⟨_, Links.detached e⟩ := by
  refine Tree.all_of_child rfl rfl (Tree.all_of_child rfl rfl ?_)
  refine (Tree.all_ofList fun es => by cases es <;> rfl).mpr (List.forall_mem_cons.mpr ?_)
  exact ⟨Tree.all_of_leaf rfl rfl, List.forall_mem_singleton.mpr he⟩

/-- A tree with children carries the same name after its references are replaced. -/
theorem Script.Node.fixedName?_relink {c : Category} (n : Node c) (l : Links)
    (hn : n.children ≠ []) : (n.relink l).fixedName? = n.fixedName? := by
  cases n with
  | identifier => exact absurd rfl hn
  | shorthand => exact absurd rfl hn
  | declarationHead kind => cases kind <;> rfl
  | _ => rfl

namespace Module

/-- What is read instead of an import is a lookup. -/
theorem Imports.all_isLookupPart {m : Module} {name : String} {e : Expr} (h : m.Imports name e) :
    Tree.All (·.2.isLookupPart = true) ⟨_, e⟩ := by
  obtain ⟨clause, record, rfl⟩ := h.exists_prescribed
  exact clause.all_isLookupPart record

/-! ## Names that stay -/

/-- At a position a shorthand property of an imported name is written out: its key stays, and its
value is what the import prescribes. -/
def WritesOut (m : Module) (before after : Tree) (π : List Nat) : Prop :=
  ∃ name e, m.Imports name e ∧ before.at? π = some ⟨_, .shorthand name⟩ ∧
    after.at? π = some ⟨_, .keyValue (.nameKey name) e⟩

/-- One tree carries the names of another that refer to no variable: the same ones at the same
positions, and no others. Only a shorthand property may be written out, which moves its key. -/
structure KeepsNames (m : Module) (before after : Tree) : Prop where
  kept : ∀ π name, before.fixedNameAt? π = some name →
    after.fixedNameAt? π = some name ∨ m.WritesOut before after π
  added : ∀ π name, after.fixedNameAt? π = some name →
    before.fixedNameAt? π = some name ∨ ∃ ρ, π = ρ ++ [0] ∧ m.WritesOut before after ρ

/-- A field of a class in the tree has, without brackets, the local name of an import. -/
def NamesFieldLikeImport (m : Module) (t : Tree) : Prop :=
  ∃ π isStatic name value, t.at? π = some ⟨_, .field isStatic (.nameKey name) value⟩ ∧
    name ∈ m.importLocals

end Module

theorem Script.Node.eq_field_of_role {c : Category} {n : Node c} {i : Nat} {role : Role}
    (h : n.role i role = .fieldName) :
    i = 0 ∧ ∃ isStatic key value, (⟨c, n⟩ : Tree) = ⟨_, .field isStatic key value⟩ := by
  cases n with
  | field isStatic key value =>
    cases i with
    | zero => exact ⟨rfl, isStatic, key, value, rfl⟩
    | succ i => cases h
  | forIn => cases i <;> cases h
  | forOf => cases i <;> cases h
  | call => cases i <;> cases h
  | expressionHead => cases role <;> cases h
  | paren => cases role <;> cases h
  | _ => cases h

/-- What stands in the role of the name of a field is the key of a field. -/
theorem Script.Tree.exists_field_of_roleAt {t : Tree} {c : Category} {n : Node c} {π : List Nat}
    (hπ : t.at? π = some ⟨c, n⟩) (hrole : t.roleAt π = .fieldName) :
    ∃ ρ isStatic key value, t.at? ρ = some ⟨_, .field isStatic key value⟩ ∧
      (⟨c, n⟩ : Tree) = ⟨_, key⟩ := by
  rcases List.eq_nil_or_concat π with rfl | ⟨ρ, i, rfl⟩
  · cases hrole
  · rw [List.concat_eq_append] at hπ hrole
    rw [at?_append, Option.bind_eq_some_iff] at hπ
    obtain ⟨above, habove, hchild⟩ := hπ
    obtain ⟨child, hi, hnil⟩ := at?_cons_eq_some.mp hchild
    rw [roleAt, along_append _ habove, along_cons _ hi, along_nil] at hrole
    obtain ⟨rfl, isStatic, key, value, hfield⟩ := Node.eq_field_of_role hrole
    obtain rfl : above = ⟨_, .field isStatic key value⟩ := hfield
    cases hi
    exact ⟨ρ, isStatic, key, value, habove, (Option.some.inj hnil).symm⟩

namespace Module

section Kept

variable {m : Module} {t : Tree} {π : List Nat}

/-- Where no field is named like an import, no key gives way. -/
theorem not_fieldName_of_not_namesField (ht : ¬ m.NamesFieldLikeImport t) {name : String}
    {e : Expr} (hπ : t.at? π = some ⟨_, .nameKey name⟩)
    (hfind : (t.linksAt π m.links).find? name = some e) : t.roleAt π ≠ .fieldName := by
  intro hrole
  obtain ⟨ρ, isStatic, key, value, hfield, hkey⟩ := Tree.exists_field_of_roleAt hπ hrole
  cases hkey
  exact ht ⟨ρ, isStatic, name, value, hfield, (imports_of_find?_linksAt hfind).mem_importLocals⟩

theorem kept_relink (ht : ¬ m.NamesFieldLikeImport t) {name : FixedName}
    (h : t.fixedNameAt? π = some name) :
    Tree.fixedNameAt? ⟨t.1, t.2.relink m.links⟩ π = some name ∨
      m.WritesOut t ⟨t.1, t.2.relink m.links⟩ π := by
  obtain ⟨part, hπ, hname⟩ := Tree.fixedNameAt?_eq_some.mp h
  have hafter := Tree.at?_relink hπ m.links
  by_cases hleaf : part.2.children = []
  · rcases Tree.relinkAs_of_leaf hleaf (t.roleAt π) (t.linksAt π m.links) with hsame | hreplaced
    · left
      rw [Tree.fixedNameAt?, hafter, hsame]
      exact hname
    · -- only a shorthand property carries a name and is replaced
      generalize hresult : part.relinkAs (t.roleAt π) (t.linksAt π m.links) = result
        at hafter hreplaced
      generalize hrole : t.roleAt π = role at hreplaced
      cases hreplaced with
      | name => cases hname
      | callee => cases hname
      | shorthand hresolve =>
        exact .inr ⟨_, _, imports_of_resolve?_linksAt hresolve, hπ, hafter⟩
      | fieldName hfind => exact absurd hrole (not_fieldName_of_not_namesField ht hπ hfind)
  · left
    rw [Tree.fixedNameAt?, hafter, Tree.relinkAs, part.2.relinkAs_of_children _ _ hleaf]
    exact (part.2.fixedName?_relink _ hleaf).trans hname

/-- A name in what takes the place of a reference is the key of a property that is written out. -/
theorem eq_of_fixedNameAt?_replacement {l : Links} (hl : ∀ name e, l.find? name = some e →
      m.Imports name e) {role : Role} {part result : Tree}
    (h : Tree.Replacement l role part result) {σ : List Nat} {name : FixedName}
    (hname : result.fixedNameAt? σ = some name) :
    ∃ key e, m.Imports key e ∧ part = ⟨_, .shorthand key⟩ ∧
      result = ⟨_, .keyValue (.nameKey key) e⟩ ∧ σ = [0] := by
  have hresolve : ∀ name e, l.resolve? name = some e → m.Imports name e :=
    fun name e hsome => hl name e (Links.find?_of_resolve? hsome)
  obtain ⟨part', hσ, hpart'⟩ := Tree.fixedNameAt?_eq_some.mp hname
  have hlookup : ∀ {name e}, m.Imports name e → Tree.All (·.2.fixedName? = none) ⟨_, e⟩ :=
    fun himports => all_fixedName?_of_isLookupPart himports.all_isLookupPart
  have hnone : ∀ {whole : Tree} {τ : List Nat}, whole.All (·.2.fixedName? = none) →
      whole.at? τ = some part' → False := by
    intro whole τ hall hτ
    rw [hall τ part' hτ] at hpart'
    cases hpart'
  cases h with
  | name hsome => exact (hnone (hlookup (hresolve _ _ hsome)) hσ).elim
  | callee hsome =>
    have hdetached := all_isLookupPart_detached (hresolve _ _ hsome).all_isLookupPart
    exact (hnone (all_fixedName?_of_isLookupPart hdetached) hσ).elim
  | fieldName hsome =>
    exact (hnone (Tree.all_of_child rfl rfl (hlookup (hl _ _ hsome))) hσ).elim
  | @shorthand role key e hsome =>
    refine ⟨key, e, hresolve _ _ hsome, rfl, rfl, ?_⟩
    cases σ with
    | nil =>
      cases hσ
      cases hpart'
    | cons i σ =>
      obtain ⟨child, hchild, hrest⟩ := Tree.at?_cons_eq_some.mp hσ
      rcases i with _ | _ | i
      · cases hchild
        rw [(Tree.at?_of_leaf rfl hrest).1]
      · cases hchild
        exact (hnone (hlookup (hresolve _ _ hsome)) hrest).elim
      · cases hchild

theorem added_relink {name : FixedName}
    (h : Tree.fixedNameAt? ⟨t.1, t.2.relink m.links⟩ π = some name) :
    t.fixedNameAt? π = some name ∨
      ∃ ρ, π = ρ ++ [0] ∧ m.WritesOut t ⟨t.1, t.2.relink m.links⟩ ρ := by
  obtain ⟨part', hπ, hname⟩ := Tree.fixedNameAt?_eq_some.mp h
  obtain ⟨ρ, σ, part, rfl, hρ, hσ, hpart'⟩ := Tree.at?_relink_eq_some hπ
  by_cases hleaf : part.2.children = []
  · rcases Tree.relinkAs_of_leaf hleaf (t.roleAt ρ) (t.linksAt ρ m.links) with hsame | hreplaced
    · left
      rw [hsame] at hpart'
      rw [Tree.fixedNameAt?, Tree.at?_append, hρ, Option.bind_some, hpart']
      exact hname
    · right
      have hat : (part.relinkAs (t.roleAt ρ) (t.linksAt ρ m.links)).fixedNameAt? σ = some name :=
        Tree.fixedNameAt?_eq_some.mpr ⟨part', hpart', hname⟩
      obtain ⟨key, e, himports, rfl, hresult, rfl⟩ := eq_of_fixedNameAt?_replacement
        (fun _ _ hfind => imports_of_find?_linksAt hfind) hreplaced hat
      refine ⟨ρ, rfl, key, e, himports, hρ, ?_⟩
      rw [Tree.at?_relink hρ, hresult]
  · left
    obtain rfl : σ = [] := hσ.resolve_right hleaf
    cases hpart'
    rw [Tree.relinkAs, part.2.relinkAs_of_children _ _ hleaf,
      part.2.fixedName?_relink _ hleaf] at hname
    rw [List.append_nil, Tree.fixedNameAt?, hρ]
    exact hname

/-- Where no field is named like an import, all names stay. -/
theorem keepsNames_relink (ht : ¬ m.NamesFieldLikeImport t) :
    m.KeepsNames t ⟨t.1, t.2.relink m.links⟩ :=
  ⟨fun _ _ h => kept_relink ht h, fun _ _ h => added_relink h⟩

/-- In place of the name of a field that is named like an import stands an expression. -/
theorem NamesFieldLikeImport.exists_bareKey (ht : m.NamesFieldLikeImport t) :
    ∃ π name e, t.at? π = some ⟨_, .nameKey name⟩ ∧
      Tree.at? ⟨t.1, t.2.relink m.links⟩ π = some ⟨_, .bareKey e⟩ := by
  obtain ⟨π, isStatic, name, value, hfield, hlocal⟩ := ht
  obtain ⟨e, he⟩ := exists_find?_links hlocal
  have hfind : (t.linksAt π m.links).find? name = some e := by
    rw [Links.find?, t.bindings_linksAt]
    exact he
  refine ⟨π ++ [0], name, e, ?_, ?_⟩
  · rw [Tree.at?_append, hfield]
    rfl
  · rw [Tree.at?_append, Tree.at?_relink hfield, Option.bind_some, Tree.relinkAs,
      Node.relinkAs_of_children (.field isStatic (.nameKey name) value) _ _ (List.cons_ne_nil _ _)]
    change some (⟨_, (t.linksAt π m.links).fieldKey (.nameKey name) _⟩ : Tree) = _
    rw [Links.fieldKey, hfind]

/-- A field that is named like an import loses its name. -/
theorem not_keepsNames_relink (ht : m.NamesFieldLikeImport t) :
    ¬ m.KeepsNames t ⟨t.1, t.2.relink m.links⟩ := by
  obtain ⟨π, name, e, hbefore, hafter⟩ := ht.exists_bareKey
  intro hkeeps
  have hname : t.fixedNameAt? π = some (.key name) := by
    rw [Tree.fixedNameAt?, hbefore]
    rfl
  rcases hkeeps.kept _ _ hname with hkept | ⟨_, _, _, hshorthand, _⟩
  · rw [Tree.fixedNameAt?, hafter] at hkept
    cases hkept
  · rw [hbefore] at hshorthand
    cases hshorthand

end Kept

/-! ## Lowered modules -/

/-- A script imports nothing that a field could be named like. -/
theorem not_namesField_of_isScript {m : Module} (hm : m.isScript = true) (t : Tree) :
    ¬ m.NamesFieldLikeImport t := by
  rintro ⟨_, _, _, _, _, hlocal⟩
  rw [importLocals_of_isScript hm] at hlocal
  cases hlocal

theorem keepsNames_refl (m : Module) (t : Tree) : m.KeepsNames t t :=
  ⟨fun _ _ h => .inl h, fun _ _ h => .inl h⟩

/-- **Lowering keeps the names that are no references if and only if no field of a class is named
like an import.** -/
theorem lowersStatements_keepsNames_iff (m : Module) :
    m.LowersStatements (fun s s' => m.KeepsNames ⟨_, s⟩ ⟨_, s'⟩) ↔
      ∀ s ∈ m.statements, ¬ m.NamesFieldLikeImport ⟨_, s⟩ := by
  rw [lowersStatements_iff]
  refine forall₂_congr fun s _ => ?_
  cases hm : m.isScript with
  | true =>
    rw [lowered_of_isScript hm]
    exact iff_of_true (m.keepsNames_refl _) (not_namesField_of_isScript hm _)
  | false =>
    rw [lowered_of_not_isScript hm]
    constructor
    · intro hkeeps hfield
      exact not_keepsNames_relink hfield hkeeps
    · intro hfield
      exact keepsNames_relink hfield

theorem namesFieldLikeImport_of_roleAt {m : Module} {t : Tree} {π : List Nat} {name : String}
    (hname : t.fixedNameAt? π = some (.key name)) (hrole : t.roleAt π = .fieldName)
    (hlocal : name ∈ m.importLocals) : m.NamesFieldLikeImport t := by
  obtain ⟨⟨c, n⟩, hπ, hkey⟩ := Tree.fixedNameAt?_eq_some.mp hname
  obtain ⟨ρ, isStatic, key, value, hfield, hn⟩ := Tree.exists_field_of_roleAt hπ hrole
  cases hn
  cases key with
  | nameKey name' =>
    cases hkey
    exact ⟨ρ, isStatic, name, value, hfield, hlocal⟩
  | _ => cases hkey

/-- A class with a field that is named like an import. -/
def fieldSource : String := "import \x7ba\x7d from './x';\nclass C \x7b a = 1; \x7d"

theorem exists_namesField_fieldSource :
    ∃ m, Module.ofText fieldSource.toList = .ok m ∧ m.isScript = false ∧
      ∃ s ∈ m.statements, m.NamesFieldLikeImport ⟨_, s⟩ := by
  have hcheck : (Module.ofText fieldSource.toList).toOption.any (fun m =>
      !m.isScript && decide ("a" ∈ m.importLocals) && m.statements.any fun s =>
        decide (Tree.fixedNameAt? ⟨_, s⟩ [1, 0, 0] = some (.key "a") ∧
          Tree.roleAt ⟨_, s⟩ [1, 0, 0] = .fieldName)) = true := by
    decide +kernel
  obtain ⟨m, hm, hpassed⟩ := exists_ok_of_any hcheck
  simp only [Bool.and_eq_true, Bool.not_eq_true', decide_eq_true_eq, List.any_eq_true] at hpassed
  obtain ⟨⟨hscript, hlocal⟩, s, hs, hname, hrole⟩ := hpassed
  exact ⟨m, hm, hscript, s, hs, namesFieldLikeImport_of_roleAt hname hrole hlocal⟩

/-- The field loses its name. -/
theorem not_keepsNames_fieldSource :
    ∃ m, Module.ofText fieldSource.toList = .ok m ∧
      ¬ m.LowersStatements (fun s s' => m.KeepsNames ⟨_, s⟩ ⟨_, s'⟩) := by
  obtain ⟨m, hm, hscript, s, hs, hfield⟩ := exists_namesField_fieldSource
  refine ⟨m, hm, fun hkeeps => ?_⟩
  have hs' := lowersStatements_iff.mp hkeeps s hs
  rw [lowered_of_not_isScript hscript] at hs'
  exact not_keepsNames_relink hfield hs'

end Module

end ModuleBundler
