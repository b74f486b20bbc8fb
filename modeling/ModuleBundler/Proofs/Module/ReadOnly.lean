import ModuleBundler.Module.Reader
import ModuleBundler.Proofs.Module.Names
import ModuleBundler.Proofs.Module.Pieces

/-!
Writes to imports. An import is a view of what another module exports, and only that module may
change it, so code that writes to the local name of an import fails. It has to fail after lowering
as well, and it does where the name stays: there is no variable of the name. Where a lookup takes
the place of the name, the lookup becomes what is written to, and the code changes the exports of
the module that it imports.

Lowering leaves the names that patterns bind. But what is written to may also be an expression,
under an update, an assignment with an operator or parentheses, and there the name gives way as
everywhere else. Replacing does not change which places are written to (`Tree.along_role_relinkAs`),
and what is put in makes no others (`along_role_ne_target`); so a record is written to exactly where
the name of an import was, in the form of an expression (`keepsImportsReadOnly_iff`).
-/

set_option autoImplicit false

namespace ModuleBundler

open Script

/-! ## Places that are written to -/

namespace Script.Node

/-- The variable that a tree is, or that it reads a property of, if a program has made it. -/
def lookedUp? : {c : Category} → Node c → Option String
  | _, .identifier .generated name => some name
  | _, .index _ (.identifier .generated name) _ => some name
  | _, _ => none

/-- No child of a tree is written to, whatever its own role. -/
def AssignsNothing {c : Category} (n : Node c) : Prop := ∀ i role, n.role i role ≠ .target

/-- A tree with children gives them the same roles after its references are replaced. -/
theorem role_relink {c : Category} (n : Node c) (l : Links) (hn : n.children ≠ []) (i : Nat)
    (r : Role) : (n.relink l).role i r = n.role i r := by
  cases n with
  | identifier => exact absurd rfl hn
  | shorthand => exact absurd rfl hn
  | declarationHead kind => cases kind <;> rfl
  | call | field | forIn | forOf => cases i <;> rfl
  | paren | expressionHead => cases r <;> rfl
  | _ => rfl

/-- A tree without children assigns nothing. -/
theorem assignsNothing_of_leaf {c : Category} {n : Node c} (hn : n.children = []) :
    n.AssignsNothing := by
  intro i role h
  cases n <;> first | (cases hn; done) | cases h

end Script.Node

namespace Script.Tree

/-- Replacing references changes no roles. -/
theorem along_role_relinkAs {t part : Tree} {π : List Nat} (hπ : t.at? π = some part)
    (role role' : Role) (l : Links) :
    (t.relinkAs role l).along Node.role π role' = t.along Node.role π role' := by
  induction π generalizing t role role' l with
  | nil => rfl
  | cons i π ih =>
    obtain ⟨child, hchild, hrest⟩ := at?_cons_eq_some.1 hπ
    have hchildren : t.2.children ≠ [] := by
      intro hnil
      rw [child?, hnil] at hchild
      simp at hchild
    rw [along_cons _ (child?_relinkAs hchild role l), along_cons _ hchild, ih hrest, relinkAs,
      t.2.relinkAs_of_children role l hchildren, t.2.role_relink l hchildren]

theorem roleAt_relink {t part : Tree} {π : List Nat} (hπ : t.at? π = some part) (l : Links) :
    roleAt ⟨t.1, t.2.relink l⟩ π = t.roleAt π := by
  rw [← Node.relinkAs_plain]
  exact along_role_relinkAs hπ .plain .plain l

end Script.Tree

/-- Inside of a tree that assigns nothing, nothing is written to. -/
theorem along_role_ne_target {t part : Tree} {π : List Nat} (ht : t.All (·.2.AssignsNothing))
    (hπ : t.at? π = some part) {role : Role} (hrole : π = [] → role ≠ .target) :
    t.along Node.role π role ≠ .target := by
  induction π generalizing t role with
  | nil => exact hrole rfl
  | cons i π ih =>
    obtain ⟨child, hchild, hrest⟩ := Tree.at?_cons_eq_some.1 hπ
    obtain ⟨hself, hchildren⟩ := Tree.all_iff.1 ht
    rw [Tree.along_cons _ hchild]
    exact ih (hchildren child (List.mem_of_getElem? hchild)) hrest (fun _ => hself i role)

/-! ## What is inserted -/

/-- What stands at a position of the second tree has been put there in place of a name of the
first one: it does not stand in the first tree, and there neither a part with parts of its own
stands at the position nor a name that a program has made. -/
def Inserted (before after : Tree) (π : List Nat) : Prop :=
  ∀ part, before.at? π = some part →
    part.2.children = [] ∧ part.2.generatedName? = none ∧ after.at? π ≠ some part

/-- At a position a record of an import is written to, or a property of one. -/
def WritesRecord (t : Tree) (π : List Nat) : Prop :=
  ∃ part n, t.at? π = some part ∧ t.roleAt π = .target ∧ part.2.lookedUp? = some (recordName n)

/-- No record of an import, and no property of one, that has been inserted is written to. -/
def KeepsReadOnly (before after : Tree) : Prop :=
  ∀ π, Inserted before after π → ¬ WritesRecord after π

namespace ImportClause

variable (clause : ImportClause) (record : String)

theorem lookedUp?_prescribed : (clause.prescribed record).lookedUp? = some record := by
  cases clause <;> rfl

theorem prescribed_ne_written (name : String) :
    clause.prescribed record ≠ .identifier .written name := by
  cases clause <;> simp [prescribed]

theorem all_assignsNothing : Tree.All (·.2.AssignsNothing) ⟨_, clause.prescribed record⟩ := by
  have hleaf : ∀ {c : Category} {n : Node c}, n.children = [] →
      Tree.All (·.2.AssignsNothing) ⟨c, n⟩ :=
    fun hn => Tree.all_of_leaf hn (Node.assignsNothing_of_leaf hn)
  cases clause with
  | «namespace» => exact hleaf rfl
  | _ => exact Tree.all_of_pair rfl (fun i role h => by cases h) (hleaf rfl) (hleaf rfl)

end ImportClause

/-! ## Generated code -/

theorem Script.Node.assignsNothing_of_isPiece {c : Category} {n : Node c} (h : n.isPiece = true) :
    n.AssignsNothing := by
  intro i role htarget
  cases n with
  | call => cases i <;> cases htarget
  | _ => first | (cases h; done) | cases htarget

/-- A helper assigns to variables of its own only. -/
theorem not_writesRecord_declaration (h : InteropHelper) (π : List Nat) :
    ¬ WritesRecord ⟨_, h.declaration⟩ π := by
  have hcheck : ((Tree.positions 60 ⟨_, h.declaration⟩).all fun π => π.length < 60 &&
      (decide (Tree.roleAt ⟨_, h.declaration⟩ π ≠ .target) ||
        (Tree.at? ⟨_, h.declaration⟩ π).all fun part => part.2.lookedUp?.isNone)) = true := by
    cases h <;> decide +kernel
  rintro ⟨part, n, hπ, hrole, hrecord⟩
  have hpassed := Tree.of_all_positions hcheck hπ
  rw [hπ, hrole, Option.all_some, hrecord] at hpassed
  simp at hpassed

namespace Module

/-! ## Replaced names -/

section Relinked

variable {m : Module} {t : Tree} {π : List Nat}

/-- What stands for a name is a lookup of a record. -/
theorem Imports.lookedUp? {name : String} {e : Expr} (h : m.Imports name e) :
    ∃ n, e.lookedUp? = some (recordName n) := by
  obtain ⟨before, _, _, _, _, clause, _, _, rfl⟩ := h
  refine ⟨before.countP (·.takesRecord), ?_⟩
  rw [clause.lookedUp?_prescribed]

theorem Imports.all_assignsNothing {name : String} {e : Expr} (h : m.Imports name e) :
    Tree.All (·.2.AssignsNothing) ⟨_, e⟩ := by
  obtain ⟨clause, record, rfl⟩ := h.exists_prescribed
  exact clause.all_assignsNothing record

theorem Imports.ne_written {name name' : String} {e : Expr} (h : m.Imports name e) :
    e ≠ .identifier .written name' := by
  obtain ⟨clause, record, rfl⟩ := h.exists_prescribed
  exact clause.prescribed_ne_written record name'

/-- A callee that passes no receiver assigns nothing if it is called. -/
theorem along_role_detached_ne_target {e : Expr} (he : Tree.All (·.2.AssignsNothing) ⟨_, e⟩)
    {σ : List Nat} {inner : Tree} (hσ : Tree.at? ⟨_, Links.detached e⟩ σ = some inner) :
    Tree.along Node.role ⟨_, Links.detached e⟩ σ .callee ≠ .target := by
  cases σ with
  | nil => simp
  | cons i σ =>
    obtain ⟨child, hchild, hrest⟩ := Tree.at?_cons_eq_some.1 hσ
    have hmem : child ∈ [(⟨_, .sequence (.ofList [.numberLiteral .zero, e])⟩ : Tree)] :=
      List.mem_of_getElem? hchild
    rw [List.mem_singleton] at hmem
    have hparts : Tree.All (·.2.AssignsNothing)
        ⟨_, (.sequence (.ofList [.numberLiteral .zero, e]) : Expr)⟩ := by
      refine Tree.all_of_child rfl (fun i role h => by cases h) ?_
      refine (Tree.all_ofList (fun es => ?_)).2 (List.forall_mem_cons.2 ⟨?_, ?_⟩)
      · intro i role h
        cases es <;> cases h
      · exact Tree.all_of_leaf rfl (Node.assignsNothing_of_leaf rfl)
      · exact List.forall_mem_singleton.2 he
    rw [Tree.along_cons _ hchild]
    rw [hmem] at hrest ⊢
    exact along_role_ne_target hparts hrest (fun _ h => by cases h)

/-- Of what takes the place of another tree, only the place as a whole can be written to, and only
if it was that of a name. -/
theorem eq_nil_of_replacement {l : Links} (hl : ∀ name e, l.find? name = some e → m.Imports name e)
    {role : Role} {part result inner : Tree} (h : Tree.Replacement l role part result)
    {σ : List Nat} (hσ : result.at? σ = some inner)
    (hrole : result.along Node.role σ role = .target) {record : String}
    (hrecord : inner.2.lookedUp? = some record) :
    σ = [] ∧ ∃ origin name, part = ⟨_, .identifier origin name⟩ ∧ (l.resolve? name).isSome := by
  have hassigns : ∀ {name e}, l.resolve? name = some e → Tree.All (·.2.AssignsNothing) ⟨_, e⟩ :=
    fun hsome => (hl _ _ (Links.find?_of_resolve? hsome)).all_assignsNothing
  have hnil : result.All (·.2.AssignsNothing) → σ = [] := by
    intro hall
    by_contra hne
    exact along_role_ne_target hall hσ (fun hempty => absurd hempty hne) hrole
  cases h with
  | @name _ origin name _ hsome =>
    refine ⟨hnil (hassigns hsome), origin, name, rfl, ?_⟩
    rw [hsome]
    rfl
  | callee hsome => exact absurd hrole (along_role_detached_ne_target (hassigns hsome) hσ)
  | @shorthand _ key e hsome =>
    have hall : Tree.All (·.2.AssignsNothing) ⟨_, .keyValue (.nameKey key) e⟩ :=
      Tree.all_of_pair rfl (fun i role h => by cases h)
        (Tree.all_of_leaf rfl (Node.assignsNothing_of_leaf rfl)) (hassigns hsome)
    rw [hnil hall, Tree.at?_nil, Option.some.injEq] at hσ
    rw [← hσ] at hrecord
    simp [Node.lookedUp?] at hrecord
  | @fieldName _ e hsome =>
    have hall : Tree.All (·.2.AssignsNothing) ⟨_, .bareKey e⟩ :=
      Tree.all_of_child rfl (fun i role h => by cases h) (hl _ _ hsome).all_assignsNothing
    rw [hnil hall, Tree.at?_nil, Option.some.injEq] at hσ
    rw [← hσ] at hrecord
    simp [Node.lookedUp?] at hrecord

/-- A name stands for something at a position where it is imported and not hidden. -/
theorem isSome_resolve?_linksAt {name : String} :
    ((t.linksAt π m.links).resolve? name).isSome ↔
      name ∈ m.importLocals ∧ name ∉ (t.linksAt π m.links).hidden := by
  have hfind : (t.linksAt π m.links).find? name = m.links.find? name := by
    rw [Links.find?, t.bindings_linksAt, ← Links.find?]
  rw [Links.resolve?, hfind, List.contains_eq_mem]
  by_cases hhidden : name ∈ (t.linksAt π m.links).hidden
  · simp [hhidden]
  · rw [if_neg (by simpa using hhidden), and_iff_left hhidden]
    constructor
    · intro hsome
      obtain ⟨e, he⟩ := Option.isSome_iff_exists.1 hsome
      exact (imports_of_find? he).mem_importLocals
    · intro hlocal
      obtain ⟨e, he⟩ := exists_find?_links hlocal
      rw [he]
      rfl

/-- Where the name of an import is written to as an expression, its record is afterwards. -/
theorem not_keepsReadOnly_relink {name : String}
    (hπ : t.at? π = some ⟨_, .identifier .written name⟩) (hrole : t.roleAt π = .target)
    (hlocal : name ∈ m.importLocals) (hvisible : name ∉ (t.linksAt π m.links).hidden) :
    ¬ KeepsReadOnly t ⟨t.1, t.2.relink m.links⟩ := by
  obtain ⟨e, he⟩ := Option.isSome_iff_exists.1 (isSome_resolve?_linksAt.2 ⟨hlocal, hvisible⟩)
  have himports := imports_of_resolve?_linksAt he
  obtain ⟨n, hn⟩ := himports.lookedUp?
  have hafter : Tree.at? ⟨t.1, t.2.relink m.links⟩ π = some ⟨_, e⟩ := by
    rw [Tree.at?_relink hπ, hrole]
    change some (⟨_, (t.linksAt π m.links).identifier .written name⟩ : Tree) = _
    rw [Links.identifier, he]
    rfl
  have hrole' := (Tree.roleAt_relink hπ m.links).trans hrole
  intro hkeeps
  refine hkeeps π ?_ ⟨_, n, hafter, hrole', hn⟩
  intro part hpart
  rw [hπ, Option.some.injEq] at hpart
  subst hpart
  refine ⟨rfl, rfl, fun hsame => ?_⟩
  rw [hafter, Option.some.injEq] at hsame
  exact himports.ne_written (eq_of_heq (Sigma.mk.inj hsame).2)

/-- Where no visible name of an import is written to as an expression, no record is written to
afterwards. -/
theorem keepsReadOnly_relink
    (ht : ∀ π name, t.at? π = some ⟨_, .identifier .written name⟩ → t.roleAt π = .target →
      name ∈ m.importLocals → name ∈ (t.linksAt π m.links).hidden) :
    KeepsReadOnly t ⟨t.1, t.2.relink m.links⟩ := by
  rintro π hinserted ⟨inner, n, hπ, hrole, hrecord⟩
  obtain ⟨ρ, σ, part, rfl, hρ, hσ, hinner⟩ := Tree.at?_relink_eq_some hπ
  have hafter := Tree.at?_relink hρ m.links
  by_cases hleaf : part.2.children = []
  · rw [Tree.roleAt, Tree.along_append _ hafter, ← Tree.roleAt, Tree.roleAt_relink hρ] at hrole
    rcases Tree.relinkAs_of_leaf hleaf (t.roleAt ρ) (t.linksAt ρ m.links) with hsame | hreplaced
    · -- what has not been replaced has not been inserted
      rw [hsame] at hinner
      obtain ⟨rfl, rfl⟩ := Tree.at?_of_leaf hleaf hinner
      rw [List.append_nil] at hinserted hπ
      exact (hinserted inner hρ).2.2 hπ
    · obtain ⟨rfl, origin, name, rfl, hresolve⟩ := eq_nil_of_replacement
        (fun _ _ hfind => imports_of_find?_linksAt hfind) hreplaced hinner hrole hrecord
      rw [List.append_nil] at hinserted
      obtain ⟨hlocal, hvisible⟩ := isSome_resolve?_linksAt.1 hresolve
      cases origin with
      | written => exact hvisible (ht ρ name hρ hrole hlocal)
      | generated =>
        have hname := (hinserted _ hρ).2.1
        simp [Node.generatedName?] at hname
  · obtain rfl := hσ.resolve_right hleaf
    rw [List.append_nil] at hinserted
    exact hleaf (hinserted part hρ).1

/-- What lowering generates writes to no record. -/
theorem not_writesRecord_of_mem_generatedStatements {s : Statement}
    (hs : s ∈ m.generatedStatements) (π : List Nat) : ¬ WritesRecord ⟨_, s⟩ π := by
  rcases isPieces_generatedStatements hs with ⟨h, rfl⟩ | hpieces
  · exact not_writesRecord_declaration h π
  · rintro ⟨part, n, hπ, hrole, -⟩
    have hassigns : Tree.All (·.2.AssignsNothing) ⟨_, s⟩ :=
      fun ρ part hρ => Node.assignsNothing_of_isPiece (hpieces ρ part hρ)
    exact along_role_ne_target hassigns hπ (fun _ h => by cases h) hrole

end Relinked

/-! ## Lowered modules -/

/-- A lowered module writes to no record of an import but where the module writes to a property of
its own accord: what lowering puts before the statements writes to none, and in the statements
none that has been inserted is written to. -/
def KeepsImportsReadOnly (m : Module) : Prop :=
  ∃ generated own, m.lower.body = generated ++ own ∧
    (∀ s ∈ generated, ∀ π, ¬ WritesRecord ⟨_, s⟩ π) ∧
    List.Forall₂ (fun s s' => KeepsReadOnly ⟨_, s⟩ ⟨_, s'⟩) m.statements own

theorem keepsReadOnly_refl (t : Tree) : KeepsReadOnly t t := by
  rintro π hinserted ⟨part, n, hπ, -⟩
  exact absurd hπ (hinserted part hπ).2.2

/-- The records are kept where they are kept in the statements of the module. -/
theorem keepsImportsReadOnly_iff_lowersStatements {m : Module} :
    m.KeepsImportsReadOnly ↔
      m.LowersStatements (fun s s' => KeepsReadOnly ⟨_, s⟩ ⟨_, s'⟩) := by
  constructor
  · rintro ⟨generated, own, hbody, -, hown⟩
    exact ⟨generated, own, hbody, hown⟩
  · rintro ⟨generated, own, hbody, hown⟩
    have hlength := hown.length_eq
    refine ⟨generated, own, hbody, fun s hs => ?_, hown⟩
    cases hm : m.isScript with
    | true =>
      have hscript : m.lower.body = [] ++ m.statements := by
        rw [lower, hm]
        exact (statements_of_isScript hm).1
      obtain ⟨rfl, -⟩ := List.append_inj' (hbody.symm.trans hscript) hlength.symm
      simp at hs
    | false =>
      have hlowered := hbody.symm.trans (lower_body_eq hm)
      obtain ⟨rfl, -⟩ := List.append_inj' hlowered (by rw [List.length_map, hlength])
      exact not_writesRecord_of_mem_generatedStatements hs

/-- **Lowering keeps imports read-only if and only if the name of none is written to as an
expression**, but for names that the pass takes to be hidden. -/
theorem keepsImportsReadOnly_iff (m : Module) :
    m.KeepsImportsReadOnly ↔
      ∀ s ∈ m.statements, ∀ π name,
        Tree.at? ⟨_, s⟩ π = some ⟨_, .identifier .written name⟩ →
        Tree.roleAt ⟨_, s⟩ π = .target → name ∈ m.importLocals →
          name ∈ (Tree.linksAt ⟨_, s⟩ π m.links).hidden := by
  rw [keepsImportsReadOnly_iff_lowersStatements, lowersStatements_iff]
  refine forall₂_congr (fun s _ => ?_)
  cases hm : m.isScript with
  | true =>
    rw [lowered_of_isScript hm]
    refine iff_of_true (keepsReadOnly_refl _) ?_
    intro π name _ _ hlocal
    rw [importLocals_of_isScript hm] at hlocal
    simp at hlocal
  | false =>
    rw [lowered_of_not_isScript hm]
    constructor
    · intro hkeeps π name hπ hrole hlocal
      by_contra hvisible
      exact not_keepsReadOnly_relink hπ hrole hlocal hvisible hkeeps
    · exact keepsReadOnly_relink

/-- At a position the name of an import is written to as an expression, and is seen to be. -/
def writesImportAt (m : Module) (t : Tree) (π : List Nat) : Bool :=
  match t.at? π with
  | some ⟨.expression, .identifier .written name⟩ =>
    decide (t.roleAt π = .target ∧ name ∈ m.importLocals ∧
      name ∉ (t.linksAt π m.links).hidden)
  | _ => false

theorem not_keepsReadOnly_of_writesImportAt {m : Module} {t : Tree} {π : List Nat}
    (h : m.writesImportAt t π = true) : ¬ KeepsReadOnly t ⟨t.1, t.2.relink m.links⟩ := by
  unfold writesImportAt at h
  split at h
  · next name hπ =>
    rw [decide_eq_true_eq] at h
    obtain ⟨hrole, hlocal, hvisible⟩ := h
    exact not_keepsReadOnly_relink hπ hrole hlocal hvisible
  · simp at h

/-- Writes to an import with an operator, by updates, in parentheses and from a loop. -/
def writingSource : String :=
  "import \x7ba\x7d from './x';\na += 1;\na ||= 2;\na++;\n--a;\n(a) = 3;\nfor ((a) of []) ;"

/-- All of them write to the exports of the module that is imported. -/
theorem not_keepsReadOnly_writingSource :
    ∃ m, Module.ofText writingSource.toList = .ok m ∧ m.statements.length = 6 ∧
      (∀ s ∈ m.statements, ¬ KeepsReadOnly ⟨_, s⟩ ⟨_, m.lowered s⟩) ∧
      ¬ m.KeepsImportsReadOnly := by
  have hcheck : (Module.ofText writingSource.toList).toOption.any (fun m =>
      !m.isScript && m.statements.length == 6 &&
        m.statements.all fun s =>
          (Tree.positions 5 ⟨_, s⟩).any fun π => m.writesImportAt ⟨_, s⟩ π) = true := by
    decide +kernel
  obtain ⟨m, hm, hpassed⟩ := exists_ok_of_any hcheck
  simp only [Bool.and_eq_true, Bool.not_eq_true', beq_iff_eq, List.all_eq_true,
    List.any_eq_true] at hpassed
  obtain ⟨⟨hscript, hlength⟩, hwrites⟩ := hpassed
  have hnot : ∀ s ∈ m.statements, ¬ KeepsReadOnly ⟨_, s⟩ ⟨_, m.lowered s⟩ := by
    intro s hs
    obtain ⟨π, -, hπ⟩ := hwrites s hs
    rw [lowered_of_not_isScript hscript]
    exact not_keepsReadOnly_of_writesImportAt hπ
  obtain ⟨s, hs⟩ := List.exists_mem_of_length_pos (by omega : 0 < m.statements.length)
  refine ⟨m, hm, hlength, hnot, fun hkeeps => hnot s hs ?_⟩
  exact lowersStatements_iff.1 (keepsImportsReadOnly_iff_lowersStatements.1 hkeeps) s hs

end Module

end ModuleBundler
