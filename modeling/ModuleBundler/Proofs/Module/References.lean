import Mathlib.Data.List.Forall2
import ModuleBundler.Module.Reader
import ModuleBundler.Proofs.Module.Contributions
import ModuleBundler.Proofs.Module.Rewriting

/-!
What lowering does to the references of a module. A read reference to an import becomes the lookup
that the import prescribes, at its own position, and every other read reference stays as it is.

Which references are to an import is a matter of the scopes of the language. Lowering goes by a
pass that approximates them: it hides names one after another while it walks the tree, and treats
a switch as no scope and a function in a block as one of the whole function. The result is stated
for the modules on which the two agree about imported names (`Module.ScopesAgree`), as the pass
itself is not what is at stake here.
-/

set_option autoImplicit false

namespace ModuleBundler

open Script

/-! ## One read -/

/-- What takes the place of a read reference, given the lookup. -/
def Script.Read.replaced (r : Read) (e : Expr) : Tree :=
  match r.form with
  | .expression => ⟨_, e⟩
  | .callee => ⟨_, .paren (.sequence (.ofList [.numberLiteral .zero, e]))⟩
  | .shorthand => ⟨_, .keyValue (.nameKey r.name) e⟩

theorem Script.Tree.relinkAs_of_read? {part : Tree} {role : Role} {r : Read}
    (hr : part.2.read? role = some r) (l : Links) :
    part.relinkAs role l = ((l.resolve? r.name).map r.replaced).getD part := by
  obtain ⟨c, n⟩ := part
  cases n with
  | identifier origin name =>
    cases role with
    | plain =>
      cases hr
      change (⟨_, l.identifier origin name⟩ : Tree) = _
      rw [Links.identifier]
      cases l.resolve? name <;> rfl
    | callee =>
      cases hr
      change (⟨_, l.callee (.identifier origin name) (l.identifier origin name)⟩ : Tree) = _
      rw [Links.callee, Links.identifier]
      cases l.resolve? name <;> rfl
    | target => cases hr
    | fieldName => cases hr
  | shorthand name =>
    have hn : r = ⟨.shorthand, .written, name⟩ := by
      cases role <;> exact (Option.some.inj hr).symm
    have hrole : (Node.shorthand name).relinkAs role l = l.shorthand name := by
      cases role <;> rfl
    rw [relinkAs, hrole, hn, Links.shorthand]
    cases l.resolve? name <;> rfl
  | _ => cases role <;> cases hr

/-- A read reference is replaced if its name stands for something at its position. -/
theorem Script.Tree.at?_relink_of_read {t : Tree} {π : List Nat} {r : Read}
    (hr : t.readAt? π = some r) (l : Links) :
    Tree.at? ⟨t.1, t.2.relink l⟩ π =
      (((t.linksAt π l).resolve? r.name).map fun e => r.replaced e).or (t.at? π) := by
  obtain ⟨part, hpart, hread⟩ := readAt?_eq_some.mp hr
  have hplain : (⟨t.1, t.2.relink l⟩ : Tree) = t.relinkAs .plain l := by
    rw [relinkAs, Node.relinkAs_plain]
  rw [hplain, at?_relinkAs hpart, hpart]
  change some (part.relinkAs (t.roleAt π) (t.linksAt π l)) = _
  rw [relinkAs_of_read? hread]
  cases (t.linksAt π l).resolve? r.name <;> rfl

/-! ## All reads of a module -/

namespace Module

/-- The trees of a module in which references are replaced: its statements and the values of its
getters. -/
def trees (m : Module) : List Tree :=
  m.statements.map (fun s => ⟨_, s⟩) ++ m.getters.map (fun g => ⟨_, g.2⟩)

/-- The names that the pass hides at the position of a read reference tell rightly whether the
name, being that of an import, is declared around the position. -/
def ScopesAgree (m : Module) : Prop :=
  ∀ t ∈ m.trees, ∀ π r, t.readAt? π = some r → r.name ∈ m.importLocals →
    (r.name ∉ (t.linksAt π m.links).hidden ↔ t.IsFree π r)

/-- One tree becomes another in which the references to the imports of the module, and no other
read references, are replaced. -/
structure Rewrites (m : Module) (before after : Tree) : Prop where
  /-- A read reference to an import is replaced by what the import prescribes. -/
  imported : ∀ π r e, before.readAt? π = some r → before.IsFree π r → m.Imports r.name e →
    after.at? π = some (r.replaced e)
  /-- A read reference to anything else stays. -/
  other : ∀ π r, before.readAt? π = some r → (before.IsFree π r → ∀ e, ¬ m.Imports r.name e) →
    after.at? π = before.at? π

theorem rewrites_relink {m : Module} (hlocals : m.importLocals.Nodup) (hscopes : m.ScopesAgree)
    {t : Tree} (ht : t ∈ m.trees) : m.Rewrites t ⟨t.1, t.2.relink m.links⟩ := by
  constructor
  · intro π r e hr hfree himports
    have hvisible : r.name ∉ (t.linksAt π m.links).hidden :=
      (hscopes t ht π r hr himports.mem_importLocals).mpr hfree
    have hresolve : (t.linksAt π m.links).resolve? r.name = some e := by
      rw [Links.resolve?, List.contains_eq_mem, decide_eq_false hvisible, Links.find?,
        t.bindings_linksAt]
      exact (find?_links hlocals).mpr himports
    rw [Tree.at?_relink_of_read hr, hresolve]
    rfl
  · intro π r hr hother
    have hresolve : (t.linksAt π m.links).resolve? r.name = none := by
      cases hfind : m.links.find? r.name with
      | none =>
        rw [Links.resolve?, Links.find?, t.bindings_linksAt]
        rw [Links.find?] at hfind
        rw [hfind, ite_self]
      | some e =>
        -- the name is imported, so the reference is not free and the pass has hidden it
        have himports : m.Imports r.name e := (find?_links hlocals).mp hfind
        have hnotFree : ¬ t.IsFree π r := fun hfree => hother hfree e himports
        have hhidden : r.name ∈ (t.linksAt π m.links).hidden := by
          by_contra hvisible
          exact hnotFree ((hscopes t ht π r hr himports.mem_importLocals).mp hvisible)
        rw [Links.resolve?, List.contains_eq_mem, decide_eq_true hhidden]
        rfl
    rw [Tree.at?_relink_of_read hr, hresolve]
    rfl

/-- A lowered module consists of these getters and statements, apart from what does not stem from
its own code; they are its getters and statements with the references to imports replaced. -/
structure RewritesReads (m : Module) (getters statements : List Statement) : Prop where
  body : m.lower.body = m.prologue ++ getters ++ m.requires ++ statements
  getters : List.Forall₂ (fun g s => ∃ value, s = defineExport g.1 (getterOf value) ∧
    m.Rewrites ⟨_, g.2⟩ ⟨_, value⟩) m.getters getters
  statements : List.Forall₂ (fun s s' => m.Rewrites ⟨_, s⟩ ⟨_, s'⟩) m.statements statements
  /-- The variables that the lookups of an import read hold the module that it loads. -/
  required : ∀ before source clauses after,
    m.items = before ++ .import source clauses :: after → clauses ≠ [] →
      Build.var (recordName (before.countP (·.takesRecord)))
        (requireThrough (interopOf clauses) source) ∈ m.requires

/-- **Imports are read through their modules, and nothing else is.** The statements and getters of
a lowered module are those of the module, one for one, with each read reference to an import
replaced at its position by the lookup that the import prescribes, and every other read reference
as it was. -/
theorem lower_rewrites_reads (m : Module) (hm : m.isScript = false)
    (hlocals : m.importLocals.Nodup) (hscopes : m.ScopesAgree) :
    ∃ getters statements, m.RewritesReads getters statements := by
  refine ⟨m.getters.map fun g => defineExport g.1 (getterOf (g.2.relink m.links)),
    m.statements.map (·.relink m.links), ?_, ?_, ?_, ?_⟩
  · rw [lower, hm]
    exact m.loweredBody_eq
  · rw [List.forall₂_map_right_iff, List.forall₂_same]
    intro g hg
    have ht : (⟨_, g.2⟩ : Tree) ∈ m.trees :=
      List.mem_append_right _ (List.mem_map.mpr ⟨g, hg, rfl⟩)
    exact ⟨_, rfl, rewrites_relink hlocals hscopes ht⟩
  · rw [List.forall₂_map_right_iff, List.forall₂_same]
    intro s hs
    have ht : (⟨_, s⟩ : Tree) ∈ m.trees :=
      List.mem_append_left _ (List.mem_map.mpr ⟨s, hs, rfl⟩)
    exact rewrites_relink hlocals hscopes ht
  · intro before source clauses after hitems hclauses
    exact mem_requires_of_import hitems hclauses

/-! ## Checking a module -/

/-- The scopes agree at all positions that are at most so long, and none is as long. -/
def scopesAgreeWithin (depth : Nat) (m : Module) : Bool :=
  m.trees.all fun t => (t.positions depth).all fun π =>
    π.length < depth && (t.readAt? π).all fun r =>
      r.name ∈ m.importLocals → (r.name ∉ (t.linksAt π m.links).hidden ↔ t.IsFree π r)

theorem scopesAgree_of_within {depth : Nat} {m : Module} (h : m.scopesAgreeWithin depth = true) :
    m.ScopesAgree := by
  intro t ht π r hr
  rw [scopesAgreeWithin, List.all_eq_true] at h
  obtain ⟨part, hpart, -⟩ := Tree.readAt?_eq_some.mp hr
  have hπ := Tree.of_all_positions (h t ht) hpart
  rw [hr] at hπ
  exact of_decide_eq_true hπ

/-- Imports that are exported, and read as values, callees and shorthand properties; one of them
is hidden by a parameter, the other by a block. -/
def referringSource : String :=
  "import d, * as ns from './n'; export \x7bd\x7d; " ++
  "(ns => d(ns.x, \x7bd, ns\x7d))(ns); \x7bconst d = ns; d()\x7d"

theorem exists_rewritesReads_referringSource :
    ∃ m, Module.ofText referringSource.toList = .ok m ∧ m.isScript = false ∧
      m.importLocals.Nodup ∧ m.ScopesAgree ∧
      ∃ getters statements, m.RewritesReads getters statements := by
  have hcheck : (match Module.ofText referringSource.toList with
      | .ok m => !m.isScript && decide m.importLocals.Nodup && m.scopesAgreeWithin 25
      | .error _ => false) = true := by
    decide +kernel
  cases hm : Module.ofText referringSource.toList with
  | error fault => simp [hm] at hcheck
  | ok m =>
    simp only [hm, Bool.and_eq_true, Bool.not_eq_true', decide_eq_true_eq] at hcheck
    obtain ⟨⟨hscript, hlocals⟩, hwithin⟩ := hcheck
    have hscopes := scopesAgree_of_within hwithin
    exact ⟨m, rfl, hscript, hlocals, hscopes, lower_rewrites_reads m hscript hlocals hscopes⟩

end Module

end ModuleBundler
