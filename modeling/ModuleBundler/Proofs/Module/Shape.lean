import Mathlib.Data.List.Forall2
import ModuleBundler.Proofs.Module.Exports

/-!
The shape of a lowered module. Lowering walks over the items of a module once and gathers what they
give in several places; here the result is compared with the items again, part by part. What an
item loads and what it leaves to be run is said without the walk, by one relation each, and a part
of the result is then the list of the items that have something to say to it, one statement for
each item and in the order of the text. So nothing is lost, doubled or moved, however imports,
exports and statements alternate.

The order of the parts is what cyclic imports rely on: all getters come before the first module is
loaded, and everything is loaded before the first statement of the module runs.
-/

set_option autoImplicit false

namespace ModuleBundler

open Script

/-! ## Items -/

namespace ModuleItem

/-- The item leaves the statement to be run. -/
inductive Leaves : ModuleItem → Statement → Prop
  | statement (s : Statement) : Leaves (.statement s) s
  /-- An export is dropped from a declaration. -/
  | declaration (s : Statement) : Leaves (.exportDeclaration s) s
  | namedFunction (name : String) (f : Function) :
    Leaves (.exportDefaultFunction (some name) f) (.functionDeclaration name f)
  | unnamedFunction (f : Function) :
    Leaves (.exportDefaultFunction none f) (.functionDeclaration "__pumice_default" f)
  | namedClass (name : String) (heritage : Node (.option .expression))
    (members : Node (.list .member)) :
    Leaves (.exportDefaultClass (some name) heritage members)
      (.classDeclaration name heritage members)
  | unnamedClass (heritage : Node (.option .expression)) (members : Node (.list .member)) :
    Leaves (.exportDefaultClass none heritage members)
      (.classDeclaration "__pumice_default" heritage members)
  /-- A value is held in a variable. -/
  | value (e : Expr) : Leaves (.exportDefault e) (Build.var "__pumice_default" e)

/-- The statement loads what the item names. -/
inductive LoadedBy : ModuleItem → Statement → Prop
  /-- An import without clauses is loaded for its effects. -/
  | effects (source : String) : LoadedBy (.import source []) (Build.run (requireCall source))
  /-- An import with clauses is held in a variable, and read through a helper if need be. -/
  | imported (source : String) (clauses : List ImportClause) (hclauses : clauses ≠ [])
    (helper : Option InteropHelper) (n : Nat) :
    LoadedBy (.import source clauses) (Build.var (recordName n) (requireThrough helper source))
  /-- A source whose names are exported is held in a variable. -/
  | exported (source : String) (clauses : List ExportClause) (n : Nat) :
    LoadedBy (.exportNames (some source) clauses) (Build.var (recordName n) (requireCall source))
  /-- A source of which all names are exported is handed to a helper. -/
  | all (source : String) :
    LoadedBy (.exportAll source) (Build.run (Build.call (Build.name "__pumice_export_star")
      [requireCall source, Build.name "exports"]))

/-- The item has code of its own, apart from what it imports and exports. -/
def hasCode : ModuleItem → Bool
  | .import _ _ | .exportNames _ _ | .exportAll _ => false
  | _ => true

theorem exists_leaves_contribution (item : ModuleItem) (record : String) :
    (item.hasCode = true → ∃ s, (item.contribution record).body = [s] ∧ item.Leaves s) ∧
      (item.hasCode = false → (item.contribution record).body = []) := by
  cases item with
  | statement s => exact ⟨fun _ => ⟨s, rfl, .statement s⟩, nofun⟩
  | exportDeclaration s => exact ⟨fun _ => ⟨s, rfl, .declaration s⟩, nofun⟩
  | exportDefaultFunction name f =>
    refine ⟨fun _ => ⟨_, rfl, ?_⟩, nofun⟩
    cases name with
    | none => exact .unnamedFunction f
    | some name => exact .namedFunction name f
  | exportDefaultClass name heritage members =>
    refine ⟨fun _ => ⟨_, rfl, ?_⟩, nofun⟩
    cases name with
    | none => exact .unnamedClass heritage members
    | some name => exact .namedClass name heritage members
  | exportDefault e => exact ⟨fun _ => ⟨_, rfl, .value e⟩, nofun⟩
  | «import» source clauses => cases clauses <;> exact ⟨nofun, fun _ => rfl⟩
  | exportNames source clauses => cases source <;> exact ⟨nofun, fun _ => rfl⟩
  | exportAll source => exact ⟨nofun, fun _ => rfl⟩

theorem exists_loadedBy_contribution (item : ModuleItem) (n : Nat) :
    (item.specifier?.isSome = true →
        ∃ s, (item.contribution (recordName n)).requires = [s] ∧ item.LoadedBy s) ∧
      (item.specifier?.isSome = false → (item.contribution (recordName n)).requires = []) := by
  cases item with
  | «import» source clauses =>
    refine ⟨fun _ => ?_, nofun⟩
    cases clauses with
    | nil => exact ⟨_, rfl, .effects source⟩
    | cons clause rest => exact ⟨_, rfl, .imported source _ (List.cons_ne_nil _ _) _ n⟩
  | exportNames source clauses =>
    cases source with
    | none => exact ⟨nofun, fun _ => rfl⟩
    | some source => exact ⟨fun _ => ⟨_, rfl, .exported source clauses n⟩, nofun⟩
  | exportAll source => exact ⟨fun _ => ⟨_, rfl, .all source⟩, nofun⟩
  | _ => exact ⟨nofun, fun _ => rfl⟩

end ModuleItem

/-- What the items of a module contribute to a part of the result, one statement for each item that
has one, in order. How the variables are numbered does not matter. -/
theorem forall₂_contributions {R : ModuleItem → Statement → Prop} {p : ModuleItem → Bool}
    {part : Contribution → List Statement}
    (h : ∀ (item : ModuleItem) (n : Nat),
      (p item = true → ∃ s, part (item.contribution (recordName n)) = [s] ∧ R item s) ∧
        (p item = false → part (item.contribution (recordName n)) = []))
    (next : Nat) (items : List ModuleItem) :
    List.Forall₂ R (items.filter p) ((contributions next items).flatMap part) := by
  induction items generalizing next with
  | nil => exact .nil
  | cons item rest ih =>
    rw [contributions_cons, List.flatMap_cons]
    by_cases hp : p item = true
    · obtain ⟨s, hpart, hs⟩ := (h item next).1 hp
      rw [List.filter_cons_of_pos hp, hpart]
      exact .cons hs (ih _)
    · rw [List.filter_cons_of_neg hp, (h item next).2 (Bool.eq_false_iff.mpr hp), List.nil_append]
      exact ih _

namespace Module

/-! ## Rewriting of imports -/

/-- A tree becomes another by the replacement of references to imports, and by nothing else: what
has parts keeps its place, its kind and all that it holds besides them, and what has no parts stays
where it is, or gives way to what an import prescribes for its name. -/
structure RewritesImports (m : Module) (before after : Tree) : Prop where
  replaced : after = ⟨before.1, before.2.relink m.links⟩
  kept : ∀ π part, before.at? π = some part → part.2.children ≠ [] →
    ∃ n : Node part.1, after.at? π = some ⟨part.1, n⟩ ∧ n.hollow = part.2.hollow
  leaves : ∀ π part, before.at? π = some part → part.2.children = [] →
    after.at? π = some part ∨
      ∃ l part', after.at? π = some part' ∧ Tree.Replacement l (before.roleAt π) part part' ∧
        ∀ name e, l.find? name = some e → m.Imports name e

theorem rewritesImports_relink (m : Module) (t : Tree) :
    m.RewritesImports t ⟨t.1, t.2.relink m.links⟩ where
  replaced := rfl
  kept π part hπ hparts := by
    refine ⟨part.2.relink (t.linksAt π m.links), ?_, part.2.hollow_relink _ hparts⟩
    rw [Tree.at?_relink hπ, Tree.relinkAs, part.2.relinkAs_of_children _ _ hparts]
  leaves π part hπ hleaf := by
    rw [Tree.at?_relink hπ]
    rcases Tree.relinkAs_of_leaf hleaf (t.roleAt π) (t.linksAt π m.links) with hsame | hreplaced
    · left
      rw [hsame]
    · right
      exact ⟨_, _, rfl, hreplaced, fun name e => imports_of_find?_linksAt⟩

/-! ## Lowered modules -/

/-- A lowered module consists of these parts, in this order. -/
structure HasShape (m : Module) (helpers getters requires own : List Statement) : Prop where
  lower : m.lower = ⟨m.interpreter,
    [Build.run (Build.str "use strict"),
      defineExport "__esModule" (Build.object [("value", .boolLiteral true)])] ++
    helpers ++ getters ++ requires ++ own⟩
  /-- Each helper comes at most once. -/
  helpers : helpers.Sublist (InteropHelper.all.map (·.declaration))
  /-- There is a getter for each export, which gives the value of the export. -/
  getters : List.Forall₂ (fun x s => ∃ g value, m.Gives x g ∧
    m.RewritesImports ⟨_, g.2⟩ ⟨_, value⟩ ∧ s = getterStatement x.name value)
    m.exports getters
  /-- Each item that names a source loads it. -/
  requires : List.Forall₂ ModuleItem.LoadedBy (m.items.filter (·.specifier?.isSome)) requires
  /-- Each item with code of its own leaves it to be run. -/
  own : List.Forall₂ (fun item s' => ∃ s, item.Leaves s ∧ m.RewritesImports ⟨_, s⟩ ⟨_, s'⟩)
    (m.items.filter (·.hasCode)) own

theorem forall₂_getters (m : Module) :
    List.Forall₂ (fun x s => ∃ g value, m.Gives x g ∧
      m.RewritesImports ⟨_, g.2⟩ ⟨_, value⟩ ∧ s = getterStatement x.name value)
      m.exports (m.getters.map fun g => defineExport g.1 (getterOf (g.2.relink m.links))) := by
  rw [List.forall₂_map_right_iff]
  refine m.forall₂_gives.imp fun x g hgives => ?_
  refine ⟨g, g.2.relink m.links, hgives, m.rewritesImports_relink ⟨_, g.2⟩, ?_⟩
  rw [hgives.name_eq, defineExport_getterOf]

theorem forall₂_requires (m : Module) :
    List.Forall₂ ModuleItem.LoadedBy (m.items.filter (·.specifier?.isSome)) m.requires :=
  forall₂_contributions (fun item n => item.exists_loadedBy_contribution n) 0 m.items

theorem forall₂_statements (m : Module) :
    List.Forall₂ (fun item s' => ∃ s, item.Leaves s ∧ m.RewritesImports ⟨_, s⟩ ⟨_, s'⟩)
      (m.items.filter (·.hasCode)) (m.statements.map (·.relink m.links)) := by
  have hleaves : List.Forall₂ ModuleItem.Leaves (m.items.filter (·.hasCode)) m.statements := by
    rw [← m.flatMap_body_contributions]
    exact forall₂_contributions (fun item n => item.exists_leaves_contribution (recordName n))
      0 m.items
  rw [List.forall₂_map_right_iff]
  exact hleaves.imp fun item s hs => ⟨s, hs, m.rewritesImports_relink ⟨_, s⟩⟩

/-- A module that imports or exports something is lowered to its parts. -/
theorem exists_hasShape {m : Module} (hm : m.isScript = false) :
    ∃ helpers getters requires own, m.HasShape helpers getters requires own := by
  refine ⟨m.helpers.map (·.declaration),
    m.getters.map fun g => defineExport g.1 (getterOf (g.2.relink m.links)), m.requires,
    m.statements.map (·.relink m.links), ?_, ?_, m.forall₂_getters, m.forall₂_requires,
    m.forall₂_statements⟩
  · rw [Module.lower, hm, if_neg Bool.false_ne_true, loweredBody_eq]
    rfl
  · exact List.filter_sublist.map _

/-- The items of a script are its statements. -/
theorem exists_items_of_isScript {m : Module} (hm : m.isScript = true) :
    ∃ statements, m.items = statements.map ModuleItem.statement ∧
      m.lower = ⟨m.interpreter, statements⟩ := by
  have hitems : ∀ items : List ModuleItem, (items.all fun item => item.statement?.isSome) = true →
      items = (items.filterMap ModuleItem.statement?).map ModuleItem.statement := by
    intro items hall
    induction items with
    | nil => rfl
    | cons item rest ih =>
      rw [List.all_cons, Bool.and_eq_true] at hall
      cases item with
      | statement s => exact congrArg (ModuleItem.statement s :: ·) (ih hall.2)
      | _ => exact absurd hall.1 Bool.false_ne_true
  refine ⟨m.items.filterMap ModuleItem.statement?, hitems m.items hm, ?_⟩
  rw [Module.lower, if_pos hm]

/-- **What a lowered module looks like.** A module that imports or exports something becomes a
script of these parts, in this order: the directive, the mark on the exports object, the helpers,
the getters of the exports, the statements that load what the items name, and the code of the items
with imports replaced. A module that does neither is the script that its statements are. -/
theorem hasShape_lower (m : Module) :
    ((∃ item ∈ m.items, item.statement? = none) →
      ∃ helpers getters requires own, m.HasShape helpers getters requires own) ∧
    ((∀ item ∈ m.items, item.statement? ≠ none) →
      ∃ statements, m.items = statements.map ModuleItem.statement ∧
        m.lower = ⟨m.interpreter, statements⟩) := by
  constructor
  · rintro ⟨item, hitem, hnone⟩
    apply exists_hasShape
    rw [isScript, List.all_eq_false]
    exact ⟨item, hitem, by simp [hnone]⟩
  · intro hall
    apply exists_items_of_isScript
    rw [isScript, List.all_eq_true]
    exact fun item hitem => Option.isSome_iff_ne_none.mpr (hall item hitem)

/-- Items of all kinds, in no order. -/
def mixedSource : String :=
  "f(); export * from './s'; export const x = a; import './e'; import d, \x7ba\x7d from './i'; " ++
  "export default class \x7b\x7d export \x7ba as b, x as y\x7d; g(a); " ++
  "export \x7bz\x7d from './t'; export function h() \x7b\x7d"

/-- It becomes a script of the parts. -/
theorem exists_hasShape_mixedSource :
    ∃ m, Module.ofText mixedSource.toList = .ok m ∧ m.items.length = 10 ∧
      ∃ helpers getters requires own, m.HasShape helpers getters requires own := by
  have hcheck : (Module.ofText mixedSource.toList).toOption.any (fun m =>
      decide (m.items.length = 10) &&
        m.items.any fun item => item.statement?.isNone) = true := by
    decide +kernel
  obtain ⟨m, hm, hpassed⟩ := exists_ok_of_any hcheck
  simp only [Bool.and_eq_true, decide_eq_true_eq, List.any_eq_true, Option.isNone_iff_eq_none]
    at hpassed
  exact ⟨m, hm, hpassed.1, m.hasShape_lower.1 hpassed.2⟩

end Module

end ModuleBundler
