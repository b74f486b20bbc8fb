import Mathlib.Data.List.Nodup
import ModuleBundler.Module.Lowering
import ModuleBundler.Proofs.FirstOccurrences

/-!
The contributions of a module, item by item. Only the number of its variable ties an item to the
items before it, and that number is how many of them take a variable. The names that are imported
and what they stand for follow from that.
-/

set_option autoImplicit false

namespace ModuleBundler

open Script

/-! ## Numbering -/

theorem contributions_cons (next : Nat) (item : ModuleItem) (rest : List ModuleItem) :
    contributions next (item :: rest) =
      item.contribution (recordName next) ::
        contributions (if item.takesRecord then next + 1 else next) rest := rfl

/-- The items before some others matter to them by the number of variables they take. -/
theorem contributions_append (next : Nat) (before after : List ModuleItem) :
    contributions next (before ++ after) =
      contributions next before ++
        contributions (next + before.countP (·.takesRecord)) after := by
  induction before generalizing next with
  | nil => rfl
  | cons item rest ih =>
    rw [List.cons_append, contributions_cons, contributions_cons, ih, List.cons_append,
      List.countP_cons]
    congr 3
    split <;> omega

theorem mem_contributions {next : Nat} {items : List ModuleItem} {c : Contribution} :
    c ∈ contributions next items ↔
      ∃ before item after, items = before ++ item :: after ∧
        c = item.contribution (recordName (next + before.countP (·.takesRecord))) := by
  constructor
  · intro hc
    induction items generalizing next with
    | nil => cases hc
    | cons item rest ih =>
      rw [contributions_cons, List.mem_cons] at hc
      rcases hc with rfl | hc
      · exact ⟨[], item, rest, rfl, rfl⟩
      · obtain ⟨before, item', after, rfl, rfl⟩ := ih hc
        refine ⟨item :: before, item', after, rfl, ?_⟩
        rw [List.countP_cons]
        congr 2
        split <;> omega
  · rintro ⟨before, item, after, rfl, rfl⟩
    rw [contributions_append, contributions_cons]
    exact List.mem_append_right _ List.mem_cons_self

/-! ## Kinds of generated code -/

namespace ModuleItem

/-- A getter reads a variable, or a property of the variable for a required module. -/
theorem getter_cases {item : ModuleItem} {record : String} {g : String × Expr}
    (hg : g ∈ (item.contribution record).getters) :
    (∃ origin name, g.2 = .identifier origin name) ∨ ∃ imported, g.2 = lookup record imported := by
  cases item with
  | «import» source clauses => cases clauses <;> cases hg
  | exportNames source clauses =>
    cases source with
    | none =>
      obtain ⟨clause, -, rfl⟩ := List.mem_map.mp hg
      cases clause <;> exact .inl ⟨_, _, rfl⟩
    | some source =>
      obtain ⟨clause, -, rfl⟩ := List.mem_map.mp hg
      cases clause with
      | named name exported => exact .inr ⟨name, rfl⟩
      | «namespace» exported => exact .inl ⟨_, _, rfl⟩
  | exportDeclaration s =>
    obtain ⟨name, -, rfl⟩ := List.mem_map.mp hg
    exact .inl ⟨_, _, rfl⟩
  | exportDefaultFunction | exportDefaultClass | exportDefault =>
    rw [List.mem_singleton.mp hg]
    exact .inl ⟨_, _, rfl⟩
  | statement => cases hg
  | exportAll => cases hg

/-- A dependency is loaded for its effects, into a variable, or to export all of its names. -/
theorem require_cases {item : ModuleItem} {record : String} {s : Statement}
    (hs : s ∈ (item.contribution record).requires) :
    (∃ source, s = Build.run (requireCall source)) ∨
      (∃ helper source, s = Build.var record (requireThrough helper source)) ∨
      ∃ source, s = Build.run (Build.call (Build.name InteropHelper.star.name)
        [requireCall source, Build.name "exports"]) := by
  cases item with
  | «import» source clauses =>
    cases clauses with
    | nil => exact .inl ⟨source, List.mem_singleton.mp hs⟩
    | cons clause rest => exact .inr (.inl ⟨_, source, List.mem_singleton.mp hs⟩)
  | exportNames source clauses =>
    cases source with
    | none => cases hs
    | some source => exact .inr (.inl ⟨none, source, List.mem_singleton.mp hs⟩)
  | exportAll source => exact .inr (.inr ⟨source, List.mem_singleton.mp hs⟩)
  | _ => cases hs

end ModuleItem

namespace Module

/-! ## The parts of a lowered module -/

/-- The statements that a module runs, before references are replaced: its statements, the
declarations that it exports, and a declaration for each default export. -/
def statements (m : Module) : List Statement :=
  m.items.flatMap fun
    | .statement s => [s]
    | .exportDeclaration s => [s]
    | .exportDefaultFunction name f => [.functionDeclaration (name.getD defaultName) f]
    | .exportDefaultClass name heritage members =>
      [.classDeclaration (name.getD defaultName) heritage members]
    | .exportDefault value => [Build.var defaultName value]
    | .import _ _ | .exportNames _ _ | .exportAll _ => []

/-- The getters of a module, before references are replaced. -/
def getters (m : Module) : List (String × Expr) := m.contributions.flatMap (·.getters)

/-- The statements that load the dependencies of a module. -/
def requires (m : Module) : List Statement := m.contributions.flatMap (·.requires)

/-- What comes before the getters of a lowered module. -/
def prologue (m : Module) : List Statement :=
  [Build.run (Build.str "use strict"),
    defineExport InteropHelper.marker (Build.object [("value", .boolLiteral true)])] ++
  m.helpers.map (·.declaration)

theorem flatMap_body_contributions (m : Module) :
    m.contributions.flatMap (·.body) = m.statements := by
  obtain ⟨interpreter, items⟩ := m
  rw [contributions, statements]
  generalize 0 = next
  induction items generalizing next with
  | nil => rfl
  | cons item rest ih =>
    rw [contributions_cons, List.flatMap_cons, List.flatMap_cons, ih]
    congr 1
    cases item with
    | «import» source clauses => cases clauses <;> rfl
    | exportNames source clauses => cases source <;> rfl
    | _ => rfl

theorem loweredBody_eq (m : Module) :
    m.loweredBody = m.prologue ++
      m.getters.map (fun g => defineExport g.1 (getterOf (g.2.relink m.links))) ++ m.requires ++
      m.statements.map (·.relink m.links) := by
  rw [← m.flatMap_body_contributions]
  rfl

/-- A script has no dependencies, and its items are its statements. -/
theorem statements_of_isScript {m : Module} (hm : m.isScript = true) :
    m.items.filterMap ModuleItem.statement? = m.statements ∧ m.specifiers = [] := by
  obtain ⟨interpreter, items⟩ := m
  rw [isScript, List.all_eq_true] at hm
  rw [statements, specifiers]
  induction items with
  | nil => exact ⟨rfl, rfl⟩
  | cons item rest ih =>
    obtain ⟨hstatements, hspecifiers⟩ := ih fun i hi => hm i (List.mem_cons_of_mem item hi)
    have hitem := hm item List.mem_cons_self
    cases item with
    | statement s =>
      refine ⟨?_, hspecifiers⟩
      rw [List.flatMap_cons, ← hstatements]
      rfl
    | _ => cases hitem

/-! ## Imported names -/

/-- The names that the imports of a module bind, in order. -/
def importLocals (m : Module) : List String :=
  m.items.flatMap fun
    | .import _ clauses => clauses.map (·.bound)
    | _ => []

end Module

/-- What is to be read instead of the local name of a clause, given the variable that holds the
required module: a property of the module, or all of it. -/
def ImportClause.prescribed (record : String) : ImportClause → Expr
  | .default _ =>
    .index false (.identifier .generated record) (.stringLiteral ⟨"default", none⟩)
  | .named imported _ =>
    .index false (.identifier .generated record) (.stringLiteral ⟨imported, none⟩)
  | .namespace _ => .identifier .generated record

theorem ImportClause.value_eq_prescribed (clause : ImportClause) (record : String) :
    clause.value record = clause.prescribed record := by
  cases clause <;> rfl

/-- An import of the module binds the name, and `e` is what its clause prescribes for reading
it. The variable of the import is numbered by the items before it that take one. -/
def Module.Imports (m : Module) (name : String) (e : Expr) : Prop :=
  ∃ before source clauses after, m.items = before ++ .import source clauses :: after ∧
    ∃ clause ∈ clauses, clause.bound = name ∧
      clause.prescribed (recordName (before.countP (·.takesRecord))) = e

namespace ModuleItem

/-- Each clause of an import binds a name of its own. -/
theorem bindings_import (source record : String) (clauses : List ImportClause) :
    ((ModuleItem.import source clauses).contribution record).bindings =
      clauses.map fun clause => (clause.bound, clause.prescribed record) := by
  simp only [← ImportClause.value_eq_prescribed]
  cases clauses <;> rfl

/-- Only imports bind names. -/
theorem mem_bindings {item : ModuleItem} {record name : String} {e : Expr} :
    (name, e) ∈ (item.contribution record).bindings ↔
      ∃ source clauses, item = .import source clauses ∧
        ∃ clause ∈ clauses, clause.bound = name ∧ clause.prescribed record = e := by
  cases item with
  | «import» source clauses => simp [bindings_import]
  | exportNames source clauses => cases source <;> simp [contribution]
  | _ => simp [contribution]

theorem map_fst_bindings (item : ModuleItem) (record : String) :
    (item.contribution record).bindings.map (·.1) =
      match item with
      | .import _ clauses => clauses.map (·.bound)
      | _ => [] := by
  cases item with
  | «import» source clauses =>
    rw [bindings_import, List.map_map]
    rfl
  | exportNames source clauses => cases source <;> rfl
  | _ => rfl

end ModuleItem

theorem map_fst_bindings (next : Nat) (items : List ModuleItem) :
    ((contributions next items).flatMap (·.bindings)).map (·.1) =
      Module.importLocals ⟨none, items⟩ := by
  induction items generalizing next with
  | nil => rfl
  | cons item rest ih =>
    rw [contributions_cons, List.flatMap_cons, List.map_append, item.map_fst_bindings, ih]
    rfl

namespace Module

theorem mem_bindings {m : Module} {name : String} {e : Expr} :
    (name, e) ∈ m.contributions.flatMap (·.bindings) ↔ m.Imports name e := by
  rw [List.mem_flatMap]
  constructor
  · rintro ⟨c, hc, hmem⟩
    obtain ⟨before, item, after, hitems, rfl⟩ := mem_contributions.mp hc
    obtain ⟨source, clauses, rfl, clause, hclause, hbound, hvalue⟩ :=
      ModuleItem.mem_bindings.mp hmem
    rw [Nat.zero_add] at hvalue
    exact ⟨before, source, clauses, after, hitems, clause, hclause, hbound, hvalue⟩
  · rintro ⟨before, source, clauses, after, hitems, clause, hclause, hbound, hvalue⟩
    refine ⟨_, mem_contributions.mpr ⟨before, _, after, hitems, rfl⟩, ?_⟩
    rw [Nat.zero_add]
    exact ModuleItem.mem_bindings.mpr ⟨source, clauses, rfl, clause, hclause, hbound, hvalue⟩

theorem Imports.mem_importLocals {m : Module} {name : String} {e : Expr} (h : m.Imports name e) :
    name ∈ m.importLocals := by
  have hkey : name ∈ (m.contributions.flatMap (·.bindings)).map (·.1) :=
    List.mem_map_of_mem (mem_bindings.mpr h)
  rw [contributions, map_fst_bindings] at hkey
  exact hkey

/-- Where no name is imported twice, a name stands for what its import prescribes. -/
theorem find?_links {m : Module} (hlocals : m.importLocals.Nodup) {name : String} {e : Expr} :
    m.links.find? name = some e ↔ m.Imports name e := by
  have hkeys : (m.links.bindings.map (·.1)).Nodup := by
    rw [links, List.map_reverse, contributions, map_fst_bindings, List.nodup_reverse]
    exact hlocals
  constructor
  · intro hfind
    obtain ⟨before, after, hsplit, -⟩ := List.lookup_eq_some_iff.mp hfind
    have hmem : (name, e) ∈ m.links.bindings := by
      rw [hsplit]
      exact List.mem_append_right _ List.mem_cons_self
    exact mem_bindings.mp (List.mem_reverse.mp hmem)
  · intro himports
    have hmem : (name, e) ∈ m.links.bindings := List.mem_reverse.mpr (mem_bindings.mpr himports)
    exact lookup_eq_of_mem hkeys hmem

/-- The variable of an import is declared, and holds the required module. -/
theorem mem_requires_of_import {m : Module} {before after : List ModuleItem} {source : String}
    {clauses : List ImportClause} (hitems : m.items = before ++ .import source clauses :: after)
    (hclauses : clauses ≠ []) :
    Build.var (recordName (before.countP (·.takesRecord)))
      (requireThrough (interopOf clauses) source) ∈ m.requires := by
  refine List.mem_flatMap.mpr ⟨_, mem_contributions.mpr ⟨before, _, after, hitems, rfl⟩, ?_⟩
  cases clauses with
  | nil => exact absurd rfl hclauses
  | cons clause rest => simp [ModuleItem.contribution]

end Module

end ModuleBundler
