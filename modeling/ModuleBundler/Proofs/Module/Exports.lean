import ModuleBundler.Proofs.Module.Hygiene
import ModuleBundler.Proofs.Module.Interop
import ModuleBundler.Proofs.Script.Bindings

/-!
The exports of a module against the getters that lowering makes for them. What a module exports is
said item by item, as a name and a place: a variable of the module or an import, the variable for a
default export without a name, a property of another module, or another module as a whole. A
getter reads its place each time it is asked. What it returns is a name or a look-up, and the name
is that of a variable which the module's function declares where it is meant to, so no value is
ever copied.

The argument goes from items to statements. The getters of an item are those of its exports before
references are replaced (`Module.forall₂_gives`); replacing turns an exported import into its
look-up and leaves all other names (`Module.readsAt_of_gives`); and no statement but these defines
a property by a getter that lowering has made (`Module.exists_export_of_definesAt`).
-/

set_option autoImplicit false

namespace ModuleBundler

open Script

/-! ## Exports -/

/-- Where the value of an export is. -/
inductive ExportPlace where
  /-- A name of the module: a variable, or the local name of an import. -/
  | named (name : String)
  /-- The variable for a default export without a name. -/
  | unnamed
  /-- A property of the module that a source leads to. -/
  | property (source original : String)
  /-- The module that a source leads to. -/
  | whole (source : String)
deriving DecidableEq, Repr

/-- A name that a module exports. -/
structure Export where
  name : String
  place : ExportPlace
deriving DecidableEq, Repr

/-- An export under the name of the variable. -/
def Export.ofVariable (name : String) : Export := ⟨name, .named name⟩

/-- What a clause exports, from a source or without one. A namespace has a source. -/
def ExportClause.toExport : Option String → ExportClause → Export
  | none, .named name exported => ⟨exported, .named name⟩
  | none, .namespace exported => .ofVariable exported
  | some source, .named name exported => ⟨exported, .property source name⟩
  | some source, .namespace exported => ⟨exported, .whole source⟩

/-- What a default export exports that may have a name. -/
def Export.default (name : Option String) : Export :=
  ⟨"default", match name with
    | some name => .named name
    | none => .unnamed⟩

/-- What an item exports under names of its own, in the order of the text. Exporting all names of
a source names none. -/
def ModuleItem.exports : ModuleItem → List Export
  | .exportDeclaration (.variableDeclaration _ declarators) =>
    declarators.boundNames.map .ofVariable
  | .exportDeclaration (.functionDeclaration name _) => [.ofVariable name]
  | .exportDeclaration (.classDeclaration name _ _) => [.ofVariable name]
  | .exportDeclaration _ => []
  | .exportNames source clauses => clauses.map (·.toExport source)
  | .exportDefaultFunction name _ => [.default name]
  | .exportDefaultClass name _ _ => [.default name]
  | .exportDefault _ => [.default none]
  | .statement _ | .import _ _ | .exportAll _ => []

namespace Module

/-- What a module exports under names of its own. -/
def exports (m : Module) : List Export := m.items.flatMap (·.exports)

/-! ## Reserved names -/

/-- The beginning of all names that lowering makes. -/
def IsReserved (name : String) : Prop := "__pumice_".toList <+: name.toList

instance (name : String) : Decidable (IsReserved name) :=
  inferInstanceAs (Decidable (_ <+: _))

/-- The names that a module has at its top level: those that it declares, imports, or exports
without a source. -/
def chosenNames (m : Module) : List String :=
  m.userNames ++ m.importLocals ++ m.exports.filterMap fun x =>
    match x.place with
    | .named name => some name
    | _ => none

theorem isReserved_recordName (n : Nat) : IsReserved (recordName n) := by
  have hprefix : "__pumice_".toList <+: "__pumice_import_".toList := by decide
  rw [IsReserved, toList_recordName]
  exact hprefix.trans (List.prefix_append _ _)

theorem isReserved_defaultName : IsReserved defaultName := by
  unfold IsReserved
  decide

/-- What lowering adds declares reserved names only. -/
theorem isReserved_of_mem_topNames {m : Module} {s : Statement} (hs : s ∈ m.generatedStatements)
    {name : String} (hname : name ∈ s.topNames) : IsReserved name := by
  rw [generatedStatements, List.mem_append, List.mem_append] at hs
  rcases hs with (hprologue | hgetter) | hrequire
  · rcases List.mem_append.1 hprologue with hfixed | hhelper
    · rcases List.mem_pair.1 hfixed with rfl | rfl
      · exact absurd hname List.not_mem_nil
      · exact absurd hname List.not_mem_nil
    · obtain ⟨h, -, rfl⟩ := List.mem_map.1 hhelper
      rw [topNames_declaration, List.mem_singleton] at hname
      subst hname
      unfold IsReserved
      cases h <;> decide
  · obtain ⟨g, -, rfl⟩ := List.mem_map.1 hgetter
    exact absurd hname List.not_mem_nil
  · rcases exists_of_mem_requires hrequire with ⟨e, rfl⟩ | ⟨n, e, rfl⟩
    · exact absurd hname List.not_mem_nil
    · rw [List.mem_singleton.1 hname]
      exact isReserved_recordName n

/-! ## What a getter reads -/

/-- Where the value that a getter returns stands in the statement that defines it. -/
def returnedPosition : List Nat := [0, 1, 1, 1, 0, 0, 0, 1, 0, 1, 0, 1, 0, 0, 0]

/-- A statement that defines an export by a getter, written out: a property of the exports object
that is enumerable, and computed by a function that returns the value and does nothing else. -/
def getterStatement (name : String) (value : Expr) : Statement :=
  .expressionStatement (.call false
    (.member false false (.identifier .generated "Object") "defineProperty")
    (.ofList [.plainElement (.identifier .generated "exports"),
      .plainElement (.stringLiteral ⟨name, none⟩),
      .plainElement (.object (.ofList [.keyValue (.nameKey "enumerable") (.boolLiteral true),
        .keyValue (.nameKey "get") (.functionValue none
          (.function false false .nil (.ofList [.returnStatement (.present value)])))]))]))

/-- It is the statement that lowering makes. -/
theorem defineExport_getterOf (name : String) (value : Expr) :
    defineExport name (getterOf value) = getterStatement name value := rfl

/-- The statement at a place of the lowered module defines an export by a getter that returns a
value. -/
def DefinesAt (m : Module) (k : Nat) (name : String) (value : Expr) : Prop :=
  m.lower.body[k]? = some (getterStatement name value)

/-- The value stands where the getter at a place of the lowered module returns it. -/
def ReturnsAt (m : Module) (k : Nat) (value : Expr) : Prop :=
  (factoryOf m.lower.body).at? (statementPosition k ++ returnedPosition) = some ⟨_, value⟩

/-- In what a getter returns a name refers to what these statements declare for the whole lowered
module. The function of the getter hides nothing but its `arguments`, which no module may
declare. -/
structure RefersTo (m : Module) (k : Nat) (name : String) (declarations : List Statement) :
    Prop where
  scope : name ≠ "arguments" →
    (factoryOf m.lower.body).scopeOf? name (statementPosition k ++ returnedPosition) =
      if DeclaredByFactory m.lower.body name then some [0] else none
  declarers : m.declarers name = declarations

/-- The value that the getter at a place of the lowered module returns is that of an export, and
is read where the export has it. -/
inductive ReadsAt (m : Module) (k : Nat) : ExportPlace → Expr → Prop
  /-- A name that is not imported is read as it is, and means what the module declares. -/
  | own {name : String} {origin : Origin} (hname : name ∉ m.importLocals)
    (hrefers : m.RefersTo k name ((m.statements.filter (name ∈ ·.topNames)).map m.lowered)) :
    ReadsAt m k (.named name) (.identifier origin name)
  /-- An import is looked up in the variable for its module. -/
  | imported {name source : String} {before after : List ModuleItem}
    {clauses : List ImportClause} {clause : ImportClause} {n : Nat}
    (hitems : m.items = before ++ .import source clauses :: after) (hclause : clause ∈ clauses)
    (hbound : clause.bound = name)
    (hrefers : m.RefersTo k (recordName n)
      [Build.var (recordName n) (requireThrough (interopOf clauses) source)]) :
    ReadsAt m k (.named name) (clause.prescribed (recordName n))
  /-- The one default export without a name is read from the variable for it. -/
  | unnamed {s : Statement} (hstatement : m.defaultStatements = [s])
    (hrefers : m.RefersTo k defaultName [m.lowered s]) :
    ReadsAt m k .unnamed (.identifier .generated defaultName)
  /-- A property of a source is looked up in the variable for its module. -/
  | property {source original : String} {n : Nat}
    (hrefers : m.RefersTo k (recordName n) [Build.var (recordName n) (requireCall source)]) :
    ReadsAt m k (.property source original)
      (.index false (.identifier .generated (recordName n)) (.stringLiteral ⟨original, none⟩))
  /-- A source as a whole is the variable for its module. -/
  | whole {source : String} {n : Nat}
    (hrefers : m.RefersTo k (recordName n) [Build.var (recordName n) (requireCall source)]) :
    ReadsAt m k (.whole source) (.identifier .generated (recordName n))

/-- **What live and complete exports are.** -/
structure HasLiveExports (m : Module) : Prop where
  /-- The exports of a variable declaration are the names that it binds, in order. -/
  bound : ∀ kind declarators, .exportDeclaration (.variableDeclaration kind declarators) ∈ m.items →
    ∃ names, Tree.BindsInOrder ⟨_, declarators⟩ names ∧
      (ModuleItem.exportDeclaration (.variableDeclaration kind declarators)).exports =
        names.map .ofVariable
  /-- Behind the prologue the lowered module has a getter for each export, in order, which reads
  the export where it is. -/
  getters : ∀ i x, m.exports[i]? = some x →
    ∃ value, m.DefinesAt (m.prologue.length + i) x.name value ∧
      m.ReturnsAt (m.prologue.length + i) value ∧
        m.ReadsAt (m.prologue.length + i) x.place value
  /-- No statement but these defines an export by such a getter. -/
  complete : ∀ k name value, m.DefinesAt k name value →
    ∃ i x, m.exports[i]? = some x ∧ x.name = name ∧ k = m.prologue.length + i
  /-- Every export has one getter. -/
  once : ∀ x ∈ m.exports, ∃! k, ∃ value, m.DefinesAt k x.name value

/-! ## Getters before references are replaced -/

/-- An item exports the value, read as it is before references are replaced. -/
inductive Gives (m : Module) : Export → String × Expr → Prop
  | named {exported name : String} {origin : Origin} :
    Gives m ⟨exported, .named name⟩ (exported, .identifier origin name)
  | unnamed {exported : String} (hstatements : m.defaultStatements ≠ []) :
    Gives m ⟨exported, .unnamed⟩ (exported, .identifier .generated defaultName)
  | property {exported source original : String} {before after : List ModuleItem}
    {clauses : List ExportClause}
    (hitems : m.items = before ++ .exportNames (some source) clauses :: after) :
    Gives m ⟨exported, .property source original⟩
      (exported, lookup (recordName (before.countP (·.takesRecord))) original)
  | whole {exported source : String} {before after : List ModuleItem}
    {clauses : List ExportClause}
    (hitems : m.items = before ++ .exportNames (some source) clauses :: after) :
    Gives m ⟨exported, .whole source⟩
      (exported, .identifier .generated (recordName (before.countP (·.takesRecord))))

section Gives

variable {m : Module}

/-- A getter has the name of its export. -/
theorem Gives.name_eq {x : Export} {g : String × Expr} (h : m.Gives x g) : x.name = g.1 := by
  cases h with
  | named => rfl
  | unnamed _ => rfl
  | property _ => rfl
  | whole _ => rfl

/-- A default export has a name, or lowering declares a variable for it. -/
theorem gives_default {name : Option String}
    (hname : name = none → m.defaultStatements ≠ []) :
    m.Gives (.default name) ("default", Build.name (name.getD defaultName)) := by
  cases name with
  | none => exact .unnamed (hname rfl)
  | some name => exact .named

/-- The getters of an item are those of its exports. -/
theorem forall₂_gives_item {before after : List ModuleItem} {item : ModuleItem}
    (hitems : m.items = before ++ item :: after) :
    List.Forall₂ m.Gives item.exports
      (item.contribution (recordName (before.countP (·.takesRecord)))).getters := by
  have hitem : item ∈ m.items := hitems ▸ List.mem_append_right _ List.mem_cons_self
  have hdefault : ∀ s, s ∈ m.defaultStatements → m.defaultStatements ≠ [] :=
    fun s hs => List.ne_nil_of_mem hs
  cases item with
  | exportDeclaration s =>
    cases s with
    | variableDeclaration kind declarators =>
      rw [ModuleItem.exports, ModuleItem.contribution, ModuleItem.declaredNames,
        List.forall₂_map_left_iff, List.forall₂_map_right_iff, List.forall₂_same]
      exact fun name _ => .named
    | functionDeclaration name f => exact .cons .named .nil
    | classDeclaration name heritage members => exact .cons .named .nil
    | _ => exact .nil
  | exportNames source clauses =>
    cases source with
    | none =>
      rw [ModuleItem.exports, ModuleItem.contribution, List.forall₂_map_left_iff,
        List.forall₂_map_right_iff, List.forall₂_same]
      intro clause _
      cases clause with
      | named name exported => exact .named
      | «namespace» exported => exact .named
    | some source =>
      rw [ModuleItem.exports, ModuleItem.contribution, List.forall₂_map_left_iff,
        List.forall₂_map_right_iff, List.forall₂_same]
      intro clause _
      cases clause with
      | named name exported => exact .property hitems
      | «namespace» exported => exact .whole hitems
  | exportDefaultFunction name f =>
    refine .cons (gives_default fun hname => ?_) .nil
    subst hname
    exact hdefault _ (List.mem_flatMap.2 ⟨_, hitem, List.mem_cons_self⟩)
  | exportDefaultClass name heritage members =>
    refine .cons (gives_default fun hname => ?_) .nil
    subst hname
    exact hdefault _ (List.mem_flatMap.2 ⟨_, hitem, List.mem_cons_self⟩)
  | exportDefault value =>
    exact .cons (.unnamed (hdefault _ (List.mem_flatMap.2 ⟨_, hitem, List.mem_cons_self⟩))) .nil
  | «import» source clauses =>
    cases clauses with
    | nil => exact .nil
    | cons clause rest => exact .nil
  | statement s => exact .nil
  | exportAll source => exact .nil

/-- The getters of a module are those of its exports, in order. -/
theorem forall₂_gives (m : Module) : List.Forall₂ m.Gives m.exports m.getters := by
  -- the number of a record counts what stands before, so the induction is on what follows
  have hrest : ∀ before rest, m.items = before ++ rest →
      List.Forall₂ m.Gives (rest.flatMap (·.exports))
        ((ModuleBundler.contributions (before.countP (·.takesRecord)) rest).flatMap
          (·.getters)) := by
    intro before rest
    induction rest generalizing before with
    | nil => exact fun _ => .nil
    | cons item rest ih =>
      intro hitems
      have hcount : (before ++ [item]).countP (·.takesRecord) =
          if item.takesRecord then before.countP (·.takesRecord) + 1
          else before.countP (·.takesRecord) := by
        rw [List.countP_append, List.countP_singleton]
        split
        · rfl
        · rfl
      have hlater := ih (before ++ [item]) (by rw [hitems, List.append_assoc]; rfl)
      rw [hcount] at hlater
      rw [contributions_cons, List.flatMap_cons, List.flatMap_cons]
      exact List.rel_append (forall₂_gives_item hitems) hlater
  exact hrest [] m.items rfl

end Gives

/-! ## What getters read -/

section Reads

variable {m : Module}

theorem at?_getterStatement (exported : String) (value : Expr) :
    Tree.at? ⟨_, getterStatement exported value⟩ returnedPosition = some ⟨_, value⟩ := rfl

/-- What a getter returns is its value. -/
theorem returnsAt_of_definesAt {k : Nat} {exported : String} {value : Expr}
    (hk : m.DefinesAt k exported value) : m.ReturnsAt k value :=
  (at?_factoryOf hk returnedPosition).trans (at?_getterStatement exported value)

/-- The function of a getter hides nothing but its arguments. -/
theorem scopeOf?_getterStatement (exported : String) (value : Expr) {name : String}
    (hname : name ≠ "arguments") :
    Tree.scopeOf? name ⟨_, getterStatement exported value⟩ returnedPosition = none := by
  have hdeclared : Tree.declaredAt ⟨_, getterStatement exported value⟩ returnedPosition =
      ["arguments"] := rfl
  rw [Tree.scopeOf?_eq_none_iff (at?_getterStatement exported value), hdeclared,
    List.mem_singleton]
  exact hname

/-- What the getter at a place returns may name whatever the factory declares. -/
theorem refersTo_of_declarers {k : Nat} {name exported : String} {value : Expr}
    {declarations : List Statement} (hk : m.DefinesAt k exported value)
    (h : m.declarers name = declarations) : m.RefersTo k name declarations := by
  refine ⟨fun hname => ?_, h⟩
  have hscope := scopeOf?_factoryOf hk name returnedPosition
  rw [scopeOf?_getterStatement exported value hname, Option.map_none, Option.none_or] at hscope
  exact hscope

/-- A module that exports something is no script. -/
theorem exports_of_isScript (hm : m.isScript = true) : m.exports = [] := by
  rw [isScript, List.all_eq_true] at hm
  rw [exports, List.flatMap_eq_nil_iff]
  intro item hitem
  have hstatement := hm item hitem
  cases item with
  | statement s => rfl
  | _ => simp [ModuleItem.statement?] at hstatement

variable (hm : m.isScript = false)

include hm

/-- A name that is not reserved is declared by statements of the module only. -/
theorem declarers_of_not_isReserved {name : String} (hname : ¬ IsReserved name) :
    m.declarers name = (m.statements.filter (name ∈ ·.topNames)).map m.lowered := by
  have hgenerated : m.generatedStatements.filter (name ∈ ·.topNames) = [] := by
    refine List.filter_eq_nil_iff.2 (fun s hs hmem => ?_)
    exact hname (isReserved_of_mem_topNames hs (of_decide_eq_true hmem))
  rw [declarers, lower_body_eq hm, List.filter_append, hgenerated, List.nil_append,
    ← map_lowered_of_not_isScript hm, List.filter_map]
  congr 1
  refine List.filter_congr (fun s _ => ?_)
  simp only [Function.comp_apply, lowered_of_not_isScript hm, topNames_relink]

/-- Where the module declares no reserved name, the variable for a required module is declared by
what loads it. -/
theorem declarers_recordName (huser : ∀ name ∈ m.userNames, ¬ IsReserved name)
    {n : Nat} {source : String} {helper : Option InteropHelper}
    (h : m.LoadsThrough n source helper) :
    m.declarers (recordName n) = [Build.var (recordName n) (requireThrough helper source)] := by
  have hnone : recordName n ∉ m.userNames := fun hmem => huser _ hmem (isReserved_recordName n)
  have hperm : (m.declarers (recordName n)).Perm (m.declarationsOf (.record n)) :=
    (declarers_perm_declarationsOf_iff (.record n) hm).2 hnone
  rw [declarationsOf, ← filter_generatedStatements, h.2] at hperm
  exact List.perm_singleton.1 hperm

/-- Where it declares no reserved name and has one default export without a name, the variable for
that is declared by the export. -/
theorem declarers_defaultName (huser : ∀ name ∈ m.userNames, ¬ IsReserved name) {s : Statement}
    (hs : m.defaultStatements = [s]) : m.declarers defaultName = [m.lowered s] := by
  have hnone : defaultName ∉ m.userNames := fun hmem => huser _ hmem isReserved_defaultName
  have hperm : (m.declarers defaultName).Perm (m.declarationsOf .defaultExport) :=
    (declarers_perm_declarationsOf_iff .defaultExport hm).2 hnone
  rw [declarationsOf, hs, List.map_singleton] at hperm
  exact List.perm_singleton.1 hperm

omit hm in
/-- Replacing references leaves a name that is not imported. -/
theorem relink_identifier_of_notMem {origin : Origin} {name : String}
    (hname : name ∉ m.importLocals) :
    (Node.identifier origin name).relink m.links = .identifier origin name := by
  change m.links.identifier origin name = .identifier origin name
  rw [Links.identifier]
  cases hresolve : m.links.resolve? name with
  | none => rfl
  | some e =>
    have himports := imports_of_find? (Links.find?_of_resolve? hresolve)
    exact absurd himports.mem_importLocals hname

omit hm in
/-- Replacing references turns a name that is imported into what its import prescribes. -/
theorem imports_relink_identifier {origin : Origin} {name : String}
    (hname : name ∈ m.importLocals) :
    m.Imports name ((Node.identifier origin name).relink m.links) := by
  obtain ⟨e, he⟩ := exists_find?_links hname
  have hresolve : m.links.resolve? name = some e := he
  change m.Imports name (m.links.identifier origin name)
  rw [Links.identifier, hresolve]
  exact imports_of_find? he

/-- What a getter returns when references have been replaced is read where the export is. -/
theorem readsAt_of_gives (hnames : ∀ name ∈ m.chosenNames, ¬ IsReserved name)
    (hone : m.defaultStatements.length ≤ 1) {x : Export} {g : String × Expr} (hx : x ∈ m.exports)
    (h : m.Gives x g) {k : Nat} (hk : m.DefinesAt k x.name (g.2.relink m.links)) :
    m.ReadsAt k x.place (g.2.relink m.links) := by
  have huser : ∀ name ∈ m.userNames, ¬ IsReserved name := fun name hname =>
    hnames name (List.mem_append_left _ (List.mem_append_left _ hname))
  have hlocal : ∀ name, IsReserved name → name ∉ m.importLocals := fun name hreserved hname =>
    hnames name (List.mem_append_left _ (List.mem_append_right _ hname)) hreserved
  cases h with
  | @named exported name origin =>
    by_cases hname : name ∈ m.importLocals
    · have himports : m.Imports name ((Node.identifier origin name).relink m.links) :=
        imports_relink_identifier hname
      obtain ⟨before, source, clauses, after, hitems, clause, hclause, hbound, hvalue⟩ := himports
      have hrecord : (ModuleItem.import source clauses).takesRecord = true := by
        simp [ModuleItem.takesRecord, List.ne_nil_of_mem hclause]
      obtain ⟨source', hsource, hloads⟩ := loadsThrough_of_takesRecord hitems hrecord
      obtain rfl := Option.some.inj hsource
      rw [← hvalue]
      exact .imported hitems hclause hbound
        (refersTo_of_declarers hk (declarers_recordName hm huser hloads))
    · have hchosen : name ∈ m.chosenNames := by
        refine List.mem_append_right _ (List.mem_filterMap.2 ⟨_, hx, rfl⟩)
      rw [relink_identifier_of_notMem hname] at hk ⊢
      exact .own hname
        (refersTo_of_declarers hk (declarers_of_not_isReserved hm (hnames name hchosen)))
  | unnamed hstatements =>
    obtain ⟨s, hs⟩ : ∃ s, m.defaultStatements = [s] := by
      refine List.length_eq_one_iff.1 ?_
      have hpos := List.length_pos_iff.2 hstatements
      omega
    rw [relink_identifier_of_notMem (hlocal _ isReserved_defaultName)] at hk ⊢
    exact .unnamed hs (refersTo_of_declarers hk (declarers_defaultName hm huser hs))
  | property hitems =>
    obtain ⟨source', hsource, hloads⟩ := loadsThrough_of_takesRecord hitems rfl
    obtain rfl := Option.some.inj hsource
    have hvalue : ∀ record original : String, record ∉ m.importLocals →
        (lookup record original).relink m.links =
          .index false (.identifier .generated record) (.stringLiteral ⟨original, none⟩) := by
      intro record original hrecord
      exact congrArg (Node.index false · _) (relink_identifier_of_notMem hrecord)
    rw [hvalue _ _ (hlocal _ (isReserved_recordName _))] at hk ⊢
    exact .property (refersTo_of_declarers hk (declarers_recordName hm huser hloads))
  | whole hitems =>
    obtain ⟨source', hsource, hloads⟩ := loadsThrough_of_takesRecord hitems rfl
    obtain rfl := Option.some.inj hsource
    rw [relink_identifier_of_notMem (hlocal _ (isReserved_recordName _))] at hk ⊢
    exact .whole (refersTo_of_declarers hk (declarers_recordName hm huser hloads))

end Reads

/-! ## Which statements define exports by getters -/

section Complete

variable {m : Module}

theorem defineExport_injective {name name' : String} {descriptor descriptor' : Expr}
    (h : defineExport name descriptor = defineExport name' descriptor') :
    name = name' ∧ descriptor = descriptor' := by
  simp only [defineExport, Build.run, Build.call, Build.str, StringLiteral.ofValue, List.map_cons,
    List.map_nil, Node.ofList, Node.expressionStatement.injEq, Node.call.injEq, Node.cons.injEq,
    Node.plainElement.injEq, Node.stringLiteral.injEq, StringLiteral.mk.injEq] at h
  exact ⟨h.2.2.2.1.1, h.2.2.2.2.1⟩

/-- A statement that defines an export has a generated name where it names `Object`. -/
theorem generatedAt?_defineExport (name : String) (descriptor : Expr) :
    Tree.generatedAt? ⟨_, defineExport name descriptor⟩ [0, 0, 0] = some "Object" := rfl

theorem ne_defineExport_of_generatedAt? {s : Statement}
    (h : Tree.generatedAt? ⟨_, s⟩ [0, 0, 0] = none) (name : String) (descriptor : Expr) :
    s ≠ defineExport name descriptor := by
  rintro rfl
  rw [generatedAt?_defineExport] at h
  simp at h

/-- What marks the exports object is no getter, and neither is anything else in the prologue. -/
theorem notMem_prologue (name : String) (value : Expr) :
    defineExport name (getterOf value) ∉ m.prologue := by
  intro hmem
  rcases List.mem_append.1 hmem with hfixed | hhelper
  · rcases List.mem_pair.1 hfixed with hstrict | hmarker
    · exact absurd hstrict.symm (ne_defineExport_of_generatedAt? rfl _ _)
    · have hdescriptor := (defineExport_injective hmarker).2
      simp [Build.object, getterOf, Node.ofList] at hdescriptor
  · obtain ⟨h, -, hdeclaration⟩ := List.mem_map.1 hhelper
    refine absurd hdeclaration (ne_defineExport_of_generatedAt? ?_ _ _)
    cases h with
    | default => rfl
    | wildcard => rfl
    | star => rfl

theorem notMem_requires (name : String) (descriptor : Expr) :
    defineExport name descriptor ∉ m.requires := by
  intro hmem
  obtain ⟨c, hc, hs⟩ := List.mem_flatMap.1 hmem
  obtain ⟨before, item, after, -, rfl⟩ := mem_contributions.1 hc
  rcases ModuleItem.require_cases hs with ⟨source, hs⟩ | ⟨helper, source, hs⟩ | ⟨source, hs⟩
  · exact absurd hs.symm (ne_defineExport_of_generatedAt? rfl _ _)
  · exact absurd hs.symm (ne_defineExport_of_generatedAt? rfl _ _)
  · exact absurd hs.symm (ne_defineExport_of_generatedAt? rfl _ _)

/-- What the module itself runs is no such statement either: it was written. -/
theorem notMem_lowered (hw : m.IsWritten) (name : String) (descriptor : Expr) :
    defineExport name descriptor ∉ m.statements.map m.lowered := by
  intro hmem
  obtain ⟨s, hs, hlowered⟩ := List.mem_map.1 hmem
  have hwritten := hw.statements s hs
  have hname := generatedAt?_defineExport name descriptor
  rw [← hlowered] at hname
  cases hm : m.isScript with
  | true =>
    rw [lowered_of_isScript hm, hwritten.generatedAt?] at hname
    simp at hname
  | false =>
    rw [lowered_of_not_isScript hm] at hname
    obtain ⟨⟨n, hrecord, -⟩, -⟩ := exists_of_generatedAt?_relink hwritten hname
    exact absurd hrecord.symm (recordName_ne (by decide) n)

/-- Where a getter of the module stands in the lowered module. -/
theorem getElem?_lower_body (hm : m.isScript = false) (i : Nat) (hi : i < m.getters.length) :
    m.lower.body[m.prologue.length + i]? =
      m.getters[i]?.map fun g => defineExport g.1 (getterOf (g.2.relink m.links)) := by
  rw [lower_body_eq hm, generatedStatements, List.append_assoc, List.append_assoc,
    List.getElem?_append_right (Nat.le_add_right _ _), Nat.add_sub_cancel_left,
    List.getElem?_append_left (by rwa [List.length_map]), List.getElem?_map]

/-- **No statement but the getters of exports defines a property by a getter of lowering.** -/
theorem exists_export_of_definesAt (hw : m.IsWritten) {k : Nat} {name : String} {value : Expr}
    (h : m.DefinesAt k name value) :
    ∃ i x, m.exports[i]? = some x ∧ x.name = name ∧ k = m.prologue.length + i := by
  have hmem := List.mem_of_getElem? h
  cases hm : m.isScript with
  | true =>
    rw [← defineExport_getterOf, lower_body_of_isScript hm] at hmem
    exact absurd hmem (notMem_lowered hw _ _)
  | false =>
    -- only what stands behind the prologue and before the calls of `require` is left
    have hk : m.prologue.length ≤ k ∧ k < m.prologue.length + m.getters.length := by
      rw [DefinesAt, ← defineExport_getterOf, lower_body_eq hm, generatedStatements,
        List.append_assoc, List.append_assoc, ← map_lowered_of_not_isScript hm] at h
      by_cases hprologue : k < m.prologue.length
      · rw [List.getElem?_append_left hprologue] at h
        exact absurd (List.mem_of_getElem? h) (notMem_prologue _ _)
      · refine ⟨by omega, ?_⟩
        by_cases hgetters : k < m.prologue.length + m.getters.length
        · exact hgetters
        · rw [List.getElem?_append_right (by omega), List.getElem?_append_right
            (by rw [List.length_map]; omega)] at h
          rcases List.mem_append.1 (List.mem_of_getElem? h) with hrequire | hown
          · exact absurd hrequire (notMem_requires _ _)
          · exact absurd hown (notMem_lowered hw _ _)
    obtain ⟨i, rfl⟩ := Nat.exists_eq_add_of_le hk.1
    have hi : i < m.getters.length := by omega
    obtain ⟨hlength, hgives⟩ := List.forall₂_iff_get.1 m.forall₂_gives
    have hi' : i < m.exports.length := by omega
    rw [DefinesAt, ← defineExport_getterOf, getElem?_lower_body hm i hi,
      List.getElem?_eq_getElem hi, Option.map_some, Option.some.injEq] at h
    refine ⟨i, m.exports[i], List.getElem?_eq_getElem hi', ?_, rfl⟩
    rw [← (defineExport_injective h).1]
    exact (hgives i hi' hi).name_eq

/-- Each default export without a name exports `default`. -/
theorem length_defaultStatements_le (m : Module) :
    m.defaultStatements.length ≤ (m.exports.map (·.name)).count "default" := by
  obtain ⟨interpreter, items⟩ := m
  rw [defaultStatements, exports]
  induction items with
  | nil => exact Nat.le_refl 0
  | cons item rest ih =>
    rw [List.flatMap_cons, List.flatMap_cons, List.length_append, List.map_append,
      List.count_append]
    refine Nat.add_le_add ?_ ih
    cases item with
    | exportDefaultFunction name f =>
      cases name with
      | none => exact Nat.le_refl 1
      | some name => exact Nat.zero_le _
    | exportDefaultClass name heritage members =>
      cases name with
      | none => exact Nat.le_refl 1
      | some name => exact Nat.zero_le _
    | exportDefault value => exact Nat.le_refl 1
    | _ => exact Nat.zero_le _

end Complete

/-! ## Live exports -/

/-- **Exports are complete and live.** Let the names that a module exports be different from each
other, and none of the names at its top level be reserved. Then behind its prologue the lowered
module has one getter for each of them, in the order of the text: for each name that an exported
declaration binds, for each default export, and for each name in braces. The getter reads the
variable of the module, the import, the property of the source or the source itself. -/
theorem hasLiveExports {m : Module} (hw : m.IsWritten) (hnodup : (m.exports.map (·.name)).Nodup)
    (hnames : ∀ name ∈ m.chosenNames, ¬ IsReserved name) : m.HasLiveExports := by
  have hone : m.defaultStatements.length ≤ 1 :=
    Nat.le_trans m.length_defaultStatements_le (List.nodup_iff_count_le_one.1 hnodup "default")
  have hgetters : ∀ i x, m.exports[i]? = some x →
      ∃ value, m.DefinesAt (m.prologue.length + i) x.name value ∧
        m.ReturnsAt (m.prologue.length + i) value ∧
          m.ReadsAt (m.prologue.length + i) x.place value := by
    intro i x hx
    have hmem := List.mem_of_getElem? hx
    have hm : m.isScript = false := by
      rw [Bool.eq_false_iff]
      intro hscript
      rw [exports_of_isScript hscript] at hmem
      simp at hmem
    obtain ⟨hlength, hgives⟩ := List.forall₂_iff_get.1 m.forall₂_gives
    obtain ⟨hi', rfl⟩ := List.getElem?_eq_some_iff.1 hx
    have hi : i < m.getters.length := by omega
    have hpair := hgives i hi' hi
    rw [List.get_eq_getElem, List.get_eq_getElem] at hpair
    have hdefines : m.DefinesAt (m.prologue.length + i) m.getters[i].1
        (m.getters[i].2.relink m.links) := by
      rw [DefinesAt, ← defineExport_getterOf, getElem?_lower_body hm i hi,
        List.getElem?_eq_getElem hi]
      rfl
    generalize m.exports[i] = x at hmem hpair ⊢
    generalize m.getters[i] = g at hpair hdefines
    rw [← hpair.name_eq] at hdefines
    exact ⟨_, hdefines, returnsAt_of_definesAt hdefines,
      readsAt_of_gives hm hnames hone hmem hpair hdefines⟩
  refine ⟨?_, hgetters, fun k name value h => exists_export_of_definesAt hw h, ?_⟩
  · intro kind declarators _
    exact ⟨declarators.boundNames, Tree.bindsInOrder_boundNames ⟨_, declarators⟩ rfl, rfl⟩
  · intro x hx
    obtain ⟨i, hi, rfl⟩ := List.mem_iff_getElem.1 hx
    obtain ⟨value, hdefines, -⟩ := hgetters i m.exports[i] (List.getElem?_eq_getElem hi)
    refine ⟨m.prologue.length + i, ⟨value, hdefines⟩, ?_⟩
    -- another getter of the name would be that of another export of the name
    rintro k ⟨value', hdefines'⟩
    obtain ⟨i', x', hx', hname, rfl⟩ := exists_export_of_definesAt hw hdefines'
    obtain ⟨hi', rfl⟩ := List.getElem?_eq_some_iff.1 hx'
    have hsame : m.exports[i'] = m.exports[i] :=
      List.inj_on_of_nodup_map hnodup (List.getElem_mem hi') (List.getElem_mem hi) hname
    rw [hnodup.of_map.getElem_inj_iff.1 hsame]

/-- A module that exports from each kind of place: names of a pattern with a hole, a default and a
rest, a default export without a name, an import, a property of a source, and a source. -/
def exportingSource : String :=
  "import \x7bi\x7d from './i';\nexport var \x7ba, b: [, c = 1, ...d]\x7d = 2;\n" ++
  "export default 3;\nexport \x7bi as j\x7d;\nexport \x7bx as y\x7d from './y';\n" ++
  "export * as z from './z';"

theorem hasLiveExports_exportingSource :
    ∃ m, Module.ofText exportingSource.toList = .ok m ∧
      m.exports = [.ofVariable "a", .ofVariable "c", .ofVariable "d", .default none,
        ⟨"j", .named "i"⟩, ⟨"y", .property "./y" "x"⟩, ⟨"z", .whole "./z"⟩] ∧
      m.HasLiveExports := by
  have hcheck : (Module.ofText exportingSource.toList).toOption.any (fun m =>
      decide (m.exports = [.ofVariable "a", .ofVariable "c", .ofVariable "d", .default none,
        ⟨"j", .named "i"⟩, ⟨"y", .property "./y" "x"⟩, ⟨"z", .whole "./z"⟩]) &&
      decide (∀ name ∈ m.chosenNames, ¬ IsReserved name)) = true := by
    decide +kernel
  obtain ⟨m, hm, hpassed⟩ := exists_ok_of_any hcheck
  simp only [Bool.and_eq_true, decide_eq_true_eq] at hpassed
  obtain ⟨hexports, hnames⟩ := hpassed
  have hnodup : (m.exports.map (·.name)).Nodup := by
    rw [hexports]
    decide
  exact ⟨m, hm, hexports, hasLiveExports (isWritten_of_ofText hm) hnodup hnames⟩

end Module

end ModuleBundler
