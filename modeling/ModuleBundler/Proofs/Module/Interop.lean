import ModuleBundler.Asset
import ModuleBundler.Proofs.Module.Introduced

/-!
Through which helper a required module is held, compared with what is read of it. A module that
declares no exports has neither a `default` export nor a namespace, and the helpers make them up:
one gives it `default`, and nothing but that, the other a namespace with all of its keys. So the
helper that fits is told by what is read. Lowering takes it from how the import is spelled: a
default or namespace clause asks for one, and a clause that names `default` in braces does not;
nor does anything that is exported from a source. Where it fits is settled here for all modules
(`choosesInterop_iff`).
-/

set_option autoImplicit false

namespace ModuleBundler

open Script

/-! ## What is read -/

/-- What is read of a required module. -/
inductive ReadExport where
  | property (name : String)
  | namespace
deriving DecidableEq, Repr

def ImportClause.read : ImportClause → ReadExport
  | .default _ => .property "default"
  | .named imported _ => .property imported
  | .namespace _ => .namespace

/-- What an export clause with a source reads. -/
def ExportClause.read : ExportClause → ReadExport
  | .named name _ => .property name
  | .namespace _ => .namespace

namespace ModuleItem

/-- What the clauses of an item read of the module that its source leads to. -/
def reads : ModuleItem → List ReadExport
  | .import _ clauses => clauses.map (·.read)
  | .exportNames (some _) clauses => clauses.map (·.read)
  | _ => []

/-- The helper through which the module is held that an item keeps in a variable. -/
def recordHelper : ModuleItem → Option InteropHelper
  | .import _ clauses => interopOf clauses
  | _ => none

end ModuleItem

/-- A helper, or none, fits what is read through it. -/
structure InteropFits (reads : List ReadExport) (helper : Option InteropHelper) : Prop where
  /-- A module that declares no exports is given what it has not. -/
  interop : .property "default" ∈ reads ∨ .namespace ∈ reads →
    helper = some .default ∨ helper = some .wildcard
  /-- It is given its other keys where they are read as well. -/
  wildcard : .namespace ∈ reads ∨
      (.property "default" ∈ reads ∧ ∃ name, .property name ∈ reads ∧ name ≠ "default") →
    helper = some .wildcard
  /-- What gives a module nothing but `default` serves to read that alone. -/
  default : helper = some .default → ∀ name, .property name ∈ reads → name = "default"

/-! ## Variables for required modules -/

namespace ModuleItem

variable {item : ModuleItem} {record : String} {s : Statement}

/-- The statements that load a module declare its variable if there is one, and nothing else. -/
theorem topNames_of_mem_requires (hs : s ∈ (item.contribution record).requires) :
    s.topNames = if item.takesRecord then [record] else [] := by
  cases item with
  | «import» source clauses =>
    cases clauses with
    | nil =>
      rw [List.mem_singleton.1 hs]
      rfl
    | cons clause rest =>
      rw [List.mem_singleton.1 hs]
      rfl
  | exportNames source clauses =>
    cases source with
    | none => simp [contribution] at hs
    | some source =>
      rw [List.mem_singleton.1 hs]
      rfl
  | exportAll source =>
    rw [List.mem_singleton.1 hs]
    rfl
  | _ => simp [contribution] at hs

/-- An item that keeps a module in a variable loads it through the helper. -/
theorem requires_of_takesRecord (hitem : item.takesRecord = true) (record : String) :
    ∃ source, item.specifier? = some source ∧
      (item.contribution record).requires =
        [Build.var record (requireThrough item.recordHelper source)] := by
  cases item with
  | «import» source clauses =>
    cases clauses with
    | nil => simp [takesRecord] at hitem
    | cons clause rest => exact ⟨source, rfl, rfl⟩
  | exportNames source clauses =>
    cases source with
    | none => simp [takesRecord] at hitem
    | some source => exact ⟨source, rfl, rfl⟩
  | _ => simp [takesRecord] at hitem

/-- An item that loads a module is no statement. -/
theorem statement?_of_takesRecord (hitem : item.takesRecord = true) : item.statement? = none := by
  cases item with
  | statement s => simp [takesRecord] at hitem
  | _ => rfl

end ModuleItem

/-- Items declare the variables whose numbers are theirs. -/
theorem filter_requires_contributions {n next : Nat} {items : List ModuleItem}
    (hn : n < next ∨ next + items.countP (·.takesRecord) ≤ n) :
    ((contributions next items).flatMap (·.requires)).filter (recordName n ∈ ·.topNames) = [] := by
  induction items generalizing next with
  | nil => rfl
  | cons item rest ih =>
    rw [List.countP_cons] at hn
    rw [contributions_cons, List.flatMap_cons, List.filter_append, List.append_eq_nil_iff]
    constructor
    · rw [List.filter_eq_nil_iff]
      intro s hs hmem
      have hname := of_decide_eq_true hmem
      rw [ModuleItem.topNames_of_mem_requires hs] at hname
      by_cases hitem : item.takesRecord
      · rw [if_pos hitem, List.mem_singleton] at hname
        have hsame := recordName_injective hname
        rw [if_pos hitem] at hn
        omega
      · rw [if_neg hitem] at hname
        simp at hname
    · apply ih
      by_cases hitem : item.takesRecord
      · rw [if_pos hitem] at hn ⊢
        omega
      · rw [if_neg hitem] at hn ⊢
        omega

namespace Module

variable {m : Module}

/-- The variable for the required module of a number is declared once by what lowering puts before
the statements of the module, and holds what a source gives through a helper or directly. -/
def LoadsThrough (m : Module) (n : Nat) (source : String) (helper : Option InteropHelper) : Prop :=
  m.lower.body = m.generatedStatements ++ m.statements.map m.lowered ∧
    m.generatedStatements.filter (recordName n ∈ ·.topNames) =
      [Build.var (recordName n) (requireThrough helper source)]

/-- What declares a variable for a required module loads it. -/
theorem filter_generatedStatements (n : Nat) :
    m.generatedStatements.filter (recordName n ∈ ·.topNames) =
      m.requires.filter (recordName n ∈ ·.topNames) := by
  have hprologue := filter_prologue (m := m) (.record n)
  have hgetters := filter_getters (.record n) m.links m.getters
  have hnone : m.helpers.filter (IntroducedName.record n = .helper ·) = [] :=
    List.filter_eq_nil_iff.2 (fun h _ => by simp)
  rw [hnone, List.map_nil] at hprologue
  rw [generatedStatements, List.filter_append, List.filter_append]
  exact (congrArg₂ (· ++ · ++ _) hprologue hgetters).trans (List.nil_append _)

/-- Every item that keeps a module in a variable loads it through its helper. -/
theorem loadsThrough_of_takesRecord {before after : List ModuleItem} {item : ModuleItem}
    (hitems : m.items = before ++ item :: after) (hitem : item.takesRecord = true) :
    ∃ source, item.specifier? = some source ∧
      m.LoadsThrough (before.countP (·.takesRecord)) source item.recordHelper := by
  obtain ⟨source, hsource, hrequires⟩ :=
    ModuleItem.requires_of_takesRecord hitem (recordName (before.countP (·.takesRecord)))
  have hscript : m.isScript = false := by
    refine Bool.eq_false_iff.2 (fun hall => ?_)
    rw [isScript, List.all_eq_true] at hall
    have hstatement := hall item (hitems ▸ List.mem_append_right _ List.mem_cons_self)
    rw [ModuleItem.statement?_of_takesRecord hitem] at hstatement
    simp at hstatement
  refine ⟨source, hsource, ?_, ?_⟩
  · rw [lower_body_eq hscript]
    congr 1
    refine List.map_congr_left (fun s _ => ?_)
    rw [lowered_of_not_isScript hscript]
  · have hvar : (Build.var (recordName (before.countP (·.takesRecord)))
        (requireThrough item.recordHelper source)).topNames =
        [recordName (before.countP (·.takesRecord))] := rfl
    rw [filter_generatedStatements, requires, Module.contributions, hitems, contributions_append,
      contributions_cons, Nat.zero_add, List.flatMap_append, List.flatMap_cons, hrequires,
      List.filter_append, List.filter_append, filter_requires_contributions (by omega),
      filter_requires_contributions (by rw [if_pos hitem]; omega), List.append_nil,
      List.nil_append, List.filter_singleton, hvar]
    simp

/-- What a required module is loaded by is a call of the helper, or of `require` where there is
none. -/
theorem exists_requireThrough_eq (helper : Option InteropHelper) (source : String) :
    ∃ arguments, requireThrough helper source =
      Build.call (Build.name ((helper.map (·.name)).getD "require")) arguments := by
  cases helper with
  | none => exact ⟨_, rfl⟩
  | some h => exact ⟨_, rfl⟩

/-- What loads a required module tells the helper. -/
theorem helper_eq_of_requireThrough_eq {helper helper' : Option InteropHelper}
    {source source' : String} (h : requireThrough helper source = requireThrough helper' source') :
    helper = helper' := by
  obtain ⟨arguments, hleft⟩ := exists_requireThrough_eq helper source
  obtain ⟨arguments', hright⟩ := exists_requireThrough_eq helper' source'
  have hname : (helper.map (·.name)).getD "require" = (helper'.map (·.name)).getD "require" := by
    rw [hleft, hright] at h
    simp only [Build.call, Build.name, Node.call.injEq, Node.identifier.injEq] at h
    exact h.2.1.2
  have hinjective : ∀ h h' : Option InteropHelper,
      (h.map (·.name)).getD "require" = (h'.map (·.name)).getD "require" → h = h' := by
    rintro (_ | _ | _ | _) (_ | _ | _ | _) <;> decide
  exact hinjective helper helper' hname

/-- Every module that is kept in a variable is held through a helper that fits what is read of
it. -/
def ChoosesInterop (m : Module) : Prop :=
  ∀ before item after, m.items = before ++ item :: after → item.takesRecord = true →
    ∃ source helper, item.specifier? = some source ∧
      m.LoadsThrough (before.countP (·.takesRecord)) source helper ∧
      InteropFits item.reads helper

/-- Where an item loads a module through a helper, that is the helper of the item. -/
theorem LoadsThrough.helper_eq {n : Nat} {source source' : String}
    {helper helper' : Option InteropHelper} (h : m.LoadsThrough n source helper)
    (h' : m.LoadsThrough n source' helper') : helper = helper' := by
  have hsame := h.2.symm.trans h'.2
  simp only [List.cons.injEq, and_true, Build.var, Node.variableDeclaration.injEq, true_and,
    Node.ofList, Node.cons.injEq, Node.declarator.injEq, Node.present.injEq] at hsame
  exact helper_eq_of_requireThrough_eq hsame

/-- The helpers of all items have to fit. -/
theorem choosesInterop_iff_fits :
    m.ChoosesInterop ↔
      ∀ item ∈ m.items, item.takesRecord = true → InteropFits item.reads item.recordHelper := by
  constructor
  · intro h item hmem hitem
    obtain ⟨before, after, hitems⟩ := List.append_of_mem hmem
    obtain ⟨source, helper, -, hloads, hfits⟩ := h before item after hitems hitem
    obtain ⟨source', -, hloads'⟩ := loadsThrough_of_takesRecord hitems hitem
    rw [← hloads.helper_eq hloads']
    exact hfits
  · intro h before item after hitems hitem
    obtain ⟨source, hsource, hloads⟩ := loadsThrough_of_takesRecord hitems hitem
    have hmem : item ∈ m.items := hitems ▸ List.mem_append_right _ List.mem_cons_self
    exact ⟨source, item.recordHelper, hsource, hloads, h item hmem hitem⟩

end Module

/-! ## Which helpers fit -/

theorem ImportClause.read_eq_namespace_iff {clause : ImportClause} :
    clause.read = .namespace ↔ clause.isNamespace = true := by
  cases clause <;> simp [read, isNamespace]

theorem ImportClause.read_eq_default_iff {clause : ImportClause} :
    clause.read = .property "default" ↔
      clause.isDefault = true ∨ ∃ bound, clause = .named "default" bound := by
  cases clause <;> simp [read, isDefault, eq_comm]

/-- A namespace clause asks for all keys, and so does a default clause that is not alone. -/
theorem interopOf_eq (clauses : List ImportClause) :
    interopOf clauses =
      if ∃ clause ∈ clauses, clause.isNamespace = true then some .wildcard
      else if ∃ clause ∈ clauses, clause.isDefault = true then
        if 1 < clauses.length then some .wildcard else some .default
      else none := by
  simp only [interopOf, Bool.or_eq_true, Bool.and_eq_true, List.any_eq_true, decide_eq_true_eq]
  by_cases hnamespace : ∃ clause ∈ clauses, clause.isNamespace = true
  · rw [if_pos (Or.inl hnamespace), if_pos hnamespace]
  · by_cases hdefault : ∃ clause ∈ clauses, clause.isDefault = true
    · simp only [hnamespace, hdefault, false_or, true_and, if_true, if_false]
    · simp only [hnamespace, hdefault, false_or, false_and, if_false]

section Fits

variable {reads : List ReadExport} {clauses : List ImportClause}

/-- Without a helper only other names may be read. -/
theorem interopFits_none_iff :
    InteropFits reads none ↔ .property "default" ∉ reads ∧ .namespace ∉ reads := by
  constructor
  · intro h
    have hnone : ¬ (.property "default" ∈ reads ∨ .namespace ∈ reads) := by
      intro hread
      simpa using h.interop hread
    exact not_or.1 hnone
  · rintro ⟨hdefault, hnamespace⟩
    refine ⟨?_, ?_, by simp⟩
    · rintro (hread | hread)
      · exact absurd hread hdefault
      · exact absurd hread hnamespace
    · rintro (hread | ⟨hread, -⟩)
      · exact absurd hread hnamespace
      · exact absurd hread hdefault

/-- Whatever is read may be read through the helper that makes up a namespace. -/
theorem interopFits_wildcard : InteropFits reads (some .wildcard) :=
  ⟨fun _ => Or.inr rfl, fun _ => rfl, by simp⟩

/-- Where `default` is all that is read, the helper that makes it up fits. -/
theorem interopFits_default (h : ∀ r ∈ reads, r = .property "default") :
    InteropFits reads (some .default) := by
  refine ⟨fun _ => Or.inl rfl, ?_, ?_⟩
  · rintro (hread | ⟨-, name, hread, hname⟩)
    · simpa using h _ hread
    · exact absurd (ReadExport.property.inj (h _ hread)) hname
  · intro _ name hread
    exact ReadExport.property.inj (h _ hread)

/-- An import with a default or namespace clause is given a helper that fits. -/
theorem interopFits_of_spelled
    (h : ∃ clause ∈ clauses, clause.isDefault = true ∨ clause.isNamespace = true) :
    InteropFits (clauses.map (·.read)) (interopOf clauses) := by
  rw [interopOf_eq]
  by_cases hnamespace : ∃ clause ∈ clauses, clause.isNamespace = true
  · rw [if_pos hnamespace]
    exact interopFits_wildcard
  · obtain ⟨clause, hclause, hspelled⟩ := h
    have hdefault : clause.isDefault = true :=
      hspelled.resolve_right (fun hspace => hnamespace ⟨clause, hclause, hspace⟩)
    rw [if_neg hnamespace, if_pos ⟨clause, hclause, hdefault⟩]
    by_cases hlength : 1 < clauses.length
    · rw [if_pos hlength]
      exact interopFits_wildcard
    · have hpos := List.length_pos_of_mem hclause
      obtain ⟨alone, halone⟩ := List.length_eq_one_iff.1 (by omega : clauses.length = 1)
      rw [halone, List.mem_singleton] at hclause
      rw [if_neg hlength, halone, List.map_singleton, ← hclause]
      refine interopFits_default (fun r hr => ?_)
      rw [List.mem_singleton.1 hr]
      exact ImportClause.read_eq_default_iff.2 (Or.inl hdefault)

/-- The helper of an import fits unless its clauses name `default` in braces, and nothing else
asks for a helper. -/
theorem interopFits_interopOf_iff :
    InteropFits (clauses.map (·.read)) (interopOf clauses) ↔
      ∀ bound, .named "default" bound ∈ clauses →
        ∃ clause ∈ clauses, clause.isDefault = true ∨ clause.isNamespace = true := by
  by_cases hspelled : ∃ clause ∈ clauses, clause.isDefault = true ∨ clause.isNamespace = true
  · exact iff_of_true (interopFits_of_spelled hspelled) (fun _ _ => hspelled)
  · have hnone : interopOf clauses = none := by
      rw [interopOf_eq, if_neg, if_neg]
      · rintro ⟨clause, hclause, hdefault⟩
        exact hspelled ⟨clause, hclause, Or.inl hdefault⟩
      · rintro ⟨clause, hclause, hspace⟩
        exact hspelled ⟨clause, hclause, Or.inr hspace⟩
    rw [hnone, interopFits_none_iff, List.mem_map, List.mem_map]
    simp only [ImportClause.read_eq_namespace_iff, ImportClause.read_eq_default_iff]
    constructor
    · rintro ⟨hdefault, -⟩ bound hbound
      exact absurd ⟨_, hbound, Or.inr ⟨bound, rfl⟩⟩ hdefault
    · intro h
      constructor
      · rintro ⟨clause, hclause, hdefault | ⟨bound, rfl⟩⟩
        · exact hspelled ⟨clause, hclause, Or.inl hdefault⟩
        · exact hspelled (h bound hclause)
      · rintro ⟨clause, hclause, hspace⟩
        exact hspelled ⟨clause, hclause, Or.inr hspace⟩

end Fits

namespace Module

/-- **Where the helpers of a module fit what is read.** They do exactly where no import names
`default` in braces without a default or namespace clause beside it, and where nothing that is
exported from a source is its `default` or its namespace. -/
theorem choosesInterop_iff (m : Module) :
    m.ChoosesInterop ↔
      (∀ source clauses, .import source clauses ∈ m.items →
        ∀ bound, .named "default" bound ∈ clauses →
          ∃ clause ∈ clauses, clause.isDefault = true ∨ clause.isNamespace = true) ∧
      ∀ source clauses, .exportNames (some source) clauses ∈ m.items →
        ∀ clause ∈ clauses, clause.read ≠ .property "default" ∧ clause.read ≠ .namespace := by
  rw [choosesInterop_iff_fits]
  constructor
  · intro h
    constructor
    · intro source clauses hmem bound hbound
      have hrecord : (ModuleItem.import source clauses).takesRecord = true := by
        simp [ModuleItem.takesRecord, List.ne_nil_of_mem hbound]
      exact interopFits_interopOf_iff.1 (h _ hmem hrecord) bound hbound
    · intro source clauses hmem clause hclause
      obtain ⟨hdefault, hnamespace⟩ := interopFits_none_iff.1 (h _ hmem rfl)
      constructor
      · intro hread
        exact hdefault (List.mem_map.2 ⟨clause, hclause, hread⟩)
      · intro hread
        exact hnamespace (List.mem_map.2 ⟨clause, hclause, hread⟩)
  · rintro ⟨himports, hexports⟩ item hmem hitem
    cases item with
    | «import» source clauses => exact interopFits_interopOf_iff.2 (himports source clauses hmem)
    | exportNames source clauses =>
      cases source with
      | none => simp [ModuleItem.takesRecord] at hitem
      | some source =>
        refine interopFits_none_iff.2 ⟨?_, ?_⟩
        · intro hread
          obtain ⟨clause, hclause, hread⟩ := List.mem_map.1 hread
          exact (hexports source clauses hmem clause hclause).1 hread
        · intro hread
          obtain ⟨clause, hclause, hread⟩ := List.mem_map.1 hread
          exact (hexports source clauses hmem clause hclause).2 hread
    | _ => simp [ModuleItem.takesRecord] at hitem

/-- What is read without a helper, though a module need not declare it. -/
def readsBare (item : ModuleItem) : Bool :=
  item.takesRecord && item.recordHelper == none &&
    decide (.property "default" ∈ item.reads ∨ .namespace ∈ item.reads)

theorem not_choosesInterop_of_readsBare {m : Module} (h : m.items.any readsBare = true) :
    ¬ m.ChoosesInterop := by
  obtain ⟨item, hmem, hitem⟩ := List.any_eq_true.1 h
  rw [readsBare, Bool.and_eq_true, Bool.and_eq_true, beq_iff_eq, decide_eq_true_eq] at hitem
  obtain ⟨⟨hrecord, hhelper⟩, hread⟩ := hitem
  intro hfits
  have hinterop := (choosesInterop_iff_fits.1 hfits item hmem hrecord).interop hread
  rw [hhelper] at hinterop
  simp at hinterop

/-- Imports and re-exports of `default` and of a namespace that are not spelled as such. -/
def bareSources : List String :=
  ["import \x7bdefault as d\x7d from './x';\nd;", "export \x7bdefault\x7d from './x';",
    "export * as ns from './x';"]

/-- All of them read a module without a helper, and the same import spelled otherwise is lowered
otherwise. -/
theorem not_choosesInterop_bareSources :
    (∀ source ∈ bareSources, ∃ m, Module.ofText source.toList = .ok m ∧ ¬ m.ChoosesInterop) ∧
      ∃ m m', Module.ofText "import \x7bdefault as d\x7d from './x';\nd;".toList = .ok m ∧
        Module.ofText "import d from './x';\nd;".toList = .ok m' ∧
        m.lower.print .compact ≠ m'.lower.print .compact := by
  have hbare : ∀ source ∈ bareSources,
      (Module.ofText source.toList).toOption.any (·.items.any readsBare) = true := by
    decide +kernel
  constructor
  · intro source hsource
    obtain ⟨m, hm, hitems⟩ := exists_ok_of_any (hbare source hsource)
    exact ⟨m, hm, not_choosesInterop_of_readsBare hitems⟩
  · have hprinted :
        (Module.ofText "import \x7bdefault as d\x7d from './x';\nd;".toList).toOption.any (fun m =>
          (Module.ofText "import d from './x';\nd;".toList).toOption.any (fun m' =>
            m.lower.print .compact != m'.lower.print .compact)) = true := by
      decide +kernel
    obtain ⟨m, hm, hprinted⟩ := exists_ok_of_any hprinted
    obtain ⟨m', hm', hprinted⟩ := exists_ok_of_any hprinted
    exact ⟨m, m', hm, hm', by simpa using hprinted⟩

end Module

end ModuleBundler
