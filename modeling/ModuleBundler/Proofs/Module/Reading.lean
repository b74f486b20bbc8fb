import ModuleBundler.Module.Reader
import ModuleBundler.Proofs.Module.Contributions
import ModuleBundler.Proofs.Script.Reader.Whole

/-!
Modules that are read are written: no name in them is one that a program made. Names in braces
without a source are plain ones, since a namespace is exported from a source alone.
-/

set_option autoImplicit false

namespace ModuleBundler

open Script Script.Reader

/-! ## Written modules -/

/-- A plain name in braces. -/
instance : HasTrees ExportClause := ⟨fun clause => ∃ name exported, clause = .named name exported⟩

/-- All trees in an item are written, and it exports no namespace without a source. -/
def ModuleItem.IsWritten : ModuleItem → Prop
  | .statement s => Written s
  | .exportDeclaration s => Written s
  | .exportNames none clauses => Written clauses
  | .exportDefaultFunction _ f => Written f
  | .exportDefaultClass _ heritage members => Written heritage ∧ Written members
  | .exportDefault value => Written value
  | .import _ _ | .exportNames (some _) _ | .exportAll _ => True

instance : HasTrees ModuleItem := ⟨ModuleItem.IsWritten⟩

/-- What the reading of texts makes sure of: all items are written. -/
def Module.IsWritten (m : Module) : Prop := Written m.items

theorem Module.IsWritten.statements {m : Module} (hm : m.IsWritten) :
    ∀ s ∈ m.statements, Tree.IsWritten ⟨_, s⟩ := by
  intro s hs
  obtain ⟨item, hitem, hmem⟩ := List.mem_flatMap.mp hs
  have hwritten := hm item hitem
  cases item with
  | statement s' =>
    rw [List.mem_singleton.mp hmem]
    exact hwritten
  | exportDeclaration s' =>
    rw [List.mem_singleton.mp hmem]
    exact hwritten
  | exportDefaultFunction name f =>
    rw [List.mem_singleton.mp hmem]
    exact written_of_child rfl rfl hwritten
  | exportDefaultClass name heritage members =>
    rw [List.mem_singleton.mp hmem]
    exact written_of_pair rfl rfl hwritten.1 hwritten.2
  | exportDefault value =>
    rw [List.mem_singleton.mp hmem]
    refine written_of_child rfl rfl (written_ofList (written_singleton ?_))
    exact written_of_pair rfl rfl (written_of_leaf rfl rfl) (written_present hwritten)
  | _ => cases hmem

/-! ## Readers -/

namespace Module.Reader

theorem yields_importDeclaration : Yields importDeclaration := by
  refine .step fun l => ?_
  split
  · exact .step fun _ => .step fun _ => .pure trivial
  · exact .step fun _ => .step fun _ => .step fun _ => .pure trivial

theorem yields_exportName : Yields exportName :=
  .step fun n => .step fun _ => .ite (.step fun exported => .pure ⟨n, exported, rfl⟩)
    (.pure ⟨n, n, rfl⟩)

theorem yields_namesFrom {α : Type} [HasTrees α] {name : Reading α} (hname : Yields name)
    (fuel : Nat) {names : List α} (hnames : Written names) : Yields (namesFrom name fuel names) := by
  induction fuel generalizing names with
  | zero => exact yields_failEnd
  | succ fuel ih =>
    rw [namesFrom]
    refine .step fun _ => .step fun _ => .ite (.pure (written_reverse hnames)) ?_
    refine hname.bind fun n hn => .step fun _ => .ite ?_ (.step fun _ => ih (written_cons hn hnames))
    exact .pure (written_reverse (written_cons hn hnames))

theorem yields_bracedNames {α : Type} [HasTrees α] {name : Reading α} (hname : Yields name) :
    Yields (bracedNames name) :=
  .step fun _ => .step fun _ => (yields_namesFrom hname _ written_nil).bind fun _ hnames =>
    .step fun _ => .pure hnames

theorem yields_exportNames (start : Position) (namespaces : List ExportClause) :
    Yields (exportNames start namespaces) := by
  refine (yields_bracedNames yields_exportName).bind fun names hnames => .step fun _ => ?_
  refine .ite (.step fun _ => .pure trivial) (.otherwise fun _ => .step fun _ => .pure ?_)
  exact hnames

theorem yields_exportAll (start : Position) : Yields (exportAll start) := by
  refine .step fun _ => .ite (.step fun _ => .pure trivial) (.step fun _ => .step fun whole => ?_)
  refine .step fun _ => .ite (.step fun _ => .pure trivial) (.step fun _ => ?_)
  exact yields_exportNames start [.namespace whole]

variable {r : Readers} (hr : r.YieldWritten)

include hr

theorem yields_exportDefault : Yields (exportDefault r) := by
  refine .step fun _ => .ite ?_ (.step fun isAsync => ?_)
  · exact (yields_classAfterWord hr false).bind fun parts hparts =>
      .pure ⟨written_ofOption hparts.2.1, written_ofList hparts.2.2⟩
  · refine .sometimes fun _ => .step fun _ => .ite ?_ ?_
    · exact (yields_functionAfterWord hr isAsync false false).bind fun parts hparts =>
        .pure hparts.2
    · exact (yields_withIn (yields_assignmentValue hr)).bind fun e he => .step fun _ => .pure he

theorem yields_exportDeclaration (start : Position) : Yields (exportDeclaration r start) := by
  refine .step fun _ => .ite (yields_exportAll start) (.step fun _ => ?_)
  refine .ite (yields_exportDefault hr) (.step fun _ => .ite ?_ (yields_exportNames start []))
  exact (yields_statement hr true).bind fun s hs => .pure hs

theorem yields_moduleItem : Yields (moduleItem r) := by
  have hstatement : Yields (do return .statement (← outermostStatement r) : Reading ModuleItem) :=
    (yields_outermostStatement hr).bind fun s hs => .pure hs
  refine .step fun start => .step fun _ => .ite (yields_exportDeclaration hr start) ?_
  refine .step fun _ => .ite (.step fun next => .ite hstatement (.step fun _ => ?_)) hstatement
  exact yields_importDeclaration

theorem yields_itemsFrom (fuel : Nat) {items : List ModuleItem} (hitems : Written items) :
    Yields (itemsFrom r fuel items) := by
  induction fuel generalizing items with
  | zero => exact yields_failEnd
  | succ fuel ih =>
    exact .step fun _ => .ite (.pure (written_reverse hitems))
      ((yields_moduleItem hr).bind fun _ hi => ih (written_cons hi hitems))

end Module.Reader

open Module.Reader in
/-- **A module that is read is written.** -/
theorem Module.isWritten_of_ofText {text : List Char} {m : Module}
    (h : Module.ofText text = .ok m) : m.IsWritten := by
  have hitems : Yields (do itemsFrom (readersFor text) (← tokensLeft) [] :
      Reading (List ModuleItem)) :=
    .step fun _ => yields_itemsFrom (yieldWritten_readersFor text) _ written_nil
  rw [ofText] at h
  cases hrun : run { isModule := true, strict := true }
      (do itemsFrom (readersFor text) (← tokensLeft) []) text with
  | error e =>
    rw [hrun] at h
    cases h
  | ok result =>
    obtain ⟨interpreter, items, complaints⟩ := result
    rw [hrun] at h
    cases complaints with
    | nil =>
      cases h
      exact written_of_run hitems hrun
    | cons fault rest => cases h

end ModuleBundler
