import ModuleBundler.Proofs.Module.Exports
import ModuleBundler.Proofs.Module.Keys
import ModuleBundler.Proofs.Module.RequireCalls

/-!
The names under which a lowered module defines properties of its exports object. A property that is
defined this way cannot be defined again, so a name that comes twice makes the module fail when it
is loaded. The first name is always the mark of declared exports, the others are those of the
exports of the module in the order of the text. Nothing keeps a module from exporting the mark's
own name, so that the names of its exports are different from each other is not enough.

The calls are found wherever they stand in the lowered module. Only those that lowering generates
count: what a module says about `exports` in its own text is its own affair.
-/

set_option autoImplicit false

namespace ModuleBundler

open Script

/-! ## Definitions of properties -/

namespace Script.Node

/-- The property that a tree reads of `Object`, if it is generated code that does so. -/
def objectKey? : {c : Category} → Node c → Option String
  | _, .member _ _ holder key => if holder.generatedName? = some "Object" then some key else none
  | _, _ => none

/-- The string that comes after the exports object, if these are generated arguments that begin with
it. -/
def exportsKey? : {c : Category} → Node c → Option String
  | _, .cons target rest =>
    if Tree.generatedAt? ⟨_, target⟩ [0] = some "exports" then rest.string? else none
  | _, _ => none

/-- The name under which a tree defines a property of the exports object, if it is a call that
lowering generates to do so. -/
def definedExport? : {c : Category} → Node c → Option String
  | _, .call _ callee arguments =>
    if callee.objectKey? = some "defineProperty" then arguments.exportsKey? else none
  | _, _ => none

end Script.Node

/-- The names under which a lowered module defines properties of its exports object, in the order of
the text, each as often as it is defined. -/
def Module.definedExports (m : Module) : List String :=
  m.lower.tree.collect (·.2.definedExport?.toList)

/-- No part of a tree defines a property of the exports object. -/
def Script.Tree.DefinesNone (t : Tree) : Prop := t.All (·.2.definedExport? = none)

/-- A tree that defines a property of the exports object has a generated name where it names
`Object`. -/
theorem Script.Node.generatedAt?_of_definedExport? {c : Category} {n : Node c} {name : String}
    (h : n.definedExport? = some name) : Tree.generatedAt? ⟨c, n⟩ [0, 0] = some "Object" := by
  cases n with
  | call _ callee _ =>
    rw [definedExport?] at h
    split at h
    · cases callee with
      | member _ _ holder key =>
        have hkey : (Node.member _ _ holder key).objectKey? = some "defineProperty" := ‹_›
        rw [objectKey?] at hkey
        split at hkey
        · assumption
        · cases hkey
      | _ => cases ‹_›
    · cases h
  | _ => cases h

namespace Script.Tree

theorem definesNone_of_generatedAt? {t : Tree} (h : ∀ π, t.generatedAt? π ≠ some "Object") :
    t.DefinesNone := by
  intro π part hπ
  rw [Option.eq_none_iff_forall_ne_some]
  intro name hname
  refine h (π ++ [0, 0]) ?_
  rw [generatedAt?, at?_append, hπ]
  exact Node.generatedAt?_of_definedExport? hname

theorem DefinesNone.collect_eq {t : Tree} (h : t.DefinesNone) :
    t.collect (·.2.definedExport?.toList) = [] :=
  collect_eq_nil fun π part hπ => congrArg Option.toList (h π part hπ)

theorem definesNone_ofList {c : Category} {ns : List (Node c)} :
    DefinesNone ⟨_, .ofList ns⟩ ↔ ∀ n ∈ ns, DefinesNone ⟨_, n⟩ :=
  all_ofList fun ns => by cases ns <;> rfl

end Script.Tree

/-! ## Generated code -/

open Script.Tree

/-- A call of a name defines nothing but what its arguments define. -/
theorem definesNone_call_name {f : String} {arguments : List Expr}
    (harguments : ∀ e ∈ arguments, DefinesNone ⟨_, e⟩) :
    DefinesNone ⟨_, Build.call (Build.name f) arguments⟩ := by
  refine all_of_pair rfl rfl (all_of_leaf rfl rfl) (definesNone_ofList.2 ?_)
  exact List.forall_mem_map.2 fun e he => all_of_child rfl rfl (harguments e he)

theorem definesNone_run {e : Expr} (h : DefinesNone ⟨_, e⟩) : DefinesNone ⟨_, Build.run e⟩ :=
  all_of_child rfl rfl h

theorem definesNone_requireCall (source : String) : DefinesNone ⟨_, requireCall source⟩ :=
  definesNone_call_name (List.forall_mem_singleton.2 (all_of_leaf rfl rfl))

theorem definesNone_requireThrough (helper : Option InteropHelper) (source : String) :
    DefinesNone ⟨_, requireThrough helper source⟩ := by
  cases helper with
  | none => exact definesNone_requireCall source
  | some h =>
    exact definesNone_call_name (List.forall_mem_singleton.2 (definesNone_requireCall source))

theorem definesNone_var (s : String) {init : Expr} (h : DefinesNone ⟨_, init⟩) :
    DefinesNone ⟨_, Build.var s init⟩ := by
  refine all_of_child rfl rfl (definesNone_ofList.2 (List.forall_mem_singleton.2 ?_))
  exact all_of_pair rfl rfl (all_of_leaf rfl rfl) (all_of_child rfl rfl h)

theorem definesNone_object {fields : List (String × Expr)}
    (h : ∀ field ∈ fields, DefinesNone ⟨_, field.2⟩) : DefinesNone ⟨_, Build.object fields⟩ := by
  refine all_of_child rfl rfl (definesNone_ofList.2 (List.forall_mem_map.2 ?_))
  intro field hfield
  exact all_of_pair rfl rfl (all_of_leaf rfl rfl) (h field hfield)

theorem definesNone_getterOf {value : Expr} (h : DefinesNone ⟨_, value⟩) :
    DefinesNone ⟨_, getterOf value⟩ := by
  have hbody : DefinesNone ⟨_, Build.returns value⟩ :=
    all_of_child rfl rfl (all_of_child rfl rfl h)
  have hlambda : DefinesNone ⟨_, Build.lambda [] [Build.returns value]⟩ := by
    refine all_of_child rfl rfl (all_of_pair rfl rfl (all_of_leaf rfl rfl) ?_)
    exact definesNone_ofList.2 (List.forall_mem_singleton.2 hbody)
  exact definesNone_object (List.forall_mem_cons.2 ⟨all_of_leaf rfl rfl,
    List.forall_mem_singleton.2 hlambda⟩)

/-- The helpers define properties of what they are given, not of the exports object. -/
theorem definesNone_declaration (h : InteropHelper) : DefinesNone ⟨_, h.declaration⟩ := by
  have hcheck : ((Tree.positions 60 ⟨_, h.declaration⟩).all fun π => π.length < 60 &&
      (Tree.at? ⟨_, h.declaration⟩ π).all fun part => part.2.definedExport?.isNone) = true := by
    cases h <;> decide +kernel
  intro π part hpart
  have hπ := Tree.of_all_positions hcheck hpart
  rw [hpart, Option.all_some, Option.isNone_iff_eq_none] at hπ
  exact hπ

/-- A definition of a property whose descriptor defines none defines this one. -/
theorem collect_defineExport (name : String) {descriptor : Expr}
    (h : DefinesNone ⟨_, descriptor⟩) :
    Tree.collect (·.2.definedExport?.toList) ⟨_, defineExport name descriptor⟩ = [name] := by
  have hcallee : DefinesNone ⟨_, Build.dot (Build.name "Object") "defineProperty"⟩ :=
    all_of_child rfl rfl (all_of_leaf rfl rfl)
  have harguments : DefinesNone ⟨_, Node.ofList
      ([Build.name "exports", Build.str name, descriptor].map .plainElement)⟩ := by
    refine definesNone_ofList.2 (List.forall_mem_map.2 fun e he => all_of_child rfl rfl ?_)
    revert e
    exact List.forall_mem_cons.2 ⟨all_of_leaf rfl rfl,
      List.forall_mem_cons.2 ⟨all_of_leaf rfl rfl, List.forall_mem_singleton.2 h⟩⟩
  have hcall : Tree.collect (·.2.definedExport?.toList)
      ⟨_, Build.call (Build.dot (Build.name "Object") "defineProperty")
        [Build.name "exports", Build.str name, descriptor]⟩ = [name] := by
    rw [Tree.collect_eq]
    change [name] ++ (Tree.collect _ _ ++ (Tree.collect _ _ ++ [])) = [name]
    rw [hcallee.collect_eq, harguments.collect_eq]
    rfl
  rw [Tree.collect_eq]
  change [] ++ (Tree.collect _ _ ++ []) = [name]
  rw [List.append_nil, List.nil_append]
  exact hcall

namespace Module

variable {m : Module}

theorem definesNone_requires {s : Statement} (hs : s ∈ m.requires) : DefinesNone ⟨_, s⟩ := by
  obtain ⟨c, hc, hs⟩ := List.mem_flatMap.1 hs
  obtain ⟨before, item, after, -, rfl⟩ := mem_contributions.1 hc
  rcases ModuleItem.require_cases hs with ⟨source, rfl⟩ | ⟨helper, source, rfl⟩ | ⟨source, rfl⟩
  · exact definesNone_run (definesNone_requireCall source)
  · exact definesNone_var _ (definesNone_requireThrough helper source)
  · refine definesNone_run (definesNone_call_name (List.forall_mem_cons.2 ?_))
    exact ⟨definesNone_requireCall source, List.forall_mem_singleton.2 (all_of_leaf rfl rfl)⟩

theorem definesNone_relink_identifier (origin : Origin) (name : String) :
    DefinesNone ⟨_, (Node.identifier origin name).relink m.links⟩ := by
  change DefinesNone ⟨_, m.links.identifier origin name⟩
  rw [Links.identifier]
  cases hresolve : m.links.resolve? name with
  | none => exact all_of_leaf rfl rfl
  | some e =>
    have himports := imports_of_find? (Links.find?_of_resolve? hresolve)
    obtain ⟨clause, record, rfl⟩ := himports.exists_prescribed
    cases clause with
    | «namespace» => exact all_of_leaf rfl rfl
    | _ => exact all_of_pair rfl rfl (all_of_leaf rfl rfl) (all_of_leaf rfl rfl)

/-- What a getter returns defines nothing. -/
theorem definesNone_relink_getter {g : String × Expr} (hg : g ∈ m.getters) :
    DefinesNone ⟨_, g.2.relink m.links⟩ := by
  obtain ⟨c, hc, hg⟩ := List.mem_flatMap.1 hg
  obtain ⟨before, item, after, -, rfl⟩ := mem_contributions.1 hc
  rcases ModuleItem.getter_cases hg with ⟨origin, name, hvalue⟩ | ⟨imported, hvalue⟩
  · rw [hvalue]
    exact definesNone_relink_identifier origin name
  · rw [hvalue]
    exact all_of_pair rfl rfl (definesNone_relink_identifier .generated _) (all_of_leaf rfl rfl)

/-- The statements of the module itself define nothing by generated calls, whatever they are. -/
theorem definesNone_lowered (hw : m.IsWritten) {s : Statement} (hs : s ∈ m.statements) :
    DefinesNone ⟨_, m.lowered s⟩ := by
  have hwritten := hw.statements s hs
  refine definesNone_of_generatedAt? fun π hname => ?_
  cases hm : m.isScript with
  | true =>
    rw [lowered_of_isScript hm, hwritten.generatedAt?] at hname
    cases hname
  | false =>
    rw [lowered_of_not_isScript hm] at hname
    obtain ⟨⟨n, hrecord, -⟩, -⟩ := exists_of_generatedAt?_relink hwritten hname
    exact absurd hrecord.symm (recordName_ne (by decide) n)

/-! ## Lowered modules -/

theorem definedExports_eq_flatMap (m : Module) :
    m.definedExports =
      m.lower.body.flatMap fun s => Tree.collect (·.2.definedExport?.toList) ⟨_, s⟩ :=
  Tree.collect_ofList (fun ns => by cases ns <;> rfl) m.lower.body

theorem flatMap_collect_eq_nil {body : List Statement} (h : ∀ s ∈ body, DefinesNone ⟨_, s⟩) :
    body.flatMap (fun s => Tree.collect (·.2.definedExport?.toList) ⟨_, s⟩) = [] :=
  List.flatMap_eq_nil_iff.2 fun s hs => (h s hs).collect_eq

/-- The getters have the names of the exports. -/
theorem map_name_exports (m : Module) : m.exports.map (·.name) = m.getters.map (·.1) := by
  have hnames : List.Forall₂ (fun x g => x.name = g.1) m.exports m.getters :=
    m.forall₂_gives.imp fun _ _ hgives => hgives.name_eq
  rw [← List.forall₂_eq_eq_eq, List.forall₂_map_left_iff, List.forall₂_map_right_iff]
  exact hnames

/-- What is defined before the module's own statements run: the mark of declared exports, and then
the exports in the order of the text. -/
theorem flatMap_collect_generatedStatements (m : Module) :
    m.generatedStatements.flatMap
        (fun s => Tree.collect (·.2.definedExport?.toList) ⟨_, s⟩) =
      InteropHelper.marker :: m.exports.map (·.name) := by
  have hstrict : DefinesNone ⟨_, Build.run (Build.str "use strict")⟩ :=
    definesNone_run (all_of_leaf rfl rfl)
  have hmarker : Tree.collect (·.2.definedExport?.toList) ⟨_, defineExport InteropHelper.marker
      (Build.object [("value", .boolLiteral true)])⟩ = [InteropHelper.marker] :=
    collect_defineExport _ (definesNone_object
      (List.forall_mem_singleton.2 (all_of_leaf rfl rfl)))
  have hhelpers : (m.helpers.map (·.declaration)).flatMap
      (fun s => Tree.collect (·.2.definedExport?.toList) ⟨_, s⟩) = [] :=
    flatMap_collect_eq_nil (List.forall_mem_map.2 fun h _ => definesNone_declaration h)
  have hgetters : (m.getters.map fun g => defineExport g.1 (getterOf (g.2.relink m.links))).flatMap
      (fun s => Tree.collect (·.2.definedExport?.toList) ⟨_, s⟩) = m.exports.map (·.name) := by
    rw [map_name_exports, List.flatMap_map, ← List.flatMap_pure_eq_map]
    refine List.flatMap_congr fun g hg => ?_
    exact collect_defineExport _ (definesNone_getterOf (definesNone_relink_getter hg))
  have hrequires := flatMap_collect_eq_nil fun s hs => m.definesNone_requires (s := s) hs
  rw [generatedStatements, prologue, List.flatMap_append, List.flatMap_append,
    List.flatMap_append, hhelpers, hgetters, hrequires, List.append_nil, List.append_nil,
    List.flatMap_cons, hstrict.collect_eq, List.flatMap_cons, hmarker]
  rfl

/-- Whatever a module consists of, it defines no other properties of its exports object, and a
script defines none. -/
theorem definedExports_eq (hw : m.IsWritten) :
    m.definedExports =
      if m.isScript then [] else InteropHelper.marker :: m.exports.map (·.name) := by
  have hown : (m.statements.map m.lowered).flatMap
      (fun s => Tree.collect (·.2.definedExport?.toList) ⟨_, s⟩) = [] :=
    flatMap_collect_eq_nil (List.forall_mem_map.2 fun s hs => definesNone_lowered hw hs)
  rw [definedExports_eq_flatMap]
  cases hm : m.isScript with
  | true =>
    rw [lower_body_of_isScript hm, hown]
    rfl
  | false =>
    rw [lower_body_eq hm, List.flatMap_append, flatMap_collect_generatedStatements,
      ← map_lowered_of_not_isScript hm, hown, List.append_nil]
    rfl

/-- **No property of the exports object is defined twice** exactly when the exports of the module
have names that are different from each other and from the mark of declared exports. -/
theorem nodup_definedExports_iff (hw : m.IsWritten) :
    m.definedExports.Nodup ↔
      (m.exports.map (·.name)).Nodup ∧ InteropHelper.marker ∉ m.exports.map (·.name) := by
  rw [definedExports_eq hw]
  cases hm : m.isScript with
  | true =>
    rw [exports_of_isScript hm]
    exact iff_of_true List.nodup_nil ⟨List.nodup_nil, List.not_mem_nil⟩
  | false => exact List.nodup_cons.trans and_comm

/-- A module with exports of several kinds. -/
def plainlyExportingSource : String :=
  "export var a = 1, [b] = [2];\nexport default a;\nexport * as c from './c';"

theorem nodup_definedExports_plainlyExportingSource :
    ∃ m, Module.ofText plainlyExportingSource.toList = .ok m ∧
      m.exports.map (·.name) = ["a", "b", "default", "c"] ∧ m.definedExports.Nodup := by
  have hcheck : (Module.ofText plainlyExportingSource.toList).toOption.any (fun m =>
      decide (m.exports.map (·.name) = ["a", "b", "default", "c"])) = true := by
    decide +kernel
  obtain ⟨m, hm, hpassed⟩ := exists_ok_of_any hcheck
  have hexports := of_decide_eq_true hpassed
  refine ⟨m, hm, hexports, (nodup_definedExports_iff (isWritten_of_ofText hm)).2 ?_⟩
  rw [hexports]
  decide

/-- A module that exports a variable under the name of the mark. -/
def markedSource : String := "export var __esModule = 1;"

/-- It has one export, and its exports object gets the property twice. -/
theorem definedExports_markedSource :
    ∃ m, Module.ofText markedSource.toList = .ok m ∧
      (m.exports.map (·.name)).Nodup ∧ m.definedExports = ["__esModule", "__esModule"] ∧
      ¬ m.definedExports.Nodup := by
  have hcheck : (Module.ofText markedSource.toList).toOption.any (fun m =>
      !m.isScript && decide (m.exports.map (·.name) = ["__esModule"])) = true := by
    decide +kernel
  obtain ⟨m, hm, hpassed⟩ := exists_ok_of_any hcheck
  simp only [Bool.and_eq_true, Bool.not_eq_true', decide_eq_true_eq] at hpassed
  obtain ⟨hscript, hexports⟩ := hpassed
  have hdefined : m.definedExports = ["__esModule", "__esModule"] := by
    rw [definedExports_eq (isWritten_of_ofText hm), hscript, hexports]
    rfl
  refine ⟨m, hm, ?_, hdefined, ?_⟩
  · rw [hexports]
    decide
  · rw [hdefined]
    decide

end Module

end ModuleBundler
