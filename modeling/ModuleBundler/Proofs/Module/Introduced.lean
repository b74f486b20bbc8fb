import Mathlib.Data.List.Basic
import ModuleBundler.Module.Lowering
import ModuleBundler.Proofs.Module.Declarations
import ModuleBundler.Proofs.Module.Factory
import ModuleBundler.Proofs.Module.Links
import ModuleBundler.Proofs.Module.OwnStatements

/-!
The names that lowering puts into a script, and the declarations that it adds for them. Lowering
picks its names without a look at those of the module, so a lowered module may declare one of them
on its own as well; it does so exactly if the module declares it at its top level.
-/

set_option autoImplicit false

namespace ModuleBundler

open Script

/-! ## Names -/

/-- A name that lowering puts into a script. -/
inductive IntroducedName where
  /-- The parameter of the factory that loads modules. -/
  | require
  /-- The parameter of the factory that holds what the module exports. -/
  | exports
  /-- The global `Object`. -/
  | object
  | helper (h : InteropHelper)
  /-- The variable for a required module. -/
  | record (n : Nat)
  /-- The variable for a default export without a name. -/
  | defaultExport
deriving DecidableEq

namespace IntroducedName

def text : IntroducedName → String
  | .require => "require"
  | .exports => "exports"
  | .object => "Object"
  | .helper h => h.name
  | .record n => recordName n
  | .defaultExport => defaultName

/-- Where the name is meant to be declared: by the factory, or nowhere. -/
def scope : IntroducedName → Option (List Nat)
  | .object => none
  | _ => some [0]

end IntroducedName

theorem toList_recordName (n : Nat) :
    (recordName n).toList = "__pumice_import_".toList ++ (toString n).toList :=
  String.toList_append

theorem recordName_injective : Function.Injective recordName := by
  intro n k h
  have hlist := congrArg String.toList h
  rw [toList_recordName, toList_recordName] at hlist
  -- the digits of a number tell the number
  have hdigits := congrArg (fun digits => Nat.ofDigitChars 10 digits 0)
    (List.append_cancel_left hlist)
  simpa [Nat.toString_eq_ofList_toDigits] using hdigits

/-- A name that begins otherwise is none of a required module. -/
theorem recordName_ne {s : String} (hs : s.toList.take 16 ≠ "__pumice_import_".toList) (n : Nat) :
    recordName n ≠ s := by
  rintro rfl
  apply hs
  rw [toList_recordName]
  exact List.take_left' (by decide)

namespace IntroducedName

theorem text_injective : Function.Injective text := by
  -- the variables of required modules are the only ones that are not listed
  have hrecord : ∀ (n : Nat) (x : IntroducedName), recordName n = x.text → .record n = x := by
    intro n x h
    cases x with
    | record k => rw [recordName_injective h]
    | helper g => cases g <;> exact absurd h (recordName_ne (by decide) n)
    | _ => exact absurd h (recordName_ne (by decide) n)
  intro x y h
  cases x with
  | record n => exact hrecord n y h
  | helper g =>
    cases y with
    | record n => exact (hrecord n _ h.symm).symm
    | helper g' => cases g <;> cases g' <;> first | rfl | exact absurd h (by decide)
    | _ => cases g <;> exact absurd h (by decide)
  | _ =>
    cases y with
    | record n => exact (hrecord n _ h.symm).symm
    | helper g' => cases g' <;> exact absurd h (by decide)
    | _ => first | rfl | exact absurd h (by decide)

/-- None of these names is that of a parameter or a variable inside a helper. -/
theorem text_ne {s : String} (hs : s ∈ ["arguments", "module", "m", "k", "ns", "from", "to"])
    (x : IntroducedName) : x.text ≠ s := by
  have hlisted : ∀ y : IntroducedName, (∀ n, y ≠ .record n) →
      ∀ s ∈ ["arguments", "module", "m", "k", "ns", "from", "to"], y.text ≠ s := by
    intro y hy
    cases y with
    | record n => exact absurd rfl (hy n)
    | helper g => cases g <;> decide
    | _ => decide
  cases x with
  | record n =>
    refine recordName_ne ?_ n
    revert s
    decide
  | _ => exact hlisted _ (fun _ => by simp) s hs

end IntroducedName

/-! ## Declarations -/

namespace Module

/-- The statements of a module with names of their own choice: all but those of default exports
without a name. -/
def userStatements (m : Module) : List Statement :=
  m.items.flatMap fun
    | .statement s => [s]
    | .exportDeclaration s => [s]
    | .exportDefaultFunction (some name) f => [.functionDeclaration name f]
    | .exportDefaultClass (some name) heritage members =>
      [.classDeclaration name heritage members]
    | _ => []

/-- The declarations of default exports without a name. -/
def defaultStatements (m : Module) : List Statement :=
  m.items.flatMap fun
    | .exportDefaultFunction none f => [.functionDeclaration defaultName f]
    | .exportDefaultClass none heritage members => [.classDeclaration defaultName heritage members]
    | .exportDefault value => [Build.var defaultName value]
    | _ => []

/-- The names that a module declares at its top level, imports apart. -/
def userNames (m : Module) : List String := m.userStatements.flatMap (·.topNames)

theorem mem_userNames {m : Module} {name : String} :
    name ∈ m.userNames ↔ ∃ s ∈ m.userStatements, name ∈ s.topNames := List.mem_flatMap

theorem statements_perm (m : Module) :
    m.statements.Perm (m.userStatements ++ m.defaultStatements) := by
  obtain ⟨interpreter, items⟩ := m
  rw [statements, userStatements, defaultStatements]
  induction items with
  | nil => exact .nil
  | cons item rest ih =>
    simp only [List.flatMap_cons]
    -- one more statement with a name of its own comes first, one without comes in between
    cases item with
    | statement s => exact ih.cons s
    | exportDeclaration s => exact ih.cons s
    | exportDefaultFunction name f =>
      cases name with
      | none => exact (ih.cons _).trans List.perm_middle.symm
      | some name => exact ih.cons _
    | exportDefaultClass name heritage members =>
      cases name with
      | none => exact (ih.cons _).trans List.perm_middle.symm
      | some name => exact ih.cons _
    | exportDefault value => exact (ih.cons _).trans List.perm_middle.symm
    | «import» => exact ih
    | exportNames => exact ih
    | exportAll => exact ih

/-- Each default export without a name declares the variable for it, and nothing else. -/
theorem topNames_of_mem_defaultStatements {m : Module} {s : Statement}
    (hs : s ∈ m.defaultStatements) : s.topNames = [defaultName] := by
  obtain ⟨item, -, hitem⟩ := List.mem_flatMap.mp hs
  cases item with
  | exportDefaultFunction name f =>
    cases name with
    | none =>
      rw [List.mem_singleton.mp hitem]
      rfl
    | some name => cases hitem
  | exportDefaultClass name heritage members =>
    cases name with
    | none =>
      rw [List.mem_singleton.mp hitem]
      rfl
    | some name => cases hitem
  | exportDefault value =>
    rw [List.mem_singleton.mp hitem]
    rfl
  | _ => cases hitem

/-- The statements of a lowered module that stand before those of the module. -/
def generatedStatements (m : Module) : List Statement :=
  m.prologue ++ m.getters.map (fun g => defineExport g.1 (getterOf (g.2.relink m.links))) ++
    m.requires

theorem lower_body_eq {m : Module} (hm : m.isScript = false) :
    m.lower.body = m.generatedStatements ++ m.statements.map (·.relink m.links) := by
  rw [lower, hm]
  exact m.loweredBody_eq

/-- The statements of a lowered module that declare a name for all of it. -/
def declarers (m : Module) (name : String) : List Statement :=
  m.lower.body.filter (name ∈ ·.topNames)

/-- The declarations that lowering adds for a name that it introduces. -/
def declarationsOf (m : Module) : IntroducedName → List Statement
  | .helper h => (m.helpers.filter (· = h)).map (·.declaration)
  | .record n => m.requires.filter (recordName n ∈ ·.topNames)
  | .defaultExport => m.defaultStatements.map m.lowered
  | .require | .exports | .object => []

/-- Lowering gives the name a meaning: none is needed for the parameters of a factory and for what
is global. -/
def Provides (m : Module) : IntroducedName → Prop
  | .helper h => h ∈ m.helpers
  | .record n => ∃ init, Build.var (recordName n) init ∈ m.requires
  | .defaultExport => m.defaultStatements ≠ []
  | .require | .exports | .object => True

section Declarers

variable {m : Module} (x : IntroducedName)

theorem topNames_relink (s : Statement) (l : Links) : (s.relink l).topNames = s.topNames := by
  rw [Node.topNames, Node.varNames_relink, Node.lexicalNames_relink]
  rfl

theorem topNames_declaration (h : InteropHelper) : h.declaration.topNames = [h.name] := by
  cases h <;> rfl

/-- What loads a dependency declares a variable for it, or nothing. -/
theorem exists_of_mem_requires {s : Statement} (hs : s ∈ m.requires) :
    (∃ e, s = Build.run e) ∨ ∃ n e, s = Build.var (recordName n) e := by
  obtain ⟨c, hc, hs⟩ := List.mem_flatMap.mp hs
  obtain ⟨before, item, after, -, rfl⟩ := mem_contributions.mp hc
  rcases ModuleItem.require_cases hs with ⟨_, rfl⟩ | ⟨_, _, rfl⟩ | ⟨_, rfl⟩
  · exact .inl ⟨_, rfl⟩
  · exact .inr ⟨_, _, rfl⟩
  · exact .inl ⟨_, rfl⟩

theorem filter_prologue :
    m.prologue.filter (x.text ∈ ·.topNames) =
      (m.helpers.filter (x = .helper ·)).map (·.declaration) := by
  have hhelper : ∀ h : InteropHelper, x.text ∈ h.declaration.topNames ↔ x = .helper h := by
    intro h
    rw [topNames_declaration, List.mem_singleton]
    exact IntroducedName.text_injective.eq_iff (b := .helper h)
  have hother : ∀ s ∈ [Build.run (Build.str "use strict"),
      defineExport InteropHelper.marker (Build.object [("value", .boolLiteral true)])],
      ¬ decide (x.text ∈ s.topNames) = true := by
    intro s hs
    rcases List.mem_pair.mp hs with rfl | rfl <;> exact Bool.false_ne_true
  rw [prologue, List.filter_append, List.filter_eq_nil_iff.mpr hother, List.nil_append,
    List.filter_map]
  congr 1
  refine List.filter_congr fun h _ => ?_
  exact decide_eq_decide.mpr (hhelper h)

theorem filter_getters (l : Links) (getters : List (String × Expr)) :
    (getters.map fun g => defineExport g.1 (getterOf (g.2.relink l))).filter
      (x.text ∈ ·.topNames) = [] := by
  refine List.filter_eq_nil_iff.mpr fun s hs => ?_
  obtain ⟨g, -, rfl⟩ := List.mem_map.mp hs
  exact Bool.false_ne_true

theorem filter_requires (hx : ∀ n, x ≠ .record n) :
    m.requires.filter (x.text ∈ ·.topNames) = [] := by
  refine List.filter_eq_nil_iff.mpr fun s hs hmem => ?_
  have hname := of_decide_eq_true hmem
  rcases exists_of_mem_requires hs with ⟨e, rfl⟩ | ⟨n, e, rfl⟩
  · cases hname
  · have hsame := List.mem_singleton.mp hname
    exact hx n ((IntroducedName.text_injective.eq_iff (b := .record n)).mp hsame)

theorem filter_defaultStatements (l : Links) :
    (m.defaultStatements.map (·.relink l)).filter (x.text ∈ ·.topNames) =
      if x = .defaultExport then m.defaultStatements.map (·.relink l) else [] := by
  have hname : ∀ s ∈ m.defaultStatements.map (·.relink l), s.topNames = [defaultName] := by
    intro s' hs'
    obtain ⟨s, hs, rfl⟩ := List.mem_map.mp hs'
    rw [topNames_relink, topNames_of_mem_defaultStatements hs]
  split
  · rename_i hx
    refine List.filter_eq_self.mpr fun s hs => decide_eq_true ?_
    rw [hname s hs, hx]
    exact List.mem_singleton_self _
  · rename_i hx
    refine List.filter_eq_nil_iff.mpr fun s hs hmem => hx ?_
    have htext := of_decide_eq_true hmem
    rw [hname s hs, List.mem_singleton] at htext
    exact (IntroducedName.text_injective.eq_iff (b := .defaultExport)).mp htext

/-- Among all that lowering adds, these statements declare the name. -/
theorem declarationsOf_eq (hm : m.isScript = false) :
    m.declarationsOf x =
      m.generatedStatements.filter (x.text ∈ ·.topNames) ++
        (m.defaultStatements.map (·.relink m.links)).filter (x.text ∈ ·.topNames) := by
  rw [generatedStatements, List.filter_append, List.filter_append, filter_getters,
    filter_defaultStatements, filter_prologue, List.append_nil]
  cases x with
  | record n =>
    have hnone : m.helpers.filter (IntroducedName.record n = .helper ·) = [] :=
      List.filter_eq_nil_iff.mpr fun h _ => by simp
    rw [hnone, if_neg (by simp), List.append_nil]
    rfl
  | helper h =>
    rw [filter_requires _ (by simp), if_neg (by simp), List.append_nil, List.append_nil]
    refine congrArg _ (List.filter_congr fun g _ => ?_)
    simp [eq_comm]
  | defaultExport =>
    have hnone : m.helpers.filter (IntroducedName.defaultExport = .helper ·) = [] :=
      List.filter_eq_nil_iff.mpr fun h _ => by simp
    rw [hnone, filter_requires _ (by simp), if_pos rfl]
    exact map_lowered_of_not_isScript hm m.defaultStatements
  | _ =>
    rw [filter_requires _ (by simp), if_neg (by simp), List.append_nil, List.append_nil]
    exact (List.map_eq_nil_iff.mpr (List.filter_eq_nil_iff.mpr fun h _ => by simp)).symm

/-- **What declares an introduced name.** The declarations that lowering adds for it, and those of
the module. -/
theorem declarers_perm (hm : m.isScript = false) :
    (m.declarers x.text).Perm
      (m.declarationsOf x ++
        (m.userStatements.map (·.relink m.links)).filter (x.text ∈ ·.topNames)) := by
  have hown : (m.statements.map (·.relink m.links)).Perm
      (m.defaultStatements.map (·.relink m.links) ++ m.userStatements.map (·.relink m.links)) := by
    rw [← List.map_append]
    exact (m.statements_perm.trans List.perm_append_comm).map _
  have hfilter := (hown.filter (x.text ∈ ·.topNames)).append_left
    (m.generatedStatements.filter (x.text ∈ ·.topNames))
  rw [← List.filter_append, ← lower_body_eq hm, List.filter_append, ← List.append_assoc,
    ← declarationsOf_eq x hm] at hfilter
  exact hfilter

/-- Only lowering declares an introduced name, unless the module declares it, too. -/
theorem declarers_perm_declarationsOf_iff (hm : m.isScript = false) :
    (m.declarers x.text).Perm (m.declarationsOf x) ↔ x.text ∉ m.userNames := by
  have hperm := declarers_perm x hm
  rw [hperm.congr_left, ← List.append_nil (m.declarationsOf x), List.append_assoc,
    List.perm_append_left_iff, List.nil_append, List.perm_nil, List.filter_eq_nil_iff,
    mem_userNames]
  constructor
  · rintro hnone ⟨s, hs, hname⟩
    refine hnone _ (List.mem_map_of_mem hs) (decide_eq_true ?_)
    rw [topNames_relink]
    exact hname
  · intro hnone s' hs' hmem
    obtain ⟨s, hs, rfl⟩ := List.mem_map.mp hs'
    have hname := of_decide_eq_true hmem
    rw [topNames_relink] at hname
    exact hnone ⟨s, hs, hname⟩

theorem declaredByFactory_iff {name : String} :
    DeclaredByFactory m.lower.body name ↔
      name ∈ "arguments" :: factoryParameters ∨ m.declarers name ≠ [] := by
  refine or_congr_right ?_
  rw [declarers, ne_eq, List.filter_eq_nil_iff]
  simp

theorem declarationsOf_ne_nil {x : IntroducedName} (hx : m.Provides x)
    (hown : x.text ∉ factoryParameters) (hglobal : x ≠ .object) : m.declarationsOf x ≠ [] := by
  cases x with
  | require => exact absurd (by decide) hown
  | exports => exact absurd (by decide) hown
  | object => exact absurd rfl hglobal
  | helper h =>
    exact List.ne_nil_of_mem (List.mem_map_of_mem (List.mem_filter.mpr ⟨hx, decide_eq_true rfl⟩))
  | record n =>
    obtain ⟨init, hinit⟩ := hx
    refine List.ne_nil_of_mem (List.mem_filter.mpr ⟨hinit, decide_eq_true ?_⟩)
    exact List.mem_singleton_self _
  | defaultExport => exact fun hnone => hx (List.map_eq_nil_iff.mp hnone)

/-- An introduced name that only lowering declares, and is provided, is declared where it is meant
to be. -/
theorem scope_of_perm {x : IntroducedName} (hx : m.Provides x)
    (hdeclared : (m.declarers x.text).Perm (m.declarationsOf x)) :
    (if DeclaredByFactory m.lower.body x.text then some [0] else none) = x.scope := by
  by_cases hglobal : x = .object
  · obtain rfl := hglobal
    have hnone : m.declarers IntroducedName.object.text = [] := hdeclared.eq_nil
    rw [if_neg]
    · rfl
    · rw [declaredByFactory_iff, hnone]
      decide
  · have hscope : x.scope = some [0] := by
      cases x <;> first | rfl | exact absurd rfl hglobal
    rw [hscope, if_pos]
    rw [declaredByFactory_iff]
    by_cases hown : x.text ∈ factoryParameters
    · exact .inl (List.mem_cons_of_mem _ hown)
    · refine .inr fun hnone => declarationsOf_ne_nil hx hown hglobal ?_
      rw [hnone] at hdeclared
      exact hdeclared.symm.eq_nil

end Declarers

end Module

end ModuleBundler
