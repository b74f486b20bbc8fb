import Mathlib.Data.List.Forall2
import ModuleBundler.Proofs.Graph.Numbering
import ModuleBundler.Proofs.Module.RequireCalls

/-!
The dependencies of a lowered module. The specifiers of a module are found by one walk over its
items, and the calls of `require` are made by another; here they are compared. The calls that
lowering makes all stand before the statements of the module, so the two are told apart by where
they stand: the arguments of the calls in the part before are the specifiers, and the statements
have no call that they did not have.
-/

set_option autoImplicit false

namespace ModuleBundler

open Script

/-! ## Calls of each item -/

section Items

open Script.Node

theorem requireArguments_prologue (m : Module) : requireArguments m.prologue = [] := by
  rw [requireArguments, List.flatMap_eq_nil_iff]
  intro s hs
  rw [Module.prologue, List.mem_append, List.mem_map] at hs
  rcases hs with hs | ⟨helper, -, rfl⟩
  · rcases List.mem_pair.mp hs with rfl | rfl
    · simp
    · simp [defineExport]
  · exact requireArguments_declaration helper

/-- What a getter gives makes no call. -/
theorem ModuleItem.requireArguments_getter {item : ModuleItem} {record : String}
    {g : String × Expr} (hg : g ∈ (item.contribution record).getters) :
    g.2.requireArguments = [] := by
  rcases getter_cases hg with ⟨origin, name, hvalue⟩ | ⟨imported, hvalue⟩
  · rw [hvalue]
    exact requireArguments_eq _
  · rw [hvalue, lookup]
    simp

/-- Each item loads what it names. -/
theorem ModuleItem.requireArguments_requires (item : ModuleItem) (record : String) :
    requireArguments (item.contribution record).requires = item.specifier?.toList := by
  cases item with
  | «import» source clauses =>
    cases clauses with
    | nil => simp [requireArguments, contribution, specifier?]
    | cons clause rest =>
      simp [requireArguments, contribution, specifier?, requireArguments_requireThrough]
  | exportNames source clauses =>
    cases source <;> simp [requireArguments, contribution, specifier?]
  | exportAll source =>
    simp [requireArguments, contribution, specifier?, InteropHelper.name]
  | _ => rfl

theorem requireArguments_requires (m : Module) : requireArguments m.requires = m.specifiers := by
  obtain ⟨interpreter, items⟩ := m
  rw [Module.requires, Module.contributions, Module.specifiers]
  generalize 0 = next
  induction items generalizing next with
  | nil => rfl
  | cons item rest ih =>
    rw [contributions_cons, List.flatMap_cons, requireArguments_append,
      item.requireArguments_requires, ih]
    cases h : item.specifier? <;> simp [h]

end Items

/-! ## Lowered modules -/

namespace Module

theorem readsRecords_links (m : Module) : m.links.ReadsRecords := by
  intro binding hbinding
  obtain ⟨before, _, _, _, _, clause, _, _, hvalue⟩ :=
    mem_bindings.mp (List.mem_reverse.mp hbinding)
  exact ⟨clause, _, hvalue⟩

/-- A lowered module consists of a generated part and of its own statements. The generated part
calls `require` with the specifiers of the module, in order, and the statements have no calls that
they did not have. -/
structure SplitsInto (m : Module) (generated own : List Statement) : Prop where
  body : m.lower.body = generated ++ own
  loads : requireArguments generated = m.specifiers
  own : List.Forall₂ (fun s s' => s'.requireArguments.Sublist s.requireArguments) m.statements own

theorem requireArguments_getters (m : Module) :
    requireArguments (m.getters.map fun g =>
      defineExport g.1 (getterOf (g.2.relink m.links))) = [] := by
  rw [requireArguments, List.flatMap_eq_nil_iff]
  intro s hs
  obtain ⟨g, hg, rfl⟩ := List.mem_map.mp hs
  obtain ⟨c, hc, hgc⟩ := List.mem_flatMap.mp hg
  obtain ⟨before, item, after, -, rfl⟩ := mem_contributions.mp hc
  have hvalue := requireArguments_relinkAs ⟨_, g.2⟩ .plain m.readsRecords_links
  rw [Node.relinkAs_plain, item.requireArguments_getter hgc, List.sublist_nil] at hvalue
  rw [requireArguments_defineExport, hvalue]

theorem exists_splitsInto (m : Module) : ∃ generated own, m.SplitsInto generated own := by
  cases hm : m.isScript with
  | true =>
    obtain ⟨hstatements, hspecifiers⟩ := statements_of_isScript hm
    refine ⟨[], m.statements, ?_, ?_, ?_⟩
    · rw [lower, hm, List.nil_append]
      exact hstatements
    · rw [hspecifiers]
      rfl
    · rw [List.forall₂_same]
      intro s _
      exact List.Sublist.refl _
  | false =>
    refine ⟨m.prologue ++ m.getters.map (fun g =>
      defineExport g.1 (getterOf (g.2.relink m.links))) ++ m.requires,
      m.statements.map (·.relink m.links), ?_, ?_, ?_⟩
    · rw [lower, hm]
      exact m.loweredBody_eq
    · rw [requireArguments_append, requireArguments_append, requireArguments_prologue,
        requireArguments_getters, requireArguments_requires]
      rfl
    · rw [List.forall₂_map_right_iff, List.forall₂_same]
      intro s _
      have hsublist := requireArguments_relinkAs ⟨_, s⟩ .plain m.readsRecords_links
      rw [Node.relinkAs_plain] at hsublist
      exact hsublist

end Module

/-! ## Assets -/

theorem compile_eq_ok_iff {t : FileTree} {rules : List Rule} {p : Path} {compiled : Compiled} :
    compile t rules p = .ok compiled ↔
      ∃ source text m, t.read p = .ok source ∧ transform rules p source = .ok text ∧
        Module.ofText text.toList = .ok m ∧
        compiled = ⟨String.ofList (m.lower.print .compact), m.specifiers⟩ := by
  unfold compile compileText
  cases t.read p with
  | error cause => simp
  | ok source =>
    cases htext : transform rules p source with
    | error e => simp [htext, bind, Except.bind]
    | ok text =>
      cases hm : Module.ofText text.toList with
      | error fault => simp [htext, hm, bind, Except.bind]
      | ok m => simp [htext, hm, bind, Except.bind, eq_comm]

/-- **The calls of `require` that lowering makes are those of the dependency analysis.** Their
arguments are the specifiers of the module, in order and repetitions included. So each of them is
mapped by the asset of the module, wherever the asset comes from. -/
theorem specifiers_eq_requireArguments :
    (∀ m : Module, ∃ generated own, m.SplitsInto generated own) ∧
    ∀ (t : FileTree) (rules : List Rule) (resolver : Resolver) (entry : Path)
      (assets : List Asset), Graph.resolve t rules resolver entry = .ok assets →
      ∀ a ∈ assets, ∃ source text m, t.read a.path = .ok source ∧
        transform rules a.path source = .ok text ∧ Module.ofText text.toList = .ok m ∧
        a.code = String.ofList (m.lower.print .compact) ∧
        ∃ generated own, m.SplitsInto generated own ∧
          ∀ s ∈ requireArguments generated, s ∈ a.mapping.keys := by
  refine ⟨Module.exists_splitsInto, ?_⟩
  intro t rules resolver entry assets h a ha
  obtain ⟨p, -, hcomplete⟩ := Graph.complete_of_resolve h
  have ha' : a ∈ (Graph.Stage.mk assets [] (assets.map (·.path))).modules :=
    List.mem_append_left _ ha
  obtain ⟨source, text, m, hread, htransform, hm, hcompiled⟩ :=
    compile_eq_ok_iff.mp (hcomplete.compiled a ha')
  obtain ⟨hcode, hspecifiers⟩ := Compiled.mk.inj hcompiled
  obtain ⟨generated, own, hsplit⟩ := m.exists_splitsInto
  refine ⟨source, text, m, hread, htransform, hm, hcode, generated, own, hsplit, ?_⟩
  intro s hs
  rw [hcomplete.keys_mapping ha, List.mem_eraseDups, hspecifiers, ← hsplit.loads]
  exact hs

/-- The files of a cycle of modules that import each other, and themselves. -/
theorem requireArguments_cyclicTree :
    ∃ assets, Graph.resolve Graph.cyclicTree [] Resolver.relative (.ofString "./a") = .ok assets ∧
      assets.length = 3 ∧
      ∀ a ∈ assets, ∃ source text m, Graph.cyclicTree.read a.path = .ok source ∧
        transform [] a.path source = .ok text ∧ Module.ofText text.toList = .ok m ∧
        a.code = String.ofList (m.lower.print .compact) ∧
        ∃ generated own, m.SplitsInto generated own ∧
          ∀ s ∈ requireArguments generated, s ∈ a.mapping.keys := by
  obtain ⟨assets, h, hmappings⟩ := Graph.exists_resolve_cyclicTree
  have hlength : assets.length = 3 := by
    rw [← List.length_map, hmappings]
    rfl
  exact ⟨assets, h, hlength, specifiers_eq_requireArguments.2 _ _ _ _ assets h⟩

end ModuleBundler
