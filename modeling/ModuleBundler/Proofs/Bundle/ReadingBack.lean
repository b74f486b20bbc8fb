import ModuleBundler.Proofs.Bundle.Table
import ModuleBundler.Proofs.Loading
import ModuleBundler.Proofs.Module.Keys
import ModuleBundler.Proofs.Module.Plain
import ModuleBundler.Proofs.Module.Reading
import ModuleBundler.Proofs.Script.Printing
import ModuleBundler.Proofs.Script.Reader.Whole

/-!
The code of an asset is printed, and read back when the bundle is made. Lowering can make a tree
that no text is read as: where a field of a class is named like an import, an expression stands in
place of its name. So the code of such a module is never read back as what was lowered. Either it
is no script at all and the bundle fails, or the bundle holds another program.

The code of a plain module is read back as what was lowered. What is read of other code is left open
here: of operators, classes, templates and statements that open a scope.
-/

set_option autoImplicit false

namespace ModuleBundler

open Script

/-! ## Shapes of trees -/

namespace Script

/-- Two trees have nodes of the same kinds at the same positions. Names, texts and numbers may
differ, so this is less than being equal up to marks and forms of writing. -/
def Tree.SameShape (t t' : Tree) : Prop :=
  ∀ π, (t.at? π).map (·.2.ctorIdx) = (t'.at? π).map (·.2.ctorIdx)

theorem Node.isBareKey_eq {c : Category} (n : Node c) :
    n.isBareKey = (n.ctorIdx == (Node.bareKey .thisValue).ctorIdx) := by
  cases n <;> rfl

/-- Trees of one shape have keys in the same places. -/
theorem Tree.SameShape.isKeyed {t t' : Tree} (h : t.SameShape t') (ht : t.IsKeyed) :
    t'.IsKeyed := by
  intro π part' hpart'
  have hkind := h π
  rw [hpart', Option.map_some, Option.map_eq_some_iff] at hkind
  obtain ⟨part, hpart, hsame⟩ := hkind
  rw [Node.isBareKey_eq, ← hsame, ← Node.isBareKey_eq]
  exact ht π part hpart

/-- A tree stays as it is, or is given the marks of a text. -/
def Tree.Remarks (t t' : Tree) : Prop := t' = t ∨ t' = ⟨t.1, t.2.asWritten⟩

theorem Node.ctorIdx_asWritten {c : Category} (n : Node c) : n.asWritten.ctorIdx = n.ctorIdx := by
  cases n <;> rfl

theorem Node.remarks_children {c : Category} (n : Node c) :
    List.Forall₂ Tree.Remarks n.children n.asWritten.children := by
  have hsame : ∀ ts, List.Forall₂ Tree.Remarks ts ts := fun ts =>
    List.forall₂_same.mpr fun _ _ => .inl rfl
  cases n with
  | cons | index | call | keyValue => exact .cons (.inr rfl) (.cons (.inr rfl) .nil)
  -- parameters and what a variable is declared as have no marks
  | function | declarator => exact .cons (.inl rfl) (.cons (.inr rfl) .nil)
  | present | array | object | functionValue | unary | member | plainElement | expressionStatement
  | returnStatement | variableDeclaration => exact .cons (.inr rfl) .nil
  | _ => exact hsame _

/-- Marks are no part of the shape. -/
theorem Tree.Remarks.sameShape {t t' : Tree} (h : t.Remarks t') : t'.SameShape t := by
  intro π
  induction π generalizing t t' with
  | nil =>
    rcases h with rfl | rfl
    · rfl
    · exact congrArg some t.2.ctorIdx_asWritten
  | cons i π ih =>
    rcases h with rfl | rfl
    · rfl
    have hchildren := t.2.remarks_children
    rw [at?_cons, at?_cons, child?, child?]
    by_cases hi : i < t.2.children.length
    · have hi' : i < t.2.asWritten.children.length := hchildren.length_eq ▸ hi
      rw [List.getElem?_eq_getElem hi, List.getElem?_eq_getElem hi']
      exact ih (hchildren.get hi hi')
    · have hi' : t.2.asWritten.children.length ≤ i := hchildren.length_eq ▸ Nat.le_of_not_lt hi
      rw [List.getElem?_eq_none (Nat.le_of_not_lt hi), List.getElem?_eq_none hi']

theorem Program.sameShape_asWritten (p : Program) : p.asWritten.tree.SameShape p.tree :=
  Tree.Remarks.sameShape (.inr (congrArg (Sigma.mk _) (Node.asWritten_ofList p.body).symm))

/-- In a script that is read, keys are keys. -/
theorem Program.isKeyed_of_ofText {text : List Char} {p : Program}
    (h : Program.ofText text = .ok p) : p.tree.IsKeyed :=
  Tree.isKeyed_ofList.mpr fun s hs => (Program.isWritten_of_ofText h s hs).isKeyed

end Script

theorem Module.isKeyed_tree_lower_iff {text : List Char} {m : Module}
    (h : Module.ofText text = .ok m) :
    m.lower.tree.IsKeyed ↔ ∀ s ∈ m.statements, ¬ m.NamesFieldLikeImport ⟨_, s⟩ := by
  rw [← isKeyed_lower_iff fun s hs => ((isWritten_of_ofText h).statements s hs).isKeyed]
  exact Tree.isKeyed_ofList

/-! ## Bundles -/

namespace Bundle

/-- The code of an asset is read back as the lowered module, as far as its shape goes. -/
def Embeds (a : Asset) (m : Module) : Prop := ∃ p, ReadsAs a p ∧ p.tree.SameShape m.lower.tree

theorem Embeds.isKeyed {a : Asset} {m : Module} (h : Embeds a m) : m.lower.tree.IsKeyed := by
  obtain ⟨p, hp, hshape⟩ := h
  exact hshape.isKeyed (Program.isKeyed_of_ofText hp)

/-- The code of a plain module is read back as what was printed. -/
theorem readsAs_asWritten {a : Asset} {m : Module}
    (hcode : a.code = String.ofList (m.lower.print .compact)) (hm : m.IsPlain) :
    ReadsAs a m.lower.asWritten := by
  rw [ReadsAs, hcode, String.toList_ofList]
  exact hm.lower.ofText_print .compact

/-- What becomes of a module after it was built: how far its code is a script, and what a bundle
holds of it. -/
structure RendersAsRead (a : Asset) (m : Module) : Prop where
  /-- The code is the text of the lowered module. -/
  code : a.code = String.ofList (m.lower.print .compact)
  /-- A bundle with the module is made exactly when all codes are read, and holds what was read. -/
  rendered : ∀ assets text, a ∈ assets → (render assets = .ok text ↔
    ∃ programs, List.Forall₂ ReadsAs assets programs ∧ text = textOf assets programs)
  /-- The lowered module is of a form that texts can have exactly where no field is named like an
  import. -/
  keyed : m.lower.tree.IsKeyed ↔ ∀ s ∈ m.statements, ¬ m.NamesFieldLikeImport ⟨_, s⟩
  /-- What is read back is of this form. -/
  readBack : ∀ p, ReadsAs a p → p.tree.IsKeyed
  /-- A field that is named like an import keeps the module from being embedded. -/
  embeds : Embeds a m → ∀ s ∈ m.statements, ¬ m.NamesFieldLikeImport ⟨_, s⟩
  /-- A plain module is embedded as it was lowered. -/
  plain : m.IsPlain → ReadsAs a m.lower.asWritten ∧ Embeds a m
  /-- A plain module keeps no bundle from being made. -/
  bundled : m.IsPlain → ∀ assets,
    (∃ text, render (a :: assets) = .ok text) ↔ ∃ text, render assets = .ok text

theorem rendersAsRead_of_code {text : List Char} {m : Module} {a : Asset}
    (hm : Module.ofText text = .ok m)
    (hcode : a.code = String.ofList (m.lower.print .compact)) : RendersAsRead a m where
  code := hcode
  rendered _ _ _ := render_eq_ok_iff
  keyed := Module.isKeyed_tree_lower_iff hm
  readBack _ := Program.isKeyed_of_ofText
  embeds hembeds := (Module.isKeyed_tree_lower_iff hm).mp hembeds.isKeyed
  plain hplain :=
    have hreads := readsAs_asWritten hcode hplain
    ⟨hreads, _, hreads, m.lower.sameShape_asWritten⟩
  bundled hplain assets := by
    rw [exists_render_iff, exists_render_iff, List.forall_mem_cons]
    exact and_iff_right ⟨_, readsAs_asWritten hcode hplain⟩

/-- **What is built is embedded as it was lowered only where no field of a class is named like an
import.** With such a field the lowered module is of a form that no text has, so that there is no
bundle, or it holds another program. What is plain is embedded as it was lowered. -/
theorem rendersAsRead_of_build {t : FileTree} {rules : List Rule} {p : Path} {id : Nat} {a : Asset}
    (h : Asset.build t rules p id = .ok a) :
    ∃ source text m, t.read p = .ok source ∧ transform rules p source = .ok text ∧
      Module.ofText text.toList = .ok m ∧ RendersAsRead a m := by
  unfold Asset.build at h
  cases hcompile : compile t rules p with
  | error e =>
    rw [hcompile] at h
    cases h
  | ok compiled =>
    rw [hcompile] at h
    cases h
    obtain ⟨source, text, m, hread, htransform, hm, rfl⟩ := compile_eq_ok_iff.mp hcompile
    exact ⟨source, text, m, hread, htransform, hm, rendersAsRead_of_code hm rfl⟩

/-- **Data is embedded as it was loaded.** Of a file whose last loader is one for data there is an
asset whose code is read back as one export of the data, lowered, and no bundle fails for it. -/
theorem embeds_of_builtin {t : FileTree} {rules : List Rule} {p : Path} {name : String}
    {last : Loader} (hname : Loader.builtin? name = some last)
    (hlast : (loadersFor rules p).getLast? = some last) {id : Nat} {a : Asset}
    (h : Asset.build t rules p id = .ok a) :
    ∃ v : Json.Value, v.IsFinite ∧ RendersAsRead a ⟨none, [.exportDefault v.expression]⟩ ∧
      Embeds a ⟨none, [.exportDefault v.expression]⟩ := by
  obtain ⟨source, text, m, hread, htransform, hm, hrenders⟩ := rendersAsRead_of_build h
  rw [transform, ← List.dropLast_append_getLast? last hlast] at htransform
  obtain ⟨_, _, _, hload⟩ := exists_load_of_runLoaders _ htransform
  obtain ⟨v, hv, hexports⟩ := exists_exportsAlone_of_builtin hname hload
  obtain rfl : m = _ := Except.ok.inj (hm.symm.trans hexports)
  exact ⟨v, hv, hrenders, (hrenders.plain (Module.isPlain_exportDefault hv)).2⟩

/-- A class with a field that is named like an import, and the module it is imported from. -/
def fieldTree : FileTree where
  workingDirectory := [['p']]
  entries :=
    [([['p']], .directory),
      ([['p'], ['a']], .file (.text Module.fieldSource)),
      ([['p'], ['x']], .file (.text "export const a = 1;"))]

/-- The module with the field is built, and it is not embedded. -/
theorem not_embeds_fieldTree :
    ∃ a m, Asset.build fieldTree [] (.ofString "./a") 0 = .ok a ∧
      Module.ofText Module.fieldSource.toList = .ok m ∧
      RendersAsRead a m ∧ ¬ Embeds a m := by
  have hcheck : (Asset.build fieldTree [] (.ofString "./a") 0).toOption.any (fun _ => true) =
      true := by
    decide +kernel
  obtain ⟨a, ha, -⟩ := exists_ok_of_any hcheck
  obtain ⟨source, text, m, hread, htransform, hm, hrenders⟩ := rendersAsRead_of_build ha
  have hsource : fieldTree.read (.ofString "./a") = .ok Module.fieldSource := by decide +kernel
  rw [hsource] at hread
  cases hread
  cases htransform
  obtain ⟨m', hm', -, s, hs, hfield⟩ := Module.exists_namesField_fieldSource
  obtain rfl : m = m' := Except.ok.inj (hm.symm.trans hm')
  exact ⟨a, m, ha, hm, hrenders, fun hembeds => hrenders.embeds hembeds s hs hfield⟩

/-- Its graph is resolved, and there is no bundle of it. -/
theorem exists_render_eq_error_fieldTree :
    ∃ assets e, Graph.resolve fieldTree [] Resolver.relative (.ofString "./a") = .ok assets ∧
      render assets = .error e ∧ e.message = "pumice-module-0.js:7:22: Unexpected token `[`. " ++
        "Expected * for generator, private key, identifier or async" := by
  have hcheck : (Graph.resolve fieldTree [] Resolver.relative (.ofString "./a")).toOption.any
      (fun assets => decide ((render assets).mapError BuildError.message =
        .error ("pumice-module-0.js:7:22: Unexpected token `[`. " ++
          "Expected * for generator, private key, identifier or async"))) = true := by
    decide +kernel
  obtain ⟨assets, hassets, hpassed⟩ := exists_ok_of_any hcheck
  have hrender := of_decide_eq_true hpassed
  cases hresult : render assets with
  | ok text =>
    rw [hresult] at hrender
    cases hrender
  | error e =>
    rw [hresult] at hrender
    exact ⟨assets, e, hassets, hresult, Except.error.inj hrender⟩

end Bundle

end ModuleBundler
