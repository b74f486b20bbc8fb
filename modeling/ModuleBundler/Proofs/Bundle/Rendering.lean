import ModuleBundler.Proofs.Bundle.Table

/-!
What is printed as a bundle. It is the loader whose two slots are filled: with the number zero, and
with the table that has one entry for each asset, in the order of the assets. The table is put in
after the loader was read and is not looked at again, so names in the code of an asset stay what
they are, those of the slots among them. There is no bundle exactly when some code is no script,
and then the first of these is reported.
-/

set_option autoImplicit false

namespace ModuleBundler.Bundle

open Script

/-! ## The first failure -/

/-- An asset has no entry exactly when its code is no script, and what is reported is the fault in
the code. -/
theorem tableEntry_eq_error_iff {a : Asset} {e : BuildError} :
    tableEntry a = .error e ↔ ∃ fault, Program.ofText a.code.toList = .error fault ∧
      e = .syntaxError (codePath a.id) fault := by
  unfold tableEntry factory
  cases hread : Program.ofText a.code.toList with
  | error fault =>
    simp only [bind, Except.bind, Except.error.injEq, exists_eq_left']
    exact eq_comm
  | ok p =>
    rw [literalOf_mappingData]
    simp [bind, Except.bind, pure, Except.pure]

/-- There is no bundle exactly when the code of an asset is no script; the first such asset is
reported. -/
theorem ofAssets_eq_error_iff {assets : List Asset} {e : BuildError} :
    ofAssets assets = .error e ↔ ∃ before a after fault, assets = before ++ a :: after ∧
      (∀ b ∈ before, ∃ p, ReadsAs b p) ∧ Program.ofText a.code.toList = .error fault ∧
      e = .syntaxError (codePath a.id) fault := by
  have hentries : ofAssets assets = .error e ↔ assets.mapM tableEntry = .error e := by
    cases hentries : assets.mapM tableEntry with
    | error e' => rw [ofAssets_of_error hentries, Except.error.injEq, Except.error.injEq]
    | ok entries =>
      rw [ofAssets_of_entries hentries]
      exact iff_of_false nofun nofun
  have hread : ∀ b, (∃ entry, tableEntry b = .ok entry) ↔ ∃ p, ReadsAs b p := fun b =>
    ⟨fun ⟨entry, h⟩ => (tableEntry_eq_ok_iff.mp h).imp fun p hp => hp.1,
      fun ⟨p, hp⟩ => ⟨_, tableEntry_eq_ok_iff.mpr ⟨p, hp, rfl⟩⟩⟩
  rw [hentries, mapM_eq_error_iff]
  simp only [hread, tableEntry_eq_error_iff]
  constructor
  · rintro ⟨before, a, after, hsplit, hbefore, fault, hfault, he⟩
    exact ⟨before, a, after, fault, hsplit, hbefore, hfault, he⟩
  · rintro ⟨before, a, after, fault, hsplit, hbefore, hfault, he⟩
    exact ⟨before, a, after, hsplit, hbefore, fault, hfault, he⟩

/-! ## Bundles -/

/-- What becomes of assets: the program that is printed as their bundle, or the failure. -/
structure RendersAsFilled (assets : List Asset) : Prop where
  /-- The text of the loader is read as the loader with names in its slots. -/
  read : Program.ofText loaderText.toList = .ok (program (used modulesSlot) (used entrySlot))
  /-- Each name of a slot stands there once, where the loader has its slot. -/
  slots : ∀ π part, (program (used modulesSlot) (used entrySlot)).tree.at? π = some part →
    (namesSlot part = true ↔ π = tablePosition ∨ π = entryPosition)
  /-- In the loader the table and the number stand at these positions. -/
  places : ∀ table entry, (program table entry).tree.at? tablePosition = some ⟨_, table⟩ ∧
    (program table entry).tree.at? entryPosition = some ⟨_, entry⟩
  /-- The bundle is the same loader with the table and the number zero in its slots. The table has
  for each asset, in order, its number with the function whose body is its code as it was read, and
  with its mapping, in order. -/
  filled : ∀ p, ofAssets assets = .ok p ↔ ∃ programs, List.Forall₂ ReadsAs assets programs ∧
    p = program (.object (.ofList (List.zipWith entryOf assets programs))) (Build.num 0)
  /-- This is what is printed. -/
  printed : ∀ text, render assets = .ok text ↔
    ∃ p, ofAssets assets = .ok p ∧ text = banner ++ String.ofList (p.print .spacious)
  /-- There is no bundle exactly when the code of an asset is no script; the first such asset is
  reported. -/
  refused : ∀ e, render assets = .error e ↔ ∃ before a after fault,
    assets = before ++ a :: after ∧ (∀ b ∈ before, ∃ p, ReadsAs b p) ∧
      Program.ofText a.code.toList = .error fault ∧ e = .syntaxError (codePath a.id) fault

/-- **A bundle is the loader filled with its assets**, whatever names their code has, and it is
refused for the first code that is no script. -/
theorem rendersAsFilled (assets : List Asset) : RendersAsFilled assets where
  read := ofText_loaderText
  slots _ _ hπ := namesSlot_iff hπ
  places table entry := ⟨at?_tablePosition table entry, at?_entryPosition table entry⟩
  filled p := ofAssets_eq_ok_iff
  printed text := by
    unfold render
    cases ofAssets assets with
    | error e => exact iff_of_false nofun (fun ⟨p, hp, _⟩ => by cases hp)
    | ok p => simp [bind, Except.bind, pure, Except.pure, eq_comm]
  refused e := by
    rw [← ofAssets_eq_error_iff]
    unfold render
    cases ofAssets assets with
    | error e' => simp [bind, Except.bind]
    | ok p => exact iff_of_false nofun nofun

end ModuleBundler.Bundle
