import Mathlib.Data.List.Forall2
import ModuleBundler.Bundle.Render
import ModuleBundler.Proofs.Bundle.Loader
import ModuleBundler.Proofs.Module.Factory

/-!
When there is a bundle of assets, and what it holds. Mappings always have literals, since they
hold texts and integers alone, so the table of modules fails only where the code of an asset is no
script. Otherwise it holds, for each asset in order, the function whose body is what was read.
-/

set_option autoImplicit false

namespace ModuleBundler.Bundle

open Script

/-! ## Mappings as literals -/

/-- The literal of a mapping: its specifiers with their numbers, in order. -/
def mappingLiteral (m : Mapping) : Expr :=
  .object (.ofList (m.map fun e =>
    .keyValue (.stringKey (.ofValue e.1)) (Data.integerLiteral e.2)))

theorem literal_ofEntries (m : Mapping) (pending : Option Key) :
    (Data.ofEntries (m.map fun (s, id) => (.text s, .integer id))).literal pending =
      .ok (m.map fun e => .keyValue (.stringKey (.ofValue e.1)) (Data.integerLiteral e.2)) := by
  induction m generalizing pending with
  | nil => rfl
  | cons e rest ih =>
    change ((Data.ofEntries _).literal none >>= fun properties =>
      (.ok (_ :: properties) : Except DataError (List Property))) = _
    rw [ih none]
    rfl

/-- Every mapping has a literal. -/
theorem literalOf_mappingData (m : Mapping) :
    literalOf (mappingData m) = .ok (mappingLiteral m) := by
  have hliteral : (mappingData m).literal = .ok (mappingLiteral m) := by
    change ((Data.ofEntries _).literal none >>= fun properties =>
      (.ok (.object (.ofList properties)) : Except DataError Expr)) = _
    rw [literal_ofEntries m none]
    rfl
  rw [literalOf, hliteral]

/-! ## Entries of the table -/

/-- What is read of the code of an asset. -/
def ReadsAs (a : Asset) (p : Program) : Prop := Program.ofText a.code.toList = .ok p

/-- The entry of an asset whose code is read as a program: the function that the program is the
body of, and the mapping. -/
def entryOf (a : Asset) (p : Program) : Property :=
  .keyValue (.numberKey (.ofNat a.id))
    (.array (.ofList [.present (.plainElement (Build.lambda factoryParameters p.body)),
      .present (.plainElement (mappingLiteral a.mapping))]) false)

/-- An asset has an entry exactly when its code is a script. -/
theorem tableEntry_eq_ok_iff {a : Asset} {entry : Property} :
    tableEntry a = .ok entry ↔ ∃ p, ReadsAs a p ∧ entry = entryOf a p := by
  unfold tableEntry factory ReadsAs
  cases hread : Program.ofText a.code.toList with
  | error fault => simp [bind, Except.bind]
  | ok p =>
    rw [literalOf_mappingData]
    simp only [bind, Except.bind, pure, Except.pure, Except.ok.injEq, exists_eq_left']
    exact eq_comm

theorem mapM_tableEntry_eq_ok_iff {assets : List Asset} {entries : List Property} :
    assets.mapM tableEntry = .ok entries ↔
      ∃ programs, List.Forall₂ ReadsAs assets programs ∧
        entries = List.zipWith entryOf assets programs := by
  induction assets generalizing entries with
  | nil =>
    constructor
    · intro h
      cases h
      exact ⟨[], .nil, rfl⟩
    · rintro ⟨programs, hreads, rfl⟩
      cases hreads
      rfl
  | cons a rest ih =>
    rw [List.mapM_cons]
    constructor
    · intro h
      cases hentry : tableEntry a with
      | error e =>
        rw [hentry] at h
        cases h
      | ok entry =>
        cases hrest : rest.mapM tableEntry with
        | error e =>
          rw [hentry, hrest] at h
          cases h
        | ok others =>
          rw [hentry, hrest] at h
          cases h
          obtain ⟨p, hp, rfl⟩ := tableEntry_eq_ok_iff.mp hentry
          obtain ⟨programs, hprograms, rfl⟩ := ih.mp hrest
          exact ⟨p :: programs, .cons hp hprograms, rfl⟩
    · rintro ⟨programs, hreads, rfl⟩
      cases hreads with
      | cons hp hprograms =>
        rw [tableEntry_eq_ok_iff.mpr ⟨_, hp, rfl⟩, ih.mpr ⟨_, hprograms, rfl⟩]
        rfl

/-! ## Bundles -/

/-- The text of the bundle of assets whose codes are read as programs. -/
def textOf (assets : List Asset) (programs : List Program) : String :=
  banner ++ String.ofList ((program (.object (.ofList (List.zipWith entryOf assets programs)))
    (Data.integerLiteral 0)).print .spacious)

theorem ok_bind {α β : Type} (a : α) (f : α → Except BuildError β) : (.ok a >>= f) = f a := rfl

/-- The bundle of assets whose entries are made. -/
theorem ofAssets_of_entries {assets : List Asset} {entries : List Property}
    (h : assets.mapM tableEntry = .ok entries) :
    ofAssets assets = .ok (program (.object (.ofList entries)) (Data.integerLiteral 0)) := by
  have htable : table assets = .ok (.object (.ofList entries)) := by
    rw [table, h]
    rfl
  have hzero : literalOf (.integer 0) = .ok (Data.integerLiteral 0) := rfl
  -- by evaluation the text of the loader would be read
  rw [ofAssets, htable, ok_bind, hzero, ok_bind, instantiate_eq]

/-- There is no bundle of assets when one of the entries is not made. -/
theorem ofAssets_of_error {assets : List Asset} {e : BuildError}
    (h : assets.mapM tableEntry = .error e) : ofAssets assets = .error e := by
  rw [ofAssets, table, h]
  rfl

/-- There is a bundle exactly when the code of each asset is read as a script, and it is the loader
with the entry of each asset, in order. -/
theorem ofAssets_eq_ok_iff {assets : List Asset} {p : Program} :
    ofAssets assets = .ok p ↔ ∃ programs, List.Forall₂ ReadsAs assets programs ∧
      p = program (.object (.ofList (List.zipWith entryOf assets programs)))
        (Data.integerLiteral 0) := by
  cases hentries : assets.mapM tableEntry with
  | error e =>
    rw [ofAssets_of_error hentries]
    refine iff_of_false nofun ?_
    rintro ⟨programs, hreads, -⟩
    rw [mapM_tableEntry_eq_ok_iff.mpr ⟨programs, hreads, rfl⟩] at hentries
    cases hentries
  | ok entries =>
    obtain ⟨programs, hreads, rfl⟩ := mapM_tableEntry_eq_ok_iff.mp hentries
    rw [ofAssets_of_entries hentries, Except.ok.injEq]
    constructor
    · rintro rfl
      exact ⟨programs, hreads, rfl⟩
    · rintro ⟨programs', hreads', rfl⟩
      rw [mapM_tableEntry_eq_ok_iff.mpr ⟨programs', hreads', rfl⟩, Except.ok.injEq] at hentries
      rw [hentries]

/-- There is a bundle exactly when the code of each asset is read as a script, and it holds for
each asset the function with the body that was read. -/
theorem render_eq_ok_iff {assets : List Asset} {text : String} :
    render assets = .ok text ↔
      ∃ programs, List.Forall₂ ReadsAs assets programs ∧ text = textOf assets programs := by
  unfold render
  cases hbundle : ofAssets assets with
  | error e =>
    refine iff_of_false (fun h => by cases h) ?_
    rintro ⟨programs, hreads, -⟩
    rw [ofAssets_eq_ok_iff.mpr ⟨programs, hreads, rfl⟩] at hbundle
    cases hbundle
  | ok p =>
    obtain ⟨programs, hreads, rfl⟩ := ofAssets_eq_ok_iff.mp hbundle
    constructor
    · intro h
      cases h
      exact ⟨programs, hreads, rfl⟩
    · rintro ⟨programs', hreads', rfl⟩
      rw [ofAssets_eq_ok_iff.mpr ⟨programs', hreads', rfl⟩, Except.ok.injEq] at hbundle
      change Except.ok (banner ++ _) = _
      rw [textOf, hbundle]

/-- A bundle fails exactly when the code of one of the assets is no script. -/
theorem exists_render_iff {assets : List Asset} :
    (∃ text, render assets = .ok text) ↔ ∀ a ∈ assets, ∃ p, ReadsAs a p := by
  constructor
  · rintro ⟨text, htext⟩ a ha
    obtain ⟨programs, hreads, -⟩ := render_eq_ok_iff.mp htext
    obtain ⟨i, hi, rfl⟩ := List.mem_iff_getElem.mp ha
    exact ⟨_, hreads.get hi (hreads.length_eq ▸ hi)⟩
  · intro hreads
    have hprograms : ∃ programs, List.Forall₂ ReadsAs assets programs := by
      induction assets with
      | nil => exact ⟨[], .nil⟩
      | cons a rest ih =>
        rw [List.forall_mem_cons] at hreads
        obtain ⟨p, hp⟩ := hreads.1
        obtain ⟨programs, hrest⟩ := ih hreads.2
        exact ⟨p :: programs, .cons hp hrest⟩
    obtain ⟨programs, hprograms⟩ := hprograms
    exact ⟨_, render_eq_ok_iff.mpr ⟨programs, hprograms, rfl⟩⟩

end ModuleBundler.Bundle
