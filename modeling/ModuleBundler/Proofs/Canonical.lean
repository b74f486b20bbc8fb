import ModuleBundler.Resolution

/-!
What looking up a path gives, said about the steps that it takes. Canonicalizing answers with the
path of an entry, so a tree has at most one canonical path more than it has entries: the root's.
That is what bounds every search through a tree.
-/

set_option autoImplicit false

namespace ModuleBundler

namespace FileTree

/-- A path is found at the location that it leads to, if something stands there. -/
theorem find_eq_ok_iff {t : FileTree} {p : Path} {l : Location} {e : Entry} :
    t.find p = .ok (l, e) ↔ t.locate p = .ok l ∧ t.entry? l = some e := by
  unfold find
  cases hl : t.locate p with
  | error cause => simp
  | ok l' =>
    dsimp only
    cases he : t.entry? l' with
    | none =>
      simp only [reduceCtorEq, Except.ok.injEq, false_iff, not_and]
      rintro rfl
      simp [he]
    | some e' =>
      simp only [Except.ok.injEq, Prod.mk.injEq]
      constructor
      · rintro ⟨rfl, rfl⟩
        exact ⟨rfl, he⟩
      · rintro ⟨rfl, he'⟩
        rw [he, Option.some.injEq] at he'
        exact ⟨rfl, he'⟩

/-- A path is looked up where its pieces lead to, if something stands there and where it starts. -/
theorem lookup_eq_ok_iff {t : FileTree} {p : Path} {l : Location} :
    t.lookup p = .ok l ↔ checkName p = .ok () ∧ (∃ e, t.entry? (t.origin p) = some e) ∧
      t.lookupSteps (t.origin p) (Path.splitPieces p.text) = .ok l ∧
        ∃ e, t.entry? l = some e := by
  unfold lookup
  cases checkName p with
  | error cause => simp
  | ok _ =>
    cases t.entry? (t.origin p) with
    | none => simp
    | some start =>
      cases t.lookupSteps (t.origin p) (Path.splitPieces p.text) with
      | error cause => simp
      | ok l' =>
        cases hl : t.entry? l' with
        | none =>
          simp only [Option.isNone_some, hl, Option.isSome_none, Bool.false_eq_true, if_false,
            reduceCtorEq, Except.ok.injEq, false_iff, not_and]
          rintro - - rfl
          simp [hl]
        | some e =>
          simp only [Option.isNone_some, hl, Option.isSome_some, Bool.false_eq_true, if_false,
            if_true, Except.ok.injEq, true_and, Option.some.injEq, exists_eq', iff_self_and]
          rintro rfl
          exact ⟨e, hl⟩

/-- Canonicalizing gives the path of the location that a path is looked up at. -/
theorem canonicalize_eq_ok_iff {t : FileTree} {p q : Path} :
    t.canonicalize p = .ok q ↔ ∃ l, t.lookup p = .ok l ∧ q = pathOf l := by
  unfold canonicalize
  cases t.lookup p with
  | error cause => simp [Except.map]
  | ok l => simp [Except.map, eq_comm]

/-- What stands at a location is an entry of the tree, or the root. -/
theorem mem_of_entry? {t : FileTree} {l : Location} {e : Entry} (h : t.entry? l = some e) :
    l = [] ∨ (l, e) ∈ t.entries := by
  unfold entry? at h
  by_cases hl : l.isEmpty
  · exact Or.inl (List.isEmpty_iff.1 hl)
  · rw [if_neg hl] at h
    obtain ⟨before, after, hsplit, -⟩ := List.lookup_eq_some_iff.1 h
    rw [hsplit]
    exact Or.inr (List.mem_append_right _ List.mem_cons_self)

/-! ## Canonical paths -/

/-- A path that canonicalizing gives. -/
def IsCanonical (t : FileTree) (q : Path) : Prop := ∃ p, t.canonicalize p = .ok q

/-- The root's path and those of all entries. -/
def canonicalPaths (t : FileTree) : List Path :=
  pathOf [] :: t.entries.map fun e => pathOf e.1

theorem length_canonicalPaths (t : FileTree) :
    t.canonicalPaths.length = t.entries.length + 1 := by
  rw [canonicalPaths, List.length_cons, List.length_map]

/-- Every canonical path is among the canonical paths of the tree. -/
theorem IsCanonical.mem_canonicalPaths {t : FileTree} {q : Path} (h : t.IsCanonical q) :
    q ∈ t.canonicalPaths := by
  obtain ⟨p, hp⟩ := h
  obtain ⟨l, hlookup, rfl⟩ := canonicalize_eq_ok_iff.1 hp
  obtain ⟨-, -, -, e, hentry⟩ := lookup_eq_ok_iff.1 hlookup
  rcases mem_of_entry? hentry with rfl | hmem
  · exact List.mem_cons_self
  · exact List.mem_cons_of_mem _ (List.mem_map.2 ⟨(l, e), hmem, rfl⟩)

end FileTree

/-- What a specifier is located at is canonical, whatever the resolver answers. -/
theorem isCanonical_of_locate {t : FileTree} {resolver : Resolver} {importer q : Path}
    {s : String} (h : locate resolver t importer s = some q) : t.IsCanonical q := by
  unfold locate at h
  split at h
  · next p _ =>
    refine ⟨p, ?_⟩
    cases hp : t.canonicalize p with
    | error e =>
      rw [hp] at h
      cases h
    | ok q' =>
      rw [hp] at h
      cases h
      rfl
  · cases h

end ModuleBundler
