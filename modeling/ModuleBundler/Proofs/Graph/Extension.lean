import ModuleBundler.Bundle.Render
import ModuleBundler.Proofs.Graph.Runs
import ModuleBundler.Proofs.Writing

/-!
What a search has to do with files that it does not reach. A tree extends another one when
everything that stands in the first stands in the second, and as it is; more may stand elsewhere.
What is found by following a path only needs that something stands where it does, so whatever a
path leads to it still leads to in an extension, whichever steps up and idle pieces it has. Failures
are another matter: a path that leads to nothing may lead to a file that has been added.

A search that succeeds asks only questions that have an answer, so it asks the same ones in an
extension and has the same modules as its result. This is carried through the rounds of a run
(`Run.exists_run_of_le`): with the same answers, a stage has the same next stage.
-/

set_option autoImplicit false

namespace ModuleBundler

namespace FileTree

/-! ## Trees with more files -/

/-- All that stands in a tree stands in another one, unchanged. -/
structure Extends (t t' : FileTree) : Prop where
  workingDirectory : t'.workingDirectory = t.workingDirectory
  entry : ∀ l e, t.entry? l = some e → t'.entry? l = some e

/-- Putting an entry where nothing stands extends a tree. -/
theorem extends_put {t : FileTree} {l : Location} (h : t.entry? l = none) (e : Entry) :
    t.Extends (t.put l e) where
  workingDirectory := rfl
  entry l' e' hl' := by
    have hne : l' ≠ l := by
      rintro rfl
      simp [h] at hl'
    rw [entry?_put_of_ne hne, hl']

namespace Extends

variable {t t' t'' : FileTree}

theorem trans (h : t.Extends t') (h' : t'.Extends t'') : t.Extends t'' where
  workingDirectory := h'.workingDirectory.trans h.workingDirectory
  entry l e hl := h'.entry l e (h.entry l e hl)

theorem keepsDirectories (h : t.Extends t') : KeepsDirectories t t' where
  workingDirectory := h.workingDirectory
  directory l hl := h.entry l .directory hl

/-- What a path leads to is what it has led to. -/
theorem find (h : t.Extends t') {p : Path} {found : Location × Entry}
    (hp : t.find p = .ok found) : t'.find p = .ok found := by
  obtain ⟨l, e⟩ := found
  obtain ⟨hlocate, hentry⟩ := find_eq_ok_iff.1 hp
  exact find_eq_ok_iff.2 ⟨h.keepsDirectories.locate hlocate, h.entry l e hentry⟩

theorem lookupSteps (h : t.Extends t') {l l' : Location} {pieces : List (List Char)}
    (hl : t.lookupSteps l pieces = .ok l') : t'.lookupSteps l pieces = .ok l' := by
  induction pieces generalizing l with
  | nil => exact hl
  | cons piece rest ih =>
    rw [FileTree.lookupSteps] at hl ⊢
    by_cases hidle : Path.isIdle piece
    · rw [if_pos hidle] at hl ⊢
      exact ih hl
    · rw [if_neg hidle] at hl ⊢
      by_cases hup : piece == ['.', '.']
      · rw [if_pos hup] at hl ⊢
        exact ih hl
      · rw [if_neg hup] at hl ⊢
        cases hfind : t.find (lookupPath (l ++ [piece]) (needsDirectory rest)) with
        | error cause => simp [hfind] at hl
        | ok found =>
          rw [hfind] at hl
          rw [h.find hfind]
          exact ih hl

theorem canonicalize (h : t.Extends t') {p q : Path} (hp : t.canonicalize p = .ok q) :
    t'.canonicalize p = .ok q := by
  obtain ⟨l, hlookup, hq⟩ := canonicalize_eq_ok_iff.1 hp
  obtain ⟨hname, ⟨start, hstart⟩, hsteps, e, hentry⟩ := lookup_eq_ok_iff.1 hlookup
  refine canonicalize_eq_ok_iff.2 ⟨l, lookup_eq_ok_iff.2 ⟨hname, ?_, ?_, e, h.entry l e hentry⟩, hq⟩
  · rw [h.keepsDirectories.origin]
    exact ⟨start, h.entry _ start hstart⟩
  · rw [h.keepsDirectories.origin]
    exact h.lookupSteps hsteps

theorem isFile (h : t.Extends t') {p : Path} (hp : t.isFile p = true) : t'.isFile p = true := by
  unfold FileTree.isFile at hp ⊢
  cases hfind : t.find p with
  | error cause => simp [hfind] at hp
  | ok found =>
    rw [h.find hfind]
    rw [hfind] at hp
    exact hp

theorem read (h : t.Extends t') {p : Path} {text : String} (hp : t.read p = .ok text) :
    t'.read p = .ok text := by
  unfold FileTree.read at hp ⊢
  cases hfind : t.find p with
  | error cause => simp [hfind] at hp
  | ok found =>
    rw [h.find hfind]
    rw [hfind] at hp
    exact hp

end Extends

end FileTree

section Files

variable {t t' : FileTree}

/-- A file that compiles is compiled to the same in an extension. -/
theorem FileTree.Extends.compile (h : t.Extends t') {rules : List Rule} {p : Path}
    {c : Compiled} (hp : ModuleBundler.compile t rules p = .ok c) :
    ModuleBundler.compile t' rules p = .ok c := by
  unfold ModuleBundler.compile at hp ⊢
  cases hread : t.read p with
  | error cause =>
    rw [hread] at hp
    exact absurd hp (throw_ne_ok _ _)
  | ok source =>
    rw [h.read hread]
    rw [hread] at hp
    exact hp

/-- A specifier that the relative resolver finds a file for leads to the same file in an
extension. -/
theorem FileTree.Extends.relative (h : t.Extends t') {site found : Site} {specifier : String}
    (hfound : Resolver.relative t site specifier = .ok found) :
    Resolver.relative t' site specifier = .ok found := by
  unfold Resolver.relative at hfound ⊢
  cases site with
  | named name => simp at hfound
  | unnamed => simp at hfound
  | file importer =>
    dsimp only at hfound ⊢
    cases hparent : importer.parent? with
    | none => simp [hparent] at hfound
    | some directory =>
      rw [hparent] at hfound
      dsimp only at hfound ⊢
      by_cases hfile : t.isFile (directory.join (Path.ofString specifier))
      · rw [if_pos hfile] at hfound
        rw [if_pos (h.isFile hfile)]
        cases hcanonical : t.canonicalize (directory.join (Path.ofString specifier)) with
        | error cause => simp [hcanonical] at hfound
        | ok p =>
          rw [h.canonicalize hcanonical]
          rw [hcanonical] at hfound
          exact hfound
      · rw [if_neg hfile] at hfound
        simp at hfound

theorem FileTree.Extends.locate_relative (h : t.Extends t') {importer p : Path}
    {specifier : String}
    (hp : ModuleBundler.locate Resolver.relative t importer specifier = some p) :
    ModuleBundler.locate Resolver.relative t' importer specifier = some p := by
  unfold ModuleBundler.locate at hp ⊢
  cases hfound : Resolver.relative t (.file importer) specifier with
  | error cause => simp [hfound] at hp
  | ok site =>
    rw [h.relative hfound]
    rw [hfound] at hp
    cases site with
    | named name => simp at hp
    | unnamed => simp at hp
    | file q =>
      dsimp only at hp ⊢
      cases hcanonical : t.canonicalize q with
      | error cause =>
        rw [hcanonical] at hp
        simp [Except.toOption] at hp
      | ok q' =>
        rw [h.canonicalize hcanonical]
        rw [hcanonical] at hp
        exact hp

end Files

namespace Graph

/-! ## Worlds with more answers -/

/-- A world gives the answers of another one where that has one. -/
structure World.Le (w w' : World) : Prop where
  compile : ∀ p c, w.compile p = .ok c → w'.compile p = .ok c
  locate : ∀ importer s q, w.locate importer s = some q → w'.locate importer s = some q

theorem World.le_ofTree {t t' : FileTree} (h : t.Extends t') (rules : List Rule) :
    (World.ofTree t rules Resolver.relative).Le (World.ofTree t' rules Resolver.relative) where
  compile _ _ hp := h.compile hp
  locate _ _ _ hq := h.locate_relative hq

section Worlds

variable {w w' : World}

theorem World.Le.linkSpecifiers (hle : w.Le w') {importer : Path} {specifiers : List String}
    {known : List Path} {m : Mapping} {r : Mapping × List Path}
    (h : Graph.linkSpecifiers w importer specifiers known m = .ok r) :
    Graph.linkSpecifiers w' importer specifiers known m = .ok r := by
  induction specifiers generalizing known m with
  | nil => exact h
  | cons s rest ih =>
    rw [Graph.linkSpecifiers] at h ⊢
    cases hs : w.locate importer s with
    | none => simp [hs] at h
    | some p =>
      rw [hle.locate importer s p hs]
      rw [hs] at h
      exact ih h

theorem World.Le.linkAll (hle : w.Le w') {modules : List Asset} {known : List Path}
    {r : List Asset × List Path} (h : Graph.linkAll w modules known = .ok r) :
    Graph.linkAll w' modules known = .ok r := by
  induction modules generalizing known r with
  | nil => exact h
  | cons a rest ih =>
    rw [Graph.linkAll] at h ⊢
    obtain ⟨first, hfirst, h⟩ := bind_eq_ok.1 h
    obtain ⟨others, hothers, h⟩ := bind_eq_ok.1 h
    exact bind_eq_ok.2 ⟨first, hle.linkSpecifiers hfirst, bind_eq_ok.2 ⟨others, ih hothers, h⟩⟩

theorem World.Le.buildAll (hle : w.Le w') {id : Nat} {paths : List Path} {found : List Asset}
    (h : Graph.buildAll w id paths = .ok found) : Graph.buildAll w' id paths = .ok found := by
  induction paths generalizing id found with
  | nil => exact h
  | cons p rest ih =>
    rw [Graph.buildAll] at h ⊢
    obtain ⟨c, hc, h⟩ := bind_eq_ok.1 h
    obtain ⟨others, hothers, h⟩ := bind_eq_ok.1 h
    exact bind_eq_ok.2 ⟨c, hle.compile p c hc, bind_eq_ok.2 ⟨others, ih hothers, h⟩⟩

/-- A round that leads to a stage leads to the same one where there are more answers. -/
theorem World.Le.next (hle : w.Le w') {s s' : Stage} (h : s.next w = .ok s') :
    s.next w' = .ok s' := by
  unfold Stage.next at h ⊢
  obtain ⟨r, hlink, h⟩ := bind_eq_ok.1 h
  obtain ⟨found, hfound, h⟩ := bind_eq_ok.1 h
  exact bind_eq_ok.2 ⟨r, hle.linkAll hlink, bind_eq_ok.2 ⟨found, hle.buildAll hfound, h⟩⟩

/-- A run that succeeds has a counterpart where there are more answers, with the same modules. -/
theorem Run.exists_run_of_le (hle : w.Le w') {manner : Manner} {s : Stage} {log : List Round}
    {r : Except BuildError (List Asset)} (h : Run w manner s log r) {assets : List Asset}
    (hr : r = .ok assets) : ∃ log', Run w' manner s log' (.ok assets) := by
  induction h with
  | finished hfrontier => exact ⟨[], hr ▸ .finished hfrontier⟩
  | failed hfrontier hround => simp at hr
  | @next s s' round rest r hfrontier hround hrest ih =>
    obtain ⟨log', hrest'⟩ := ih hr
    have hnext : s.next w = .ok s' := Stage.next_of_round hround
    have hok : (s.round w' manner).2 = .ok s' := Stage.round_snd_eq_ok_iff.2 (hle.next hnext)
    exact ⟨_, .next hfrontier (Prod.ext rfl hok) hrest'⟩

end Worlds

/-! ## Searches in an extension -/

section Searches

variable {t t' : FileTree} {rules : List Rule} {entry : Path} {assets : List Asset}

/-- A search that succeeds has a counterpart in an extension, with the same modules. -/
theorem Resolves.exists_resolves_of_extends (hext : t.Extends t') {manner : Manner} {log : Log}
    (h : Resolves t rules Resolver.relative manner entry log (.ok assets)) :
    ∃ log', Resolves t' rules Resolver.relative manner entry log' (.ok assets) := by
  cases h with
  | searched hentry hbuild hrun =>
    obtain ⟨rounds', hrun'⟩ := hrun.exists_run_of_le (World.le_ofTree hext rules) rfl
    exact ⟨_, .searched (hext.canonicalize hentry) (hext.compile hbuild) hrun'⟩

/-- **A bundle depends only on the files that it reaches.** Let a tree be extended by files and
directories where nothing stood. Where the search with the relative resolver succeeds in the tree,
it succeeds in the extension with the same modules, and so the same text is rendered. -/
theorem resolve_eq_of_extends (hext : t.Extends t')
    (h : resolve t rules Resolver.relative entry = .ok assets) :
    resolve t' rules Resolver.relative entry = .ok assets ∧
      (resolve t' rules Resolver.relative entry).bind Bundle.render =
        (resolve t rules Resolver.relative entry).bind Bundle.render := by
  obtain ⟨log, r, hresolves⟩ := exists_resolves t rules Resolver.relative .inOrder entry
  have hr : r = .ok assets := hresolves.resolve_eq.symm.trans h
  subst hr
  obtain ⟨log', hresolves'⟩ := hresolves.exists_resolves_of_extends hext
  have h' := hresolves'.resolve_eq
  exact ⟨h', by rw [h, h']⟩

end Searches

/-- The cyclic tree with a file beside its own that cannot be compiled, and a directory that holds
a file of a known name. -/
def extendedTree : FileTree :=
  ((cyclicTree.put [['p'], ['d']] (.file (.text "1 +"))).put [['q']] .directory).put
    [['q'], ['a']] (.file (.bytes [255]))

theorem extends_extendedTree : cyclicTree.Extends extendedTree :=
  ((FileTree.extends_put (by decide) _).trans (FileTree.extends_put (by decide) _)).trans
    (FileTree.extends_put (by decide) _)

/-- The files added to the cyclic tree are not noticed. -/
theorem exists_resolve_extendedTree :
    ∃ assets, cyclicTree.Extends extendedTree ∧
      resolve cyclicTree [] Resolver.relative (.ofString "./a") = .ok assets ∧
      resolve extendedTree [] Resolver.relative (.ofString "./a") = .ok assets ∧
      assets.map (·.path.toString) = ["/p/a", "/p/b", "/p/c"] := by
  obtain ⟨assets, h, hmappings⟩ := exists_resolve_cyclicTree
  have hnames := congrArg (List.map Prod.fst) hmappings
  rw [List.map_map] at hnames
  exact ⟨assets, extends_extendedTree, h, (resolve_eq_of_extends extends_extendedTree h).1, hnames⟩

end Graph

end ModuleBundler
