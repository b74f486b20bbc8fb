import ModuleBundler.Proofs.Graph.Levels

/-!
Which failure a search reports. A world has a list of faults around an entry, in the order in which
levels are linked and compiled: level by level first the specifiers that lead nowhere, then what of
the next level does not compile. All modules of a level are looked at before any of the next one is
compiled, so a specifier that a late module of a level misses comes before the failure of a path
that an early one has discovered.

A round fails exactly with the first fault of its level (`Stage.AtLevel.next_eq_error_iff`), so a
run fails exactly with the first fault of all its levels (`rounds_eq_error_iff`). Where there is
none, the run has numbered the levels one after another (`exists_rounds_eq_ok`).
-/

set_option autoImplicit false

namespace ModuleBundler.Graph

/-! ## Faults -/

section Faults

variable (w : World) (entry : Path)

/-- The failures of those paths that do not compile, in order. -/
def buildFaults (paths : List Path) : List BuildError :=
  paths.filterMap fun p =>
    match w.compile p with
    | .ok _ => none
    | .error e => some e

/-- The specifiers of the module of a path that lead nowhere, in order, as the failures they are.
A path that does not compile has no specifiers. -/
def missingFrom (p : Path) : List BuildError :=
  match w.compile p with
  | .ok c =>
    (c.specifiers.filter fun s => (w.locate p s).isNone).map fun s => .moduleNotFound s p
  | .error _ => []

/-- The faults that a round at a level can meet: what the modules of the level miss, and what of
the next level does not compile. -/
def roundFaults (r : Nat) : List BuildError :=
  (level w entry r).flatMap (missingFrom w) ++ buildFaults w (level w entry (r + 1))

/-- The faults of the first rounds in the order of the search: the entry's own first. -/
def faults (n : Nat) : List BuildError :=
  buildFaults w [entry] ++ (List.range n).flatMap (roundFaults w entry)

/-- Something is wrong with a path: it does not compile, or one of its specifiers leads nowhere. -/
def Faulty (p : Path) : Prop :=
  (∃ e, w.compile p = .error e) ∨
    ∃ c, w.compile p = .ok c ∧ ∃ s ∈ c.specifiers, w.locate p s = none

variable {w entry}

theorem buildFaults_cons_of_ok {p : Path} {c : Compiled} (hp : w.compile p = .ok c)
    (rest : List Path) : buildFaults w (p :: rest) = buildFaults w rest := by
  rw [buildFaults, List.filterMap_cons, hp, ← buildFaults]

theorem buildFaults_cons_of_error {p : Path} {e : BuildError} (hp : w.compile p = .error e)
    (rest : List Path) : buildFaults w (p :: rest) = e :: buildFaults w rest := by
  rw [buildFaults, List.filterMap_cons, hp, ← buildFaults]

theorem mem_buildFaults {paths : List Path} {e : BuildError} :
    e ∈ buildFaults w paths ↔ ∃ p ∈ paths, w.compile p = .error e := by
  rw [buildFaults, List.mem_filterMap]
  refine exists_congr (fun p => and_congr_right (fun _ => ?_))
  cases w.compile p with
  | ok c => simp
  | error e' => simp

theorem mem_missingFrom {p : Path} {e : BuildError} :
    e ∈ missingFrom w p ↔
      ∃ c, w.compile p = .ok c ∧ ∃ s ∈ c.specifiers,
        w.locate p s = none ∧ e = .moduleNotFound s p := by
  unfold missingFrom
  cases w.compile p with
  | error e' => simp
  | ok c =>
    simp only [List.mem_map, List.mem_filter, Option.isNone_iff_eq_none, Except.ok.injEq,
      exists_eq_left']
    constructor
    · rintro ⟨s, ⟨hs, hmissing⟩, rfl⟩
      exact ⟨s, hs, hmissing, rfl⟩
    · rintro ⟨s, hs, hmissing, rfl⟩
      exact ⟨s, ⟨hs, hmissing⟩, rfl⟩

/-- Behind an empty level there are no faults. -/
theorem flatMap_roundFaults_eq_nil {r : Nat} (hr : level w entry r = []) (n : Nat) :
    (List.range' r n).flatMap (roundFaults w entry) = [] := by
  refine List.flatMap_eq_nil_iff.2 (fun k hk => ?_)
  have hle : r ≤ k := (List.mem_range'_1.1 hk).1
  rw [roundFaults, level_eq_nil_of_le hr hle, level_eq_nil_of_le hr (Nat.le_succ_of_le hle)]
  rfl

/-- The first fault of some rounds is the first one of more rounds. -/
theorem head?_faults_of_le {n n' : Nat} (hle : n ≤ n') {e : BuildError}
    (hn : (faults w entry n).head? = some e) : (faults w entry n').head? = some e := by
  obtain ⟨k, rfl⟩ := Nat.exists_eq_add_of_le hle
  rw [faults] at hn
  rw [faults, List.range_add, List.flatMap_append, ← List.append_assoc, List.head?_append, hn]
  rfl

/-- Every fault is one of a path that the entry reaches. -/
theorem exists_faulty_of_mem_faults {n : Nat} {e : BuildError} (he : e ∈ faults w entry n) :
    ∃ q, Reaches w entry q ∧ Faulty w q := by
  rw [faults, List.mem_append] at he
  rcases he with he | he
  · obtain ⟨p, hp, hfails⟩ := mem_buildFaults.1 he
    rw [List.mem_singleton] at hp
    subst hp
    exact ⟨p, Relation.ReflTransGen.refl, Or.inl ⟨e, hfails⟩⟩
  · obtain ⟨r, -, he⟩ := List.mem_flatMap.1 he
    rw [roundFaults, List.mem_append] at he
    rcases he with he | he
    · obtain ⟨p, hp, he⟩ := List.mem_flatMap.1 he
      obtain ⟨c, hc, s, hs, hmissing, -⟩ := mem_missingFrom.1 he
      exact ⟨p, reaches_of_mem_level hp, Or.inr ⟨c, hc, s, hs, hmissing⟩⟩
    · obtain ⟨p, hp, hfails⟩ := mem_buildFaults.1 he
      exact ⟨p, reaches_of_mem_level hp, Or.inl ⟨e, hfails⟩⟩

/-- In a complete graph nothing is faulty. -/
theorem Complete.not_faulty {assets : List Asset} (h : Complete w entry assets) {q : Path}
    (hq : Reaches w entry q) : ¬ Faulty w q := by
  obtain ⟨a, ha, rfl⟩ := List.mem_map.1 ((h.mem_paths_iff q).2 hq)
  have hcompiled := h.compiled a (List.mem_append_left _ ha)
  rintro (⟨e, he⟩ | ⟨c, hc, s, hs, hmissing⟩)
  · rw [hcompiled] at he
    simp at he
  · rw [hcompiled, Except.ok.injEq] at hc
    subst hc
    have hlocated := h.located a ha s hs
    rw [hmissing] at hlocated
    simp at hlocated

/-! ## What fails in a round -/

/-- Compiling fails at the first path that does not compile. -/
theorem buildAll_eq_error_iff (id : Nat) {paths : List Path} {e : BuildError} :
    buildAll w id paths = .error e ↔ (buildFaults w paths).head? = some e := by
  induction paths generalizing id with
  | nil => simp [buildAll, buildFaults]
  | cons p rest ih =>
    cases hp : w.compile p with
    | error e' =>
      rw [buildAll_cons_of_error hp, buildFaults_cons_of_error hp, List.head?_cons]
      simp
    | ok c =>
      rw [buildAll_cons_of_ok hp, buildFaults_cons_of_ok hp, ← ih (id + 1)]
      cases buildAll w (id + 1) rest with
      | error e' => simp [Except.map]
      | ok found => simp [Except.map]

/-- What the module of a path misses first. -/
theorem head?_missingFrom {p : Path} {c : Compiled} (hp : w.compile p = .ok c) :
    (missingFrom w p).head? = missing? w p c.specifiers := by
  rw [missingFrom, hp]
  dsimp only
  rw [List.head?_map, List.head?_filter, missing?]

namespace Stage

variable {s : Stage} {r : Nat}

/-- What a frontier misses first, said of its level. -/
theorem AtLevel.findSome?_missing (h : AtLevel w entry r s) :
    (s.frontier.findSome? fun a => missing? w a.path a.specifiers) =
      ((level w entry r).flatMap (missingFrom w)).head? := by
  rw [← h.frontier_eq, List.flatMap_map, List.head?_flatMap, ← List.head?_filterMap,
    ← List.head?_filterMap]
  congr 1
  refine List.filterMap_congr (fun a ha => ?_)
  rw [head?_missingFrom (h.compiled a (List.mem_append_right _ ha))]

/-- A round fails exactly with the first fault of its level. -/
theorem AtLevel.next_eq_error_iff (h : AtLevel w entry r s) {e : BuildError} :
    s.next w = .error e ↔ (roundFaults w entry r).head? = some e := by
  rw [roundFaults, List.head?_append, ← h.findSome?_missing, Stage.next, linkAll_eq]
  cases s.frontier.findSome? fun a => missing? w a.path a.specifiers with
  | some e' => simp [bind, Except.bind]
  | none =>
    rw [Option.none_or, ← buildAll_eq_error_iff s.known.length]
    simp only [bind, Except.bind, h.claimAll_eq, List.drop_left]
    cases buildAll w s.known.length (level w entry (r + 1)) with
    | error e' => simp
    | ok found => simp [pure, Except.pure]

end Stage

/-! ## What fails in a run -/

/-- What does not fail has no first fault. -/
theorem eq_none_of_eq_ok {α : Type} {x : Except BuildError α} {fault : Option BuildError}
    (h : ∀ e, x = .error e ↔ fault = some e) {a : α} (hx : x = .ok a) : fault = none := by
  refine Option.eq_none_iff_forall_ne_some.2 (fun e he => ?_)
  have hfails := (h e).2 he
  rw [hx] at hfails
  simp at hfails

/-- A run without faults numbers the levels one after another. -/
theorem exists_rounds_eq_ok {fuel r : Nat} {s : Stage} (hs : s.AtLevel w entry r)
    (hfaults : (List.range' r fuel).flatMap (roundFaults w entry) = []) :
    ∃ assets, rounds w fuel s.done s.frontier s.known = .ok assets ∧
      assets.map (·.path) = earlier w entry (r + fuel + 1) ∧
      assets.map (·.id) = List.range assets.length := by
  induction fuel generalizing r s with
  | zero => exact ⟨s.modules, rfl, hs.paths_modules, hs.placed.ids⟩
  | succ fuel ih =>
    rw [rounds_succ]
    by_cases hfrontier : s.frontier = []
    · have hmodules : s.modules = s.done := by rw [Stage.modules, hfrontier, List.append_nil]
      have hpaths := hs.paths_modules
      have hids := hs.placed.ids
      have hlevel := hs.level_eq_nil hfrontier
      rw [hmodules] at hpaths hids
      refine ⟨s.done, if_pos (List.isEmpty_iff.2 hfrontier), ?_, hids⟩
      rw [hpaths, earlier_add_of_level_eq_nil hlevel, Nat.add_assoc,
        earlier_add_of_level_eq_nil hlevel]
    · rw [if_neg (fun hempty => hfrontier (List.isEmpty_iff.1 hempty))]
      rw [List.range'_succ, List.flatMap_cons, List.append_eq_nil_iff] at hfaults
      cases hnext : s.next w with
      | error e =>
        have hhead := hs.next_eq_error_iff.1 hnext
        rw [hfaults.1] at hhead
        simp at hhead
      | ok s' =>
        obtain ⟨assets, hrun, hpaths, hids⟩ := ih (hs.next hnext) hfaults.2
        refine ⟨assets, hrun, ?_, hids⟩
        rw [hpaths]
        congr 1
        omega

/-- A run fails exactly with the first fault of its levels. -/
theorem rounds_eq_error_iff {fuel r : Nat} {s : Stage} (hs : s.AtLevel w entry r)
    {e : BuildError} :
    rounds w fuel s.done s.frontier s.known = .error e ↔
      ((List.range' r fuel).flatMap (roundFaults w entry)).head? = some e := by
  induction fuel generalizing r s with
  | zero => simp [rounds]
  | succ fuel ih =>
    rw [rounds_succ]
    by_cases hfrontier : s.frontier = []
    · rw [if_pos (List.isEmpty_iff.2 hfrontier),
        flatMap_roundFaults_eq_nil (hs.level_eq_nil hfrontier)]
      simp
    · rw [if_neg (fun hempty => hfrontier (List.isEmpty_iff.1 hempty)), List.range'_succ,
        List.flatMap_cons, List.head?_append]
      cases hnext : s.next w with
      | error e' =>
        rw [hs.next_eq_error_iff.1 hnext]
        simp
      | ok s' =>
        rw [eq_none_of_eq_ok (fun _ => hs.next_eq_error_iff) hnext, Option.none_or]
        exact ih (hs.next hnext)

/-- A search fails exactly with the first fault of the rounds that it has. -/
theorem search_eq_error_iff {bound : Nat} {e : BuildError} :
    search w bound entry = .error e ↔ (faults w entry (bound + 1)).head? = some e := by
  rw [search, faults, List.head?_append, List.range_eq_range']
  cases hfound : buildAll w 0 [entry] with
  | error e' =>
    rw [(buildAll_eq_error_iff 0).1 hfound]
    simp [bind, Except.bind]
  | ok found =>
    rw [eq_none_of_eq_ok (fun _ => buildAll_eq_error_iff 0) hfound, Option.none_or]
    exact rounds_eq_error_iff (Stage.atLevel_start hfound)

/-- A search without faults in its rounds numbers the levels one after another. -/
theorem exists_search_eq_ok {bound : Nat} (hfaults : faults w entry (bound + 1) = []) :
    ∃ assets, search w bound entry = .ok assets ∧
      assets.map (·.path) = earlier w entry (bound + 2) ∧
      assets.map (·.id) = List.range assets.length := by
  rw [faults, List.append_eq_nil_iff, List.range_eq_range'] at hfaults
  cases hfound : buildAll w 0 [entry] with
  | error e =>
    rw [buildAll_eq_error_iff, hfaults.1] at hfound
    simp at hfound
  | ok found =>
    obtain ⟨assets, hrun, hpaths, hids⟩ :=
      exists_rounds_eq_ok (Stage.atLevel_start hfound) hfaults.2
    refine ⟨assets, ?_, ?_, hids⟩
    · rw [search, hfound]
      exact hrun
    · rw [hpaths, Nat.zero_add]

end Faults

/-! ## Why a file does not compile -/

/-- How compiling a file fails: it cannot be read, a loader refuses it, or what the loaders leave
is no module. -/
inductive CompileFails (t : FileTree) (rules : List Rule) (p : Path) : BuildError → Prop
  | unreadable {cause : FileError} (read : t.read p = .error cause) :
    CompileFails t rules p (.unreadable p cause)
  | refused {source loader : String} {path : Path} {cause : LoadError}
    (read : t.read p = .ok source)
    (loaded : transform rules p source = .error (.refused loader path cause)) :
    CompileFails t rules p (.refused loader path cause)
  | syntaxError {source text : String} {fault : Script.Fault} (read : t.read p = .ok source)
    (loaded : transform rules p source = .ok text)
    (parsed : Module.ofText text.toList = .error fault) :
    CompileFails t rules p (.syntaxError p fault)

/-- Loaders fail by refusing. -/
theorem exists_refused_of_runLoaders {loaders : List Loader} {ctx : LoaderContext}
    {source : String} {e : BuildError} (h : runLoaders loaders ctx source = .error e) :
    ∃ loader path cause, e = .refused loader path cause := by
  induction loaders generalizing ctx source with
  | nil => simp [runLoaders] at h
  | cons l rest ih =>
    rw [runLoaders] at h
    split at h
    · exact ih h
    · next cause _ => exact ⟨l.name, ctx.resource, cause, (Except.error.inj h).symm⟩

/-- A file that can be read is loaded and then compiled as a text. -/
theorem compile_of_read {t : FileTree} {p : Path} {source : String} (h : t.read p = .ok source)
    (rules : List Rule) :
    compile t rules p = (transform rules p source).bind (compileText p) := by
  unfold compile
  rw [h]
  rfl

theorem compileText_eq_error_iff {p : Path} {text : String} {e : BuildError} :
    compileText p text = .error e ↔
      ∃ fault, Module.ofText text.toList = .error fault ∧ e = .syntaxError p fault := by
  unfold compileText
  cases Module.ofText text.toList with
  | ok m => simp
  | error fault => simp [eq_comm]

theorem compile_eq_error_iff {t : FileTree} {rules : List Rule} {p : Path} {e : BuildError} :
    compile t rules p = .error e ↔ CompileFails t rules p e := by
  constructor
  · intro h
    cases hread : t.read p with
    | error cause =>
      unfold compile at h
      rw [hread] at h
      rw [← Except.error.inj h]
      exact .unreadable hread
    | ok source =>
      rw [compile_of_read hread] at h
      cases hloaded : transform rules p source with
      | error e' =>
        obtain ⟨loader, path, cause, rfl⟩ := exists_refused_of_runLoaders hloaded
        rw [hloaded] at h
        rw [← Except.error.inj h]
        exact .refused hread hloaded
      | ok text =>
        rw [hloaded] at h
        obtain ⟨fault, hparsed, rfl⟩ := compileText_eq_error_iff.1 h
        exact .syntaxError hread hloaded hparsed
  · intro h
    cases h with
    | unreadable read =>
      unfold compile
      rw [read]
      rfl
    | refused read loaded =>
      rw [compile_of_read read, loaded]
      rfl
    | syntaxError read loaded parsed =>
      rw [compile_of_read read, loaded]
      exact compileText_eq_error_iff.2 ⟨_, parsed, rfl⟩

/-! ## Resolving -/

/-- Which failures resolving reports, and when: those of the first fault in the order of the
levels. -/
structure ReportsFirstFault (t : FileTree) (rules : List Rule) (resolver : Resolver)
    (entry : Path) : Prop where
  /-- Resolving fails exactly when the entry is nothing, or when something is wrong with a path
  that imports reach from it. -/
  fails_iff : (∃ e, resolve t rules resolver entry = .error e) ↔
    (∃ cause, t.canonicalize entry = .error cause) ∨
      ∃ p, t.canonicalize entry = .ok p ∧
        ∃ q, Reaches (.ofTree t rules resolver) p q ∧ Faulty (.ofTree t rules resolver) q
  /-- An entry that is nothing comes before all faults. -/
  entry_first : ∀ cause, t.canonicalize entry = .error cause →
    resolve t rules resolver entry = .error (.unreadable entry cause)
  /-- Otherwise a failure is reported exactly when it is the first of the faults of some rounds,
  and so of all. -/
  first : ∀ p, t.canonicalize entry = .ok p → ∀ e, resolve t rules resolver entry = .error e ↔
    ∃ n, (faults (.ofTree t rules resolver) p n).head? = some e
  /-- As long as there are no faults, the numbers of modules go level by level: a search of some
  rounds gives the paths of the levels one after another, each under its place as number. -/
  numbered : ∀ p, t.canonicalize entry = .ok p → ∀ n,
    faults (.ofTree t rules resolver) p (n + 1) = [] →
      ∃ assets, search (.ofTree t rules resolver) n p = .ok assets ∧
        assets.map (·.path) = (List.range (n + 2)).flatMap (level (.ofTree t rules resolver) p) ∧
        assets.map (·.id) = List.range assets.length
  /-- What a path fails with that does not compile. -/
  compile_fails : ∀ q e,
    (World.ofTree t rules resolver).compile q = .error e ↔ CompileFails t rules q e

/-- A fault of a world makes resolving fail. -/
theorem exists_error_of_faulty {t : FileTree} {rules : List Rule} {resolver : Resolver}
    {entry p q : Path} (hentry : t.canonicalize entry = .ok p)
    (hq : Reaches (.ofTree t rules resolver) p q) (hfaulty : Faulty (.ofTree t rules resolver) q) :
    ∃ e, resolve t rules resolver entry = .error e := by
  cases hresolve : resolve t rules resolver entry with
  | error e => exact ⟨e, rfl⟩
  | ok assets =>
    obtain ⟨p', hentry', hcomplete⟩ := complete_of_resolve hresolve
    rw [hentry, Except.ok.injEq] at hentry'
    subst hentry'
    exact absurd hfaulty (hcomplete.not_faulty hq)

/-- **Resolving reports the first fault.** In every tree, with every entry, pipeline of loaders and
resolver, resolving fails exactly when the entry is nothing or a path that it reaches is faulty.
What it reports is the failure of the entry to be found, or to compile, or else the first fault of
the levels one after another: of each level first the specifiers that lead nowhere, by importer and
then by position, and after them what of the next level does not compile. -/
theorem reportsFirstFault_resolve (t : FileTree) (rules : List Rule) (resolver : Resolver)
    (entry : Path) : ReportsFirstFault t rules resolver entry := by
  have hfirst : ∀ p, t.canonicalize entry = .ok p → ∀ e,
      resolve t rules resolver entry = .error e ↔
        ∃ n, (faults (.ofTree t rules resolver) p n).head? = some e := by
    intro p hentry e
    have hrounds : ∀ e', resolve t rules resolver entry = .error e' ↔
        (faults (.ofTree t rules resolver) p (t.entries.length + 2)).head? = some e' := by
      intro e'
      rw [resolve, hentry]
      exact search_eq_error_iff
    refine ⟨fun h => ⟨_, (hrounds e).1 h⟩, ?_⟩
    rintro ⟨n, hn⟩
    obtain ⟨q, hq, hfaulty⟩ := exists_faulty_of_mem_faults (List.mem_of_head? hn)
    obtain ⟨e', he'⟩ := exists_error_of_faulty hentry hq hfaulty
    have hn' := (hrounds e').1 he'
    -- with rounds enough for both, both are the first fault
    have hsame : some e = some e' :=
      (head?_faults_of_le (Nat.le_max_left n (t.entries.length + 2)) hn).symm.trans
        (head?_faults_of_le (Nat.le_max_right n (t.entries.length + 2)) hn')
    rw [he', Option.some.inj hsame]
  refine ⟨⟨?_, ?_⟩, ?_, hfirst, ?_, ?_⟩
  · rintro ⟨e, he⟩
    cases hentry : t.canonicalize entry with
    | error cause => exact Or.inl ⟨cause, rfl⟩
    | ok p =>
      obtain ⟨n, hn⟩ := (hfirst p hentry e).1 he
      exact Or.inr ⟨p, rfl, exists_faulty_of_mem_faults (List.mem_of_head? hn)⟩
  · rintro (⟨cause, hentry⟩ | ⟨p, hentry, q, hq, hfaulty⟩)
    · refine ⟨.unreadable entry cause, ?_⟩
      rw [resolve, hentry]
    · exact exists_error_of_faulty hentry hq hfaulty
  · intro cause hentry
    rw [resolve, hentry]
  · intro p _ n hfaults
    rw [← earlier_eq_flatMap]
    exact exists_search_eq_ok hfaults
  · intro q e
    exact compile_eq_error_iff

/-- Two modules at level `1`, of which the first leads to a file that is no module, and the second
misses what it imports. -/
def faultyTree : FileTree where
  workingDirectory := [['p']]
  entries :=
    [([['p']], .directory),
      ([['p'], ['a']], .file (.text "import './b'; import './c';")),
      ([['p'], ['b']], .file (.text "import './d';")),
      ([['p'], ['c']], .file (.text "import './x';")),
      ([['p'], ['d']], .file (.text "1 +"))]

-- what `c` misses is reported, although `d` has been discovered before
example : resolve faultyTree [] Resolver.relative (.ofString "./a") =
    .error (.moduleNotFound "./x" (.ofString "/p/c")) := by
  decide +kernel

end ModuleBundler.Graph
