import Mathlib.Data.Set.Card
import ModuleBundler.Proofs.Graph.Building
import ModuleBundler.Proofs.Graph.Numbering

/-!
What a search does until it ends, told round by round. A run is a relation between the stage that
it starts from, the rounds that it takes and its result; no bound on the number of rounds is part
of it, so that it has a result is something to prove. The graph may be cyclic and the list of
modules grows while it is walked, so what decreases is the number of paths that are not known:
each round but the last one makes a path known.

A run from a stage between two rounds ends (`exists_run`), it is the only one (`Run.unique`), it
takes no more rounds than there are paths (`Run.length_rounds_le`), and the compiler is called
for no path that is known and for none twice (`Run.nodup_calls`). The executable search, whose
rounds are bounded, has the result of the run (`Run.rounds_eq`): the bound is never what ends it.
-/

set_option autoImplicit false

namespace ModuleBundler.Graph

/-! ## Rounds -/

/-- What a round has done: the paths it has found, and those that the compiler has been called
for. -/
structure Round where
  found : List Path
  called : List Path

/-- One round: the frontier is linked, and the paths that it leads to for the first time are
compiled. Where a specifier leads nowhere, nothing is compiled. -/
def Stage.round (w : World) (manner : Manner) (s : Stage) : Round × Except BuildError Stage :=
  match linkAll w s.frontier s.known with
  | .error e => (⟨[], []⟩, .error e)
  | .ok (linkedModules, known) =>
    let found := known.drop s.known.length
    let batch := manner.build w s.known.length found
    (⟨found, batch.called⟩,
      batch.result.map fun modules => ⟨s.done ++ linkedModules, modules, known⟩)

namespace Stage

variable {w : World} {manner : Manner} {s s' : Stage} {entry : Path}

theorem round_of_unlinked {e : BuildError} (hlink : linkAll w s.frontier s.known = .error e) :
    s.round w manner = (⟨[], []⟩, .error e) := by
  rw [round, hlink]

theorem round_of_linked {linkedModules : List Asset} {known : List Path}
    (hlink : linkAll w s.frontier s.known = .ok (linkedModules, known)) :
    s.round w manner =
      (⟨known.drop s.known.length,
          (manner.build w s.known.length (known.drop s.known.length)).called⟩,
        (manner.build w s.known.length (known.drop s.known.length)).result.map
          fun modules => ⟨s.done ++ linkedModules, modules, known⟩) := by
  rw [round, hlink]

/-- In every manner a round leads to the next stage when it does in order. -/
theorem round_snd_eq_ok_iff : (s.round w manner).2 = .ok s' ↔ s.next w = .ok s' := by
  unfold Stage.next
  cases hlink : linkAll w s.frontier s.known with
  | error e =>
    rw [round_of_unlinked hlink]
    simp [bind, Except.bind]
  | ok r =>
    obtain ⟨linkedModules, known⟩ := r
    rw [round_of_linked hlink]
    simp only [bind, Except.bind]
    cases hbuild : buildAll w s.known.length (known.drop s.known.length) with
    | ok found =>
      rw [manner.build_result_of_ok hbuild]
      rfl
    | error e =>
      obtain ⟨e', he', -⟩ := manner.build_result_of_error hbuild
      rw [he']
      simp [Except.map]

theorem next_of_round {round : Round} (h : s.round w manner = (round, .ok s')) :
    s.next w = .ok s' :=
  round_snd_eq_ok_iff.1 (congrArg Prod.snd h)

/-- In order a round does what the search does. -/
theorem round_inOrder_snd : (s.round w .inOrder).2 = s.next w := by
  unfold Stage.next
  cases hlink : linkAll w s.frontier s.known with
  | error e =>
    rw [round_of_unlinked hlink]
    rfl
  | ok r =>
    obtain ⟨linkedModules, known⟩ := r
    rw [round_of_linked hlink, Manner.build, buildInOrder_result]
    simp only [bind, Except.bind]
    cases buildAll w s.known.length (known.drop s.known.length) with
    | ok found => rfl
    | error e => rfl

/-- What a round finds is added to the known paths. -/
theorem round_found_sublist :
    (s.known ++ (s.round w manner).1.found).Sublist
      (claimAll s.known (s.frontier.flatMap (targetsOf w))) := by
  have hprefix := prefix_claimAll s.known (s.frontier.flatMap (targetsOf w))
  cases hlink : linkAll w s.frontier s.known with
  | error e =>
    rw [round_of_unlinked hlink, List.append_nil]
    exact hprefix.sublist
  | ok r =>
    obtain ⟨-, hknown, -⟩ := linkAll_eq_ok_iff.1 hlink
    simp only [round_of_linked hlink, hknown, List.prefix_iff_eq_append.1 hprefix,
      List.Sublist.refl]

/-- The compiler is called for what the round has found only, and not twice. -/
theorem round_called_subperm :
    (s.round w manner).1.called.Subperm (s.round w manner).1.found := by
  cases hlink : linkAll w s.frontier s.known with
  | error e => rw [round_of_unlinked hlink]
  | ok r =>
    rw [round_of_linked hlink]
    exact manner.build_called_subperm

/-- What the compiler is called for is added to the known paths. -/
theorem known_append_called_subperm :
    (s.known ++ (s.round w manner).1.called).Subperm
      (claimAll s.known (s.frontier.flatMap (targetsOf w))) :=
  ((List.subperm_append_left s.known).2 round_called_subperm).trans round_found_sublist.subperm

/-- Where a round leads to the next stage, the compiler has been called for the paths that are
known since. -/
theorem known_append_called_perm (hround : (s.round w manner).2 = .ok s') :
    (s.known ++ (s.round w manner).1.called).Perm s'.known := by
  obtain ⟨hfound, hknown, -⟩ := next_eq_ok_iff.1 (round_snd_eq_ok_iff.1 hround)
  have hprefix := prefix_claimAll s.known (s.frontier.flatMap (targetsOf w))
  have hlink : linkAll w s.frontier s.known =
      .ok (s.frontier.map (linked w s'.known), s'.known) :=
    linkAll_eq_ok_iff.2 ⟨hfound.located, hknown, rfl⟩
  have hcalled := manner.build_called_of_ok hfound.built
  rw [← hknown] at hprefix hcalled
  rw [round_of_linked hlink]
  conv_rhs => rw [← List.prefix_iff_eq_append.1 hprefix]
  exact hcalled.append_left s.known

/-- What the compiler is called for is not known yet, and no path is among it twice. -/
theorem Sound.nodup_round (h : Sound w entry s) :
    (s.known ++ (s.round w manner).1.called).Nodup := by
  have hclaimed : (claimAll s.known (s.frontier.flatMap (targetsOf w))).Nodup := by
    rw [claimAll_eq_eraseDups h.nodup]
    exact nodup_eraseDups _
  have hcalled : (s.known ++ (s.round w manner).1.called).Subperm
      (claimAll s.known (s.frontier.flatMap (targetsOf w))) := known_append_called_subperm
  obtain ⟨l, hperm, hsublist⟩ := hcalled
  exact hperm.nodup_iff.1 (hsublist.nodup hclaimed)

/-- The compiler is called for paths of the world only. -/
theorem Sound.round_called_subset (h : Sound w entry s) {paths : List Path}
    (hw : w.Within paths) (hentry : entry ∈ paths) : (s.round w manner).1.called ⊆ paths := by
  intro q hq
  have hclaimed := known_append_called_subperm.subset (List.mem_append_right s.known hq)
  rcases mem_claimAll.1 hclaimed with hknown | htarget
  · exact h.known_subset hw hentry hknown
  · obtain ⟨a, -, ha⟩ := List.mem_flatMap.1 htarget
    obtain ⟨specifier, -, hs⟩ := mem_targets.1 ha
    exact hw _ _ _ hs

end Stage

/-! ## Runs -/

/-- The rounds from a stage until nothing is left to do or a round fails, and the result. -/
inductive Run (w : World) (manner : Manner) :
    Stage → List Round → Except BuildError (List Asset) → Prop
  | finished {s : Stage} (hfrontier : s.frontier = []) : Run w manner s [] (.ok s.done)
  | failed {s : Stage} {round : Round} {e : BuildError} (hfrontier : s.frontier ≠ [])
    (hround : s.round w manner = (round, .error e)) : Run w manner s [round] (.error e)
  | next {s s' : Stage} {round : Round} {rest : List Round}
    {r : Except BuildError (List Asset)} (hfrontier : s.frontier ≠ [])
    (hround : s.round w manner = (round, .ok s')) (hrest : Run w manner s' rest r) :
    Run w manner s (round :: rest) r

/-- The paths that the compiler has been called for in some rounds. -/
def calls (rounds : List Round) : List Path := rounds.flatMap (·.called)

section Runs

variable {w : World} {manner : Manner} {s : Stage} {entry : Path} {paths : List Path}
  {log log' : List Round} {r r' : Except BuildError (List Asset)}

/-- From one stage there is one run. -/
theorem Run.unique (h : Run w manner s log r) (h' : Run w manner s log' r') :
    log = log' ∧ r = r' := by
  induction h generalizing log' with
  | finished hfrontier =>
    cases h' with
    | finished _ => exact ⟨rfl, rfl⟩
    | failed hfrontier' _ => exact absurd hfrontier hfrontier'
    | next hfrontier' _ _ => exact absurd hfrontier hfrontier'
  | failed hfrontier hround =>
    cases h' with
    | finished hfrontier' => exact absurd hfrontier' hfrontier
    | failed _ hround' =>
      rw [hround] at hround'
      simp_all
    | next _ hround' _ =>
      rw [hround] at hround'
      simp at hround'
  | next hfrontier hround hrest ih =>
    cases h' with
    | finished hfrontier' => exact absurd hfrontier' hfrontier
    | failed _ hround' =>
      rw [hround] at hround'
      simp at hround'
    | next _ hround' hrest' =>
      rw [hround, Prod.mk.injEq, Except.ok.injEq] at hround'
      obtain ⟨hsame, hstage⟩ := hround'
      subst hsame hstage
      obtain ⟨hlog, hr⟩ := ih hrest'
      exact ⟨by rw [hlog], hr⟩

/-- **A run ends.** From a stage between two rounds of a search there is a run, as each round but
the last one makes a path known. -/
theorem exists_run (manner : Manner) (hw : w.Within paths) (hentry : entry ∈ paths) {fuel : Nat}
    (hs : s.Sound w entry) (hfuel : Enough paths fuel s) : ∃ log r, Run w manner s log r := by
  induction fuel generalizing s with
  | zero => exact ⟨_, _, .finished (hfuel.frontier_eq_nil hs hw hentry)⟩
  | succ fuel ih =>
    by_cases hfrontier : s.frontier = []
    · exact ⟨_, _, .finished hfrontier⟩
    · cases hround : s.round w manner with
      | mk round result =>
        cases result with
        | error e => exact ⟨_, _, .failed hfrontier hround⟩
        | ok s' =>
          have hnext : s.next w = .ok s' := Stage.next_of_round hround
          obtain ⟨log, r, hrest⟩ := ih (hs.next hnext) (hfuel.next hfrontier hnext)
          exact ⟨_, _, .next hfrontier hround hrest⟩

/-- A run from a stage without a frontier takes no rounds. -/
theorem Run.rounds_eq_nil (h : Run w manner s log r) (hfrontier : s.frontier = []) :
    log = [] := by
  cases h with
  | finished _ => rfl
  | failed hfrontier' _ => exact absurd hfrontier hfrontier'
  | next hfrontier' _ _ => exact absurd hfrontier hfrontier'

/-- A run takes no more rounds than there are paths not known yet, and one. -/
theorem Run.length_rounds_le (h : Run w manner s log r) (hs : s.Sound w entry)
    (hw : w.Within paths) (hentry : entry ∈ paths) :
    log.length + s.known.length ≤ paths.length + 1 := by
  induction h with
  | finished hfrontier =>
    have hknown := hs.length_known_le hw hentry
    rw [List.length_nil]
    omega
  | failed hfrontier hround =>
    have hknown := hs.length_known_le hw hentry
    rw [List.length_singleton]
    omega
  | @next s s' round rest r hfrontier hround hrest ih =>
    have hnext : s.next w = .ok s' := Stage.next_of_round hround
    rw [List.length_cons]
    -- a round that makes no path known is the last one
    rcases Stage.Sound.frontier_eq_nil_or_lt hnext with hnil | hlt
    · have hknown := hs.length_known_le hw hentry
      rw [hrest.rounds_eq_nil hnil, List.length_nil]
      omega
    · have hrounds := ih (hs.next hnext)
      omega

/-- **No path is compiled twice.** A run calls the compiler for paths that are not known when it
starts, and for none of them twice. -/
theorem Run.nodup_calls (h : Run w manner s log r) (hs : s.Sound w entry) :
    (s.known ++ calls log).Nodup := by
  induction h with
  | finished hfrontier =>
    rw [calls, List.flatMap_nil, List.append_nil]
    exact hs.nodup
  | @failed s round e hfrontier hround =>
    have hnodup : (s.known ++ (s.round w manner).1.called).Nodup := hs.nodup_round
    rw [hround] at hnodup
    rw [calls, List.flatMap_singleton]
    exact hnodup
  | @next s s' round rest r hfrontier hround hrest ih =>
    have hknown := Stage.known_append_called_perm (congrArg Prod.snd hround)
    -- what this round calls the compiler for is known to the rounds that follow
    have hlater := ih (hs.next (Stage.next_of_round hround))
    rw [hround] at hknown
    rw [calls, List.flatMap_cons, ← List.append_assoc]
    exact (hknown.append_right (calls rest)).nodup_iff.2 hlater

/-- A run calls the compiler for paths of the world only. -/
theorem Run.calls_subset (h : Run w manner s log r) (hs : s.Sound w entry)
    (hw : w.Within paths) (hentry : entry ∈ paths) : calls log ⊆ paths := by
  induction h with
  | finished hfrontier => exact List.nil_subset paths
  | @failed s round e hfrontier hround =>
    have hcalled : (s.round w manner).1.called ⊆ paths := hs.round_called_subset hw hentry
    rw [hround] at hcalled
    rw [calls, List.flatMap_singleton]
    exact hcalled
  | @next s s' round rest r hfrontier hround hrest ih =>
    have hnext : s.next w = .ok s' := Stage.next_of_round hround
    have hcalled : (s.round w manner).1.called ⊆ paths := hs.round_called_subset hw hentry
    rw [hround] at hcalled
    rw [calls, List.flatMap_cons]
    exact List.append_subset.2 ⟨hcalled, ih (hs.next hnext)⟩

/-- A run that succeeds has called the compiler for the path of each module that it has added. -/
theorem Run.calls_perm (h : Run w manner s log r) (hs : s.Sound w entry) {assets : List Asset}
    (hr : r = .ok assets) : (s.known ++ calls log).Perm (assets.map (·.path)) := by
  induction h with
  | @finished s hfrontier =>
    rw [Except.ok.injEq] at hr
    have hpaths := hs.paths
    rw [Stage.modules, hfrontier, List.append_nil, hr] at hpaths
    rw [calls, List.flatMap_nil, List.append_nil, hpaths]
  | failed hfrontier hround => simp at hr
  | @next s s' round rest r hfrontier hround hrest ih =>
    have hknown := Stage.known_append_called_perm (congrArg Prod.snd hround)
    rw [hround] at hknown
    rw [calls, List.flatMap_cons, ← List.append_assoc]
    exact (hknown.append_right (calls rest)).trans
      (ih (hs.next (Stage.next_of_round hround)) hr)

/-- The executable rounds have the result of the run that compiles in order, where they are as
many. -/
theorem Run.rounds_eq (h : Run w .inOrder s log r) {fuel : Nat} (hfuel : log.length ≤ fuel) :
    rounds w fuel s.done s.frontier s.known = r := by
  induction h generalizing fuel with
  | @finished s hfrontier =>
    cases fuel with
    | zero => rw [rounds, hfrontier, List.append_nil]
    | succ fuel => rw [rounds_succ, if_pos (List.isEmpty_iff.2 hfrontier)]
  | @failed s round e hfrontier hround =>
    rw [List.length_singleton] at hfuel
    obtain ⟨fuel, rfl⟩ := Nat.exists_eq_add_of_le' hfuel
    rw [rounds_succ, if_neg (fun hempty => hfrontier (List.isEmpty_iff.1 hempty)),
      ← Stage.round_inOrder_snd, hround]
  | @next s s' round rest r hfrontier hround hrest ih =>
    rw [List.length_cons] at hfuel
    obtain ⟨fuel, rfl⟩ := Nat.exists_eq_add_of_le' (Nat.le_of_add_left_le hfuel)
    rw [rounds_succ, if_neg (fun hempty => hfrontier (List.isEmpty_iff.1 hempty)),
      ← Stage.round_inOrder_snd, hround]
    exact ih (by omega)

end Runs

/-! ## Searches in a tree -/

/-- What a search has had done: the calls of the compiler for the entry, and the rounds. -/
structure Log where
  entry : List Path
  rounds : List Round

/-- The paths that the compiler has been called for, in the order of the calls. -/
def Log.calls (log : Log) : List Path := log.entry ++ Graph.calls log.rounds

/-- What resolving an entry in a tree has done, and its result. -/
inductive Resolves (t : FileTree) (rules : List Rule) (resolver : Resolver) (manner : Manner)
    (entry : Path) : Log → Except BuildError (List Asset) → Prop
  | missing {cause : FileError} (hentry : t.canonicalize entry = .error cause) :
    Resolves t rules resolver manner entry ⟨[], []⟩ (.error (.unreadable entry cause))
  | unbuilt {p : Path} {e : BuildError} (hentry : t.canonicalize entry = .ok p)
    (hbuild : compile t rules p = .error e) :
    Resolves t rules resolver manner entry ⟨[p], []⟩ (.error e)
  | searched {p : Path} {c : Compiled} {rounds : List Round}
    {r : Except BuildError (List Asset)} (hentry : t.canonicalize entry = .ok p)
    (hbuild : compile t rules p = .ok c)
    (hrun : Run (.ofTree t rules resolver) manner ⟨[], [fresh 0 p c], [p]⟩ rounds r) :
    Resolves t rules resolver manner entry ⟨[p], rounds⟩ r

section Resolves

variable {t : FileTree} {rules : List Rule} {resolver : Resolver} {manner : Manner}
  {entry : Path} {log log' : Log} {r r' : Except BuildError (List Asset)}

/-- Compiling the entry alone. -/
theorem buildAll_entry {p : Path} {c : Compiled} (hbuild : compile t rules p = .ok c) :
    buildAll (.ofTree t rules resolver) 0 [p] = .ok [fresh 0 p c] := by
  have hworld : (World.ofTree t rules resolver).compile p = .ok c := hbuild
  rw [buildAll_cons_of_ok hworld, buildAll]
  rfl

/-- A search begins with its entry compiled. -/
theorem sound_entry {p : Path} {c : Compiled} (hbuild : compile t rules p = .ok c) :
    Stage.Sound (.ofTree t rules resolver) p ⟨[], [fresh 0 p c], [p]⟩ :=
  Stage.sound_start (buildAll_entry hbuild)

/-- A search does one thing. -/
theorem Resolves.unique (h : Resolves t rules resolver manner entry log r)
    (h' : Resolves t rules resolver manner entry log' r') : log = log' ∧ r = r' := by
  cases h with
  | missing hentry =>
    cases h' with
    | missing hentry' =>
      rw [hentry, Except.error.injEq] at hentry'
      exact ⟨rfl, by rw [hentry']⟩
    | unbuilt hentry' _ => simp [hentry] at hentry'
    | searched hentry' _ _ => simp [hentry] at hentry'
  | unbuilt hentry hbuild =>
    cases h' with
    | missing hentry' => simp [hentry] at hentry'
    | unbuilt hentry' hbuild' =>
      rw [hentry, Except.ok.injEq] at hentry'
      subst hentry'
      rw [hbuild, Except.error.injEq] at hbuild'
      exact ⟨rfl, by rw [hbuild']⟩
    | searched hentry' hbuild' _ =>
      rw [hentry, Except.ok.injEq] at hentry'
      subst hentry'
      simp [hbuild] at hbuild'
  | searched hentry hbuild hrun =>
    cases h' with
    | missing hentry' => simp [hentry] at hentry'
    | unbuilt hentry' hbuild' =>
      rw [hentry, Except.ok.injEq] at hentry'
      subst hentry'
      simp [hbuild] at hbuild'
    | searched hentry' hbuild' hrun' =>
      rw [hentry, Except.ok.injEq] at hentry'
      subst hentry'
      rw [hbuild, Except.ok.injEq] at hbuild'
      subst hbuild'
      obtain ⟨hrounds, hr⟩ := hrun.unique hrun'
      exact ⟨by rw [hrounds], hr⟩

/-- A search ends. -/
theorem exists_resolves (t : FileTree) (rules : List Rule) (resolver : Resolver)
    (manner : Manner) (entry : Path) : ∃ log r, Resolves t rules resolver manner entry log r := by
  cases hentry : t.canonicalize entry with
  | error cause => exact ⟨_, _, .missing hentry⟩
  | ok p =>
    cases hbuild : compile t rules p with
    | error e => exact ⟨_, _, .unbuilt hentry hbuild⟩
    | ok c =>
      have hcanonical : t.IsCanonical p := ⟨entry, hentry⟩
      obtain ⟨rounds, r, hrun⟩ := exists_run manner (within_ofTree t rules resolver)
        hcanonical.mem_canonicalPaths (sound_entry hbuild) (enough_start t _ p)
      exact ⟨_, _, .searched hentry hbuild hrun⟩

/-- Compiling in order, the search is the executable one. -/
theorem Resolves.resolve_eq (h : Resolves t rules resolver .inOrder entry log r) :
    resolve t rules resolver entry = r := by
  cases h with
  | missing hentry => rw [resolve, hentry]
  | @unbuilt p e hentry hbuild =>
    have hworld : (World.ofTree t rules resolver).compile p = .error e := hbuild
    rw [resolve, hentry]
    dsimp only
    rw [search, buildAll_cons_of_error hworld]
    rfl
  | @searched p c rounds r hentry hbuild hrun =>
    have hcanonical : t.IsCanonical p := ⟨entry, hentry⟩
    have hlength := hrun.length_rounds_le (sound_entry hbuild) (within_ofTree t rules resolver)
      hcanonical.mem_canonicalPaths
    rw [FileTree.length_canonicalPaths, List.length_singleton] at hlength
    rw [resolve, hentry]
    dsimp only
    rw [search, buildAll_entry hbuild]
    exact hrun.rounds_eq (by omega)

end Resolves

/-! ## The bound -/

/-- The canonical paths of a tree are finitely many. -/
theorem finite_isCanonical (t : FileTree) : {q | t.IsCanonical q}.Finite :=
  (List.finite_toSet t.canonicalPaths).subset fun _ hq => hq.mem_canonicalPaths

/-- What a search does is bounded by the canonical paths of the tree. -/
structure Bounded (t : FileTree) (log : Log) : Prop where
  /-- There are no more rounds than canonical paths. -/
  rounds_le : log.rounds.length ≤ {q | t.IsCanonical q}.ncard
  /-- The compiler is called for canonical paths only. -/
  canonical : ∀ p ∈ log.calls, t.IsCanonical p
  /-- It is called for no path twice. -/
  nodup : log.calls.Nodup
  /-- It is called no more often than there are canonical paths. -/
  calls_le : log.calls.length ≤ {q | t.IsCanonical q}.ncard

section Bound

variable {t : FileTree} {rules : List Rule} {resolver : Resolver} {manner : Manner}
  {entry : Path} {log : Log} {r : Except BuildError (List Asset)}

/-- Canonical paths that are not repeated are no more than there are. -/
theorem length_le_ncard {paths : List Path} (hnodup : paths.Nodup)
    (hcanonical : ∀ p ∈ paths, t.IsCanonical p) :
    paths.length ≤ {q | t.IsCanonical q}.ncard := by
  have hle : {q | q ∈ paths}.ncard ≤ {q | t.IsCanonical q}.ncard :=
    Set.ncard_le_ncard hcanonical (finite_isCanonical t)
  have hcard : {q | q ∈ paths}.ncard = paths.length := by
    have htoFinset : {q | q ∈ paths} = (paths.toFinset : Set Path) := by
      ext q
      simp
    rw [htoFinset, Set.ncard_coe_finset, List.toFinset_card_of_nodup hnodup]
  omega

/-- All specifiers lead to canonical paths, of which a list holds each once. -/
theorem exists_within (t : FileTree) (rules : List Rule) (resolver : Resolver) :
    ∃ paths : List Path, (World.ofTree t rules resolver).Within paths ∧
      (∀ q, q ∈ paths ↔ t.IsCanonical q) ∧ paths.length = {q | t.IsCanonical q}.ncard := by
  refine ⟨(finite_isCanonical t).toFinset.toList, ?_, ?_, ?_⟩
  · intro importer s q h
    simpa using isCanonical_of_locate h
  · intro q
    simp
  · rw [Finset.length_toList, Set.ncard_eq_toFinset_card _ (finite_isCanonical t)]

theorem Resolves.bounded (h : Resolves t rules resolver manner entry log r) : Bounded t log := by
  obtain ⟨paths, hw, hpaths, hlength⟩ := exists_within t rules resolver
  have hbounded : ∀ {log : Log}, log.rounds.length ≤ paths.length →
      (∀ p ∈ log.calls, t.IsCanonical p) → log.calls.Nodup → Bounded t log := by
    intro log hrounds hcanonical hnodup
    exact ⟨hlength ▸ hrounds, hcanonical, hnodup, length_le_ncard hnodup hcanonical⟩
  cases h with
  | missing hentry => exact hbounded (Nat.zero_le _) (by simp [Log.calls, calls]) List.nodup_nil
  | @unbuilt p e hentry hbuild =>
    have hcanonical : t.IsCanonical p := ⟨entry, hentry⟩
    refine hbounded (Nat.zero_le _) ?_ (List.nodup_singleton p)
    simpa [Log.calls, calls] using hcanonical
  | @searched p c rounds r hentry hbuild hrun =>
    have hentry' : p ∈ paths := (hpaths p).2 ⟨entry, hentry⟩
    have hs : Stage.Sound (.ofTree t rules resolver) p ⟨[], [fresh 0 p c], [p]⟩ :=
      sound_entry hbuild
    refine hbounded ?_ ?_ (hrun.nodup_calls hs)
    · have hrounds := hrun.length_rounds_le hs hw hentry'
      rw [List.length_singleton] at hrounds
      exact Nat.le_of_add_le_add_right hrounds
    · intro q hq
      rcases List.mem_append.1 hq with hq | hq
      · rw [List.mem_singleton.1 hq]
        exact ⟨entry, hentry⟩
      · exact (hpaths q).1 (hrun.calls_subset hs hw hentry' hq)

/-- A search that succeeds has called the compiler once for each module. -/
theorem Resolves.calls_perm {assets : List Asset}
    (h : Resolves t rules resolver manner entry log (.ok assets)) :
    log.calls.Perm (assets.map (·.path)) := by
  cases h with
  | searched hentry hbuild hrun => exact hrun.calls_perm (sound_entry hbuild) rfl

end Bound

/-- **A search ends, whatever the tree, the loaders and the resolver are.** In whichever manner
paths are compiled, what a search does is one thing, and it ends: there are no more rounds than
canonical paths in the tree, and the compiler is called at most once for each of these and for
nothing else. Where it succeeds, these calls are one for each module. Compiling in order, its
result is that of the executable search. -/
theorem exists_bounded_resolves (t : FileTree) (rules : List Rule) (resolver : Resolver)
    (manner : Manner) (entry : Path) :
    ∃ log r, Resolves t rules resolver manner entry log r ∧
      (∀ log' r', Resolves t rules resolver manner entry log' r' → log' = log ∧ r' = r) ∧
      Bounded t log ∧
      (∀ assets, r = .ok assets → log.calls.Perm (assets.map (·.path))) ∧
      (manner = .inOrder → resolve t rules resolver entry = r) := by
  obtain ⟨log, r, h⟩ := exists_resolves t rules resolver manner entry
  refine ⟨log, r, h, fun log' r' h' => h'.unique h, h.bounded, ?_, ?_⟩
  · intro assets hr
    subst hr
    exact h.calls_perm
  · intro hmanner
    subst hmanner
    exact h.resolve_eq

/-- In the cyclic tree, where a file imports itself and others are imported several times, the
compiler is called three times. -/
theorem bounded_resolves_cyclicTree :
    ∃ log assets, Resolves cyclicTree [] Resolver.relative .inOrder (.ofString "./a") log
        (.ok assets) ∧
      Bounded cyclicTree log ∧
      (log.calls.map Path.toString).Perm ["/p/a", "/p/b", "/p/c"] := by
  obtain ⟨assets, hresolve, hmappings⟩ := exists_resolve_cyclicTree
  obtain ⟨log, r, h, -, hbounded, hcalls, hsame⟩ :=
    exists_bounded_resolves cyclicTree [] Resolver.relative .inOrder (.ofString "./a")
  have hr : r = .ok assets := (hsame rfl).symm.trans hresolve
  subst hr
  refine ⟨log, assets, h, hbounded, ?_⟩
  have hnames := congrArg (List.map Prod.fst) hmappings
  rw [List.map_map] at hnames
  have hperm := (hcalls assets rfl).map Path.toString
  rw [List.map_map] at hperm
  exact hperm.trans (.of_eq hnames)

end ModuleBundler.Graph
