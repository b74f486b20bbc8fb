import ModuleBundler.Proofs.Graph.Numbering
import ModuleBundler.Proofs.Sequencing

/-!
A search in rounds against a search that goes one module at a time. The second one keeps a list of
modules that grows and a place in it. It looks up the specifiers of the module at its place, has a
path that it meets for the first time compiled at once, puts the module behind the others and goes
on to the next place. It is the simpler of the two to say and compiles while it looks up, whereas
a round first looks up everything; so the two may fail differently, but they succeed together and
with the same modules (`resolve_eq_oneByOne`).

The comparison is round by round. What one round discovers splits into what its modules discover
one after another (`discovers_cons_iff`), and visiting one module is linking it and compiling what
it alone discovers (`visit_between_eq_ok_iff`).
-/

set_option autoImplicit false

namespace ModuleBundler.Graph

/-! ## One module at a time -/

/-- Looks up the specifiers of a module one after another. One that leads to the path of a module
gets its number, and any other has its path compiled under the next number. -/
def visitSpecifiers (w : World) (importer : Path) :
    List String → Mapping → List Asset → Except BuildError (Mapping × List Asset)
  | [], mapping, queue => .ok (mapping, queue)
  | s :: rest, mapping, queue =>
    match w.locate importer s with
    | none => .error (.moduleNotFound s importer)
    | some p =>
      match queue.find? fun a => a.path = p with
      | some a => visitSpecifiers w importer rest (mapping.insert s a.id) queue
      | none =>
        match w.compile p with
        | .error e => .error e
        | .ok c =>
          visitSpecifiers w importer rest (mapping.insert s queue.length)
            (queue ++ [fresh queue.length p c])

/-- Modules found so far, and the place of the next one to visit. -/
structure Worklist where
  queue : List Asset
  cursor : Nat

namespace Worklist

/-- Visits the module at the cursor. -/
def visit (w : World) (l : Worklist) (a : Asset) : Except BuildError Worklist :=
  match visitSpecifiers w a.path a.specifiers a.mapping l.queue with
  | .error e => .error e
  | .ok (mapping, queue) =>
    .ok ⟨queue.set l.cursor { a with mapping := mapping }, l.cursor + 1⟩

/-- Visits modules until all have been visited. There is no result when that takes `fuel` steps
or more. -/
def run (w : World) : Nat → Worklist → Option (Except BuildError (List Asset))
  | 0, _ => none
  | fuel + 1, l =>
    match l.queue[l.cursor]? with
    | none => some (.ok l.queue)
    | some a =>
      match l.visit w a with
      | .error e => some (.error e)
      | .ok next => run w fuel next

end Worklist

/-- All modules reached from an entry in a file tree, found one at a time. -/
def oneByOne (t : FileTree) (rules : List Rule) (resolver : Resolver) (entry : Path)
    (fuel : Nat) : Option (Except BuildError (List Asset)) :=
  match t.canonicalize entry with
  | .error cause => some (.error (.unreadable entry cause))
  | .ok p =>
    match compile t rules p with
    | .error e => some (.error e)
    | .ok c => Worklist.run (.ofTree t rules resolver) fuel ⟨[fresh 0 p c], 0⟩

/-! ## What one module discovers -/

section Worklist

variable {w : World}

/-- A frontier of no modules discovers nothing. -/
theorem discovers_nil_iff {known : List Path} {found : List Asset} :
    Discovers w known [] found ↔ found = [] := by
  constructor
  · rintro ⟨-, hbuilt⟩
    rw [List.flatMap_nil, claimAll_nil, List.drop_length, buildAll, Except.ok.injEq] at hbuilt
    exact hbuilt.symm
  · rintro rfl
    refine ⟨by simp, ?_⟩
    rw [List.flatMap_nil, claimAll_nil, List.drop_length, buildAll]

/-- The paths behind some known ones, split where more have been claimed in between. -/
theorem drop_claimAll_append (known targets more : List Path) :
    (claimAll known (targets ++ more)).drop known.length
      = (claimAll known targets).drop known.length
        ++ (claimAll (claimAll known targets) more).drop (claimAll known targets).length := by
  obtain ⟨first, hfirst⟩ := prefix_claimAll known targets
  obtain ⟨second, hsecond⟩ := prefix_claimAll (claimAll known targets) more
  rw [claimAll_append, ← hsecond, ← hfirst]
  simp

/-- What a frontier discovers is what its first module discovers, and then what the others
discover where that is known. -/
theorem discovers_cons_iff {known : List Path} {a : Asset} {rest found : List Asset} :
    Discovers w known (a :: rest) found ↔
      ∃ first others, Discovers w known [a] first ∧
        Discovers w (claimAll known (targetsOf w a)) rest others ∧ found = first ++ others := by
  have hflat : (a :: rest).flatMap (targetsOf w)
      = targetsOf w a ++ rest.flatMap (targetsOf w) := List.flatMap_cons
  have hone : [a].flatMap (targetsOf w) = targetsOf w a := by simp
  have hlength : known.length + ((claimAll known (targetsOf w a)).drop known.length).length
      = (claimAll known (targetsOf w a)).length := by
    have hle := (prefix_claimAll known (targetsOf w a)).length_le
    rw [List.length_drop]
    omega
  constructor
  · rintro ⟨hlocated, hbuilt⟩
    rw [hflat, drop_claimAll_append, buildAll_append, hlength] at hbuilt
    cases hfirst : buildAll w known.length
        ((claimAll known (targetsOf w a)).drop known.length) with
    | error e =>
      rw [hfirst] at hbuilt
      cases hbuilt
    | ok first =>
      rw [hfirst] at hbuilt
      dsimp only at hbuilt
      cases hothers : buildAll w (claimAll known (targetsOf w a)).length
          ((claimAll (claimAll known (targetsOf w a)) (rest.flatMap (targetsOf w))).drop
            (claimAll known (targetsOf w a)).length) with
      | error e =>
        rw [hothers] at hbuilt
        cases hbuilt
      | ok others =>
        rw [hothers] at hbuilt
        cases hbuilt
        refine ⟨first, others, ⟨?_, by rw [hone, hfirst]⟩, ⟨?_, hothers⟩, rfl⟩
        · exact fun b hb => hlocated b (List.mem_singleton.1 hb ▸ List.mem_cons_self)
        · exact fun b hb => hlocated b (List.mem_cons_of_mem a hb)
  · rintro ⟨first, others, ⟨hlocated, hfirst⟩, ⟨hlocated', hothers⟩, rfl⟩
    rw [hone] at hfirst
    refine ⟨?_, ?_⟩
    · intro b hb
      rcases List.mem_cons.1 hb with rfl | hb
      · exact hlocated b (List.mem_singleton_self b)
      · exact hlocated' b hb
    · rw [hflat, drop_claimAll_append, buildAll_append, hlength, hfirst]
      dsimp only
      rw [hothers]
      rfl

/-! ## Visiting one module -/

/-- Looking for the module of a path is looking for the path among those known. -/
theorem find?_path_eq_none {queue : List Asset} {p : Path} :
    (queue.find? fun a => a.path = p) = none ↔ p ∉ queue.map (·.path) := by
  simp [List.find?_eq_none]

/-- The module found for a path has the position of the path as its number. -/
theorem Placed.id_of_find? {queue : List Asset} (hq : Placed queue) {p : Path} {a : Asset}
    (ha : (queue.find? fun a => a.path = p) = some a) :
    p ∈ queue.map (·.path) ∧ (queue.map (·.path)).idxOf p = a.id := by
  have hmem : a ∈ queue := List.mem_of_find?_eq_some ha
  have hpath : a.path = p := by simpa using List.find?_some ha
  rw [← hpath]
  exact ⟨List.mem_map_of_mem hmem, hq.idxOf_path hmem⟩

/-- A module with the next number may be put behind placed ones if its path is new. -/
theorem Placed.append_fresh {queue : List Asset} (hq : Placed queue) {p : Path}
    (hp : p ∉ queue.map (·.path)) (c : Compiled) :
    Placed (queue ++ [fresh queue.length p c]) := by
  refine ⟨?_, ?_⟩
  · rw [List.map_append, hq.ids, List.length_append, List.length_singleton, List.range_succ]
    rfl
  · have hpaths := hq.nodup.concat hp
    rw [List.concat_eq_append] at hpaths
    rw [List.map_append]
    exact hpaths

/-- The paths behind known ones begin with the first new target. -/
theorem drop_claimAll_cons_of_notMem {known : List Path} {p : Path} (hp : p ∉ known)
    (targets : List Path) :
    (claimAll known (p :: targets)).drop known.length
      = p :: (claimAll (known ++ [p]) targets).drop (known ++ [p]).length := by
  obtain ⟨more, hmore⟩ := prefix_claimAll (known ++ [p]) targets
  rw [claimAll_cons_of_notMem hp, ← hmore]
  simp

/-- Visiting fails when a specifier leads nowhere or a new path does not compile. Otherwise the
new targets are compiled and put behind, and each specifier has the position of its target. -/
theorem visitSpecifiers_eq {importer : Path} (specifiers : List String) (m : Mapping)
    {queue : List Asset} {known : List Path} (hq : Placed queue)
    (hknown : queue.map (·.path) = known) :
    (visitSpecifiers w importer specifiers m queue).toOption =
      match missing? w importer specifiers with
      | some _ => none
      | none =>
        (buildAll w known.length
            ((claimAll known (targets w importer specifiers)).drop known.length)).toOption.map
          fun found =>
            (m.insertAll (entries w (claimAll known (targets w importer specifiers))
              importer specifiers), queue ++ found) := by
  induction specifiers generalizing m queue known with
  | nil =>
    simp [visitSpecifiers, missing?, targets, entries, buildAll, Except.toOption]
  | cons s rest ih =>
    cases hs : w.locate importer s with
    | none =>
      rw [missing?_cons_of_none hs, visitSpecifiers, hs]
      rfl
    | some p =>
      rw [missing?_cons_of_some hs, targets_cons_of_some hs, entries_cons_of_some hs,
        Mapping.insertAll_cons, visitSpecifiers, hs]
      dsimp only
      cases ha : queue.find? fun a => a.path = p with
      | some a =>
        obtain ⟨hp, hid⟩ := hq.id_of_find? ha
        rw [hknown] at hp hid
        rw [claimAll_cons_of_mem hp, idxOf_claimAll hp, hid]
        exact ih (m.insert s a.id) hq hknown
      | none =>
        -- a new path is compiled here, and in the round before all others that are still to come
        have hp : p ∉ known := hknown ▸ find?_path_eq_none.1 ha
        have hlength : queue.length = known.length := by rw [← hknown, List.length_map]
        have hid : (claimAll (known ++ [p]) (targets w importer rest)).idxOf p
            = known.length := by
          have hmem : p ∈ known ++ [p] := List.mem_append_right _ (List.mem_singleton_self p)
          rw [idxOf_claimAll hmem, List.idxOf_append_of_notMem hp, List.idxOf_cons_self,
            Nat.add_zero]
        rw [drop_claimAll_cons_of_notMem hp, claimAll_cons_of_notMem hp, hid]
        cases hc : w.compile p with
        | error e =>
          rw [buildAll_cons_of_error hc]
          cases missing? w importer rest with
          | some e' => rfl
          | none => rfl
        | ok c =>
          have hknown' : (queue ++ [fresh queue.length p c]).map (·.path) = known ++ [p] := by
            rw [List.map_append, hknown]
            rfl
          have hrest := ih (m.insert s queue.length)
            (hq.append_fresh (hknown ▸ hp) c) hknown'
          rw [buildAll_cons_of_ok hc]
          dsimp only
          rw [hrest, hlength, List.length_append, List.length_singleton]
          cases missing? w importer rest with
          | some e => rfl
          | none =>
            cases buildAll w (known.length + 1)
                ((claimAll (known ++ [p]) (targets w importer rest)).drop (known.length + 1)) with
            | error e => rfl
            | ok found => simp [Except.toOption, Except.map]

/-- Looking up all specifiers of a module succeeds when the module discovers something. -/
theorem visitSpecifiers_eq_ok_iff {a : Asset} {queue : List Asset} {known : List Path}
    (hq : Placed queue) (hknown : queue.map (·.path) = known) {r : Mapping × List Asset} :
    visitSpecifiers w a.path a.specifiers a.mapping queue = .ok r ↔
      ∃ found, Discovers w known [a] found ∧
        r = ((linked w (claimAll known (targetsOf w a)) a).mapping, queue ++ found) := by
  have heq := @visitSpecifiers_eq w a.path a.specifiers a.mapping queue known hq hknown
  have hone : [a].flatMap (targetsOf w) = targets w a.path a.specifiers := by
    simp [targetsOf]
  rw [← toOption_eq_some_iff, heq]
  cases hmissing : missing? w a.path a.specifiers with
  | some e =>
    simp only [reduceCtorEq, false_iff]
    rintro ⟨found, ⟨hlocated, -⟩, -⟩
    have hnone := missing?_eq_none.2 (hlocated a (List.mem_singleton_self a))
    rw [hmissing] at hnone
    cases hnone
  | none =>
    have hlocated : ∀ b ∈ [a], Located w b := by
      intro b hb
      rw [List.mem_singleton.1 hb]
      exact missing?_eq_none.1 hmissing
    simp only [Option.map_eq_some_iff]
    constructor
    · rintro ⟨found, hbuilt, rfl⟩
      refine ⟨found, ⟨hlocated, ?_⟩, rfl⟩
      rw [hone]
      exact toOption_eq_some_iff.1 hbuilt
    · rintro ⟨found, ⟨-, hbuilt⟩, rfl⟩
      rw [hone] at hbuilt
      exact ⟨found, toOption_eq_some_iff.2 hbuilt, rfl⟩

/-! ## Visiting a frontier -/

namespace Worklist

/-- A step of a run. -/
theorem run_succ_of_some {l : Worklist} {a : Asset} (ha : l.queue[l.cursor]? = some a)
    (fuel : Nat) :
    run w (fuel + 1) l =
      match l.visit w a with
      | .error e => some (.error e)
      | .ok next => run w fuel next := by
  rw [run, ha]

/-- A run ends behind the last module. -/
theorem run_succ_of_none {l : Worklist} (h : l.queue[l.cursor]? = none) (fuel : Nat) :
    run w (fuel + 1) l = some (.ok l.queue) := by
  rw [run, h]

/-- More fuel does not change a result. -/
theorem run_add {fuel : Nat} {l : Worklist} {r : Except BuildError (List Asset)}
    (h : run w fuel l = some r) (more : Nat) : run w (fuel + more) l = some r := by
  induction fuel generalizing l with
  | zero => cases h
  | succ fuel ih =>
    have hfuel : fuel + 1 + more = fuel + more + 1 := by omega
    rw [hfuel]
    cases ha : l.queue[l.cursor]? with
    | none =>
      rw [run_succ_of_none ha] at h ⊢
      exact h
    | some a =>
      rw [run_succ_of_some ha] at h ⊢
      cases hv : l.visit w a with
      | error e =>
        rw [hv] at h
        exact h
      | ok next =>
        rw [hv] at h
        exact ih h

/-- A run has one result. -/
theorem run_unique {fuel fuel' : Nat} {l : Worklist} {r r' : Except BuildError (List Asset)}
    (h : run w fuel l = some r) (h' : run w fuel' l = some r') : r = r' := by
  have hmore := run_add h fuel'
  rw [Nat.add_comm, run_add h' fuel, Option.some.injEq] at hmore
  exact hmore.symm

/-- The worklist with modules that have been visited, the modules of a frontier that have not, and
those found later. -/
def between (done frontier later : List Asset) : Worklist :=
  ⟨done ++ frontier ++ later, done.length⟩

section Between

variable {done rest later : List Asset} {a : Asset} {known : List Path}

/-- A step of a run visits the first module of the frontier. -/
theorem run_between_cons (fuel : Nat) :
    run w (fuel + (a :: rest).length) (between done (a :: rest) later) =
      match (between done (a :: rest) later).visit w a with
      | .error e => some (.error e)
      | .ok next => run w (fuel + rest.length) next := by
  have hcursor : (between done (a :: rest) later).queue[done.length]? = some a := by
    simp [between]
  rw [List.length_cons, ← Nat.add_assoc]
  exact run_succ_of_some hcursor (fuel + rest.length)

/-- Visiting a module is linking it, and putting behind what it discovers. -/
theorem visit_between_eq_ok_iff (hq : Placed (between done (a :: rest) later).queue)
    (hknown : (between done (a :: rest) later).queue.map (·.path) = known) {l : Worklist} :
    (between done (a :: rest) later).visit w a = .ok l ↔
      ∃ found, Discovers w known [a] found ∧
        l = between (done ++ [linked w (claimAll known (targetsOf w a)) a]) rest
          (later ++ found) := by
  have hset : ∀ (b : Asset) (found : List Asset),
      (⟨((between done (a :: rest) later).queue ++ found).set done.length b,
        done.length + 1⟩ : Worklist) = between (done ++ [b]) rest (later ++ found) := by
    intro b found
    simp [between]
  unfold visit
  constructor
  · intro h
    split at h
    · cases h
    · next m queue hvisit =>
      obtain ⟨found, hfound, hr⟩ := (visitSpecifiers_eq_ok_iff hq hknown).1 hvisit
      obtain ⟨rfl, rfl⟩ := Prod.mk.inj hr
      cases h
      exact ⟨found, hfound, hset _ _⟩
  · rintro ⟨found, hfound, rfl⟩
    rw [(visitSpecifiers_eq_ok_iff hq hknown).2 ⟨found, hfound, rfl⟩, ← hset]
    rfl

/-- Linking keeps modules placed, and so does putting behind them what has been discovered. -/
theorem placed_of_visit (hq : Placed (between done (a :: rest) later).queue)
    (hknown : (between done (a :: rest) later).queue.map (·.path) = known) {found : List Asset}
    (hfound : Discovers w known [a] found) (k : List Path) :
    Placed (between (done ++ [linked w k a]) rest (later ++ found)).queue ∧
      (between (done ++ [linked w k a]) rest (later ++ found)).queue.map (·.path)
        = claimAll known (targetsOf w a) := by
  have hone : [a].flatMap (targetsOf w) = targetsOf w a := by simp
  have happend := hfound.known_append
  rw [hone] at happend
  obtain ⟨-, hids, -⟩ := buildAll_ok hfound.built
  have hsame : ∀ {β : Type} (f : Asset → β), f (linked w k a) = f a →
      (between (done ++ [linked w k a]) rest (later ++ found)).queue.map f
        = (between done (a :: rest) later).queue.map f ++ found.map f := by
    intro β f hf
    simp [between, hf]
  have hpaths : (between (done ++ [linked w k a]) rest (later ++ found)).queue.map (·.path)
      = claimAll known (targetsOf w a) := by
    rw [hsame _ rfl, hknown, happend]
  have hbefore : (between done (a :: rest) later).queue.length = known.length := by
    rw [← hknown, List.length_map]
  have hlength : (between (done ++ [linked w k a]) rest (later ++ found)).queue.length
      = known.length + found.length := by
    have hunits := congrArg List.length (hsame (fun _ => ()) rfl)
    rw [List.length_map, List.length_append, List.length_map, List.length_map, hbefore] at hunits
    exact hunits
  refine ⟨⟨?_, ?_⟩, hpaths⟩
  · rw [hsame _ rfl, hq.ids, hids, hlength, hbefore, List.range_eq_range', List.range_eq_range']
    have hrange := @List.range'_append_1 0 known.length found.length
    rw [Nat.zero_add] at hrange
    exact hrange
  · rw [hpaths, claimAll_eq_eraseDups (hknown ▸ hq.nodup)]
    exact nodup_eraseDups _

end Between

/-- Visiting the modules of a frontier does in steps what a round does at once. -/
theorem run_frontier_of_discovers {frontier done later found : List Asset} {known : List Path}
    (hq : Placed (between done frontier later).queue)
    (hknown : (between done frontier later).queue.map (·.path) = known)
    (hfound : Discovers w known frontier found) (fuel : Nat) :
    run w (fuel + frontier.length) (between done frontier later) =
      run w fuel (between
        (done ++ frontier.map (linked w (claimAll known (frontier.flatMap (targetsOf w))))) []
        (later ++ found)) := by
  induction frontier generalizing done later found known with
  | nil =>
    rw [discovers_nil_iff.1 hfound]
    simp
  | cons a rest ih =>
    obtain ⟨first, others, hfirst, hothers, rfl⟩ := discovers_cons_iff.1 hfound
    obtain ⟨hq', hknown'⟩ := placed_of_visit hq hknown hfirst (claimAll known (targetsOf w a))
    have hhere : linked w (claimAll known (targetsOf w a ++ rest.flatMap (targetsOf w))) a
        = linked w (claimAll known (targetsOf w a)) a := by
      rw [claimAll_append]
      exact linked_claimAll (fun q hq => mem_claimAll.2 (Or.inr hq)) _
    rw [run_between_cons, (visit_between_eq_ok_iff hq hknown).2 ⟨first, hfirst, rfl⟩]
    dsimp only
    rw [ih hq' hknown' hothers, List.flatMap_cons, List.map_cons, hhere, claimAll_append,
      List.append_assoc, List.append_assoc, List.singleton_append]

/-- Where a round fails, visiting its frontier fails. -/
theorem run_frontier_of_not_discovers {frontier done later : List Asset} {known : List Path}
    (hq : Placed (between done frontier later).queue)
    (hknown : (between done frontier later).queue.map (·.path) = known)
    (hfail : ∀ found, ¬ Discovers w known frontier found) (fuel : Nat) :
    ∃ e, run w (fuel + frontier.length) (between done frontier later) = some (.error e) := by
  induction frontier generalizing done later known with
  | nil => exact absurd (discovers_nil_iff.2 rfl) (hfail [])
  | cons a rest ih =>
    rw [run_between_cons]
    cases hvisit : (between done (a :: rest) later).visit w a with
    | error e => exact ⟨e, rfl⟩
    | ok l =>
      obtain ⟨first, hfirst, rfl⟩ := (visit_between_eq_ok_iff hq hknown).1 hvisit
      obtain ⟨hq', hknown'⟩ :=
        placed_of_visit hq hknown hfirst (claimAll known (targetsOf w a))
      exact ih hq' hknown' fun others hothers =>
        hfail (first ++ others) (discovers_cons_iff.2 ⟨first, others, hfirst, hothers, rfl⟩)

/-- Where the frontier is empty, nothing is left to visit. -/
theorem run_of_frontier_eq_nil {s : Stage} (hfrontier : s.frontier = []) :
    run w 1 ⟨s.modules, s.done.length⟩ = some (.ok s.done) := by
  have hmodules : s.modules = s.done := by rw [Stage.modules, hfrontier, List.append_nil]
  rw [hmodules]
  exact run_succ_of_none (by simp) 0

/-- A run from the stage between two rounds ends, and as the rounds do: with the same modules, or
both with a failure. -/
theorem exists_run_of_rounds {paths : List Path} {entry : Path} (hw : w.Within paths)
    (hentry : entry ∈ paths) {fuel : Nat} {s : Stage} (hs : s.Sound w entry)
    (hfuel : Enough paths fuel s) :
    ∃ n r, run w n ⟨s.modules, s.done.length⟩ = some r ∧
      r.toOption = (rounds w fuel s.done s.frontier s.known).toOption := by
  induction fuel generalizing s with
  | zero =>
    have hfrontier := hfuel.frontier_eq_nil hs hw hentry
    refine ⟨1, _, run_of_frontier_eq_nil hfrontier, ?_⟩
    rw [rounds, hfrontier, List.append_nil]
  | succ fuel ih =>
    rw [rounds_succ]
    by_cases hfrontier : s.frontier = []
    · refine ⟨1, _, run_of_frontier_eq_nil hfrontier, ?_⟩
      rw [if_pos (List.isEmpty_iff.2 hfrontier)]
    · rw [if_neg (fun hempty => hfrontier (List.isEmpty_iff.1 hempty))]
      have hqueue : s.modules = (between s.done s.frontier []).queue := by
        rw [Stage.modules, between, List.append_nil]
      have hq := hqueue ▸ hs.placed
      have hknown := hqueue ▸ hs.paths
      cases hnext : s.next w with
      | error e =>
        have hfail : ∀ found, ¬ Discovers w s.known s.frontier found := by
          intro found hfound
          let known := claimAll s.known (s.frontier.flatMap (targetsOf w))
          let s' : Stage := ⟨s.done ++ s.frontier.map (linked w known), found, known⟩
          have hok : s.next w = .ok s' := Stage.next_eq_ok_iff.2 ⟨hfound, rfl, rfl⟩
          rw [hnext] at hok
          cases hok
        obtain ⟨e', hrun⟩ := run_frontier_of_not_discovers hq hknown hfail 0
        rw [hqueue]
        exact ⟨_, _, hrun, rfl⟩
      | ok s' =>
        obtain ⟨hfound, hclaimed, hdone⟩ := Stage.next_eq_ok_iff.1 hnext
        obtain ⟨n, r, hrun, hr⟩ := ih (hs.next hnext) (hfuel.next hfrontier hnext)
        have hstep := run_frontier_of_discovers hq hknown hfound n
        have hlinked : between s'.done [] s'.frontier = ⟨s'.modules, s'.done.length⟩ := by
          rw [between, List.append_nil]
          rfl
        rw [← hclaimed, ← hdone, List.nil_append, hlinked] at hstep
        rw [hqueue]
        exact ⟨_, r, hstep.trans hrun, hr⟩

end Worklist

end Worklist

/-! ## The two searches -/

/-- The modules of a search are those that imports reach from the entry. -/
theorem Complete.mem_paths_iff {w : World} {entry : Path} {assets : List Asset}
    (h : Complete w entry assets) (q : Path) :
    q ∈ assets.map (·.path) ↔ Reaches w entry q := by
  constructor
  · exact h.reached q
  · intro hq
    induction hq with
    | refl =>
      rw [h.paths_eq, List.mem_eraseDups]
      exact List.mem_cons_self
    | tail _ hstep ih =>
      obtain ⟨c, hc, s, hs, hlocate⟩ := hstep
      obtain ⟨a, ha, rfl⟩ := List.mem_map.1 ih
      have hcompiled := h.compiled a (List.mem_append_left _ ha)
      rw [hc, Except.ok.injEq] at hcompiled
      subst hcompiled
      exact h.mem_known ha (mem_targets.2 ⟨s, hs, hlocate⟩)

/-- The search that goes one module at a time has one result. -/
theorem oneByOne_unique {t : FileTree} {rules : List Rule} {resolver : Resolver} {entry : Path}
    {fuel fuel' : Nat} {r r' : Except BuildError (List Asset)}
    (h : oneByOne t rules resolver entry fuel = some r)
    (h' : oneByOne t rules resolver entry fuel' = some r') : r = r' := by
  unfold oneByOne at h h'
  cases hentry : t.canonicalize entry with
  | error cause =>
    rw [hentry] at h h'
    exact Option.some.inj (h.symm.trans h')
  | ok p =>
    rw [hentry] at h h'
    dsimp only at h h'
    cases hc : compile t rules p with
    | error e =>
      rw [hc] at h h'
      exact Option.some.inj (h.symm.trans h')
    | ok c =>
      rw [hc] at h h'
      exact Worklist.run_unique h h'

/-- The search that goes one module at a time ends in every tree, and as the search in rounds
does: with the same modules, or both with a failure. -/
theorem exists_oneByOne (t : FileTree) (rules : List Rule) (resolver : Resolver) (entry : Path) :
    ∃ fuel r, oneByOne t rules resolver entry fuel = some r ∧
      r.toOption = (resolve t rules resolver entry).toOption := by
  unfold oneByOne resolve
  cases hentry : t.canonicalize entry with
  | error cause => exact ⟨0, _, rfl, rfl⟩
  | ok p =>
    dsimp only
    have hcompile : (World.ofTree t rules resolver).compile p = compile t rules p := rfl
    cases hc : compile t rules p with
    | error e =>
      rw [search, buildAll_cons_of_error (hcompile.trans hc)]
      exact ⟨0, _, rfl, rfl⟩
    | ok c =>
      have hfound : buildAll (.ofTree t rules resolver) 0 [p] = .ok [fresh 0 p c] := by
        rw [buildAll_cons_of_ok (hcompile.trans hc), buildAll]
        rfl
      have hcanonical : t.IsCanonical p := ⟨entry, hentry⟩
      rw [search, hfound]
      exact Worklist.exists_run_of_rounds (within_ofTree t rules resolver)
        hcanonical.mem_canonicalPaths (Stage.sound_start hfound) (enough_start t _ p)

/-- **Rounds find what going one module at a time finds.** The search in rounds succeeds exactly
when the search that goes one module at a time does, and then with the same list of modules; the
latter always ends. The paths of the list are those that imports reach from the canonical entry,
each once, and they are in the order of discovery: the entry, and then for module after module
what its specifiers lead to. -/
theorem resolve_eq_oneByOne (t : FileTree) (rules : List Rule) (resolver : Resolver)
    (entry : Path) :
    (∀ assets, resolve t rules resolver entry = .ok assets ↔
        ∃ fuel, oneByOne t rules resolver entry fuel = some (.ok assets)) ∧
      (∃ fuel r, oneByOne t rules resolver entry fuel = some r) ∧
      ∀ assets, resolve t rules resolver entry = .ok assets →
        ∃ p, t.canonicalize entry = .ok p ∧
          (assets.map (·.path)).Nodup ∧
          (∀ q, q ∈ assets.map (·.path) ↔ Reaches (.ofTree t rules resolver) p q) ∧
          assets.map (·.path) = (p :: assets.flatMap fun a =>
            a.specifiers.filterMap (locate resolver t a.path)).eraseDups := by
  obtain ⟨fuel, r, hrun, hr⟩ := exists_oneByOne t rules resolver entry
  refine ⟨fun assets => ⟨?_, ?_⟩, ⟨fuel, r, hrun⟩, ?_⟩
  · intro h
    rw [h] at hr
    rw [toOption_eq_some_iff.1 hr] at hrun
    exact ⟨fuel, hrun⟩
  · rintro ⟨fuel', hrun'⟩
    rw [oneByOne_unique hrun hrun'] at hr
    exact toOption_eq_some_iff.1 hr.symm
  · intro assets h
    obtain ⟨p, hentry, hc⟩ := complete_of_resolve h
    exact ⟨p, hentry, hc.placed.nodup, hc.mem_paths_iff, hc.paths_eq⟩

/-- In the cyclic tree both searches find the three modules. -/
theorem oneByOne_cyclicTree :
    ∃ assets fuel, resolve cyclicTree [] Resolver.relative (.ofString "./a") = .ok assets ∧
      oneByOne cyclicTree [] Resolver.relative (.ofString "./a") fuel = some (.ok assets) ∧
      assets.map (·.path.toString) = ["/p/a", "/p/b", "/p/c"] ∧
      ∃ p, ∀ q, q ∈ assets.map (·.path) ↔
        Reaches (.ofTree cyclicTree [] Resolver.relative) p q := by
  obtain ⟨assets, h, hmappings⟩ := exists_resolve_cyclicTree
  obtain ⟨hsame, -, hpaths⟩ :=
    resolve_eq_oneByOne cyclicTree [] Resolver.relative (.ofString "./a")
  obtain ⟨fuel, hrun⟩ := (hsame assets).1 h
  obtain ⟨p, -, -, hreaches, -⟩ := hpaths assets h
  refine ⟨assets, fuel, h, hrun, ?_, p, hreaches⟩
  have hnames := congrArg (List.map (·.1)) hmappings
  rw [List.map_map] at hnames
  exact hnames

end ModuleBundler.Graph
