import Mathlib.Data.List.FinRange
import Mathlib.Data.List.Perm.Subperm
import Mathlib.Logic.Equiv.Basic
import Mathlib.Logic.Function.Basic
import ModuleBundler.Proofs.Graph.Linking

/-!
Compiling the paths that a round has found, one after another or several at the same time. At the
same time they complete in some order, which is a permutation of them. Each module is put in its
own place, so where a module ends up does not depend on when it completes; of failures the first
one that comes is saved, and a saved failure counts before all modules.

So the order decides nothing but which failure is reported: what is compiled at the same time
succeeds exactly when it does one after another, and with the same modules
(`Manner.build_result_of_ok`), and otherwise it fails with the failure of one of the paths
(`Manner.build_result_of_error`). With the result it is told for which paths the compiler has been
called, as the bound on a search is one on these calls.
-/

set_option autoImplicit false

namespace ModuleBundler.Graph

/-! ## One path -/

/-- The module of a path under a number. -/
def buildOne (w : World) (id : Nat) (p : Path) : Except BuildError Asset :=
  (w.compile p).map (fresh id p)

theorem buildOne_eq_error_iff {w : World} {id : Nat} {p : Path} {e : BuildError} :
    buildOne w id p = .error e ↔ w.compile p = .error e := by
  unfold buildOne
  cases w.compile p with
  | ok c => simp [Except.map]
  | error e' => simp [Except.map]

/-- What the compiler has been called for, in the order in which the calls complete, and what has
come of it. -/
structure Batch where
  called : List Path
  result : Except BuildError (List Asset)

/-! ## One after another -/

/-- Compiles paths one after another, up to the first one that fails. -/
def buildInOrder (w : World) : Nat → List Path → Batch
  | _, [] => ⟨[], .ok []⟩
  | id, p :: rest =>
    match buildOne w id p with
    | .error e => ⟨[p], .error e⟩
    | .ok a =>
      let others := buildInOrder w (id + 1) rest
      ⟨p :: others.called, others.result.map (a :: ·)⟩

section InOrder

variable {w : World}

theorem buildInOrder_cons_of_ok {p : Path} {c : Compiled} (hp : w.compile p = .ok c) (id : Nat)
    (rest : List Path) :
    buildInOrder w id (p :: rest) = ⟨p :: (buildInOrder w (id + 1) rest).called,
      (buildInOrder w (id + 1) rest).result.map (fresh id p c :: ·)⟩ := by
  rw [buildInOrder, buildOne, hp]
  rfl

theorem buildInOrder_cons_of_error {p : Path} {e : BuildError} (hp : w.compile p = .error e)
    (id : Nat) (rest : List Path) : buildInOrder w id (p :: rest) = ⟨[p], .error e⟩ := by
  rw [buildInOrder, buildOne, hp]
  rfl

/-- The result is that of the search. -/
theorem buildInOrder_result (id : Nat) (paths : List Path) :
    (buildInOrder w id paths).result = buildAll w id paths := by
  induction paths generalizing id with
  | nil => rfl
  | cons p rest ih =>
    cases hp : w.compile p with
    | error e => rw [buildInOrder_cons_of_error hp, buildAll_cons_of_error hp]
    | ok c => rw [buildInOrder_cons_of_ok hp, buildAll_cons_of_ok hp, ← ih]

/-- The compiler is called for the paths up to the first one that fails. -/
theorem prefix_buildInOrder_called (id : Nat) (paths : List Path) :
    (buildInOrder w id paths).called <+: paths := by
  induction paths generalizing id with
  | nil => exact List.prefix_refl []
  | cons p rest ih =>
    cases hp : w.compile p with
    | error e =>
      rw [buildInOrder_cons_of_error hp]
      exact List.prefix_append [p] rest
    | ok c =>
      rw [buildInOrder_cons_of_ok hp]
      exact List.cons_prefix_cons.2 ⟨rfl, ih (id + 1)⟩

/-- Where none fails, it is called for all of them. -/
theorem buildInOrder_called_of_ok {id : Nat} {paths : List Path} {found : List Asset}
    (h : (buildInOrder w id paths).result = .ok found) :
    (buildInOrder w id paths).called = paths := by
  induction paths generalizing id found with
  | nil => rfl
  | cons p rest ih =>
    cases hp : w.compile p with
    | error e =>
      rw [buildInOrder_cons_of_error hp] at h
      simp at h
    | ok c =>
      rw [buildInOrder_cons_of_ok hp] at h ⊢
      dsimp only at h ⊢
      cases hrest : (buildInOrder w (id + 1) rest).result with
      | error e =>
        rw [hrest] at h
        simp [Except.map] at h
      | ok others => rw [ih hrest]

end InOrder

/-! ## At the same time -/

/-- The order in which paths complete that are compiled at the same time, as a permutation of
their places. It may be another one for each frontier, which is told by its first number and its
paths. -/
abbrev Schedule := (id : Nat) → (paths : List Path) → Equiv.Perm (Fin paths.length)

/-- The places of paths in the order in which the paths complete. -/
def Schedule.order (s : Schedule) (id : Nat) (paths : List Path) : List (Fin paths.length) :=
  (List.finRange paths.length).map (s id paths)

/-- All paths complete. -/
theorem Schedule.mem_order (s : Schedule) (id : Nat) {paths : List Path} (i : Fin paths.length) :
    i ∈ s.order id paths :=
  List.mem_map.2 ⟨(s id paths).symm i, List.mem_finRange _, (s id paths).apply_symm_apply i⟩

/-- What has been collected of `n` modules: a place for each of them, and the failure that has been
saved. -/
structure Collection (n : Nat) where
  places : Fin n → Option Asset
  failure : Option BuildError

namespace Collection

variable {n : Nat}

/-- One more has completed: a module is put in its place, and a failure is saved unless there is
one already. -/
def store (c : Collection n) (i : Fin n) : Except BuildError Asset → Collection n
  | .ok a => { c with places := Function.update c.places i (some a) }
  | .error e => { c with failure := c.failure.or (some e) }

/-- What has been collected after some have completed. -/
def collect (results : Fin n → Except BuildError Asset) (order : List (Fin n)) : Collection n :=
  order.foldl (fun c i => c.store i (results i)) ⟨fun _ => none, none⟩

/-- What is made of the collection when all have completed. -/
def result (c : Collection n) : Except BuildError (List Asset) :=
  match c.failure with
  | some e => .error e
  | none => .ok ((List.finRange n).filterMap c.places)

/-- The failure of a result that is one. -/
def failureOf : Except BuildError Asset → Option BuildError
  | .ok _ => none
  | .error e => some e

theorem failureOf_eq_some_iff {r : Except BuildError Asset} {e : BuildError} :
    failureOf r = some e ↔ r = .error e := by
  cases r with
  | ok a => simp [failureOf]
  | error e' => simp [failureOf]

theorem store_places (c : Collection n) (i j : Fin n) (r : Except BuildError Asset) :
    (c.store i r).places j = if j = i then r.toOption.or (c.places j) else c.places j := by
  cases r with
  | ok a => exact Function.update_apply c.places i (some a) j
  | error e => exact (ite_self _).symm

theorem store_failure (c : Collection n) (i : Fin n) (r : Except BuildError Asset) :
    (c.store i r).failure = c.failure.or (failureOf r) := by
  cases r with
  | ok a => exact (Option.or_none).symm
  | error e => rfl

variable {results : Fin n → Except BuildError Asset} {order : List (Fin n)}

/-- What is in a place does not depend on the order in which modules complete. -/
theorem collect_places (j : Fin n) (hj : j ∈ order) :
    (collect results order).places j = (results j).toOption := by
  -- from any collection, as the fold passes a new one on
  have hfold : ∀ c : Collection n, (order.foldl (fun c i => c.store i (results i)) c).places j =
      if j ∈ order then (results j).toOption.or (c.places j) else c.places j := by
    clear hj
    induction order with
    | nil => exact fun c => rfl
    | cons i rest ih =>
      intro c
      rw [List.foldl_cons, ih, store_places]
      by_cases hji : j = i
      · subst hji
        cases (results j).toOption with
        | none => simp
        | some a => simp
      · simp [hji]
  rw [collect, hfold, if_pos hj, Option.or_none]

/-- The failure that is saved is the first one that comes. -/
theorem collect_failure :
    (collect results order).failure = order.findSome? fun i => failureOf (results i) := by
  have hfold : ∀ c : Collection n, (order.foldl (fun c i => c.store i (results i)) c).failure =
      c.failure.or (order.findSome? fun i => failureOf (results i)) := by
    induction order with
    | nil => exact fun c => Option.or_none.symm
    | cons i rest ih =>
      intro c
      rw [List.foldl_cons, ih, store_failure, List.findSome?_cons, Option.or_assoc]
      congr 1
      cases failureOf (results i) with
      | none => rfl
      | some e => rfl
  rw [collect, hfold, Option.none_or]

/-- Modules that all compile are collected in the order of their places. -/
theorem collect_result_of_ok (hall : ∀ i, i ∈ order) {modules : Fin n → Asset}
    (hok : ∀ i, results i = .ok (modules i)) :
    (collect results order).result = .ok (List.ofFn modules) := by
  have hfailure : (collect results order).failure = none := by
    rw [collect_failure]
    refine List.findSome?_eq_none_iff.2 (fun i _ => ?_)
    rw [hok i]
    rfl
  have hplaces : ∀ i ∈ List.finRange n, (collect results order).places i = some (modules i) := by
    intro i _
    rw [collect_places i (hall i), hok i]
    rfl
  have hmodules : (List.finRange n).filterMap (collect results order).places =
      List.ofFn modules := by
    rw [List.filterMap_congr hplaces, List.ofFn_eq_map, ← List.filterMap_eq_map]
    rfl
  rw [result, hfailure, hmodules]

/-- Where one does not compile, the failure of one that does not is what is made of all. -/
theorem collect_result_of_error (results : Fin n → Except BuildError Asset) {i : Fin n}
    (hi : i ∈ order) {e : BuildError} (hfails : results i = .error e) :
    ∃ e', (collect results order).result = .error e' ∧ ∃ k, results k = .error e' := by
  have hsome : (order.findSome? fun i => failureOf (results i)).isSome = true := by
    rw [List.isSome_findSome?, List.any_eq_true]
    exact ⟨i, hi, by rw [failureOf_eq_some_iff.2 hfails]; rfl⟩
  obtain ⟨e', he'⟩ := Option.isSome_iff_exists.1 hsome
  obtain ⟨k, -, hk⟩ := List.exists_of_findSome?_eq_some he'
  refine ⟨e', ?_, k, failureOf_eq_some_iff.1 hk⟩
  rw [result, collect_failure, he']

end Collection

/-- Compiles paths at the same time. They complete in the order of a schedule. -/
def buildAtOnce (w : World) (s : Schedule) (id : Nat) (paths : List Path) : Batch where
  called := (s.order id paths).map paths.get
  result := (Collection.collect (fun i => buildOne w (id + i.val) (paths.get i))
    (s.order id paths)).result

section AtOnce

variable {w : World}

/-- Compiling paths in order succeeds when each path compiles, and gives the modules in order. -/
theorem buildAll_eq_ok_iff {id : Nat} {paths : List Path} {found : List Asset} :
    buildAll w id paths = .ok found ↔
      (paths.mapIdx fun i p => buildOne w (id + i) p) = found.map .ok := by
  induction paths generalizing id found with
  | nil => simp [buildAll, eq_comm]
  | cons p rest ih =>
    -- in the rest each path has a number that is one higher than its place gives
    have hshift : (fun i p => buildOne w (id + (i + 1)) p) =
        fun i p => buildOne w (id + 1 + i) p := by
      funext i p
      congr 1
      omega
    rw [List.mapIdx_cons, hshift]
    cases hp : w.compile p with
    | error e =>
      have hone : buildOne w (id + 0) p = .error e := buildOne_eq_error_iff.2 hp
      rw [buildAll_cons_of_error hp, hone]
      cases found with
      | nil => simp
      | cons a others => simp
    | ok c =>
      have hone : buildOne w (id + 0) p = .ok (fresh id p c) := by
        unfold buildOne
        rw [hp]
        rfl
      rw [buildAll_cons_of_ok hp, hone]
      cases found with
      | nil =>
        cases buildAll w (id + 1) rest with
        | ok others => simp [Except.map]
        | error e => simp [Except.map]
      | cons a others =>
        rw [List.map_cons, List.cons.injEq, ← ih]
        cases buildAll w (id + 1) rest with
        | ok others' => simp [Except.map, eq_comm]
        | error e => simp [Except.map]

/-- Compiling paths in order fails with the failure of one of them. -/
theorem exists_of_buildAll_eq_error {id : Nat} {paths : List Path} {e : BuildError}
    (h : buildAll w id paths = .error e) : ∃ p ∈ paths, w.compile p = .error e := by
  induction paths generalizing id e with
  | nil => simp [buildAll] at h
  | cons p rest ih =>
    cases hp : w.compile p with
    | error e' =>
      rw [buildAll_cons_of_error hp, Except.error.injEq] at h
      exact ⟨p, List.mem_cons_self, h ▸ hp⟩
    | ok c =>
      rw [buildAll_cons_of_ok hp] at h
      cases hrest : buildAll w (id + 1) rest with
      | ok others =>
        rw [hrest] at h
        simp [Except.map] at h
      | error e' =>
        rw [hrest] at h
        simp only [Except.map, Except.error.injEq] at h
        obtain ⟨q, hq, hfails⟩ := ih hrest
        exact ⟨q, List.mem_cons_of_mem p hq, h ▸ hfails⟩

variable (s : Schedule) {id : Nat} {paths : List Path}

/-- The compiler is called for all paths. -/
theorem buildAtOnce_called_perm : (buildAtOnce w s id paths).called.Perm paths := by
  have horder : (s.order id paths).Perm (List.finRange paths.length) :=
    Equiv.Perm.map_finRange_perm (s id paths)
  have hcalled := horder.map paths.get
  rw [List.map_get_finRange] at hcalled
  exact hcalled

/-- **Where each path compiles, the order decides nothing.** Compiled at the same time the paths
give the modules that they give one after another. -/
theorem buildAtOnce_result_of_ok {found : List Asset} (h : buildAll w id paths = .ok found) :
    (buildAtOnce w s id paths).result = .ok found := by
  have hmap := buildAll_eq_ok_iff.1 h
  have hlength : paths.length = found.length := by
    have hlengths := congrArg List.length hmap
    rwa [List.length_mapIdx, List.length_map] at hlengths
  have hone : ∀ i : Fin paths.length,
      buildOne w (id + i.val) (paths.get i) = .ok (found.get (i.cast hlength)) := by
    intro i
    have hget := congrArg (·[i.val]?) hmap
    have hi : i.val < found.length := hlength ▸ i.isLt
    simpa [hi] using hget
  have hfound : List.ofFn (fun i : Fin paths.length => found.get (i.cast hlength)) = found := by
    refine List.ext_getElem (by simp [hlength]) (fun k hk hk' => ?_)
    simp
  rw [buildAtOnce, Collection.collect_result_of_ok (s.mem_order id) hone, hfound]

/-- Where a path does not compile, the failure of one that does not is reported. -/
theorem buildAtOnce_result_of_error {e : BuildError} (h : buildAll w id paths = .error e) :
    ∃ e', (buildAtOnce w s id paths).result = .error e' ∧
      ∃ p ∈ paths, w.compile p = .error e' := by
  obtain ⟨p, hp, hfails⟩ := exists_of_buildAll_eq_error h
  obtain ⟨i, hi⟩ := List.get_of_mem hp
  subst hi
  obtain ⟨e', hresult, k, hk⟩ := Collection.collect_result_of_error
    (fun i => buildOne w (id + i.val) (paths.get i)) (s.mem_order id i)
    (buildOne_eq_error_iff.2 hfails)
  exact ⟨e', hresult, paths.get k, List.get_mem paths k, buildOne_eq_error_iff.1 hk⟩

end AtOnce

/-! ## Manners of compiling -/

/-- How a search compiles the paths that a round has found. -/
inductive Manner where
  | inOrder
  | atOnce (s : Schedule)

/-- Compiles the paths that a round has found. A single one is compiled as if in order. -/
def Manner.build (w : World) : Manner → Nat → List Path → Batch
  | .inOrder, id, paths => buildInOrder w id paths
  | .atOnce s, id, paths =>
    if 1 < paths.length then buildAtOnce w s id paths else buildInOrder w id paths

namespace Manner

variable {w : World} (manner : Manner) {id : Nat} {paths : List Path}

/-- The compiler is called for each path at most as often as it has been found. -/
theorem build_called_subperm : (manner.build w id paths).called.Subperm paths := by
  have hinOrder := (prefix_buildInOrder_called (w := w) id paths).sublist.subperm
  cases manner with
  | inOrder => exact hinOrder
  | atOnce s =>
    rw [build]
    split
    · exact (buildAtOnce_called_perm s).subperm
    · exact hinOrder

/-- What compiles in order does so in every manner. -/
theorem build_result_of_ok {found : List Asset} (h : buildAll w id paths = .ok found) :
    (manner.build w id paths).result = .ok found := by
  cases manner with
  | inOrder => exact (buildInOrder_result id paths).trans h
  | atOnce s =>
    rw [build]
    split
    · exact buildAtOnce_result_of_ok s h
    · exact (buildInOrder_result id paths).trans h

/-- What fails in order does so in every manner, with the failure of one of the paths. -/
theorem build_result_of_error {e : BuildError} (h : buildAll w id paths = .error e) :
    ∃ e', (manner.build w id paths).result = .error e' ∧
      ∃ p ∈ paths, w.compile p = .error e' := by
  have hinOrder := (buildInOrder_result id paths).trans h
  cases manner with
  | inOrder => exact ⟨e, hinOrder, exists_of_buildAll_eq_error h⟩
  | atOnce s =>
    rw [build]
    split
    · exact buildAtOnce_result_of_error s h
    · exact ⟨e, hinOrder, exists_of_buildAll_eq_error h⟩

/-- Where all paths compile, the compiler is called for all of them. -/
theorem build_called_of_ok {found : List Asset} (h : buildAll w id paths = .ok found) :
    (manner.build w id paths).called.Perm paths := by
  have hinOrder : (buildInOrder w id paths).called.Perm paths :=
    .of_eq (buildInOrder_called_of_ok ((buildInOrder_result id paths).trans h))
  cases manner with
  | inOrder => exact hinOrder
  | atOnce s =>
    rw [build]
    split
    · exact buildAtOnce_called_perm s
    · exact hinOrder

end Manner

end ModuleBundler.Graph
