import ModuleBundler.Proofs.Graph.Faults
import ModuleBundler.Proofs.Graph.Runs

/-!
Searches that compile at the same time against the search that compiles in order. Numbers and
mappings are settled before anything of a frontier is compiled, so two searches that compile in
different manners go through the same stages: in each round they find the same paths, and either
both go on to the same stage or both fail (`Stage.round_agrees`). This is carried through a run
(`Run.exists_run`). The searches may part only in their last round, when it fails and the failure
of another path comes first; with a single failure in the frontier there is no other.
-/

set_option autoImplicit false

namespace ModuleBundler.Graph

/-! ## One frontier -/

section Agreement

variable {w : World}

/-- Where no more than one of the paths fails, there is one failure. -/
theorem eq_of_length_buildFaults_le {paths : List Path} {e e' : BuildError}
    (hle : (buildFaults w paths).length ≤ 1) (he : ∃ p ∈ paths, w.compile p = .error e)
    (he' : ∃ p ∈ paths, w.compile p = .error e') : e = e' := by
  have hmem := mem_buildFaults.2 he
  have hmem' := mem_buildFaults.2 he'
  generalize buildFaults w paths = faults at hle hmem hmem'
  match faults with
  | [] => simp at hmem
  | [fault] => rw [List.mem_singleton.1 hmem, List.mem_singleton.1 hmem']
  | _ :: _ :: _ => simp at hle

/-- What one manner of compiling has to do with another: both succeed with the same, or both
fail. -/
structure Agrees {α : Type} (single : Prop) (x y : Except BuildError α) : Prop where
  /-- They succeed together. -/
  ok_iff : ∀ a, x = .ok a ↔ y = .ok a
  /-- They are the same where there is a single failure at most. -/
  eq_of_single : single → x = y

theorem Agrees.of_eq {α : Type} {single : Prop} {x y : Except BuildError α} (h : x = y) :
    Agrees single x y := ⟨fun _ => by rw [h], fun _ => h⟩

/-- In any two manners the paths of a frontier compile together. -/
theorem Manner.build_agrees (manner manner' : Manner) (id : Nat) (paths : List Path) :
    Agrees ((buildFaults w paths).length ≤ 1) (manner'.build w id paths).result
      (manner.build w id paths).result := by
  cases hall : buildAll w id paths with
  | ok found =>
    refine .of_eq ?_
    rw [manner.build_result_of_ok hall, manner'.build_result_of_ok hall]
  | error e =>
    obtain ⟨first, hfirst, hpath⟩ := manner.build_result_of_error hall
    obtain ⟨other, hother, hpath'⟩ := manner'.build_result_of_error hall
    rw [hfirst, hother]
    refine ⟨fun found => by simp, fun hle => ?_⟩
    rw [eq_of_length_buildFaults_le hle hpath hpath']

namespace Stage

/-- In any two manners a round finds the same paths, and leads to the same stage or fails. -/
theorem round_agrees (manner manner' : Manner) (s : Stage) :
    (s.round w manner').1.found = (s.round w manner).1.found ∧
      Agrees ((buildFaults w (s.round w manner).1.found).length ≤ 1)
        (s.round w manner').2 (s.round w manner).2 := by
  cases hlink : linkAll w s.frontier s.known with
  | error e =>
    rw [round_of_unlinked hlink, round_of_unlinked hlink]
    exact ⟨rfl, .of_eq rfl⟩
  | ok r =>
    obtain ⟨linkedModules, known⟩ := r
    have hok : ∀ s', (s.round w manner').2 = .ok s' ↔ (s.round w manner).2 = .ok s' :=
      fun s' => round_snd_eq_ok_iff.trans round_snd_eq_ok_iff.symm
    have hsame := (Manner.build_agrees (w := w) manner manner' s.known.length
      (known.drop s.known.length)).eq_of_single
    rw [round_of_linked hlink, round_of_linked hlink] at hok ⊢
    exact ⟨rfl, hok, fun hle => by rw [hsame hle]⟩

end Stage

/-! ## Runs -/

/-- In each round of a run no more than one of the paths found does not compile. -/
def SingleFaults (w : World) (log : List Round) : Prop :=
  ∀ round ∈ log, (buildFaults w round.found).length ≤ 1

theorem singleFaults_cons {round : Round} {rest : List Round} :
    SingleFaults w (round :: rest) ↔
      (buildFaults w round.found).length ≤ 1 ∧ SingleFaults w rest := by
  simp [SingleFaults]

/-- **Runs agree.** A run that compiles in one manner has a counterpart in any other one, which
finds the same paths round by round. -/
theorem Run.exists_run {manner : Manner} {s : Stage} {log : List Round}
    {r : Except BuildError (List Asset)} (h : Run w manner s log r) (manner' : Manner) :
    ∃ log' r', Run w manner' s log' r' ∧ log'.map (·.found) = log.map (·.found) ∧
      Agrees (SingleFaults w log) r' r := by
  induction h with
  | finished hfrontier => exact ⟨_, _, .finished hfrontier, rfl, .of_eq rfl⟩
  | @failed s round e hfrontier hround =>
    obtain ⟨hfound, hagrees⟩ := s.round_agrees manner manner' (w := w)
    rw [hround] at hfound hagrees
    dsimp only at hfound hagrees
    cases hround' : s.round w manner' with
    | mk round' result' =>
      rw [hround'] at hfound hagrees
      dsimp only at hfound hagrees
      cases result' with
      | ok s' =>
        have hok := (hagrees.ok_iff s').1 rfl
        simp at hok
      | error e' =>
        -- both end here, each with the failure of a path that this round has found
        refine ⟨_, _, .failed hfrontier hround', ?_, fun assets => by simp, ?_⟩
        · rw [List.map_singleton, List.map_singleton, hfound]
        · intro hsingle
          have he := hagrees.eq_of_single (singleFaults_cons.1 hsingle).1
          rw [Except.error.injEq] at he
          rw [he]
  | @next s s' round rest r hfrontier hround hrest ih =>
    obtain ⟨hfound, hagrees⟩ := s.round_agrees manner manner' (w := w)
    obtain ⟨log', r', hrun', hfounds, hresults⟩ := ih
    have hok : (s.round w manner').2 = .ok s' := (hagrees.ok_iff s').2 (congrArg Prod.snd hround)
    have hround' : s.round w manner' = ((s.round w manner').1, .ok s') := Prod.ext rfl hok
    rw [hround] at hfound
    refine ⟨_, r', .next hfrontier hround' hrun', ?_, hresults.ok_iff, ?_⟩
    · rw [List.map_cons, List.map_cons, hfound, hfounds]
    · exact fun hsingle => hresults.eq_of_single (singleFaults_cons.1 hsingle).2

end Agreement

/-! ## Searches -/

section Searches

variable {t : FileTree} {rules : List Rule} {resolver : Resolver} {manner : Manner}
  {entry : Path} {log : Log} {r : Except BuildError (List Asset)}

/-- A search that compiles in one manner has a counterpart in any other one. -/
theorem Resolves.exists_resolves (h : Resolves t rules resolver manner entry log r)
    (manner' : Manner) :
    ∃ log' r', Resolves t rules resolver manner' entry log' r' ∧
      Agrees (SingleFaults (.ofTree t rules resolver) log.rounds) r' r := by
  cases h with
  | missing hentry => exact ⟨_, _, .missing hentry, .of_eq rfl⟩
  | unbuilt hentry hbuild => exact ⟨_, _, .unbuilt hentry hbuild, .of_eq rfl⟩
  | searched hentry hbuild hrun =>
    obtain ⟨rounds', r', hrun', -, hagrees⟩ := hrun.exists_run manner'
    exact ⟨_, r', .searched hentry hbuild hrun', hagrees⟩

/-- A search in any manner agrees with the executable search. -/
theorem Resolves.agrees (h : Resolves t rules resolver manner entry log r) :
    Agrees (SingleFaults (.ofTree t rules resolver) log.rounds)
      (resolve t rules resolver entry) r := by
  obtain ⟨log', r', h', hagrees⟩ := h.exists_resolves .inOrder
  rw [h'.resolve_eq]
  exact hagrees

end Searches

/-- **The schedule decides nothing.** Let the paths of each frontier be compiled at the same time
and complete in whichever order. Whatever the tree, the loaders and the resolver are, the search
has a result; it succeeds exactly when the search that compiles in order does, and then with the
same modules. Where in each frontier no more than one path fails to compile, the failures are the
same as well. -/
theorem exists_resolves_atOnce (t : FileTree) (rules : List Rule) (resolver : Resolver)
    (entry : Path) (s : Schedule) :
    ∃ log r, Resolves t rules resolver (.atOnce s) entry log r ∧
      (∀ log' r', Resolves t rules resolver (.atOnce s) entry log' r' → r' = r) ∧
      (∀ assets, r = .ok assets ↔ resolve t rules resolver entry = .ok assets) ∧
      ((∀ round ∈ log.rounds,
          (buildFaults (.ofTree t rules resolver) round.found).length ≤ 1) →
        r = resolve t rules resolver entry) := by
  obtain ⟨log, r, h⟩ := exists_resolves t rules resolver (.atOnce s) entry
  refine ⟨log, r, h, fun log' r' h' => (h'.unique h).2, ?_, ?_⟩
  · exact fun assets => (h.agrees.ok_iff assets).symm
  · exact fun hsingle => (h.agrees.eq_of_single hsingle).symm

/-- In the cyclic tree the files `b` and `c` are compiled at the same time. The last one may
complete first. -/
theorem exists_resolves_atOnce_cyclicTree :
    ∃ log assets, Resolves cyclicTree [] Resolver.relative (.atOnce fun _ _ => Fin.revPerm)
        (.ofString "./a") log (.ok assets) ∧
      resolve cyclicTree [] Resolver.relative (.ofString "./a") = .ok assets ∧
      assets.map (·.path.toString) = ["/p/a", "/p/b", "/p/c"] := by
  obtain ⟨assets, hresolve, hmappings⟩ := exists_resolve_cyclicTree
  obtain ⟨log, r, h, -, hok, -⟩ := exists_resolves_atOnce cyclicTree [] Resolver.relative
    (.ofString "./a") fun _ _ => Fin.revPerm
  have hr : r = .ok assets := (hok assets).2 hresolve
  subst hr
  have hnames := congrArg (List.map Prod.fst) hmappings
  rw [List.map_map] at hnames
  exact ⟨log, assets, h, hresolve, hnames⟩

end ModuleBundler.Graph
