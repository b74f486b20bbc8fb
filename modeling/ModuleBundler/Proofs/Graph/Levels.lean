import ModuleBundler.Proofs.FirstOccurrences
import ModuleBundler.Proofs.Graph.Worklist

/-!
The levels of a world around its entry, and what a search has to do with them. Level `0` is the
entry alone; the next level is what the modules of a level lead to and no level before holds, in
the order in which it is met. Levels are said without numbers, mappings and lists of known paths,
and are defined where a search fails too: a module that does not compile leads nowhere.

A search is level by level a list of modules: the stage after `r` rounds has level `r` as its
frontier, and knows the paths up to there (`Stage.AtLevel`). One round goes to the next level
(`Stage.AtLevel.next`).
-/

set_option autoImplicit false

namespace ModuleBundler.Graph

/-! ## Levels -/

section Levels

variable (w : World) (entry : Path)

/-- The paths that the module of a path imports, in order, repetitions included. A path that does
not compile leads nowhere. -/
def leadsTo (p : Path) : List Path :=
  match w.compile p with
  | .ok c => targets w p c.specifiers
  | .error _ => []

/-- The paths of all levels before one, and those of the level itself. -/
def levels : Nat → List Path × List Path
  | 0 => ([], [entry])
  | r + 1 =>
    let known := (levels r).1 ++ (levels r).2
    (known, (((levels r).2.flatMap (leadsTo w)).removeAll known).eraseDups)

/-- The paths of the levels before a level. -/
def earlier (r : Nat) : List Path := (levels w entry r).1

/-- The paths of a level, in the order in which they are met. -/
def level (r : Nat) : List Path := (levels w entry r).2

@[simp] theorem level_zero : level w entry 0 = [entry] := rfl

theorem earlier_succ (r : Nat) :
    earlier w entry (r + 1) = earlier w entry r ++ level w entry r := rfl

theorem level_succ (r : Nat) :
    level w entry (r + 1) =
      (((level w entry r).flatMap (leadsTo w)).removeAll (earlier w entry (r + 1))).eraseDups := rfl

/-- What is before a level are the levels before it, one after another. -/
theorem earlier_eq_flatMap (r : Nat) :
    earlier w entry r = (List.range r).flatMap (level w entry) := by
  induction r with
  | zero => rfl
  | succ r ih =>
    rw [earlier_succ, ih, List.range_succ, List.flatMap_append, List.flatMap_singleton]

variable {w entry}

/-- What a module that compiles leads to. -/
theorem leadsTo_of_ok {p : Path} {c : Compiled} (hp : w.compile p = .ok c) :
    leadsTo w p = targets w p c.specifiers := by
  rw [leadsTo, hp]

/-- A path leads to what its module imports. -/
theorem mem_leadsTo {p q : Path} : q ∈ leadsTo w p ↔ Imports w p q := by
  unfold leadsTo Imports
  cases hp : w.compile p with
  | error e => simp
  | ok c => simp [mem_targets]

/-- The paths of a level are reached from the entry. -/
theorem reaches_of_mem_level {r : Nat} {q : Path} (hq : q ∈ level w entry r) :
    Reaches w entry q := by
  induction r generalizing q with
  | zero =>
    rw [level_zero, List.mem_singleton] at hq
    rw [hq]
    exact Relation.ReflTransGen.refl
  | succ r ih =>
    rw [level_succ, List.mem_eraseDups, List.removeAll, List.mem_filter] at hq
    obtain ⟨p, hp, hpq⟩ := List.mem_flatMap.1 hq.1
    exact (ih hp).tail (mem_leadsTo.1 hpq)

/-- Behind an empty level nothing more is met. -/
theorem level_eq_nil_of_le {r r' : Nat} (hr : level w entry r = []) (hle : r ≤ r') :
    level w entry r' = [] := by
  induction hle with
  | refl => exact hr
  | step _ ih =>
    rw [level_succ, ih]
    rfl

/-- Behind an empty level nothing more is known. -/
theorem earlier_add_of_level_eq_nil {r : Nat} (hr : level w entry r = []) (n : Nat) :
    earlier w entry (r + n) = earlier w entry r := by
  induction n with
  | zero => rfl
  | succ n ih =>
    rw [← Nat.add_assoc, earlier_succ, ih, level_eq_nil_of_le hr (Nat.le_add_right r n),
      List.append_nil]

end Levels

/-! ## Stages at a level -/

namespace Stage

variable {w : World} {entry : Path} {s : Stage} {r : Nat}

/-- A stage whose frontier is a level, and to which the paths up to there are known. -/
structure AtLevel (w : World) (entry : Path) (r : Nat) (s : Stage) : Prop extends
    Sound w entry s where
  frontier_eq : s.frontier.map (·.path) = level w entry r
  known_eq : s.known = earlier w entry (r + 1)

/-- A search begins at level `0`. -/
theorem atLevel_start {found : List Asset} (h : buildAll w 0 [entry] = .ok found) :
    AtLevel w entry 0 ⟨[], found, [entry]⟩ where
  toSound := sound_start h
  frontier_eq := (buildAll_ok h).1
  known_eq := rfl

/-- A module of a stage leads where its path does. -/
theorem Sound.leadsTo_path (h : Sound w entry s) {a : Asset} (ha : a ∈ s.modules) :
    leadsTo w a.path = targetsOf w a :=
  leadsTo_of_ok (h.compiled a ha)

/-- What the modules of a frontier lead to, said of the level. -/
theorem AtLevel.flatMap_targetsOf (h : AtLevel w entry r s) :
    s.frontier.flatMap (targetsOf w) = (level w entry r).flatMap (leadsTo w) := by
  rw [← h.frontier_eq, List.flatMap_map]
  refine List.flatMap_congr (fun a ha => ?_)
  exact (h.leadsTo_path (List.mem_append_right _ ha)).symm

/-- The paths that a round adds are those of the next level. -/
theorem AtLevel.claimAll_eq (h : AtLevel w entry r s) :
    claimAll s.known (s.frontier.flatMap (targetsOf w)) =
      s.known ++ level w entry (r + 1) := by
  rw [claimAll_eq_eraseDups h.nodup, List.eraseDups_append, eraseDups_of_nodup h.nodup,
    level_succ, h.flatMap_targetsOf, ← h.known_eq]

/-- A round goes from a level to the next one. -/
theorem AtLevel.next (h : AtLevel w entry r s) {s' : Stage} (hs : s.next w = .ok s') :
    AtLevel w entry (r + 1) s' := by
  obtain ⟨hfound, hknown, -⟩ := next_eq_ok_iff.1 hs
  refine ⟨h.toSound.next hs, ?_, ?_⟩
  · rw [(buildAll_ok hfound.built).1, h.claimAll_eq, List.drop_left]
  · rw [hknown, h.claimAll_eq, h.known_eq, ← earlier_succ]

/-- The modules of a stage are those of the levels up to its own. -/
theorem AtLevel.paths_modules (h : AtLevel w entry r s) :
    s.modules.map (·.path) = earlier w entry (r + 1) := by
  rw [h.paths, h.known_eq]

/-- Where a frontier is empty, its level is. -/
theorem AtLevel.level_eq_nil (h : AtLevel w entry r s) (hfrontier : s.frontier = []) :
    level w entry r = [] := by
  rw [← h.frontier_eq, hfrontier, List.map_nil]

end Stage

end ModuleBundler.Graph
