import Mathlib.Data.List.Perm.Subperm
import Mathlib.Logic.Relation
import ModuleBundler.Proofs.Canonical
import ModuleBundler.Proofs.Graph.Linking

/-!
What holds between the rounds of a search, and so at its end. A number is given to a path before
the module of the path exists, and the mapping that holds the number is written at that time; so
the invariant speaks of all paths known, of which the modules found so far are those with a
number. One round keeps it (`Stage.Sound.next`), and a run that ends has nothing left in its
frontier (`sound_of_rounds`), where the invariant says that the list of modules is complete.

The bound on the number of rounds is no part of what is computed: every round but the last one
finds a path, and a world of finitely many paths cannot have more rounds than paths.
-/

set_option autoImplicit false

namespace ModuleBundler.Graph

/-! ## Worlds of finitely many paths -/

/-- All specifiers lead into a list of paths. -/
def World.Within (w : World) (paths : List Path) : Prop :=
  ∀ importer s q, w.locate importer s = some q → q ∈ paths

/-- In a file tree all specifiers lead into the canonical paths. -/
theorem within_ofTree (t : FileTree) (rules : List Rule) (resolver : Resolver) :
    (World.ofTree t rules resolver).Within t.canonicalPaths := by
  intro importer s q h
  exact (isCanonical_of_locate h).mem_canonicalPaths

/-- The module of a path imports another path: one of its specifiers leads there. -/
def Imports (w : World) (p q : Path) : Prop :=
  ∃ c, w.compile p = .ok c ∧ ∃ s ∈ c.specifiers, w.locate p s = some q

/-- A path is reached by imports from another one. -/
def Reaches (w : World) : Path → Path → Prop := Relation.ReflTransGen (Imports w)

/-! ## What a frontier discovers -/

/-- All specifiers of a frontier lead somewhere, and the paths among their targets that are not
known yet compile to these modules. -/
structure Discovers (w : World) (known : List Path) (frontier found : List Asset) : Prop where
  located : ∀ a ∈ frontier, Located w a
  built : buildAll w known.length
    ((claimAll known (frontier.flatMap (targetsOf w))).drop known.length) = .ok found

/-- What is discovered is numbered behind the known paths. -/
theorem Discovers.known_append {w : World} {known : List Path} {frontier found : List Asset}
    (h : Discovers w known frontier found) :
    known ++ found.map (·.path) = claimAll known (frontier.flatMap (targetsOf w)) := by
  rw [(buildAll_ok h.built).1, ← List.prefix_iff_eq_append]
  exact prefix_claimAll _ _

/-! ## Stages of a search -/

/-- Where a search is between two rounds. -/
structure Stage where
  /-- Modules that are linked. -/
  done : List Asset
  /-- Modules found in the round before, not linked yet. -/
  frontier : List Asset
  /-- All paths that have a number. -/
  known : List Path

namespace Stage

/-- The modules found so far, in the order of their numbers. -/
def modules (s : Stage) : List Asset := s.done ++ s.frontier

/-- What holds between two rounds of a search from an entry. -/
structure Sound (w : World) (entry : Path) (s : Stage) : Prop where
  /-- The modules found are those of the known paths, in their order. -/
  paths : s.modules.map (·.path) = s.known
  /-- The number of a module is its place. -/
  ids : s.modules.map (·.id) = List.range s.known.length
  /-- Every module is what its path compiles to. -/
  compiled : ∀ a ∈ s.modules, w.compile a.path = .ok ⟨a.code, a.specifiers⟩
  /-- The frontier is not linked. -/
  unlinked : ∀ a ∈ s.frontier, a.mapping = []
  /-- All specifiers of linked modules lead somewhere. -/
  located : ∀ a ∈ s.done, Located w a
  /-- Linked modules map their specifiers to the places of what they lead to. -/
  mapped : ∀ a ∈ s.done,
    a.mapping = Mapping.ofList (entries w s.known a.path a.specifiers)
  /-- The known paths are the entry and all targets of linked modules, in the order in which they
  are met. -/
  discovered : s.known = (entry :: s.done.flatMap (targetsOf w)).eraseDups
  /-- The known paths are reached by imports from the entry. -/
  reached : ∀ p ∈ s.known, Reaches w entry p

/-- A search begins with its entry in the frontier. -/
theorem sound_start {w : World} {entry : Path} {found : List Asset}
    (h : buildAll w 0 [entry] = .ok found) : Sound w entry ⟨[], found, [entry]⟩ := by
  obtain ⟨hpaths, hids, hfresh⟩ := buildAll_ok h
  refine ⟨hpaths, ?_, fun a ha => (hfresh a ha).compiled, fun a ha => (hfresh a ha).unlinked,
    by simp, by simp, ?_, ?_⟩
  · have hlength : found.length = 1 := by
      rw [← List.length_map, hpaths, List.length_singleton]
    rw [hlength] at hids
    exact hids
  · exact (eraseDups_of_nodup (List.nodup_singleton entry)).symm
  · intro p hp
    rw [List.mem_singleton.1 hp]
    exact Relation.ReflTransGen.refl

variable {w : World} {entry : Path} {s : Stage}

/-- No path has two numbers. -/
theorem Sound.nodup (h : Sound w entry s) : s.known.Nodup := h.discovered ▸ nodup_eraseDups _

/-- The modules found so far are at the places that their numbers say. -/
theorem Sound.placed (h : Sound w entry s) : Placed s.modules where
  ids := by rw [h.ids, ← h.paths, List.length_map]
  nodup := h.paths ▸ h.nodup

/-- What modules lead to is reached from the entry. -/
theorem Sound.reaches_of_mem_targetsOf (h : Sound w entry s) {a : Asset} (ha : a ∈ s.modules)
    {q : Path} (hq : q ∈ targetsOf w a) : Reaches w entry q := by
  obtain ⟨specifier, hs, hlocate⟩ := mem_targets.1 hq
  have hpath : a.path ∈ s.known := h.paths ▸ List.mem_map_of_mem ha
  exact (h.reached _ hpath).tail ⟨_, h.compiled a ha, specifier, hs, hlocate⟩

/-- What linked modules lead to is known. -/
theorem Sound.mem_known (h : Sound w entry s) {a : Asset} (ha : a ∈ s.done) {q : Path}
    (hq : q ∈ targetsOf w a) : q ∈ s.known := by
  rw [h.discovered, List.mem_eraseDups]
  exact List.mem_cons_of_mem _ (List.mem_flatMap.2 ⟨a, ha, hq⟩)

/-- The known paths are within those of the world. -/
theorem Sound.known_subset (h : Sound w entry s) {paths : List Path}
    (hw : w.Within paths) (hentry : entry ∈ paths) : s.known ⊆ paths := by
  intro q hq
  rw [h.discovered, List.mem_eraseDups, List.mem_cons] at hq
  rcases hq with rfl | hq
  · exact hentry
  · obtain ⟨a, -, ha⟩ := List.mem_flatMap.1 hq
    obtain ⟨specifier, -, hs⟩ := mem_targets.1 ha
    exact hw _ _ _ hs

/-- There are no more known paths than paths in the world. -/
theorem Sound.length_known_le (h : Sound w entry s) {paths : List Path}
    (hw : w.Within paths) (hentry : entry ∈ paths) : s.known.length ≤ paths.length :=
  (List.subperm_of_subset h.nodup (h.known_subset hw hentry)).length_le

/-! ## One round -/

/-- The stage after a round: the frontier is linked, and what it has found is the next one. -/
def next (w : World) (s : Stage) : Except BuildError Stage := do
  let (linkedModules, known) ← linkAll w s.frontier s.known
  let found ← buildAll w s.known.length (known.drop s.known.length)
  return ⟨s.done ++ linkedModules, found, known⟩

/-- A round succeeds when its frontier discovers something, be it nothing. -/
theorem next_eq_ok_iff {s' : Stage} :
    next w s = .ok s' ↔
      Discovers w s.known s.frontier s'.frontier ∧
        s'.known = claimAll s.known (s.frontier.flatMap (targetsOf w)) ∧
        s'.done = s.done ++ s.frontier.map (linked w s'.known) := by
  obtain ⟨done', frontier', known'⟩ := s'
  unfold next
  constructor
  · intro h
    cases hlink : linkAll w s.frontier s.known with
    | error e =>
      rw [hlink] at h
      cases h
    | ok r =>
      obtain ⟨linkedModules, known⟩ := r
      obtain ⟨hlocated, rfl, hmodules⟩ := linkAll_eq_ok_iff.1 hlink
      rw [hlink] at h
      simp only [bind, Except.bind] at h
      split at h
      · cases h
      · next found hfound =>
        cases h
        exact ⟨⟨hlocated, hfound⟩, rfl, by rw [hmodules]⟩
  · rintro ⟨⟨hlocated, hfound⟩, hknown, hdone⟩
    dsimp only at hknown hdone hfound
    rw [linkAll_eq_ok_iff.2 ⟨hlocated, hknown, rfl⟩]
    rw [← hknown] at hfound
    simp only [bind, Except.bind, hfound]
    rw [← hdone]
    rfl

/-- One round keeps what holds between rounds. -/
theorem Sound.next (h : Sound w entry s) {s' : Stage} (hs : s.next w = .ok s') :
    Sound w entry s' := by
  obtain ⟨hdiscovers, hknown, hdone⟩ := next_eq_ok_iff.1 hs
  have hsplit := hdiscovers.known_append
  rw [← hknown] at hsplit
  obtain ⟨-, hids, hfresh⟩ := buildAll_ok hdiscovers.built
  have hmodules : s'.modules
      = (s.done ++ s.frontier.map (linked w s'.known)) ++ s'.frontier := by
    rw [modules, hdone]
  -- linking changes neither paths nor numbers
  have hsame : ∀ {β : Type} (f : Asset → β), (∀ a, f (linked w s'.known a) = f a) →
      (s.done ++ s.frontier.map (linked w s'.known)).map f = s.modules.map f := by
    intro β f hf
    rw [modules, List.map_append, List.map_append, List.map_map]
    congr 1
    exact List.map_congr_left (fun a _ => hf a)
  have hlength : s'.known.length = s.known.length + s'.frontier.length := by
    rw [← hsplit, List.length_append, List.length_map]
  refine ⟨?_, ?_, ?_, fun a ha => (hfresh a ha).unlinked, ?_, ?_, ?_, ?_⟩
  · rw [hmodules, List.map_append, hsame _ (fun _ => rfl), h.paths, hsplit]
  · have hrange := List.range'_append_1 (s := 0) (m := s.known.length)
      (n := s'.frontier.length)
    rw [Nat.zero_add] at hrange
    rw [hmodules, List.map_append, hsame _ (fun _ => rfl), h.ids, hids, hlength,
      List.range_eq_range', List.range_eq_range', hrange]
  · intro a ha
    rw [hmodules, List.mem_append, List.mem_append] at ha
    rcases ha with (ha | ha) | ha
    · exact h.compiled a (List.mem_append_left _ ha)
    · obtain ⟨b, hb, rfl⟩ := List.mem_map.1 ha
      exact h.compiled b (List.mem_append_right _ hb)
    · exact (hfresh a ha).compiled
  · intro a ha
    rw [hdone, List.mem_append] at ha
    rcases ha with ha | ha
    · exact h.located a ha
    · obtain ⟨b, hb, rfl⟩ := List.mem_map.1 ha
      exact hdiscovers.located b hb
  · intro a ha
    rw [hdone, List.mem_append] at ha
    rcases ha with ha | ha
    · rw [h.mapped a ha, hknown, entries_claimAll (fun q hq => h.mem_known ha hq)]
    · obtain ⟨b, hb, rfl⟩ := List.mem_map.1 ha
      show b.mapping.insertAll _ = _
      rw [h.unlinked b hb]
      rfl
  · have htargets : s'.done.flatMap (targetsOf w)
        = s.done.flatMap (targetsOf w) ++ s.frontier.flatMap (targetsOf w) := by
      rw [hdone, List.flatMap_append, List.flatMap_map]
      rfl
    rw [hknown, claimAll_eq_eraseDups h.nodup, h.discovered, eraseDups_append_eraseDups, htargets,
      List.cons_append]
  · intro p hp
    rw [hknown, mem_claimAll] at hp
    rcases hp with hp | hp
    · exact h.reached p hp
    · obtain ⟨a, ha, hp⟩ := List.mem_flatMap.1 hp
      exact h.reaches_of_mem_targetsOf (List.mem_append_right _ ha) hp

/-- A round that finds nothing is the last one; any other makes more paths known. -/
theorem Sound.frontier_eq_nil_or_lt {s' : Stage} (hs : s.next w = .ok s') :
    s'.frontier = [] ∨ s.known.length < s'.known.length := by
  obtain ⟨hfound, hknown, -⟩ := next_eq_ok_iff.1 hs
  cases hfrontier : s'.frontier with
  | nil => exact Or.inl rfl
  | cons a rest =>
    right
    rw [hknown, ← hfound.known_append, hfrontier, List.length_append, List.length_map,
      List.length_cons]
    omega

end Stage

/-! ## Runs -/

/-- What holds at the end of a search: all modules found are linked. -/
def Complete (w : World) (entry : Path) (assets : List Asset) : Prop :=
  Stage.Sound w entry ⟨assets, [], assets.map (·.path)⟩

/-- Rounds go from stage to stage until the frontier is empty. -/
theorem rounds_succ (w : World) (fuel : Nat) (s : Stage) :
    rounds w (fuel + 1) s.done s.frontier s.known =
      if s.frontier.isEmpty then .ok s.done
      else match s.next w with
        | .error e => .error e
        | .ok s' => rounds w fuel s'.done s'.frontier s'.known := by
  rw [rounds]
  split
  · rfl
  · unfold Stage.next
    cases hlink : linkAll w s.frontier s.known with
    | error e => rfl
    | ok r =>
      obtain ⟨linkedModules, known⟩ := r
      simp only [bind, Except.bind]
      cases buildAll w s.known.length (known.drop s.known.length) with
      | error e => rfl
      | ok found => rfl

section Runs

variable {w : World} {entry : Path} {paths : List Path}

/-- Rounds that are enough for all paths not known yet. -/
def Enough (paths : List Path) (fuel : Nat) (s : Stage) : Prop :=
  s.frontier = [] ∨ paths.length < fuel + s.known.length

/-- After a round, one round less is enough. -/
theorem Enough.next {fuel : Nat} {s s' : Stage} (h : Enough paths (fuel + 1) s)
    (hfrontier : s.frontier ≠ []) (hs : s.next w = .ok s') : Enough paths fuel s' := by
  rcases h with h | h
  · exact absurd h hfrontier
  · rcases Stage.Sound.frontier_eq_nil_or_lt hs with hnil | hlt
    · exact Or.inl hnil
    · right
      omega

/-- Where no round is left, nothing is left to do. -/
theorem Enough.frontier_eq_nil {s : Stage} (h : Enough paths 0 s) (hs : s.Sound w entry)
    (hw : w.Within paths) (hentry : entry ∈ paths) : s.frontier = [] := by
  rcases h with h | h
  · exact h
  · have hle := hs.length_known_le hw hentry
    omega

/-- A stage without a frontier is the end of a search. -/
theorem Stage.Sound.complete {s : Stage} (h : s.Sound w entry) (hfrontier : s.frontier = []) :
    Complete w entry s.done := by
  have hmodules : s.modules = s.done := by rw [Stage.modules, hfrontier, List.append_nil]
  have hknown : s.known = s.done.map (·.path) := by rw [← h.paths, hmodules]
  have hs : s = ⟨s.done, [], s.done.map (·.path)⟩ := by
    rw [← hfrontier, ← hknown]
  rw [Complete, ← hs]
  exact h

/-- A run that succeeds is complete. -/
theorem complete_of_rounds (hw : w.Within paths) (hentry : entry ∈ paths) {fuel : Nat} {s : Stage}
    {assets : List Asset} (hs : s.Sound w entry) (hfuel : Enough paths fuel s)
    (h : rounds w fuel s.done s.frontier s.known = .ok assets) : Complete w entry assets := by
  induction fuel generalizing s with
  | zero =>
    have hfrontier := hfuel.frontier_eq_nil hs hw hentry
    rw [rounds, hfrontier, List.append_nil, Except.ok.injEq] at h
    rw [← h]
    exact hs.complete hfrontier
  | succ fuel ih =>
    rw [rounds_succ] at h
    by_cases hfrontier : s.frontier = []
    · rw [if_pos (List.isEmpty_iff.2 hfrontier), Except.ok.injEq] at h
      rw [← h]
      exact hs.complete hfrontier
    · rw [if_neg (fun hempty => hfrontier (List.isEmpty_iff.1 hempty))] at h
      cases hnext : s.next w with
      | error e =>
        rw [hnext] at h
        cases h
      | ok s' =>
        rw [hnext] at h
        exact ih (hs.next hnext) (hfuel.next hfrontier hnext) h

end Runs

/-- Resolving in a tree searches from the canonical entry, and there are rounds enough. -/
theorem enough_start (t : FileTree) (found : List Asset) (p : Path) :
    Enough t.canonicalPaths (t.entries.length + 1 + 1) ⟨[], found, [p]⟩ := by
  right
  rw [FileTree.length_canonicalPaths, List.length_singleton]
  omega

/-- What resolving gives is complete. -/
theorem complete_of_resolve {t : FileTree} {rules : List Rule} {resolver : Resolver}
    {entry : Path} {assets : List Asset} (h : resolve t rules resolver entry = .ok assets) :
    ∃ p, t.canonicalize entry = .ok p ∧ Complete (.ofTree t rules resolver) p assets := by
  unfold resolve at h
  cases hentry : t.canonicalize entry with
  | error cause =>
    rw [hentry] at h
    cases h
  | ok p =>
    rw [hentry] at h
    refine ⟨p, rfl, ?_⟩
    have hcanonical : t.IsCanonical p := ⟨entry, hentry⟩
    simp only [search] at h
    cases hfound : buildAll (.ofTree t rules resolver) 0 [p] with
    | error e =>
      rw [hfound] at h
      cases h
    | ok found =>
      rw [hfound] at h
      exact complete_of_rounds (within_ofTree t rules resolver) hcanonical.mem_canonicalPaths
        (Stage.sound_start hfound) (enough_start t found p) h

end ModuleBundler.Graph
