import Mathlib.Data.List.Nodup
import ModuleBundler.Graph
import ModuleBundler.Proofs.Mapping

/-!
What the parts of a round do, as equations. Linking is written with a list of known paths that
grows while specifiers are looked up; here its result is given without that list being followed:
the paths known afterwards are those before with all targets claimed, and the mapping of a module
sends each specifier to the position of its target among them. That the position may be taken
among the paths known at the end, and not among those known when the specifier was met, is
because paths are only ever added behind (`prefix_claimAll`).
-/

set_option autoImplicit false

namespace ModuleBundler.Graph

/-! ## Claims -/

theorem claim_snd (known : List Path) (p : Path) :
    (claim known p).2 = if p ∈ known then known else known ++ [p] := by
  unfold claim
  cases h : known.idxOf? p with
  | none =>
    rw [List.idxOf?_eq_none_iff] at h
    rw [if_neg h]
  | some id =>
    have hp : p ∈ known := by
      rw [← List.isSome_idxOf?, h]
      rfl
    rw [if_pos hp]

/-- The number of a path is its position among the paths known after asking. -/
theorem claim_fst (known : List Path) (p : Path) :
    (claim known p).1 = (claim known p).2.idxOf p := by
  rw [claim_snd]
  unfold claim
  cases h : known.idxOf? p with
  | none =>
    rw [List.idxOf?_eq_none_iff] at h
    rw [if_neg h, List.idxOf_append_of_notMem h, List.idxOf_cons_self]
    rfl
  | some id =>
    have hp : p ∈ known := by
      rw [← List.isSome_idxOf?, h]
      rfl
    rw [if_pos hp, List.idxOf_eq_getD_idxOf?, h]
    rfl

/-- The paths known after asking for the numbers of some more. -/
def claimAll (known targets : List Path) : List Path :=
  targets.foldl (fun known p => (claim known p).2) known

@[simp] theorem claimAll_nil (known : List Path) : claimAll known [] = known := rfl

theorem claimAll_cons (known : List Path) (p : Path) (targets : List Path) :
    claimAll known (p :: targets) = claimAll (claim known p).2 targets := rfl

theorem claimAll_append (known targets more : List Path) :
    claimAll known (targets ++ more) = claimAll (claimAll known targets) more :=
  List.foldl_append

/-- A path that is known keeps its number. -/
theorem claimAll_cons_of_mem {known : List Path} {p : Path} (hp : p ∈ known)
    (targets : List Path) : claimAll known (p :: targets) = claimAll known targets := by
  rw [claimAll_cons, claim_snd, if_pos hp]

/-- A path that is not known gets the next number. -/
theorem claimAll_cons_of_notMem {known : List Path} {p : Path} (hp : p ∉ known)
    (targets : List Path) :
    claimAll known (p :: targets) = claimAll (known ++ [p]) targets := by
  rw [claimAll_cons, claim_snd, if_neg hp]

/-- Paths are only added behind. -/
theorem prefix_claimAll (known targets : List Path) : known <+: claimAll known targets := by
  induction targets generalizing known with
  | nil => exact List.prefix_refl known
  | cons p rest ih =>
    by_cases hp : p ∈ known
    · rw [claimAll_cons_of_mem hp]
      exact ih known
    · rw [claimAll_cons_of_notMem hp]
      exact (List.prefix_append known [p]).trans (ih _)

theorem mem_claimAll {known targets : List Path} {q : Path} :
    q ∈ claimAll known targets ↔ q ∈ known ∨ q ∈ targets := by
  induction targets generalizing known with
  | nil => simp
  | cons p rest ih =>
    by_cases hp : p ∈ known
    · rw [claimAll_cons_of_mem hp, ih, List.mem_cons]
      constructor
      · rintro (h | h)
        · exact Or.inl h
        · exact Or.inr (Or.inr h)
      · rintro (h | rfl | h)
        · exact Or.inl h
        · exact Or.inl hp
        · exact Or.inr h
    · rw [claimAll_cons_of_notMem hp, ih]
      simp [or_assoc]

/-- Claiming keeps the first occurrences. -/
theorem claimAll_eq_eraseDups {known : List Path} (hk : known.Nodup) (targets : List Path) :
    claimAll known targets = (known ++ targets).eraseDups := by
  induction targets generalizing known with
  | nil => rw [claimAll_nil, List.append_nil, eraseDups_of_nodup hk]
  | cons p rest ih =>
    by_cases hp : p ∈ known
    · rw [claimAll_cons_of_mem hp, ih hk, eraseDups_append_cons_of_mem hp]
    · have hk' : (known ++ [p]).Nodup := by
        rw [← List.concat_eq_append]
        exact hk.concat hp
      rw [claimAll_cons_of_notMem hp, ih hk', List.append_assoc, List.singleton_append]

/-- The number of a known path does not change. -/
theorem idxOf_claimAll {known : List Path} {q : Path} (hq : q ∈ known) (targets : List Path) :
    (claimAll known targets).idxOf q = known.idxOf q :=
  ((prefix_claimAll known targets).idxOf_eq_of_mem hq).symm

/-! ## Linking one module -/

section Linking

variable (w : World)

/-- The first of some specifiers that leads nowhere, as the failure that it is. -/
def missing? (importer : Path) (specifiers : List String) : Option BuildError :=
  (specifiers.find? fun s => (w.locate importer s).isNone).map fun s => .moduleNotFound s importer

/-- The paths that specifiers lead to, in order, repetitions included. -/
def targets (importer : Path) (specifiers : List String) : List Path :=
  specifiers.filterMap (w.locate importer)

/-- Specifiers with the positions of what they lead to. -/
def entries (known : List Path) (importer : Path) (specifiers : List String) :
    List (String × Nat) :=
  specifiers.filterMap fun s => ((w.locate importer s).map known.idxOf).map fun id => (s, id)

variable {w}

theorem missing?_cons_of_none {importer : Path} {s : String} (hs : w.locate importer s = none)
    (rest : List String) : missing? w importer (s :: rest) = some (.moduleNotFound s importer) := by
  simp [missing?, hs]

theorem missing?_cons_of_some {importer p : Path} {s : String}
    (hs : w.locate importer s = some p) (rest : List String) :
    missing? w importer (s :: rest) = missing? w importer rest := by
  simp [missing?, hs]

/-- Nothing is missing when all specifiers lead somewhere. -/
theorem missing?_eq_none {importer : Path} {specifiers : List String} :
    missing? w importer specifiers = none ↔ ∀ s ∈ specifiers, (w.locate importer s).isSome := by
  simp [missing?, Option.isSome_iff_ne_none]

theorem targets_cons_of_some {importer p : Path} {s : String}
    (hs : w.locate importer s = some p) (rest : List String) :
    targets w importer (s :: rest) = p :: targets w importer rest :=
  List.filterMap_cons_some hs

theorem mem_targets {importer q : Path} {specifiers : List String} :
    q ∈ targets w importer specifiers ↔ ∃ s ∈ specifiers, w.locate importer s = some q :=
  List.mem_filterMap

theorem entries_cons_of_some {importer p : Path} {s : String}
    (hs : w.locate importer s = some p) (known : List Path) (rest : List String) :
    entries w known importer (s :: rest) = (s, known.idxOf p) :: entries w known importer rest := by
  simp [entries, hs]

/-- Positions of known paths may be taken before or after more paths are claimed. -/
theorem entries_claimAll {known : List Path} {importer : Path} {specifiers : List String}
    (hmem : ∀ q ∈ targets w importer specifiers, q ∈ known) (more : List Path) :
    entries w (claimAll known more) importer specifiers = entries w known importer specifiers := by
  refine List.filterMap_congr (fun s hs => ?_)
  cases hq : w.locate importer s with
  | none => rfl
  | some q =>
    have hk : q ∈ known := hmem q (mem_targets.2 ⟨s, hs, hq⟩)
    simp only [Option.map_some, idxOf_claimAll hk]

/-- Linking fails at the first specifier that leads nowhere. Otherwise it claims all targets and
maps each specifier to the position of its target. -/
theorem linkSpecifiers_eq (importer : Path) (specifiers : List String) (known : List Path)
    (m : Mapping) :
    linkSpecifiers w importer specifiers known m =
      match missing? w importer specifiers with
      | some e => .error e
      | none =>
        .ok (m.insertAll (entries w (claimAll known (targets w importer specifiers))
            importer specifiers),
          claimAll known (targets w importer specifiers)) := by
  induction specifiers generalizing known m with
  | nil => rfl
  | cons s rest ih =>
    cases hs : w.locate importer s with
    | none =>
      rw [missing?_cons_of_none hs, linkSpecifiers, hs]
    | some p =>
      have hknown : p ∈ (claim known p).2 := by
        rw [claim_snd]
        split
        · assumption
        · exact List.mem_append_right _ (List.mem_singleton_self p)
      have hid : (claimAll (claim known p).2 (targets w importer rest)).idxOf p
          = (claim known p).1 := by
        rw [idxOf_claimAll hknown, claim_fst]
      rw [missing?_cons_of_some hs, targets_cons_of_some hs, claimAll_cons,
        entries_cons_of_some hs, Mapping.insertAll_cons, hid, linkSpecifiers, hs]
      exact ih _ _

/-! ## Linking many modules -/

variable (w)

/-- The paths that a module leads to, in order, repetitions included. -/
def targetsOf (a : Asset) : List Path := targets w a.path a.specifiers

/-- All specifiers of a module lead somewhere. -/
def Located (a : Asset) : Prop := ∀ s ∈ a.specifiers, (w.locate a.path s).isSome

/-- A module with the numbers of all that it leads to. -/
def linked (known : List Path) (a : Asset) : Asset :=
  { a with mapping := a.mapping.insertAll (entries w known a.path a.specifiers) }

variable {w}

theorem linked_claimAll {known : List Path} {a : Asset} (hmem : ∀ q ∈ targetsOf w a, q ∈ known)
    (more : List Path) : linked w (claimAll known more) a = linked w known a := by
  unfold linked
  rw [entries_claimAll hmem]

/-- Linking modules fails at the first specifier that leads nowhere. Otherwise the targets of all
are claimed, and each module is linked to them. -/
theorem linkAll_eq (modules : List Asset) (known : List Path) :
    linkAll w modules known =
      match modules.findSome? fun a => missing? w a.path a.specifiers with
      | some e => .error e
      | none =>
        .ok (modules.map (linked w (claimAll known (modules.flatMap (targetsOf w)))),
          claimAll known (modules.flatMap (targetsOf w))) := by
  induction modules generalizing known with
  | nil => rfl
  | cons a rest ih =>
    rw [linkAll, linkSpecifiers_eq, List.findSome?_cons]
    cases hmissing : missing? w a.path a.specifiers with
    | some e => rfl
    | none =>
      have hhere : linked w (claimAll (claimAll known (targetsOf w a))
            (rest.flatMap (targetsOf w))) a = linked w (claimAll known (targetsOf w a)) a :=
        linked_claimAll (fun q hq => mem_claimAll.2 (Or.inr hq)) _
      rw [List.flatMap_cons, claimAll_append, List.map_cons, hhere]
      change (linkAll w rest (claimAll known (targetsOf w a)) >>= _) = _
      rw [ih (claimAll known (targetsOf w a))]
      cases rest.findSome? fun a => missing? w a.path a.specifiers <;> rfl

/-- Linking succeeds exactly when all specifiers of all modules lead somewhere. -/
theorem linkAll_eq_ok_iff {modules linkedModules : List Asset} {known known' : List Path} :
    linkAll w modules known = .ok (linkedModules, known') ↔
      (∀ a ∈ modules, Located w a) ∧ known' = claimAll known (modules.flatMap (targetsOf w)) ∧
        linkedModules = modules.map (linked w known') := by
  have hnone : (modules.findSome? fun a => missing? w a.path a.specifiers) = none ↔
      ∀ a ∈ modules, Located w a := by
    simp only [List.findSome?_eq_none_iff, missing?_eq_none, Located]
  rw [linkAll_eq, ← hnone]
  cases hfound : modules.findSome? fun a => missing? w a.path a.specifiers with
  | some e => simp
  | none =>
    simp only [Except.ok.injEq, Prod.mk.injEq, true_and]
    constructor
    · rintro ⟨rfl, rfl⟩
      exact ⟨rfl, rfl⟩
    · rintro ⟨rfl, rfl⟩
      exact ⟨rfl, rfl⟩

/-! ## Compiling -/

variable (w)

/-- A module is what its path compiles to, and not linked yet. -/
structure Fresh (a : Asset) : Prop where
  compiled : w.compile a.path = .ok ⟨a.code, a.specifiers⟩
  unlinked : a.mapping = []

/-- The module that a path has been compiled to. -/
def fresh (id : Nat) (p : Path) (c : Compiled) : Asset := ⟨id, p, c.code, c.specifiers, []⟩

variable {w}

theorem buildAll_cons_of_ok {p : Path} {c : Compiled} (hp : w.compile p = .ok c) (id : Nat)
    (rest : List Path) :
    buildAll w id (p :: rest) = (buildAll w (id + 1) rest).map (fresh id p c :: ·) := by
  rw [buildAll, hp]
  cases buildAll w (id + 1) rest with
  | ok found => rfl
  | error e => rfl

theorem buildAll_cons_of_error {p : Path} {e : BuildError} (hp : w.compile p = .error e)
    (id : Nat) (rest : List Path) : buildAll w id (p :: rest) = .error e := by
  rw [buildAll, hp]
  rfl

/-- Compiling paths in two goes is compiling them in one. -/
theorem buildAll_append (id : Nat) (paths more : List Path) :
    buildAll w id (paths ++ more) =
      match buildAll w id paths with
      | .error e => .error e
      | .ok found => (buildAll w (id + paths.length) more).map (found ++ ·) := by
  induction paths generalizing id with
  | nil =>
    simp only [List.nil_append, buildAll, List.length_nil, Nat.add_zero]
    cases buildAll w id more with
    | ok found => rfl
    | error e => rfl
  | cons p rest ih =>
    cases hp : w.compile p with
    | error e => rw [List.cons_append, buildAll_cons_of_error hp, buildAll_cons_of_error hp]
    | ok c =>
      have hlen : id + (p :: rest).length = id + 1 + rest.length := by
        rw [List.length_cons]
        omega
      rw [List.cons_append, buildAll_cons_of_ok hp, buildAll_cons_of_ok hp, ih, hlen]
      cases buildAll w (id + 1) rest with
      | error e => rfl
      | ok found =>
        cases buildAll w (id + 1 + rest.length) more with
        | error e => rfl
        | ok others => rfl

/-- Compiling gives one module for each path, in order and under consecutive numbers. -/
theorem buildAll_ok {id : Nat} {paths : List Path} {found : List Asset}
    (h : buildAll w id paths = .ok found) :
    found.map (·.path) = paths ∧ found.map (·.id) = List.range' id found.length ∧
      ∀ a ∈ found, Fresh w a := by
  induction paths generalizing id found with
  | nil =>
    rw [buildAll, Except.ok.injEq] at h
    subst h
    exact ⟨rfl, rfl, by simp⟩
  | cons p rest ih =>
    cases hp : w.compile p with
    | error e =>
      rw [buildAll_cons_of_error hp] at h
      cases h
    | ok c =>
      rw [buildAll_cons_of_ok hp] at h
      cases hrest : buildAll w (id + 1) rest with
      | error e =>
        rw [hrest] at h
        cases h
      | ok others =>
        rw [hrest] at h
        cases h
        obtain ⟨hpaths, hids, hfresh⟩ := ih hrest
        refine ⟨?_, ?_, ?_⟩
        · rw [List.map_cons, hpaths]
          rfl
        · rw [List.map_cons, hids, List.length_cons, List.range'_succ]
          rfl
        · intro a ha
          rcases List.mem_cons.1 ha with rfl | ha
          · exact ⟨hp, rfl⟩
          · exact hfresh a ha

end Linking

/-! ## Places -/

/-- The number of each module is its place, and no two modules have one path. -/
structure Placed (modules : List Asset) : Prop where
  ids : modules.map (·.id) = List.range modules.length
  nodup : (modules.map (·.path)).Nodup

namespace Placed

variable {modules : List Asset}

theorem id_eq (h : Placed modules) {i : Nat} {a : Asset} (ha : modules[i]? = some a) :
    a.id = i := by
  obtain ⟨hi, -⟩ := List.getElem?_eq_some_iff.1 ha
  have hplace : (modules.map (·.id))[i]? = some i := by
    rw [h.ids, List.getElem?_range hi]
  rw [List.getElem?_map, ha] at hplace
  exact Option.some.inj hplace

/-- A module is the only one of its path. -/
theorem eq_of_path_eq (h : Placed modules) {a b : Asset} (ha : a ∈ modules) (hb : b ∈ modules)
    (hpath : a.path = b.path) : a = b :=
  List.inj_on_of_nodup_map h.nodup ha hb hpath

/-- The number of a module is the position of its path. -/
theorem idxOf_path (h : Placed modules) {a : Asset} (ha : a ∈ modules) :
    (modules.map (·.path)).idxOf a.path = a.id := by
  obtain ⟨i, hi, rfl⟩ := List.mem_iff_getElem.1 ha
  have hpath : (modules.map (·.path))[i]? = some modules[i].path := by
    rw [List.getElem?_map, List.getElem?_eq_getElem hi, Option.map_some]
  rw [h.id_eq (List.getElem?_eq_getElem hi)]
  obtain ⟨hlt, hget⟩ := List.getElem?_eq_some_iff.1 hpath
  rw [← hget]
  exact h.nodup.idxOf_getElem i hlt

end Placed

end ModuleBundler.Graph
