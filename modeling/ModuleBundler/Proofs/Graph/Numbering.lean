import ModuleBundler.Proofs.Graph.Rounds

/-!
What the numbers mean that a search gives out. The number of a module is its place in the list,
the entry is first, and no two modules have one path. A mapping holds each specifier of its module
once, in the order of first use, with the number of the module whose path the specifier leads to.
All of it is read off from the invariant of the rounds at the end of a run, where the positions
among known paths are the places of modules.
-/

set_option autoImplicit false

namespace ModuleBundler.Graph

/-! ## Places -/

section Complete

variable {w : World} {entry : Path} {assets : List Asset}

/-- The paths of the modules are the entry and all targets, in the order of discovery. -/
theorem Complete.paths_eq (h : Complete w entry assets) :
    assets.map (·.path) = (entry :: assets.flatMap (targetsOf w)).eraseDups := h.discovered

/-- Every module is at the place that its number says. -/
theorem Complete.placed (h : Complete w entry assets) : Placed assets := by
  have hplaced := Stage.Sound.placed h
  rwa [Stage.modules, List.append_nil] at hplaced

/-- The entry is first. -/
theorem Complete.head?_path (h : Complete w entry assets) :
    assets.head?.map (·.path) = some entry := by
  rw [← List.head?_map, h.paths_eq, List.eraseDups_cons]
  rfl

/-- What a specifier leads to has a module. -/
theorem Complete.exists_target (h : Complete w entry assets) {a : Asset} (ha : a ∈ assets)
    {s : String} (hs : s ∈ a.specifiers) :
    ∃ b ∈ assets, w.locate a.path s = some b.path := by
  obtain ⟨q, hq⟩ := Option.isSome_iff_exists.1 (h.located a ha s hs)
  have hknown : q ∈ assets.map (·.path) := h.mem_known ha (mem_targets.2 ⟨s, hs, hq⟩)
  obtain ⟨b, hb, rfl⟩ := List.mem_map.1 hknown
  exact ⟨b, hb, hq⟩

/-! ## Mappings -/

/-- The keys of a mapping are the specifiers of its module in the order of first use. -/
theorem Complete.keys_mapping (h : Complete w entry assets) {a : Asset} (ha : a ∈ assets) :
    a.mapping.keys = a.specifiers.eraseDups := by
  have hkeys : (entries w (assets.map (·.path)) a.path a.specifiers).map (·.1) = a.specifiers := by
    rw [entries, List.map_filterMap]
    refine (List.filterMap_congr (fun s hs => ?_)).trans List.filterMap_some
    obtain ⟨q, hq⟩ := Option.isSome_iff_exists.1 (h.located a ha s hs)
    rw [hq]
    rfl
  rw [h.mapped a ha, Mapping.keys_ofList, hkeys]

/-- The keys of a mapping are specifiers of its module. -/
theorem Complete.mem_specifiers (h : Complete w entry assets) {a : Asset} (ha : a ∈ assets)
    {s : String} (hs : s ∈ a.mapping.keys) : s ∈ a.specifiers := by
  rw [h.keys_mapping ha, List.mem_eraseDups] at hs
  exact hs

/-- A mapping sends a specifier to the position of the path that it leads to. -/
theorem Complete.lookup_mapping (h : Complete w entry assets) {a : Asset} (ha : a ∈ assets)
    {s : String} (hs : s ∈ a.specifiers) :
    List.lookup s a.mapping = (w.locate a.path s).map (assets.map (·.path)).idxOf := by
  rw [h.mapped a ha]
  exact Mapping.lookup_ofList_filterMap (fun s => (w.locate a.path s).map _) hs

/-- A mapping sends a specifier to the number of the module that it leads to. -/
theorem Complete.lookup_mapping_eq_id (h : Complete w entry assets) {a b : Asset}
    (ha : a ∈ assets) (hb : b ∈ assets) {s : String} (hs : s ∈ a.specifiers)
    (hlocate : w.locate a.path s = some b.path) : List.lookup s a.mapping = some b.id := by
  rw [h.lookup_mapping ha hs, hlocate, Option.map_some, h.placed.idxOf_path hb]

/-- Specifiers have one number exactly when they lead to one path. -/
theorem Complete.lookup_eq_lookup_iff (h : Complete w entry assets) {a b : Asset}
    (ha : a ∈ assets) (hb : b ∈ assets) {s s' : String} (hs : s ∈ a.specifiers)
    (hs' : s' ∈ b.specifiers) :
    List.lookup s a.mapping = List.lookup s' b.mapping ↔
      w.locate a.path s = w.locate b.path s' := by
  obtain ⟨c, hc, hlocate⟩ := h.exists_target ha hs
  obtain ⟨c', hc', hlocate'⟩ := h.exists_target hb hs'
  rw [h.lookup_mapping_eq_id ha hc hs hlocate, h.lookup_mapping_eq_id hb hc' hs' hlocate', hlocate,
    hlocate', Option.some.injEq, Option.some.injEq]
  constructor
  · intro hid
    rw [← h.placed.idxOf_path hc, ← h.placed.idxOf_path hc'] at hid
    have hmem : c.path ∈ assets.map (·.path) := List.mem_map_of_mem hc
    exact (List.idxOf_inj hmem).1 hid
  · intro hpath
    rw [h.placed.eq_of_path_eq hc hc' hpath]

end Complete

/-! ## The numbers of a search -/

/-- What the numbers of modules mean that have been resolved from an entry in a tree. -/
structure Numbered (t : FileTree) (resolver : Resolver) (entry : Path) (assets : List Asset) :
    Prop where
  /-- The number of a module is its place. -/
  id_eq : ∀ (i : Nat) (a : Asset), assets[i]? = some a → a.id = i
  /-- No two modules have one path. -/
  nodup_paths : (assets.map (·.path)).Nodup
  /-- All paths are canonical. -/
  canonical : ∀ a ∈ assets, t.IsCanonical a.path
  /-- The entry has the first number. -/
  entry_first : ∃ a : Asset, assets[0]? = some a ∧ t.canonicalize entry = .ok a.path
  /-- The keys of a mapping are the specifiers of its module, each once, in the order of first
  use. -/
  keys_eq : ∀ a ∈ assets, a.mapping.keys = a.specifiers.eraseDups
  /-- A mapping sends each key to the number of the one module whose path the key leads to. -/
  lookup_eq : ∀ a ∈ assets, ∀ s ∈ a.mapping.keys, ∃ b ∈ assets,
    locate resolver t a.path s = some b.path ∧ List.lookup s a.mapping = some b.id ∧
      ∀ b' ∈ assets, locate resolver t a.path s = some b'.path → b' = b
  /-- Every number in a mapping is that of a module. -/
  exists_of_mem : ∀ a ∈ assets, ∀ e ∈ a.mapping, ∃ b ∈ assets, b.id = e.2
  /-- Two specifiers have one number exactly when they lead to one path. -/
  lookup_eq_iff : ∀ a ∈ assets, ∀ b ∈ assets, ∀ s ∈ a.mapping.keys, ∀ s' ∈ b.mapping.keys,
    List.lookup s a.mapping = List.lookup s' b.mapping ↔
      locate resolver t a.path s = locate resolver t b.path s'

/-- **The numbers of a search.** Whatever the tree, the loaders and the resolver are: the modules
that are resolved from an entry are numbered by their places, and mappings lead to the modules
that specifiers mean. -/
theorem numbered_of_resolve {t : FileTree} {rules : List Rule} {resolver : Resolver}
    {entry : Path} {assets : List Asset} (h : resolve t rules resolver entry = .ok assets) :
    Numbered t resolver entry assets := by
  obtain ⟨p, hentry, hc⟩ := complete_of_resolve h
  refine ⟨fun i a ha => hc.placed.id_eq ha, hc.placed.nodup, ?_, ?_,
    fun a ha => hc.keys_mapping ha, ?_, ?_, ?_⟩
  · intro a ha
    have hmem : a.path ∈ assets.map (·.path) := List.mem_map_of_mem ha
    rw [hc.paths_eq, List.mem_eraseDups, List.mem_cons] at hmem
    rcases hmem with hpath | hmem
    · exact ⟨entry, hpath ▸ hentry⟩
    · obtain ⟨b, -, hb⟩ := List.mem_flatMap.1 hmem
      obtain ⟨s, -, hs⟩ := mem_targets.1 hb
      exact isCanonical_of_locate hs
  · have hhead := hc.head?_path
    rw [List.head?_eq_getElem?, Option.map_eq_some_iff] at hhead
    obtain ⟨a, ha, hpath⟩ := hhead
    exact ⟨a, ha, hpath ▸ hentry⟩
  · intro a ha s hs
    have hs' := hc.mem_specifiers ha hs
    obtain ⟨b, hb, hlocate⟩ := hc.exists_target ha hs'
    refine ⟨b, hb, hlocate, hc.lookup_mapping_eq_id ha hb hs' hlocate, ?_⟩
    intro b' hb' hlocate'
    have hsame : some b'.path = some b.path := hlocate'.symm.trans hlocate
    exact hc.placed.eq_of_path_eq hb' hb (Option.some.inj hsame)
  · intro a ha e he
    have hkey : e.1 ∈ a.mapping.keys := List.mem_map_of_mem he
    have hs := hc.mem_specifiers ha hkey
    obtain ⟨b, hb, hlocate⟩ := hc.exists_target ha hs
    have hnodup : a.mapping.keys.Nodup := hc.keys_mapping ha ▸ nodup_eraseDups _
    have hlookup := hc.lookup_mapping_eq_id ha hb hs hlocate
    rw [lookup_eq_of_mem hnodup he, Option.some.injEq] at hlookup
    exact ⟨b, hb, hlookup.symm⟩
  · intro a ha b hb s hs s' hs'
    exact hc.lookup_eq_lookup_iff ha hb (hc.mem_specifiers ha hs) (hc.mem_specifiers hb hs')

/-- Modules in a cycle, one of which imports itself, with repeated specifiers and with several
specifiers of one file. -/
def cyclicTree : FileTree where
  workingDirectory := [['p']]
  entries :=
    [([['p']], .directory),
      ([['p'], ['a']], .file (.text "import './b'; import './b'; import './/b'; import './c';")),
      ([['p'], ['b']], .file (.text "import './b'; import '../p/a';")),
      ([['p'], ['c']], .file (.text "export * from './a';"))]

/-- The modules of the cyclic tree and their mappings. -/
theorem exists_resolve_cyclicTree :
    ∃ assets, resolve cyclicTree [] Resolver.relative (.ofString "./a") = .ok assets ∧
      assets.map (fun a => (a.path.toString, a.mapping)) =
        [("/p/a", [("./b", 1), (".//b", 1), ("./c", 2)]),
          ("/p/b", [("./b", 1), ("../p/a", 0)]),
          ("/p/c", [("./a", 0)])] := by
  have hmappings : (resolve cyclicTree [] Resolver.relative (.ofString "./a")).toOption.map
      (·.map fun a => (a.path.toString, a.mapping)) = some
        [("/p/a", [("./b", 1), (".//b", 1), ("./c", 2)]),
          ("/p/b", [("./b", 1), ("../p/a", 0)]),
          ("/p/c", [("./a", 0)])] := by decide +kernel
  cases h : resolve cyclicTree [] Resolver.relative (.ofString "./a") with
  | error e =>
    rw [h] at hmappings
    cases hmappings
  | ok assets =>
    rw [h] at hmappings
    exact ⟨assets, rfl, Option.some.inj hmappings⟩

theorem numbered_cyclicTree :
    ∃ assets, resolve cyclicTree [] Resolver.relative (.ofString "./a") = .ok assets ∧
      assets.map (fun a => (a.path.toString, a.mapping)) =
        [("/p/a", [("./b", 1), (".//b", 1), ("./c", 2)]),
          ("/p/b", [("./b", 1), ("../p/a", 0)]),
          ("/p/c", [("./a", 0)])] ∧
      Numbered cyclicTree Resolver.relative (.ofString "./a") assets := by
  obtain ⟨assets, h, hmappings⟩ := exists_resolve_cyclicTree
  exact ⟨assets, h, hmappings, numbered_of_resolve h⟩

end ModuleBundler.Graph
