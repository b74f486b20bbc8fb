import Mathlib.Logic.Relation
import ModuleBundler.FileTree
import ModuleBundler.Proofs.Sequencing

/-!
What writing changes in a tree. Every operation puts at most one entry at a location, and what
stands elsewhere stays as it is; that is said once (`entry?_put_of_ne`) and carried along. What is
put is a directory where nothing stood, or a file where no directory stood. So no directory is ever
lost, and a path that has been followed in a tree leads to the same location afterwards
(`KeepsDirectories.locate`): a written file is found where it was written to, whatever steps up and
idle pieces its path has.
-/

set_option autoImplicit false

namespace ModuleBundler

/-- A path without its last step is another one. -/
def Path.HasParent (p q : Path) : Prop := p.parent? = some q

/-- A path without some of its last steps, at least one, is another one. -/
def Path.HasAncestor : Path → Path → Prop := Relation.TransGen Path.HasParent

namespace FileTree

/-- The file at a location. -/
def fileAt? (t : FileTree) (l : Location) : Option Content :=
  match t.entry? l with
  | some (.file c) => some c
  | _ => none

/-! ## Putting entries -/

section Put

variable {t : FileTree} {l l' : Location} {e : Entry}

theorem lookup_putEntry_self (l : Location) (e : Entry) (entries : List (Location × Entry)) :
    (putEntry l e entries).lookup l = some e := by
  induction entries with
  | nil => simp [putEntry]
  | cons k rest ih =>
    obtain ⟨k, old⟩ := k
    unfold putEntry
    by_cases hk : k = l
    · rw [if_pos hk, hk]
      simp
    · have hbeq : (l == k) = false := by simpa using Ne.symm hk
      rw [if_neg hk, List.lookup_cons, hbeq]
      exact ih

theorem lookup_putEntry_of_ne (hne : l' ≠ l) (e : Entry) (entries : List (Location × Entry)) :
    (putEntry l e entries).lookup l' = entries.lookup l' := by
  have hbeq : (l' == l) = false := by simpa using hne
  induction entries with
  | nil => simp [putEntry, List.lookup_cons, hbeq]
  | cons k rest ih =>
    obtain ⟨k, old⟩ := k
    unfold putEntry
    by_cases hk : k = l
    · rw [if_pos hk, hk, List.lookup_cons, List.lookup_cons, hbeq]
    · rw [if_neg hk, List.lookup_cons, List.lookup_cons, ih]

/-- What is put is found. The root stays a directory whatever is put there. -/
theorem entry?_put_self (hl : l ≠ []) : FileTree.entry? (t.put l e) l = some e := by
  unfold entry?
  rw [if_neg (fun hempty => hl (List.isEmpty_iff.1 hempty))]
  exact lookup_putEntry_self l e t.entries

/-- Elsewhere nothing changes. -/
theorem entry?_put_of_ne (hne : l' ≠ l) : FileTree.entry? (t.put l e) l' = t.entry? l' := by
  unfold entry?
  by_cases hl' : l'.isEmpty
  · rw [if_pos hl', if_pos hl']
  · rw [if_neg hl', if_neg hl']
    exact lookup_putEntry_of_ne hne e t.entries

/-- The root is a directory. -/
theorem entry?_nil (t : FileTree) : t.entry? [] = some .directory := rfl

/-- Where no directory stands is not the root. -/
theorem ne_nil_of_not_directory (h : t.entry? l ≠ some .directory) : l ≠ [] := by
  rintro rfl
  exact h t.entry?_nil

theorem fileAt?_congr {t' : FileTree} (h : t'.entry? l = t.entry? l) :
    t'.fileAt? l = t.fileAt? l := by
  rw [fileAt?, h, ← fileAt?]

end Put

/-! ## Following a path where there are more directories -/

/-- The directories of a tree are directories of another one. -/
structure KeepsDirectories (t t' : FileTree) : Prop where
  workingDirectory : t'.workingDirectory = t.workingDirectory
  directory : ∀ l, t.entry? l = some .directory → t'.entry? l = some .directory

/-- Several pieces further, and then some more. -/
theorem steps_append {t : FileTree} {l above : Location} {pieces : List (List Char)}
    (h : t.steps l pieces = .ok above) (more : List (List Char)) :
    t.steps l (pieces ++ more) = t.steps above more := by
  induction pieces generalizing l with
  | nil =>
    rw [steps, Except.ok.injEq] at h
    rw [List.nil_append, h]
  | cons piece rest ih =>
    rw [List.cons_append, steps]
    rw [steps] at h
    cases hstep : t.step l piece with
    | error cause =>
      rw [hstep] at h
      simp at h
    | ok next =>
      rw [hstep] at h
      exact ih h

theorem steps_singleton {t : FileTree} {l next : Location} {piece : List Char}
    (h : t.step l piece = .ok next) : t.steps l [piece] = .ok next := by
  rw [steps, h]
  rfl

/-- An idle piece is passed over where a directory stands. -/
theorem steps_replicate_nil {t : FileTree} {l : Location} (h : t.entry? l = some .directory)
    (n : Nat) : t.steps l (List.replicate n []) = .ok l := by
  induction n with
  | zero => rfl
  | succ n ih =>
    have hstep : t.step l [] = .ok l := by
      rw [step, h]
      rfl
    rw [List.replicate_succ, steps, hstep]
    exact ih

namespace KeepsDirectories

variable {t t' : FileTree}

/-- A step only stands on a directory. -/
theorem step (h : KeepsDirectories t t') {l next : Location} {piece : List Char}
    (hstep : t.step l piece = .ok next) : t'.step l piece = .ok next := by
  have hdirectory : t.entry? l = some .directory := by
    unfold FileTree.step at hstep
    split at hstep
    · assumption
    · simp at hstep
    · simp at hstep
  rw [FileTree.step, hdirectory] at hstep
  rw [FileTree.step, h.directory l hdirectory]
  exact hstep

theorem steps (h : KeepsDirectories t t') {l reached : Location} {pieces : List (List Char)}
    (hsteps : t.steps l pieces = .ok reached) : t'.steps l pieces = .ok reached := by
  induction pieces generalizing l with
  | nil => exact hsteps
  | cons piece rest ih =>
    rw [FileTree.steps] at hsteps
    cases hstep : t.step l piece with
    | error cause =>
      rw [hstep] at hsteps
      simp at hsteps
    | ok next =>
      rw [hstep] at hsteps
      rw [FileTree.steps, h.step hstep]
      exact ih hsteps

theorem origin (h : KeepsDirectories t t') (p : Path) : t'.origin p = t.origin p := by
  rw [FileTree.origin, FileTree.origin, h.workingDirectory]

/-- A path leads where it has led. -/
theorem locate (h : KeepsDirectories t t') {p : Path} {l : Location}
    (hl : t.locate p = .ok l) : t'.locate p = .ok l := by
  unfold FileTree.locate at hl ⊢
  cases hcheck : checkText p with
  | error cause =>
    rw [hcheck] at hl
    simp at hl
  | ok u =>
    rw [hcheck] at hl
    rw [h.origin]
    exact h.steps hl

end KeepsDirectories

/-- Putting an entry where no directory stands loses none. -/
theorem keepsDirectories_put {t : FileTree} {l : Location} (h : t.entry? l ≠ some .directory)
    (e : Entry) : KeepsDirectories t (t.put l e) where
  workingDirectory := rfl
  directory l' hl' := by
    have hne : l' ≠ l := by
      rintro rfl
      exact h hl'
    rw [entry?_put_of_ne hne, hl']

/-! ## Where files and directories are put -/

/-- A path is followed to its last piece, and then to the end. -/
theorem steps_of_pieces {t : FileTree} {l above last : Location} {name : List Char}
    {before : List (List Char)} (habove : t.steps l before.reverse = .ok above)
    (hlast : t.step above name = .ok last) : t.steps l (name :: before).reverse = .ok last := by
  rw [List.reverse_cons, steps_append habove, steps_singleton hlast]

/-- A file is written where its path leads to, and no directory stands there. -/
theorem locate_of_writeLocation {t : FileTree} {p : Path} {l : Location}
    (h : t.writeLocation p = .ok l) : t.locate p = .ok l ∧ t.entry? l ≠ some .directory := by
  unfold writeLocation at h
  obtain ⟨u, hcheck, h⟩ := bind_eq_ok.1 h
  split at h
  · exact absurd h (throw_ne_ok _ _)
  · obtain ⟨_, -, h⟩ := bind_eq_ok.1 h
    exact absurd h (throw_ne_ok _ _)
  · next name before _ hpieces =>
    obtain ⟨above, habove, h⟩ := bind_eq_ok.1 h
    obtain ⟨last, hlast, h⟩ := bind_eq_ok.1 h
    split at h
    · exact absurd h (throw_ne_ok _ _)
    · next hentry =>
      obtain rfl := Except.ok.inj h
      refine ⟨?_, hentry⟩
      rw [locate, hcheck]
      dsimp only
      rw [← List.reverse_reverse (Path.splitPieces p.text), hpieces]
      exact steps_of_pieces habove hlast

/-! ## Writing a file -/

/-- Writing puts a file where the path leads to, and no directory stands there. -/
theorem write_eq_ok {t t' : FileTree} {p : Path} {text : String} (h : t.write p text = .ok t') :
    ∃ l, t.locate p = .ok l ∧ t.entry? l ≠ some .directory ∧
      t' = t.put l (.file (.text text)) := by
  unfold write at h
  cases hl : t.writeLocation p with
  | error cause =>
    rw [hl] at h
    simp [Except.map] at h
  | ok l =>
    rw [hl] at h
    obtain ⟨hlocate, hentry⟩ := locate_of_writeLocation hl
    exact ⟨l, hlocate, hentry, (Except.ok.inj h).symm⟩

/-- What is written to a path is read from it. -/
theorem read_put {t : FileTree} {p : Path} {l : Location} (hl : t.locate p = .ok l)
    (hentry : t.entry? l ≠ some .directory) (text : String) :
    (t.put l (.file (.text text))).read p = .ok text := by
  have hlocate := (keepsDirectories_put hentry (.file (.text text))).locate hl
  have hfind : (t.put l (.file (.text text))).find p = .ok (l, .file (.text text)) := by
    rw [find, hlocate]
    dsimp only
    rw [entry?_put_self (ne_nil_of_not_directory hentry)]
  rw [read, hfind]

/-! ## Making directories -/

/-- The second tree has new directories where nothing stood in the first one, each of them where a
path leads to that is one of some; nothing else is different. -/
structure Made (paths : Path → Prop) (t t' : FileTree) : Prop where
  workingDirectory : t'.workingDirectory = t.workingDirectory
  entry : ∀ l, t'.entry? l = t.entry? l ∨
    (t.entry? l = none ∧ t'.entry? l = some .directory ∧ ∃ q, paths q ∧ t'.locate q = .ok l)

namespace Made

variable {paths : Path → Prop} {t t' t'' : FileTree}

theorem refl (paths : Path → Prop) (t : FileTree) : Made paths t t := ⟨rfl, fun _ => Or.inl rfl⟩

theorem keepsDirectories (h : Made paths t t') : KeepsDirectories t t' where
  workingDirectory := h.workingDirectory
  directory l hl := by
    rcases h.entry l with hsame | ⟨hnone, -, -⟩
    · rw [hsame, hl]
    · rw [hnone] at hl
      simp at hl

/-- Files stay as they are. -/
theorem fileAt? (h : Made paths t t') (l : Location) : t'.fileAt? l = t.fileAt? l := by
  rcases h.entry l with hsame | ⟨hnone, hdirectory, -⟩
  · exact fileAt?_congr hsame
  · rw [FileTree.fileAt?, FileTree.fileAt?, hnone, hdirectory]

theorem trans (h : Made paths t t') (h' : Made paths t' t'') : Made paths t t'' where
  workingDirectory := h'.workingDirectory.trans h.workingDirectory
  entry l := by
    rcases h'.entry l with hsame | ⟨hnone, hdirectory, hat⟩
    · rw [hsame]
      rcases h.entry l with hsame' | ⟨hnone, hdirectory, q, hq, hlocate⟩
      · exact Or.inl hsame'
      · exact Or.inr ⟨hnone, hdirectory, q, hq, h'.keepsDirectories.locate hlocate⟩
    · rcases h.entry l with hsame' | ⟨-, hdirectory', -⟩
      · exact Or.inr ⟨hsame' ▸ hnone, hdirectory, hat⟩
      · rw [hdirectory'] at hnone
        simp at hnone

end Made

/-- Pieces are empty ones and then those that are left when the empty ones are dropped. -/
theorem exists_replicate_of_dropWhile (pieces : List (List Char)) :
    ∃ n, pieces = List.replicate n [] ++ pieces.dropWhile (·.isEmpty) := by
  induction pieces with
  | nil => exact ⟨0, rfl⟩
  | cons piece rest ih =>
    by_cases hpiece : piece.isEmpty
    · obtain ⟨n, hn⟩ := ih
      refine ⟨n + 1, ?_⟩
      rw [List.dropWhile_cons_of_pos hpiece, List.isEmpty_iff.1 hpiece, List.replicate_succ,
        List.cons_append, ← hn]
    · refine ⟨0, ?_⟩
      rw [List.dropWhile_cons_of_neg hpiece]
      rfl

/-- Making a directory puts it where the path leads to afterwards, and nothing stood there. -/
theorem makeDirectory_eq_ok {t t' : FileTree} {p : Path} (h : t.makeDirectory p = .ok t') :
    ∃ l, t.entry? l = none ∧ t' = t.put l .directory ∧ t'.locate p = .ok l := by
  unfold makeDirectory at h
  obtain ⟨u, hcheck, h⟩ := bind_eq_ok.1 h
  split at h
  · exact absurd h (throw_ne_ok _ _)
  · next name before hpieces =>
    obtain ⟨above, habove, h⟩ := bind_eq_ok.1 h
    obtain ⟨l, hl, h⟩ := bind_eq_ok.1 h
    dsimp only at h
    split at h
    · exact absurd h (throw_ne_ok _ _)
    · next hfree =>
      obtain rfl := Except.ok.inj h
      have hnone : t.entry? l = none := by
        cases hentry : t.entry? l with
        | none => rfl
        | some e => simp [hentry] at hfree
      have hdirectory : t.entry? l ≠ some .directory := by simp [hnone]
      refine ⟨l, hnone, rfl, ?_⟩
      obtain ⟨n, hsplit⟩ := exists_replicate_of_dropWhile (Path.splitPieces p.text).reverse
      rw [hpieces, List.reverse_eq_iff, List.reverse_append, List.reverse_replicate] at hsplit
      have hkeeps := keepsDirectories_put hdirectory .directory
      have hsteps := hkeeps.steps (steps_of_pieces habove hl)
      rw [← hkeeps.origin p] at hsteps
      rw [locate, hcheck, hsplit]
      dsimp only
      -- the separators at the end stand on the new directory
      rw [steps_append hsteps]
      exact steps_replicate_nil (entry?_put_self (ne_nil_of_not_directory hdirectory)) n

/-- Making one directory. -/
theorem made_of_makeDirectory {t t' : FileTree} {p : Path} {paths : Path → Prop} (hp : paths p)
    (h : t.makeDirectory p = .ok t') : Made paths t t' := by
  obtain ⟨l, hnone, rfl, hlocate⟩ := makeDirectory_eq_ok h
  have hl : l ≠ [] := ne_nil_of_not_directory (t := t) (by simp [hnone])
  refine ⟨rfl, fun l' => ?_⟩
  by_cases hl' : l' = l
  · subst hl'
    exact Or.inr ⟨hnone, entry?_put_self hl, p, hp, hlocate⟩
  · exact Or.inl (entry?_put_of_ne hl')

/-- Asking whether a directory stands somewhere already changes nothing. -/
theorem fst_settled (t : FileTree) (p : Path) (e : FileError) :
    (if t.isDirectory p then (t, none) else (t, some e) : FileTree × Option FileError).1 = t := by
  split <;> rfl

/-- Making a directory after its parent, where that is needed. -/
theorem made_makeDirectoriesWithin_of_parent {paths : Path → Prop} {fuel : Nat} {t : FileTree}
    {p : Path} (hp : paths p)
    (hparent : ∀ fuel' parent, fuel = fuel' + 1 → p.HasParent parent →
      Made paths t (makeDirectoriesWithin fuel' t parent).1) :
    Made paths t (makeDirectoriesWithin fuel t p).1 := by
  unfold makeDirectoriesWithin
  dsimp only
  split
  · exact Made.refl paths t
  · split
    · next t' hmade => exact made_of_makeDirectory hp hmade
    · split
      · next fuel' parent hq =>
        have habove := hparent fuel' parent rfl hq
        cases hmade : makeDirectoriesWithin fuel' t parent with
        | mk t' failed =>
          rw [hmade] at habove
          cases failed with
          | some cause => exact habove
          | none =>
            dsimp only
            split
            · next t'' hlast => exact habove.trans (made_of_makeDirectory hp hlast)
            · rw [fst_settled]
              exact habove
      · exact Made.refl paths t
    · rw [fst_settled]
      exact Made.refl paths t

/-- Making a directory and those above it, whether it succeeds or fails. -/
theorem made_makeDirectoriesWithin {paths : Path → Prop}
    (hparent : ∀ p q, paths p → p.HasParent q → paths q) (fuel : Nat) (t : FileTree) {p : Path}
    (hp : paths p) : Made paths t (makeDirectoriesWithin fuel t p).1 := by
  induction fuel generalizing t p with
  | zero => exact made_makeDirectoriesWithin_of_parent hp (fun fuel' parent hfuel => by omega)
  | succ fuel ih =>
    refine made_makeDirectoriesWithin_of_parent hp (fun fuel' parent hfuel hq => ?_)
    rw [← Nat.succ.inj hfuel]
    exact ih t (hparent p parent hp hq)

/-- Making the parent of a path, whether it succeeds or fails, makes directories above the path. -/
theorem made_makeDirectories {p parent : Path} (hp : p.HasParent parent) (t : FileTree) :
    Made p.HasAncestor t (t.makeDirectories parent).1 :=
  made_makeDirectoriesWithin (fun _ _ hq hr => Relation.TransGen.tail hq hr) _ t
    (Relation.TransGen.single hp)

end FileTree

end ModuleBundler
