import ModuleBundler.Proofs.FileTree.Walking

/-!
Canonicalizing in a tree. A path is followed by the operating system as it is written, but it is
canonicalized name by name: each name is looked up by the path that leads to it from the root, free
of detours. So how long the path itself is does not matter there, and how deep the files and
directories on its way stand does (`LookedUp`). Where the steps of a path lead to an entry, what it
is canonicalized to is the path of that entry, or it fails because something on the way stands too
deep (`canonicalize_eq_ok_iff_lookedUp`). All that is on the way to a file from the root has a
shorter path than the file, so a canonical path is canonicalized to itself.
-/

set_option autoImplicit false

namespace ModuleBundler.FileTree

/-! ## Lengths of paths -/

section Lengths

variable {l : Location} {name : List Char} {asDirectory : Bool}

theorem byteCount_lookupPath (l : Location) (asDirectory : Bool) :
    byteCount (lookupPath l asDirectory).text = byteCount (pathOf l).text + asDirectory.toNat := by
  rw [lookupPath, byteCount_append]
  cases asDirectory <;> rfl

theorem byteCount_pathOf_concat (hne : l ≠ []) (name : List Char) :
    byteCount (pathOf (l ++ [name])).text = byteCount (pathOf l).text + (1 + byteCount name) := by
  have htext : (pathOf (l ++ [name])).text = (pathOf l).text ++ (['/'] ++ name) := by
    rw [pathOf, Path.joinPieces_concat hne]
    rfl
  rw [htext, byteCount_append, byteCount_append]
  rfl

/-- What stands above a location can be looked up as a directory if the location itself can. -/
theorem Fits.lookupPath_of_concat (hne : l ≠ []) (h : Fits (pathOf (l ++ [name]))) :
    Fits (lookupPath l asDirectory) := by
  rw [Fits, byteCount_pathOf_concat hne] at h
  rw [Fits, byteCount_lookupPath]
  have hone := Bool.toNat_le asDirectory
  omega

theorem Fits.pathOf_of_lookupPath (h : Fits (lookupPath l asDirectory)) : Fits (pathOf l) := by
  rw [Fits, byteCount_lookupPath] at h
  exact Nat.lt_of_le_of_lt (Nat.le_add_right _ _) h

/-- What stands further above a location has a shorter path, too. -/
theorem Fits.pathOf_of_append {more : List (List Char)} (hne : l ≠ [])
    (h : Fits (pathOf (l ++ more))) : Fits (pathOf l) := by
  induction more using List.reverseRecOn with
  | nil => rwa [List.append_nil] at h
  | append_singleton more last ih =>
    rw [← List.append_assoc] at h
    have habove : Fits (lookupPath (l ++ more) false) :=
      h.lookupPath_of_concat (List.append_ne_nil_of_left_ne_nil hne more)
    exact ih habove.pathOf_of_lookupPath

end Lengths

/-! ## Lookups that are short enough -/

/-- The names among steps stand at places that can be looked up: each of them has a short enough
path from the root, with a separator after it if a step up comes next. -/
def LookedUp (l : Location) : List (List Char) → Prop
  | [] => True
  | step :: rest =>
    (step ≠ ['.', '.'] → Fits (lookupPath (l ++ [step]) (rest.head? == some ['.', '.']))) ∧
      LookedUp (beyond l step) rest

section LookedUp

variable {l m : Location} {name : List Char} {steps before after : List (List Char)}

/-- Steps into a directory and up again are no shorter than none. -/
theorem LookedUp.of_detour (hname : name ≠ ['.', '.'])
    (h : LookedUp l (before ++ name :: ['.', '.'] :: after)) : LookedUp l (before ++ after) := by
  induction before generalizing l with
  | nil =>
    have hback : beyond (beyond l name) ['.', '.'] = l := by
      rw [beyond, if_pos rfl, beyond, if_neg hname, List.dropLast_concat]
    have hafter := h.2.2
    rwa [hback] at hafter
  | cons step rest ih =>
    refine ⟨fun hstep => ?_, ih h.2⟩
    cases rest with
    | cons next rest => exact h.1 hstep
    | nil =>
      -- the step may now come right before a step up, but the name has been looked up beyond it
      have hinside := h.2.1 hname
      rw [beyond, if_neg hstep] at hinside
      exact hinside.pathOf_of_lookupPath.lookupPath_of_concat
        (List.append_ne_nil_of_right_ne_nil _ (List.cons_ne_nil _ _))

/-- Names lead to shorter paths than the one that they lead to in the end. -/
theorem lookedUp_of_isName {names : List (List Char)} (hnames : ∀ name ∈ names, Path.IsName name)
    (h : Fits (pathOf (l ++ names))) : LookedUp l names := by
  induction names generalizing l with
  | nil => trivial
  | cons name rest ih =>
    have hisName := hnames name List.mem_cons_self
    have hrest : ∀ name ∈ rest, Path.IsName name :=
      fun name hname => hnames name (List.mem_cons_of_mem _ hname)
    rw [List.append_cons] at h
    refine ⟨fun _ => ?_, ?_⟩
    · have hup : (rest.head? == some ['.', '.']) = false := by
        rw [beq_eq_false_iff_ne]
        intro hhead
        exact (hrest _ (List.mem_of_head? hhead)).up rfl
      rw [hup, Fits, byteCount_lookupPath]
      exact h.pathOf_of_append (List.append_ne_nil_of_right_ne_nil _ (List.cons_ne_nil _ _))
    · rw [beyond_of_isName hisName]
      exact ih hrest h

end LookedUp

section Tree

variable {t : FileTree} {p : Path} {l l' : Location} {pieces : List (List Char)} {e : Entry}

/-- The file that steps lead to has been looked up as the last one. -/
theorem LookedUp.fits_of_file (ht : t.IsTree) {steps : List (List Char)} (h : LookedUp l steps)
    (hwalk : t.Walks l steps l') (hne : steps ≠ []) {c : Content}
    (hfile : t.entry? l' = some (.file c)) : Fits (pathOf l') := by
  induction hwalk with
  | arrived l => exact absurd rfl hne
  | @onward l l' step rest hdirectory hwalk ih =>
    cases hwalk with
    | onward hnext hrest => exact ih h.2 (List.cons_ne_nil _ _) hfile
    | arrived =>
      by_cases hup : step = ['.', '.']
      · -- above a directory there is another one, and not the file
        rw [beyond, if_pos hup] at hfile
        cases l using List.reverseRecOn with
        | nil => cases hfile
        | append_singleton above last =>
          rw [List.dropLast_concat, (ht above last _ hdirectory).2] at hfile
          cases hfile
      · rw [beyond, if_neg hup]
        exact (h.1 hup).pathOf_of_lookupPath

/-! ## Looking up the names of a path -/

theorem lookupPath_false (l : Location) : lookupPath l false = pathOf l :=
  congrArg Path.mk (List.append_nil _)

theorem reaches_lookupPath (ht : t.IsTree) (hne : l ≠ []) (he : t.entry? l = some e)
    (asDirectory : Bool) : t.Reaches (lookupPath l asDirectory) l := by
  have hreaches := reaches_pathOf ht hne he
  cases asDirectory with
  | false => rwa [lookupPath_false]
  | true =>
    have hsteps : Path.stepPieces (lookupPath l true).text = Path.stepPieces (pathOf l).text :=
      (Path.stepPieces_append _ []).trans (List.append_nil _)
    rw [Reaches, hsteps]
    exact hreaches

/-- What stands at a location is found there, as a directory if it is one, unless the location's
path is too long. -/
theorem find_lookupPath (ht : t.IsTree) (hne : l ≠ []) (he : t.entry? l = some e)
    {asDirectory : Bool} (hdirectory : asDirectory = true → e = .directory) :
    (∃ found, t.find (lookupPath l asDirectory) = .ok found) ↔ Fits (lookupPath l asDirectory) := by
  have hreaches := reaches_lookupPath ht hne he asDirectory
  have hnonempty : (lookupPath l asDirectory).text ≠ [] := List.cons_ne_nil _ _
  constructor
  · rintro ⟨⟨l', e'⟩, hfind⟩
    exact ((find_eq_ok_iff_reaches ht hnonempty).mp hfind).1
  · intro hfits
    refine ⟨(l, e), (find_eq_ok_iff_reaches ht hnonempty).mpr
      ⟨hfits, hreaches, he, fun last hlast hidle => ?_⟩⟩
    cases asDirectory with
    | true => exact hdirectory rfl
    | false =>
      obtain ⟨piece, hpiece, hstep⟩ := endsInStep_pathOf ht hne he
      rw [lookupPath_false, hpiece, Option.some.injEq] at hlast
      rw [← hlast, hstep] at hidle
      cases hidle

/-- Where steps go on to an entry, what they start from is found, unless its path is too long. -/
theorem find_lookupPath_of_walks (ht : t.IsTree) {steps : List (List Char)}
    (h : t.Walks l steps l') (he : t.entry? l' = some e) (hne : l ≠ []) :
    (∃ found, t.find (lookupPath l (steps.head? == some ['.', '.'])) = .ok found) ↔
      Fits (lookupPath l (steps.head? == some ['.', '.'])) := by
  obtain ⟨e', he'⟩ := h.exists_entry? he
  refine find_lookupPath ht hne he' fun hup => ?_
  have hsteps : steps ≠ [] := by
    rintro rfl
    cases hup
  rw [h.directory_of_ne_nil hsteps, Option.some.injEq] at he'
  exact he'.symm

/-- Where pieces end in a step, a directory is needed exactly before a step up. -/
theorem needsDirectory_eq
    (hlast : ∀ last, pieces.getLast? = some last → Path.isIdle last = false) :
    needsDirectory pieces =
      ((pieces.filter fun piece => !Path.isIdle piece).head? == some ['.', '.']) := by
  induction pieces with
  | nil => rfl
  | cons piece rest ih =>
    cases hidle : Path.isIdle piece with
    | false =>
      rw [needsDirectory, List.dropWhile_cons_of_neg (by simp [hidle]),
        List.filter_cons_of_pos (by simp [hidle])]
      rfl
    | true =>
      -- an idle piece is not the last one, so a step comes after it
      cases rest with
      | nil =>
        rw [hlast piece rfl] at hidle
        cases hidle
      | cons next rest =>
        have hrest := ih fun last h => hlast last (by rwa [List.getLast?_cons_cons])
        rw [List.filter_cons_of_neg (by simp [hidle]), ← hrest, needsDirectory, needsDirectory,
          List.dropWhile_cons_of_pos hidle]
        rfl

/-- The names of pieces that end in a step, and lead to an entry, are looked up there, as long as
their paths are short enough. -/
theorem lookupSteps_eq_ok_iff (ht : t.IsTree)
    (hlast : ∀ last, pieces.getLast? = some last → Path.isIdle last = false)
    (h : t.Walks l (pieces.filter fun piece => !Path.isIdle piece) l')
    (he : t.entry? l' = some e) {m : Location} :
    t.lookupSteps l pieces = .ok m ↔
      LookedUp l (pieces.filter fun piece => !Path.isIdle piece) ∧ m = l' := by
  induction pieces generalizing l with
  | nil =>
    cases h
    rw [lookupSteps, Except.ok.injEq]
    exact ⟨fun h => ⟨trivial, h.symm⟩, fun h => h.2.symm⟩
  | cons piece rest ih =>
    have hrest : ∀ last, rest.getLast? = some last → Path.isIdle last = false := by
      intro last hl
      refine hlast last ?_
      rw [List.getLast?_cons, hl]
      rfl
    rw [lookupSteps]
    cases hidle : Path.isIdle piece with
    | true =>
      rw [List.filter_cons_of_neg (by simp [hidle])] at h ⊢
      exact ih hrest h
    | false =>
      rw [List.filter_cons_of_pos (by simp [hidle])] at h ⊢
      rw [if_neg (by simp), LookedUp]
      cases h with
      | onward hdirectory h =>
        by_cases hup : piece = ['.', '.']
        · have hbeyond : beyond l piece = l.dropLast := if_pos hup
          rw [hbeyond] at h ⊢
          rw [if_pos (beq_iff_eq.mpr hup), ih hrest h]
          exact and_congr_left fun _ => (and_iff_right fun hne => absurd hup hne).symm
        · have hbeyond : beyond l piece = l ++ [piece] := if_neg hup
          rw [hbeyond] at h ⊢
          rw [if_neg (fun hbeq => hup (beq_iff_eq.mp hbeq)), needsDirectory_eq hrest]
          -- the lookup is the one of the first conjunct, so they succeed together
          have hfind := find_lookupPath_of_walks ht h he
            (List.append_ne_nil_of_right_ne_nil l (List.cons_ne_nil piece []))
          cases hresult : t.find (lookupPath (l ++ [piece])
              ((rest.filter fun piece => !Path.isIdle piece).head? == some ['.', '.'])) with
          | error cause =>
            constructor
            · intro herror
              cases herror
            · rintro ⟨⟨hfits, -⟩, -⟩
              obtain ⟨found, hfound⟩ := hfind.mpr (hfits hup)
              rw [hresult] at hfound
              cases hfound
          | ok found =>
            dsimp only
            rw [ih hrest h, and_iff_right fun _ => hfind.mp ⟨found, hresult⟩]

/-- A path whose steps lead to an entry is canonicalized to the path of that entry, if all that it
names on the way has a short enough path. -/
theorem canonicalize_eq_ok_iff_lookedUp (ht : t.IsTree) (hreaches : t.Reaches p l)
    (hends : Path.EndsInStep p.text) (he : t.entry? l = some e) {q : Path} :
    t.canonicalize p = .ok q ↔ LookedUp (t.origin p) (Path.stepPieces p.text) ∧ q = pathOf l := by
  have hname := checkName_of_reaches ht hreaches he (ne_nil_of_endsInStep hends)
  have hlast : ∀ last, (Path.splitPieces p.text).getLast? = some last →
      Path.isIdle last = false := by
    intro last hlast
    obtain ⟨piece, hpiece, hstep⟩ := hends
    rw [hlast, Option.some.injEq] at hpiece
    rw [hpiece, hstep]
  rw [canonicalize_eq_ok_iff]
  constructor
  · rintro ⟨l', hlookup, rfl⟩
    obtain ⟨-, -, hsteps, -⟩ := lookup_eq_ok_iff.mp hlookup
    obtain ⟨hlooked, rfl⟩ := (lookupSteps_eq_ok_iff ht hlast hreaches he).mp hsteps
    exact ⟨hlooked, rfl⟩
  · rintro ⟨hlooked, rfl⟩
    exact ⟨l, lookup_eq_ok_iff.mpr ⟨hname, hreaches.exists_entry? he,
      (lookupSteps_eq_ok_iff ht hlast hreaches he).mpr ⟨hlooked, rfl⟩, e, he⟩, rfl⟩

/-- The path of an entry that is short enough is canonical already. -/
theorem canonicalize_pathOf (ht : t.IsTree) (hne : l ≠ []) (he : t.entry? l = some e)
    (hfits : Fits (pathOf l)) : t.canonicalize (pathOf l) = .ok (pathOf l) := by
  refine (canonicalize_eq_ok_iff_lookedUp ht (reaches_pathOf ht hne he)
    (endsInStep_pathOf ht hne he) he).mpr ⟨?_, rfl⟩
  rw [stepPieces_pathOf ht hne he]
  exact lookedUp_of_isName (fun name hname => (ht.isEntryName he name hname).toIsName) hfits

/-! ## Paths that are short enough -/

/-- The path is one that the operating system takes in this tree: its text is short enough, and so
are the paths of all that it names on its way. -/
structure Takes (t : FileTree) (p : Path) : Prop where
  text : Fits p
  lookups : LookedUp (t.origin p) (Path.stepPieces p.text)

end Tree

end ModuleBundler.FileTree
