import Mathlib.Data.List.Induction
import ModuleBundler.Proofs.Canonical
import ModuleBundler.Proofs.Path.Pieces
import ModuleBundler.Proofs.Writing

/-!
Walks through a tree. A path is followed piece by piece, idle pieces too; what it means is said by
the pieces that name a step alone: each of them leads from an existing directory to the location
above, or to the one with that name. In a tree, where every entry has a name and stands in a
directory, following a path finds a file exactly if the walk of its steps ends at one and no idle
piece comes after it, unless the text of the path is too long (`find_file_iff`).
-/

set_option autoImplicit false

namespace ModuleBundler.FileTree

/-! ## Trees -/

/-- A name that can stand in a directory. -/
structure IsEntryName (name : List Char) : Prop extends Path.IsName name where
  zero : '\x00' ∉ name
  short : byteCount name ≤ nameLimit

/-- Every entry has a name, and stands in a directory. -/
def IsTree (t : FileTree) : Prop :=
  ∀ l name e, t.entry? (l ++ [name]) = some e → IsEntryName name ∧ t.entry? l = some .directory

/-! ## Walks -/

/-- Where a step leads: to the location above, or to the one with that name. -/
def beyond (l : Location) (step : List Char) : Location :=
  if step = ['.', '.'] then l.dropLast else l ++ [step]

/-- Steps lead from one location to another; each of them starts in an existing directory. -/
inductive Walks (t : FileTree) : Location → List (List Char) → Location → Prop
  | arrived (l : Location) : Walks t l [] l
  | onward {l l' : Location} {step : List Char} {rest : List (List Char)}
      (hdirectory : t.entry? l = some .directory) (h : Walks t (beyond l step) rest l') :
      Walks t l (step :: rest) l'

/-- The steps of a path lead to a location. -/
def Reaches (t : FileTree) (p : Path) (l : Location) : Prop :=
  t.Walks (t.origin p) (Path.stepPieces p.text) l

section Tree

variable {t : FileTree}

/-- Every name on the way to an entry can stand in a directory. -/
theorem IsTree.isEntryName (ht : t.IsTree) {l : Location} {e : Entry} (h : t.entry? l = some e) :
    ∀ name ∈ l, IsEntryName name := by
  induction l using List.reverseRecOn generalizing e with
  | nil => intro name hname; cases hname
  | append_singleton l last ih =>
    obtain ⟨hlast, hdirectory⟩ := ht l last e h
    intro name hname
    rcases List.mem_append.mp hname with hname | hname
    · exact ih hdirectory name hname
    · rw [List.mem_singleton.mp hname]
      exact hlast

theorem beyond_of_isName {l : Location} {name : List Char} (h : Path.IsName name) :
    beyond l name = l ++ [name] := if_neg h.up

namespace Walks

variable {l m l' : Location} {steps more : List (List Char)}

theorem append (h : t.Walks l steps m) (hmore : t.Walks m more l') :
    t.Walks l (steps ++ more) l' := by
  induction h with
  | arrived l => exact hmore
  | onward hdirectory _ ih => exact .onward hdirectory (ih hmore)

/-- A walk can be halted after any of its steps. -/
theorem exists_of_append (h : t.Walks l (steps ++ more) l') :
    ∃ m, t.Walks l steps m ∧ t.Walks m more l' := by
  induction steps generalizing l with
  | nil => exact ⟨l, .arrived l, h⟩
  | cons step rest ih =>
    rw [List.cons_append] at h
    cases h with
    | onward hdirectory h =>
      obtain ⟨m, hrest, hmore⟩ := ih h
      exact ⟨m, .onward hdirectory hrest, hmore⟩

/-- Steps lead to one location only. -/
theorem unique (h : t.Walks l steps m) (h' : t.Walks l steps l') : m = l' := by
  induction h with
  | arrived l =>
    cases h'
    rfl
  | onward _ _ ih =>
    cases h' with
    | onward _ h' => exact ih h'

/-- Where a step leads on from there is a directory. -/
theorem directory_of_ne_nil (h : t.Walks l steps l') (hne : steps ≠ []) :
    t.entry? l = some .directory := by
  cases h with
  | arrived l => exact absurd rfl hne
  | onward hdirectory _ => exact hdirectory

/-- A walk that ends at an entry starts at one. -/
theorem exists_entry? (h : t.Walks l steps l') {e : Entry} (he : t.entry? l' = some e) :
    ∃ e, t.entry? l = some e := by
  cases h with
  | arrived l => exact ⟨e, he⟩
  | onward hdirectory _ => exact ⟨_, hdirectory⟩

/-- The steps of a walk to an entry are steps up and names of entries. -/
theorem isEntryName (ht : t.IsTree) (h : t.Walks l steps l') {e : Entry}
    (he : t.entry? l' = some e) : ∀ step ∈ steps, step = ['.', '.'] ∨ IsEntryName step := by
  induction h with
  | arrived l => intro step hstep; cases hstep
  | @onward l l' step rest hdirectory h ih =>
    intro piece hpiece
    rcases List.mem_cons.mp hpiece with rfl | hpiece
    · by_cases hup : piece = ['.', '.']
      · exact Or.inl hup
      · obtain ⟨e', he'⟩ := h.exists_entry? he
        rw [beyond, if_neg hup] at he'
        exact Or.inr (ht l piece e' he').1
    · exact ih he piece hpiece

end Walks

/-- The names on the way to an entry lead to it from the root. -/
theorem IsTree.walks (ht : t.IsTree) {l : Location} {e : Entry} (h : t.entry? l = some e) :
    t.Walks [] l l := by
  induction l using List.reverseRecOn generalizing e with
  | nil => exact .arrived []
  | append_singleton l name ih =>
    obtain ⟨hname, hdirectory⟩ := ht l name e h
    refine (ih hdirectory).append (.onward hdirectory ?_)
    rw [beyond_of_isName hname.toIsName]
    exact .arrived _

end Tree

/-! ## Following a path is walking -/

section Following

variable {t : FileTree} {l l' : Location} {pieces : List (List Char)}

/-- What one piece of a path does. -/
theorem step_eq_ok_iff {piece : List Char} :
    t.step l piece = .ok l' ↔ t.entry? l = some .directory ∧
      ((Path.isIdle piece = true ∧ l' = l) ∨
        (Path.isIdle piece = false ∧ (piece = ['.', '.'] ∨ byteCount piece ≤ nameLimit) ∧
          l' = beyond l piece)) := by
  cases hentry : t.entry? l with
  | none => simp [step, hentry]
  | some e =>
    cases e with
    | file c => simp [step, hentry]
    | directory =>
      rw [step, hentry]
      dsimp only
      by_cases hidle : Path.isIdle piece = true
      · rw [if_pos hidle]
        simp [hidle, eq_comm]
      · rw [if_neg hidle]
        rw [Bool.not_eq_true] at hidle
        by_cases hup : piece = ['.', '.']
        · subst hup
          simp [hidle, beyond, eq_comm]
        · rw [if_neg (fun h => hup (beq_iff_eq.mp h)), beyond, if_neg hup]
          by_cases hlong : nameLimit < byteCount piece
          · rw [if_pos hlong]
            simp [hidle, hup, Nat.not_le.mpr hlong]
          · rw [if_neg hlong]
            simp [hidle, hup, Nat.le_of_not_lt hlong, eq_comm]

/-- Following pieces is walking the steps among them. -/
theorem walks_of_steps (h : t.steps l pieces = .ok l') :
    t.Walks l (pieces.filter fun piece => !Path.isIdle piece) l' := by
  induction pieces generalizing l with
  | nil =>
    cases h
    exact .arrived _
  | cons piece rest ih =>
    rw [steps] at h
    cases hstep : t.step l piece with
    | error cause =>
      rw [hstep] at h
      cases h
    | ok next =>
      rw [hstep] at h
      obtain ⟨hdirectory, ⟨hidle, rfl⟩ | ⟨hidle, -, rfl⟩⟩ := step_eq_ok_iff.mp hstep
      · rw [List.filter_cons_of_neg (by simp [hidle])]
        exact ih h
      · rw [List.filter_cons_of_pos (by simp [hidle])]
        exact .onward hdirectory (ih h)

/-- Pieces can be followed where their steps lead to an entry; where they end in an idle piece, it
has to be a directory. -/
theorem steps_of_walks (ht : t.IsTree)
    (h : t.Walks l (pieces.filter fun piece => !Path.isIdle piece) l') {e : Entry}
    (he : t.entry? l' = some e)
    (hlast : ∀ last, pieces.getLast? = some last → Path.isIdle last = true → e = .directory) :
    t.steps l pieces = .ok l' := by
  -- induction on the pieces and not on the walk, which does not see the idle ones
  induction pieces generalizing l with
  | nil =>
    cases h
    rfl
  | cons piece rest ih =>
    have hrest : ∀ last, rest.getLast? = some last → Path.isIdle last = true → e = .directory := by
      intro last h
      refine hlast last ?_
      rw [List.getLast?_cons, h]
      rfl
    cases hidle : Path.isIdle piece with
    | true =>
      rw [List.filter_cons_of_neg (by simp [hidle])] at h
      have hdirectory : t.entry? l = some .directory := by
        by_cases hnil : (rest.filter fun piece => !Path.isIdle piece) = []
        · -- only idle pieces come after this one, so the walk has ended already
          rw [hnil] at h
          cases h
          have hall : ∀ other ∈ piece :: rest, Path.isIdle other = true := by
            intro other hother
            rcases List.mem_cons.mp hother with rfl | hother
            · exact hidle
            · simpa using List.filter_eq_nil_iff.mp hnil other hother
          have hlast' := List.getLast?_eq_some_getLast (List.cons_ne_nil piece rest)
          rw [he, hlast _ hlast' (hall _ (List.getLast_mem _))]
        · -- a step comes after the idle piece, and it starts in a directory
          exact h.directory_of_ne_nil hnil
      have hstep : t.step l piece = .ok l :=
        step_eq_ok_iff.mpr ⟨hdirectory, Or.inl ⟨hidle, rfl⟩⟩
      rw [steps, hstep]
      exact ih h hrest
    | false =>
      -- the name is that of an entry, so it is not too long
      have hname := h.isEntryName ht he piece
        (List.mem_filter.mpr ⟨List.mem_cons_self, by rw [hidle]; rfl⟩)
      rw [List.filter_cons_of_pos (by simp [hidle])] at h
      cases h with
      | onward hdirectory h =>
        have hstep : t.step l piece = .ok (beyond l piece) :=
          step_eq_ok_iff.mpr ⟨hdirectory, Or.inr ⟨hidle, hname.imp_right (·.short), rfl⟩⟩
        rw [steps, hstep]
        exact ih h hrest

/-- An idle piece at the end needs a directory before it, and stays there. -/
theorem directory_of_steps {last : List Char} (h : t.steps l pieces = .ok l')
    (hlast : pieces.getLast? = some last) (hidle : Path.isIdle last = true) :
    t.entry? l' = some .directory := by
  induction pieces generalizing l with
  | nil => cases hlast
  | cons piece rest ih =>
    rw [steps] at h
    cases hstep : t.step l piece with
    | error cause =>
      rw [hstep] at h
      cases h
    | ok next =>
      rw [hstep] at h
      cases rest with
      | nil =>
        cases h
        rw [List.getLast?_singleton, Option.some.injEq] at hlast
        subst hlast
        obtain ⟨hdirectory, ⟨-, rfl⟩ | ⟨hno, -⟩⟩ := step_eq_ok_iff.mp hstep
        · exact hdirectory
        · rw [hidle] at hno
          cases hno
      | cons next rest => exact ih h (by rwa [List.getLast?_cons_cons] at hlast)

end Following

/-! ## What paths mean -/

/-- The text of the path is short enough for the operating system. -/
def Fits (p : Path) : Prop := byteCount p.text < pathLimit

theorem foldl_utf8Size (n : Nat) (s : List Char) :
    s.foldl (fun n c => n + c.utf8Size) n = n + byteCount s := by
  induction s generalizing n with
  | nil => rfl
  | cons c rest ih =>
    rw [byteCount, List.foldl_cons, List.foldl_cons, ih, ih (0 + c.utf8Size), Nat.zero_add,
      Nat.add_assoc]

theorem byteCount_append (s t : List Char) : byteCount (s ++ t) = byteCount s + byteCount t := by
  rw [byteCount, List.foldl_append, foldl_utf8Size, ← byteCount]

/-- A text between two others makes a path longer. -/
theorem Fits.of_append {s between rest : List Char} (h : Fits ⟨s ++ (between ++ rest)⟩) :
    Fits ⟨s ++ rest⟩ := by
  rw [Fits, byteCount_append, byteCount_append] at h
  rw [Fits, byteCount_append]
  omega

theorem checkName_eq_ok_iff {p : Path} :
    checkName p = .ok () ↔ p.text ≠ [] ∧ '\x00' ∉ p.text := by
  unfold checkName
  by_cases hne : p.text = []
  · simp [hne]
  · rw [if_neg (by simpa using hne)]
    by_cases hzero : '\x00' ∈ p.text
    · rw [if_pos (by simpa using hzero)]
      simp [hzero]
    · rw [if_neg (by simpa using hzero)]
      simp [hne, hzero]

theorem checkText_eq_ok_iff {p : Path} :
    checkText p = .ok () ↔ checkName p = .ok () ∧ Fits p := by
  unfold checkText Fits
  cases checkName p with
  | error cause => simp
  | ok _ =>
    dsimp only
    by_cases hlong : pathLimit ≤ byteCount p.text
    · rw [if_pos hlong]
      simp [Nat.not_lt.mpr hlong]
    · rw [if_neg hlong]
      simp [Nat.lt_of_not_le hlong]

section Meaning

variable {t : FileTree} {p : Path} {l : Location}

/-- A path is located where its pieces lead to, if its text can be that of a path. -/
theorem locate_eq_ok_iff :
    t.locate p = .ok l ↔
      checkText p = .ok () ∧ t.steps (t.origin p) (Path.splitPieces p.text) = .ok l := by
  unfold locate
  cases checkText p with
  | error cause => simp
  | ok _ => simp

/-- The text of a path whose steps lead to an entry has no zero in it. -/
theorem notMem_zero_of_reaches (ht : t.IsTree) (h : t.Reaches p l) {e : Entry}
    (he : t.entry? l = some e) : '\x00' ∉ p.text := by
  intro hzero
  obtain ⟨piece, hpiece, hmem⟩ := Path.exists_mem_splitPieces hzero (by decide)
  cases hidle : Path.isIdle piece with
  | true =>
    rcases Path.isIdle_iff.mp hidle with rfl | rfl
    · cases hmem
    · exact absurd hmem (by decide)
  | false =>
    rcases h.isEntryName ht he piece (List.mem_filter.mpr ⟨hpiece, by rw [hidle]; rfl⟩)
      with rfl | hname
    · exact absurd hmem (by decide)
    · exact hname.zero hmem

/-- The text of a path whose steps lead to an entry can be that of a path, unless it is empty. -/
theorem checkName_of_reaches (ht : t.IsTree) (h : t.Reaches p l) {e : Entry}
    (he : t.entry? l = some e) (hne : p.text ≠ []) : checkName p = .ok () :=
  checkName_eq_ok_iff.mpr ⟨hne, notMem_zero_of_reaches ht h he⟩

/-- A path is found exactly if it is short enough and its steps lead to an entry, which is a
directory where an idle piece comes after them. -/
theorem find_eq_ok_iff_reaches (ht : t.IsTree) (hne : p.text ≠ []) {e : Entry} :
    t.find p = .ok (l, e) ↔ Fits p ∧ t.Reaches p l ∧ t.entry? l = some e ∧
      ∀ last, (Path.splitPieces p.text).getLast? = some last → Path.isIdle last = true →
        e = .directory := by
  rw [find_eq_ok_iff, locate_eq_ok_iff, checkText_eq_ok_iff]
  constructor
  · rintro ⟨⟨⟨-, hfits⟩, hsteps⟩, hentry⟩
    refine ⟨hfits, walks_of_steps hsteps, hentry, fun last hlast hidle => ?_⟩
    rw [directory_of_steps hsteps hlast hidle, Option.some.injEq] at hentry
    exact hentry.symm
  · -- of what a text is refused for, only its length is not excluded by the walk
    rintro ⟨hfits, hreaches, hentry, hlast⟩
    exact ⟨⟨⟨checkName_of_reaches ht hreaches hentry hne, hfits⟩,
      steps_of_walks ht hreaches hentry hlast⟩, hentry⟩

theorem ne_nil_of_endsInStep {s : List Char} (h : Path.EndsInStep s) : s ≠ [] := by
  rintro rfl
  obtain ⟨last, hlast, hidle⟩ := h
  cases hlast
  cases hidle

/-- A path leads to a file exactly if it is short enough, its steps lead to the file, and no idle
piece comes after them. -/
theorem find_file_iff (ht : t.IsTree) :
    (∃ c, t.find p = .ok (l, .file c)) ↔
      Fits p ∧ t.Reaches p l ∧ Path.EndsInStep p.text ∧ ∃ c, t.entry? l = some (.file c) := by
  constructor
  · rintro ⟨c, hfind⟩
    have hne : p.text ≠ [] := by
      have hlocate := (find_eq_ok_iff.mp hfind).1
      exact (checkName_eq_ok_iff.mp (checkText_eq_ok_iff.mp (locate_eq_ok_iff.mp hlocate).1).1).1
    obtain ⟨hfits, hreaches, hentry, hlast⟩ := (find_eq_ok_iff_reaches ht hne).mp hfind
    refine ⟨hfits, hreaches, ?_, c, hentry⟩
    -- an idle last piece would have needed a directory where the file is
    have hlast' := List.getLast?_eq_some_getLast (Path.splitPieces_ne_nil p.text)
    refine ⟨_, hlast', Bool.eq_false_iff.mpr fun hidle => ?_⟩
    cases hlast _ hlast' hidle
  · rintro ⟨hfits, hreaches, hends, c, hentry⟩
    refine ⟨c, (find_eq_ok_iff_reaches ht (ne_nil_of_endsInStep hends)).mpr
      ⟨hfits, hreaches, hentry, fun last hlast hidle => ?_⟩⟩
    obtain ⟨piece, hpiece, hstep⟩ := hends
    rw [hlast, Option.some.injEq] at hpiece
    rw [hpiece, hstep] at hidle
    cases hidle

/-! ## The paths of locations -/

/-- The path of an entry has the names that lead to it as its pieces. -/
theorem splitPieces_pathOf (ht : t.IsTree) (hne : l ≠ []) {e : Entry} (he : t.entry? l = some e) :
    Path.splitPieces (pathOf l).text = [] :: l := by
  rw [pathOf, Path.splitPieces_separator, Path.splitPieces_joinPieces hne]
  exact fun name hname => (ht.isEntryName he name hname).separator

theorem stepPieces_pathOf (ht : t.IsTree) (hne : l ≠ []) {e : Entry} (he : t.entry? l = some e) :
    Path.stepPieces (pathOf l).text = l := by
  rw [Path.stepPieces, splitPieces_pathOf ht hne he, List.filter_cons_of_neg (by decide),
    List.filter_eq_self]
  intro name hname
  rw [(ht.isEntryName he name hname).idle]
  rfl

theorem reaches_pathOf (ht : t.IsTree) (hne : l ≠ []) {e : Entry} (he : t.entry? l = some e) :
    t.Reaches (pathOf l) l := by
  rw [Reaches, stepPieces_pathOf ht hne he]
  exact ht.walks he

theorem endsInStep_pathOf (ht : t.IsTree) (hne : l ≠ []) {e : Entry} (he : t.entry? l = some e) :
    Path.EndsInStep (pathOf l).text := by
  refine ⟨l.getLast hne, ?_, (ht.isEntryName he _ (List.getLast_mem hne)).idle⟩
  rw [splitPieces_pathOf ht hne he, List.getLast?_cons, List.getLast?_eq_some_getLast hne]
  rfl

end Meaning

end ModuleBundler.FileTree
