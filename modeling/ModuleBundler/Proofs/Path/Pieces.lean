import Mathlib.Data.List.Basic
import ModuleBundler.Path

/-!
Paths as their pieces. Splitting undoes joining where no piece holds a separator, and a separator
in a text cuts its pieces in two. Where a path starts can be told from its first piece alone
(`start_ofPieces`), and what a path names is its start and the pieces that name a step: its
components, by which paths are compared.
-/

set_option autoImplicit false

namespace ModuleBundler.Path

/-! ## Splitting and joining -/

theorem splitPieces_separator (s : List Char) : splitPieces ('/' :: s) = [] :: splitPieces s := by
  rw [splitPieces, if_pos rfl]

theorem splitPieces_cons {c : Char} {s piece : List Char} {more : List (List Char)} (hc : c ≠ '/')
    (h : splitPieces s = piece :: more) : splitPieces (c :: s) = (c :: piece) :: more := by
  rw [splitPieces, if_neg hc, h]

/-- A separator cuts the pieces of a text in two. -/
theorem splitPieces_append (s t : List Char) :
    splitPieces (s ++ '/' :: t) = splitPieces s ++ splitPieces t := by
  induction s with
  | nil => exact splitPieces_separator t
  | cons c rest ih =>
    by_cases hc : c = '/'
    · rw [hc, List.cons_append, splitPieces_separator, splitPieces_separator, ih, List.cons_append]
    · obtain ⟨piece, more, hpieces⟩ := List.exists_cons_of_ne_nil (splitPieces_ne_nil rest)
      rw [hpieces, List.cons_append] at ih
      rw [List.cons_append, splitPieces_cons hc ih, splitPieces_cons hc hpieces, List.cons_append]

/-- A text without separator is one piece. -/
theorem splitPieces_of_notMem {s : List Char} (h : '/' ∉ s) : splitPieces s = [s] := by
  induction s with
  | nil => rfl
  | cons c rest ih =>
    rw [List.mem_cons, not_or] at h
    exact splitPieces_cons (Ne.symm h.1) (ih h.2)

/-- No piece holds a separator. -/
theorem notMem_of_mem_splitPieces {s piece : List Char} (h : piece ∈ splitPieces s) :
    '/' ∉ piece := by
  induction s generalizing piece with
  | nil =>
    rw [splitPieces, List.mem_singleton] at h
    rw [h]
    exact List.not_mem_nil
  | cons c rest ih =>
    by_cases hc : c = '/'
    · rw [hc, splitPieces_separator, List.mem_cons] at h
      rcases h with rfl | h
      · exact List.not_mem_nil
      · exact ih h
    · obtain ⟨first, more, hpieces⟩ := List.exists_cons_of_ne_nil (splitPieces_ne_nil rest)
      rw [splitPieces_cons hc hpieces, List.mem_cons] at h
      rw [hpieces] at ih
      rcases h with rfl | h
      · rw [List.mem_cons, not_or]
        exact ⟨Ne.symm hc, ih List.mem_cons_self⟩
      · exact ih (List.mem_cons_of_mem _ h)

theorem joinPieces_cons_cons (first second : List Char) (rest : List (List Char)) :
    joinPieces (first :: second :: rest) = first ++ '/' :: joinPieces (second :: rest) := rfl

/-- Pieces without separators are the pieces of what they are joined to. -/
theorem splitPieces_joinPieces {pieces : List (List Char)} (hne : pieces ≠ [])
    (h : ∀ piece ∈ pieces, '/' ∉ piece) : splitPieces (joinPieces pieces) = pieces := by
  induction pieces with
  | nil => exact absurd rfl hne
  | cons first rest ih =>
    have hfirst := splitPieces_of_notMem (h first List.mem_cons_self)
    cases rest with
    | nil => exact hfirst
    | cons second rest =>
      rw [joinPieces_cons_cons, splitPieces_append, hfirst,
        ih (List.cons_ne_nil _ _) (fun piece hp => h piece (List.mem_cons_of_mem _ hp))]
      rfl

/-- One more piece at the end. -/
theorem joinPieces_concat {pieces : List (List Char)} (hne : pieces ≠ []) (last : List Char) :
    joinPieces (pieces ++ [last]) = joinPieces pieces ++ '/' :: last := by
  induction pieces with
  | nil => exact absurd rfl hne
  | cons first rest ih =>
    cases rest with
    | nil => rfl
    | cons second rest =>
      rw [List.cons_append, List.cons_append, joinPieces_cons_cons, joinPieces_cons_cons,
        ← List.cons_append, ih (List.cons_ne_nil _ _), List.append_assoc, List.cons_append]

theorem isIdle_iff {piece : List Char} : isIdle piece = true ↔ piece = [] ∨ piece = ['.'] := by
  rw [isIdle, Bool.or_eq_true, beq_iff_eq, beq_iff_eq]

/-- A piece that can be the name of a file. -/
structure IsName (name : List Char) : Prop where
  separator : '/' ∉ name
  idle : isIdle name = false
  up : name ≠ ['.', '.']

/-! ## Where a path starts -/

/-- The first piece after a start says nothing else about where the path starts. -/
def Start.Admits : Start → List Char → Prop
  | .root, _ => True
  | .here, first => first = []
  | .implicit, first => isIdle first = false

/-- The path of pieces after a start. -/
def ofPieces (s : Start) (pieces : List (List Char)) : Path := ⟨s.text ++ joinPieces pieces⟩

/-- A path whose first piece is not idle does not say where it starts. -/
theorem start_eq_implicit {p : Path} {first : List Char} {rest : List (List Char)}
    (hpieces : splitPieces p.text = first :: rest) (hfirst : isIdle first = false) :
    p.start = (.implicit, p.text) := by
  unfold start
  split
  · next h =>
    rw [h, splitPieces_separator, List.cons.injEq] at hpieces
    rw [← hpieces.1] at hfirst
    cases hfirst
  · next h =>
    rw [h] at hpieces
    cases hpieces
    cases hfirst
  · next h =>
    rw [h, splitPieces_cons (by decide) (splitPieces_separator _), List.cons.injEq] at hpieces
    rw [← hpieces.1] at hfirst
    cases hfirst
  · rfl

/-- A path starts where its first piece leaves open that it does. -/
theorem start_ofPieces {s : Start} {first : List Char} {rest : List (List Char)}
    (hadmits : s.Admits first) (h : ∀ piece ∈ first :: rest, '/' ∉ piece) :
    (ofPieces s (first :: rest)).start = (s, joinPieces (first :: rest)) := by
  cases s with
  | root => rfl
  | here =>
    cases hadmits
    cases rest with
    | nil => rfl
    | cons second rest => rfl
  | implicit => exact start_eq_implicit (splitPieces_joinPieces (List.cons_ne_nil _ _) h) hadmits

/-- The first piece after the start of a path that has more than idle pieces. -/
theorem admits_of_splitPieces {p : Path} {first : List Char} {rest : List (List Char)}
    (hpieces : splitPieces p.start.2 = first :: rest)
    (hstep : ∃ piece ∈ first :: rest, isIdle piece = false) : p.start.1.Admits first := by
  unfold start at hpieces ⊢
  split at hpieces
  · trivial
  · cases hpieces
    rfl
  · rw [splitPieces_separator, List.cons.injEq] at hpieces
    exact hpieces.1.symm
  · next hroot hdot hhere =>
    -- an idle first piece would be part of the start, or all there is
    by_contra hidle
    have htext := joinPieces_splitPieces p.text
    rw [hpieces] at htext
    rw [Start.Admits, Bool.not_eq_false, isIdle_iff] at hidle
    rcases hidle with rfl | rfl
    · cases rest with
      | nil =>
        obtain ⟨piece, hpiece, hne⟩ := hstep
        rw [List.mem_singleton.mp hpiece] at hne
        cases hne
      | cons second rest => exact hroot _ htext.symm
    · cases rest with
      | nil => exact hdot htext.symm
      | cons second rest => exact hhere _ htext.symm

/-! ## Components -/

/-- The pieces of a text that name a step. -/
def stepPieces (s : List Char) : List (List Char) :=
  (splitPieces s).filter fun piece => !isIdle piece

/-- Where a path starts, and the steps that it names from there. -/
def components (p : Path) : Start × List (List Char) := (p.start.1, stepPieces p.start.2)

theorem stepPieces_append (s t : List Char) :
    stepPieces (s ++ '/' :: t) = stepPieces s ++ stepPieces t := by
  rw [stepPieces, splitPieces_append, List.filter_append, ← stepPieces, ← stepPieces]

/-- What follows the text begins with a piece of its own. -/
def EndsPiece (s : List Char) : Prop := s = [] ∨ ∃ before, s = before ++ ['/']

/-- The last piece of the text names a step. -/
def EndsInStep (s : List Char) : Prop :=
  ∃ piece, (splitPieces s).getLast? = some piece ∧ isIdle piece = false

theorem stepPieces_append_of_endsPiece {s : List Char} (h : EndsPiece s) (t : List Char) :
    stepPieces (s ++ t) = stepPieces s ++ stepPieces t := by
  rcases h with rfl | ⟨before, rfl⟩
  · rfl
  · rw [List.append_assoc, List.singleton_append, stepPieces_append, stepPieces_append,
      List.append_assoc]
    rfl

theorem filter_ne_nil_of_getLast? {pieces : List (List Char)} {last : List Char}
    (h : pieces.getLast? = some last) (hidle : isIdle last = false) :
    (pieces.filter fun piece => !isIdle piece) ≠ [] :=
  List.ne_nil_of_mem (List.mem_filter.mpr ⟨List.mem_of_getLast? h, by rw [hidle]; rfl⟩)

/-- Whether a text ends in a step is said by its last pieces. -/
theorem endsInStep_append (s t : List Char) : EndsInStep (s ++ '/' :: t) ↔ EndsInStep t := by
  rw [EndsInStep, EndsInStep, splitPieces_append, List.getLast?_append,
    List.getLast?_eq_some_getLast (splitPieces_ne_nil t), Option.some_or]

theorem endsInStep_append_of_endsPiece {s : List Char} (h : EndsPiece s) (t : List Char) :
    EndsInStep (s ++ t) ↔ EndsInStep t := by
  rcases h with rfl | ⟨before, rfl⟩
  · rfl
  · rw [List.append_assoc, List.singleton_append, endsInStep_append]

/-- Every other character than a separator stands in a piece. -/
theorem exists_mem_splitPieces {s : List Char} {c : Char} (hc : c ∈ s) (hne : c ≠ '/') :
    ∃ piece ∈ splitPieces s, c ∈ piece := by
  induction s with
  | nil => cases hc
  | cons d rest ih =>
    by_cases hd : d = '/'
    · have hrest : c ∈ rest := by
        rcases List.mem_cons.mp hc with rfl | hrest
        · exact absurd hd hne
        · exact hrest
      obtain ⟨piece, hpiece, hmem⟩ := ih hrest
      rw [hd, splitPieces_separator]
      exact ⟨piece, List.mem_cons_of_mem _ hpiece, hmem⟩
    · obtain ⟨first, more, hpieces⟩ := List.exists_cons_of_ne_nil (splitPieces_ne_nil rest)
      rw [splitPieces_cons hd hpieces]
      rcases List.mem_cons.mp hc with rfl | hrest
      · exact ⟨_, List.mem_cons_self, List.mem_cons_self⟩
      · obtain ⟨piece, hpiece, hmem⟩ := ih hrest
        rw [hpieces] at hpiece
        rcases List.mem_cons.mp hpiece with rfl | hpiece
        · exact ⟨_, List.mem_cons_self, List.mem_cons_of_mem _ hmem⟩
        · exact ⟨piece, List.mem_cons_of_mem _ hpiece, hmem⟩

end ModuleBundler.Path
