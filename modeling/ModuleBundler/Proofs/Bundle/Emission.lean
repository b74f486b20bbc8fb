import ModuleBundler.Bundle.Write
import ModuleBundler.Proofs.Writing

/-!
What a build does to the tree that it runs in. The text of the bundle and its path are settled
before anything is written, so a failure up to there leaves the tree as it was; and the one file
that is written is written last, so a failure to write it leaves all files as they were, though
directories may have been made for it. A build that succeeds changes one file: it holds the text
that was rendered from the tree before, also where it takes the place of a source.
-/

set_option autoImplicit false

namespace ModuleBundler

/-- The path that taps make of another one, each of them applied to what the one before it has
made. -/
def chosenPath (taps : List Tap) (p : Path) : Except String Path :=
  taps.foldlM (fun p tap => tap.change p) p

/-- Taps are run in their order until one of them fails. -/
theorem chosenPath_eq (taps : List Tap) (p : Path) :
    chosenPath taps p =
      match dispatch taps p with
      | (chosen, none) => .ok chosen
      | (_, some failure) => .error failure.message := by
  induction taps generalizing p with
  | nil => rfl
  | cons tap rest ih =>
    rw [chosenPath, List.foldlM_cons, dispatch]
    cases tap.change p with
    | ok p' => exact ih p'
    | error message => rfl

namespace Bundle

/-! ## Writing a file -/

/-- A file has been written to a path. -/
structure Wrote (before : FileTree) (p : Path) (text : String) (after : FileTree) : Prop where
  /-- The file at the path holds the text. -/
  read : after.read p = .ok text
  /-- It has not taken the place of a directory. -/
  placed : ∀ l, after.locate p = .ok l → before.entry? l ≠ some .directory
  /-- Every other file is as before. -/
  files : ∀ l, after.locate p ≠ .ok l → after.fileAt? l = before.fileAt? l
  /-- What else is different are directories where nothing stood, at paths above the written
  one. -/
  others : ∀ l, after.locate p ≠ .ok l → after.entry? l = before.entry? l ∨
    (before.entry? l = none ∧ after.entry? l = some .directory ∧
      ∃ q, p.HasAncestor q ∧ after.locate q = .ok l)

/-- Writing to a path after directories have been made above it. -/
theorem wrote_of_write {t made after : FileTree} {p : Path} {text : String}
    (hmade : FileTree.Made p.HasAncestor t made) (h : made.write p text = .ok after) :
    Wrote t p text after := by
  obtain ⟨l, hlocate, hentry, rfl⟩ := FileTree.write_eq_ok h
  have hkeeps := FileTree.keepsDirectories_put hentry (.file (.text text))
  have hat := hkeeps.locate hlocate
  have hne : ∀ {l'}, (made.put l (.file (.text text))).locate p ≠ .ok l' → l' ≠ l := by
    rintro l' hl' rfl
    exact hl' hat
  refine ⟨FileTree.read_put hlocate hentry text, ?_, ?_, ?_⟩
  · intro l' hl' hdirectory
    rw [hat, Except.ok.injEq] at hl'
    subst hl'
    exact hentry (hmade.keepsDirectories.directory l hdirectory)
  · intro l' hl'
    rw [FileTree.fileAt?_congr (FileTree.entry?_put_of_ne (hne hl')), hmade.fileAt?]
  · intro l' hl'
    rw [FileTree.entry?_put_of_ne (hne hl')]
    rcases hmade.entry l' with hsame | ⟨hnone, hdirectory, q, hq, hlocate'⟩
    · exact Or.inl hsame
    · exact Or.inr ⟨hnone, hdirectory, q, hq, hkeeps.locate hlocate'⟩

/-- The directories above a path made, unless its path has none. -/
def parentsMade (t : FileTree) (p : Path) : FileTree × Option FileError :=
  match p.parent? with
  | some parent => if parent.text.isEmpty then (t, none) else t.makeDirectories parent
  | none => (t, none)

theorem made_parentsMade (t : FileTree) (p : Path) :
    FileTree.Made p.HasAncestor t (parentsMade t p).1 := by
  unfold parentsMade
  split
  · next parent hparent =>
    split
    · exact FileTree.Made.refl _ t
    · exact FileTree.made_makeDirectories hparent t
  · exact FileTree.Made.refl _ t

/-- A file is written after the directories above its path have been made. -/
theorem writeFile_eq (t : FileTree) (p : Path) (text : String) :
    writeFile t p text =
      match (parentsMade t p).2 with
      | some cause => ((parentsMade t p).1, .error (.unwritable p cause))
      | none =>
        match (parentsMade t p).1.write p text with
        | .ok after => (after, .ok p)
        | .error cause => ((parentsMade t p).1, .error (.unwritable p cause)) := rfl

/-- Writing a file succeeds, or it fails without a change of any file. -/
theorem writeFile_cases (t : FileTree) (p : Path) (text : String) :
    (∃ after, writeFile t p text = (after, .ok p) ∧ Wrote t p text after) ∨
      ∃ after cause, writeFile t p text = (after, .error (.unwritable p cause)) ∧
        ∀ l, after.fileAt? l = t.fileAt? l := by
  have hmade := made_parentsMade t p
  rw [writeFile_eq]
  cases (parentsMade t p).2 with
  | some cause => exact Or.inr ⟨_, cause, rfl, hmade.fileAt?⟩
  | none =>
    cases hwrite : (parentsMade t p).1.write p text with
    | ok after => exact Or.inl ⟨after, rfl, wrote_of_write hmade hwrite⟩
    | error cause => exact Or.inr ⟨_, cause, rfl, hmade.fileAt?⟩

/-! ## Building -/

/-- What a build that is to write a text to a path chosen by taps does to its tree. -/
structure AllOrNothing (t : FileTree) (text : Except BuildError String)
    (chosen : Except String Path) (result : FileTree × Except BuildError Path) : Prop where
  /-- It succeeds with the chosen path, and has written the text there. -/
  of_ok : ∀ p, result.2 = .ok p →
    chosen = .ok p ∧ ∃ code, text = .ok code ∧ Wrote t p code result.1
  /-- A failure leaves all files as they were. -/
  of_error : ∀ e, result.2 = .error e → ∀ l, result.1.fileAt? l = t.fileAt? l
  /-- Where there is no text, that is the failure, and the tree is as it was. -/
  of_text_error : ∀ e, text = .error e → result = (t, .error e)
  /-- Where a tap fails, that is the failure, and the tree is as it was. -/
  of_tap_error : ∀ code message, text = .ok code → chosen = .error message →
    ∃ tap, result = (t, .error (.tapFailed ⟨tap, message⟩))
  /-- Otherwise all that can fail is to write the file. -/
  of_both : ∀ code p e, text = .ok code → chosen = .ok p → result.2 = .error e →
    ∃ cause, e = .unwritable p cause

/-- Emitting a text. -/
theorem allOrNothing_emit (t : FileTree) (output : Path) (taps : List Tap) (code : String) :
    AllOrNothing t (.ok code) (chosenPath taps output) (emit t output taps code) := by
  have hchosen := chosenPath_eq taps output
  unfold emit
  cases hdispatch : dispatch taps output with
  | mk p failed =>
    rw [hdispatch] at hchosen
    cases failed with
    | some failure =>
      dsimp only at hchosen ⊢
      refine ⟨by simp, fun _ _ _ => rfl, by simp, ?_, ?_⟩
      · intro _ message _ hmessage
        rw [hchosen, Except.error.injEq] at hmessage
        exact ⟨failure.tap, by rw [← hmessage]⟩
      · intro _ p' _ _ hp'
        rw [hchosen] at hp'
        simp at hp'
    | none =>
      dsimp only at hchosen ⊢
      rcases writeFile_cases t p code with ⟨after, hwrite, hwrote⟩ | ⟨after, cause, hwrite, hfiles⟩
      · rw [hwrite, hchosen]
        refine ⟨?_, by simp, by simp, by simp, by simp⟩
        intro p' hp'
        rw [← Except.ok.inj hp']
        exact ⟨rfl, code, rfl, hwrote⟩
      · rw [hwrite, hchosen]
        refine ⟨by simp, fun _ _ => hfiles, by simp, by simp, ?_⟩
        intro _ p' e _ hp' he
        rw [← Except.ok.inj hp']
        exact ⟨cause, (Except.error.inj he).symm⟩

/-- **A build is all or nothing.** In every tree, with all options, plugins and taps, a build or
an emission that fails leaves all files as they were, and the whole tree where the graph, the
rendering or a tap fails. One that succeeds gives the path that all taps make of the configured
one, those of plugins first, and has changed nothing but the file there, which holds the text
rendered from the tree as it was, and made directories above it. -/
theorem allOrNothing_emit_and_build (t : FileTree) :
    (∀ output taps code,
      AllOrNothing t (.ok code) (chosenPath taps output) (emit t output taps code)) ∧
    ∀ o resolver taps,
      AllOrNothing t (do render (← graph t o resolver))
        (chosenPath (o.plugins.flatMap (·.taps) ++ taps) o.output) (build t o resolver taps) := by
  refine ⟨allOrNothing_emit t, fun o resolver taps => ?_⟩
  unfold build
  cases (do render (← graph t o resolver) : Except BuildError String) with
  | ok code => exact allOrNothing_emit t o.output _ code
  | error e => exact ⟨by simp, fun _ _ _ => rfl, by simp, by simp, by simp⟩

/-- A tree with one source. -/
def sourceTree : FileTree where
  workingDirectory := [['p']]
  entries := [([['p']], .directory), ([['p'], ['a']], .file (.text "1;"))]

-- the output takes the place of the source, and a step up needs a directory to be made
example :
    FileTree.fileAt? (emit sourceTree (.ofString "./x/../a") [] "2;").1 [['p'], ['a']] =
        some (.text "2;") ∧
      FileTree.entry? (emit sourceTree (.ofString "./x/../a") [] "2;").1 [['p'], ['x']] =
        some .directory := by
  decide +kernel

end Bundle

end ModuleBundler
