import ModuleBundler.Emission
import ModuleBundler.Proofs.Bundle.Emission
import ModuleBundler.Proofs.Path.Pieces

/-!
Renaming the file that a path leads to. The directory of a path with a file name is its start and
the pieces before the name, idle ones at their end left out; joining another name to it gives a
path in the same directory, whatever separators and idle pieces the path had at its end
(`renamed_withFileName`). So a bundle that is renamed to the digest of its stem stays where it is,
and its new name depends on the stem alone.

A run of taps that only rename in this way, or leave the path as it is, keeps the directory by
induction on the taps: a renamed path has a file name again, so the next tap finds what it needs.
-/

set_option autoImplicit false

namespace ModuleBundler

namespace Path

/-! ## Directories -/

/-- The pieces of a directory's path: the last one is a step. -/
structure IsDirectory (s : Start) (pieces : List (List Char)) : Prop where
  separators : ∀ piece ∈ pieces, '/' ∉ piece
  first : ∀ piece, pieces.head? = some piece → s.Admits piece
  last : ∀ piece, pieces.getLast? = some piece → isIdle piece = false

section Backward

variable {p : Path} {name : List Char} {before : List (List Char)}

theorem parent?_of_backward (h : p.backward = name :: before) :
    p.parent? = some (ofPieces p.start.1 (before.dropWhile isIdle).reverse) := by
  rw [parent?, h]
  rfl

theorem fileName?_of_backward (h : p.backward = name :: before) (hname : name ≠ ['.', '.']) :
    p.fileName? = some name := by
  rw [fileName?, h]
  exact if_neg (by simpa using hname)

/-- A path with a file name has it as its last step. -/
theorem exists_backward_of_fileName? (h : p.fileName? = some name) :
    ∃ before, p.backward = name :: before := by
  unfold fileName? at h
  split at h
  · next piece before hback =>
    split at h
    · cases h
    · exact ⟨before, by rw [hback, Option.some.inj h]⟩
  · cases h

theorem isIdle_of_backward (h : p.backward = name :: before) : isIdle name = false := by
  have hhead := List.head?_dropWhile_not isIdle (splitPieces p.start.2).reverse
  rw [← backward, h] at hhead
  exact hhead

/-- The pieces before the last step of a path, without idle ones at their end, are those of a
directory. -/
theorem isDirectory_of_backward (h : p.backward = name :: before) :
    IsDirectory p.start.1 (before.dropWhile isIdle).reverse := by
  -- the pieces of the path begin with them and go on to the step
  have hsuffix : name :: before <:+ (splitPieces p.start.2).reverse := by
    rw [← h]
    exact List.dropWhile_suffix _
  have hbegins : (before.dropWhile isIdle).reverse <+: splitPieces p.start.2 := by
    rw [← List.reverse_suffix, List.reverse_reverse]
    exact ((List.dropWhile_suffix _).trans (List.suffix_cons name before)).trans hsuffix
  have hmem : name ∈ splitPieces p.start.2 :=
    List.mem_reverse.mp (hsuffix.subset List.mem_cons_self)
  refine ⟨fun piece hpiece => notMem_of_mem_splitPieces (hbegins.subset hpiece), ?_, ?_⟩
  · intro piece hpiece
    obtain ⟨more, hmore⟩ := hbegins
    obtain ⟨rest, hrest⟩ := List.head?_eq_some_iff.mp hpiece
    rw [hrest, List.cons_append] at hmore
    exact admits_of_splitPieces hmore.symm ⟨name, hmore ▸ hmem, isIdle_of_backward h⟩
  · intro piece hpiece
    rw [List.getLast?_reverse] at hpiece
    have hhead := List.head?_dropWhile_not isIdle before
    rw [hpiece] at hhead
    exact hhead

end Backward

/-! ## Joining a name -/

section Join

variable {s : Start} {pieces : List (List Char)} {name : List Char}

theorem isAbsolute_of_isName (h : IsName name) : isAbsolute ⟨name⟩ = false := by
  rw [isAbsolute, beq_eq_false_iff_ne]
  intro hhead
  exact h.separator (List.mem_of_mem_head? hhead)

/-- A text that neither is empty nor ends in a separator gets one before what is joined to it. -/
theorem join_of_getLast? {base p : Path} {c : Char} (hp : p.isAbsolute = false)
    (hlast : base.text.getLast? = some c) (hc : c ≠ '/') :
    base.join p = ⟨base.text ++ '/' :: p.text⟩ := by
  have hne : base.text.isEmpty = false := by
    rw [List.isEmpty_eq_false_iff]
    rintro hnil
    rw [hnil] at hlast
    cases hlast
  rw [join, if_neg (Bool.eq_false_iff.mp hp), if_neg]
  rw [hne, hlast, Bool.false_or, beq_iff_eq, Option.some.injEq]
  exact hc

/-- The text of pieces ends as the last piece does. -/
theorem getLast?_joinPieces {init : List (List Char)} {last : List Char} (hne : last ≠ []) :
    (joinPieces (init ++ [last])).getLast? = last.getLast? := by
  by_cases hinit : init = []
  · rw [hinit]
    rfl
  · obtain ⟨c, rest, rfl⟩ := List.exists_cons_of_ne_nil hne
    rw [joinPieces_concat hinit, List.getLast?_append, List.getLast?_cons_cons,
      List.getLast?_cons, Option.some_or]

/-- A name joined to a directory is one more piece, if nothing or the pieces that the directory's
start leaves out stand between. -/
theorem join_ofPieces (h : IsDirectory s pieces) (hname : IsName name) :
    ∃ before, (ofPieces s pieces).join ⟨name⟩ = ofPieces s (before ++ [name]) ∧
      (∀ piece ∈ before ++ [name], '/' ∉ piece) ∧
      (∀ piece, (before ++ [name]).head? = some piece → s.Admits piece) ∧
      before.reverse.dropWhile isIdle = pieces.reverse := by
  have hrelative := isAbsolute_of_isName hname
  by_cases hne : pieces = []
  · -- only the start is left: the root ends in a separator, a leading dot gets one
    subst hne
    have hsingle : ∀ piece ∈ [name], '/' ∉ piece := by
      rintro piece hpiece
      rw [List.mem_singleton.mp hpiece]
      exact hname.separator
    cases s with
    | root =>
      refine ⟨[], ?_, hsingle, fun _ _ => trivial, rfl⟩
      rw [join, if_neg (Bool.eq_false_iff.mp hrelative)]
      rfl
    | here =>
      refine ⟨[[]], ?_, ?_, ?_, rfl⟩
      · exact join_of_getLast? hrelative rfl (by decide)
      · rintro piece hpiece
        rcases List.mem_cons.mp hpiece with rfl | hpiece
        · exact List.not_mem_nil
        · exact hsingle piece hpiece
      · rintro piece hpiece
        exact (Option.some.inj hpiece).symm
    | implicit =>
      refine ⟨[], ?_, hsingle, ?_, rfl⟩
      · rw [join, if_neg (Bool.eq_false_iff.mp hrelative)]
        rfl
      · rintro piece hpiece
        rw [← Option.some.inj hpiece]
        exact hname.idle
  · -- the last piece is a step, so the text does not end in a separator
    obtain ⟨init, last, rfl⟩ : ∃ init last, pieces = init ++ [last] :=
      ⟨_, _, (List.dropLast_append_getLast hne).symm⟩
    have hidle : isIdle last = false := h.last last (List.getLast?_concat ..)
    have hlast : last ≠ [] := by
      rintro rfl
      cases hidle
    refine ⟨init ++ [last], ?_, ?_, ?_, ?_⟩
    · have hend : (ofPieces s (init ++ [last])).text.getLast? = some (last.getLast hlast) := by
        rw [ofPieces, List.getLast?_append, getLast?_joinPieces hlast,
          List.getLast?_eq_some_getLast hlast, Option.some_or]
      have hslash : last.getLast hlast ≠ '/' := by
        intro heq
        exact h.separators last List.mem_concat_self (heq ▸ List.getLast_mem hlast)
      rw [join_of_getLast? hrelative hend hslash, ofPieces, ofPieces, joinPieces_concat hne,
        List.append_assoc]
    · intro piece hpiece
      rcases List.mem_append.mp hpiece with hpiece | hpiece
      · exact h.separators piece hpiece
      · rw [List.mem_singleton.mp hpiece]
        exact hname.separator
    · intro piece hpiece
      rw [List.head?_append_of_ne_nil _ hne] at hpiece
      exact h.first piece hpiece
    · rw [List.reverse_concat, List.dropWhile_cons_of_neg (by rw [hidle]; decide)]

/-- What follows the start of a path that ends in a step, from the last piece back. -/
theorem backward_ofPieces {before : List (List Char)}
    (hseparators : ∀ piece ∈ before ++ [name], '/' ∉ piece)
    (hfirst : ∀ piece, (before ++ [name]).head? = some piece → s.Admits piece)
    (hidle : isIdle name = false) :
    (ofPieces s (before ++ [name])).start.1 = s ∧
      (ofPieces s (before ++ [name])).backward = name :: before.reverse := by
  have hne : before ++ [name] ≠ [] := List.append_ne_nil_of_right_ne_nil _ (List.cons_ne_nil _ _)
  have hstart : (ofPieces s (before ++ [name])).start = (s, joinPieces (before ++ [name])) := by
    obtain ⟨first, rest, hcons⟩ := List.exists_cons_of_ne_nil hne
    rw [hcons] at hseparators hfirst ⊢
    exact start_ofPieces (hfirst first rfl) hseparators
  rw [backward, hstart, splitPieces_joinPieces hne hseparators, List.reverse_concat,
    List.dropWhile_cons_of_neg (by rw [hidle]; decide)]
  exact ⟨rfl, rfl⟩

end Join

/-! ## Renaming -/

theorem filter_dropWhile_isIdle (pieces : List (List Char)) :
    (pieces.dropWhile isIdle).filter (fun piece => !isIdle piece) =
      pieces.filter fun piece => !isIdle piece := by
  induction pieces with
  | nil => rfl
  | cons piece rest ih =>
    cases hidle : isIdle piece with
    | true => rw [List.dropWhile_cons_of_pos hidle, ih, List.filter_cons_of_neg (by simp [hidle])]
    | false => rw [List.dropWhile_cons_of_neg (by simp [hidle])]

/-- The components of a path after its start, from the last one back. -/
theorem reverse_stepPieces (p : Path) :
    (stepPieces p.start.2).reverse = p.backward.filter fun piece => !isIdle piece := by
  rw [stepPieces, ← List.filter_reverse, ← filter_dropWhile_isIdle, ← backward]

/-- The last step of a path is its last component. -/
theorem components_of_backward {p : Path} {name : List Char} {before : List (List Char)}
    (h : p.backward = name :: before) :
    p.components =
      (p.start.1, (before.filter fun piece => !isIdle piece).reverse ++ [name]) := by
  have hreverse := reverse_stepPieces p
  rw [h, List.filter_cons_of_pos (by rw [isIdle_of_backward h]; rfl)] at hreverse
  rw [components, ← List.reverse_reverse (stepPieces p.start.2), hreverse, List.reverse_cons]

/-- One path is in the directory of another, with a name of its own. -/
structure Renamed (p : Path) (name : List Char) (renamed : Path) : Prop where
  /-- The directory is the same, down to its text. -/
  parent : renamed.parent? = p.parent?
  fileName : renamed.fileName? = some name
  /-- The last component is another one, and no other is. -/
  components : renamed.components = (p.components.1, p.components.2.dropLast ++ [name])

/-- A path with a file name is renamed where it is. -/
theorem renamed_withFileName {p : Path} {old name : List Char} (h : p.fileName? = some old)
    (hname : IsName name) : p.Renamed name (p.withFileName name) := by
  obtain ⟨before, hback⟩ := exists_backward_of_fileName? h
  have hparent := parent?_of_backward hback
  have hrenamed : p.withFileName name =
      (ofPieces p.start.1 (before.dropWhile isIdle).reverse).join ⟨name⟩ := by
    rw [withFileName, h, hparent]
    rfl
  obtain ⟨between, hjoin, hseparators, hfirst, hbetween⟩ :=
    join_ofPieces (isDirectory_of_backward hback) hname
  rw [List.reverse_reverse] at hbetween
  -- without the new name the pieces are the directory's again, idle ones at the end aside
  obtain ⟨hstart, hback'⟩ := backward_ofPieces hseparators hfirst hname.idle
  rw [hrenamed, hjoin]
  refine ⟨?_, fileName?_of_backward hback' hname.up, ?_⟩
  · rw [parent?_of_backward hback', hparent, hstart, hbetween]
  · rw [components_of_backward hback', components_of_backward hback, hstart,
      ← filter_dropWhile_isIdle between.reverse, hbetween, filter_dropWhile_isIdle,
      List.dropLast_concat]

/-! ## Digests as names -/

/-- The name of a file that is named after the digest of a stem. -/
def digestName (stem : List Char) : List Char :=
  Text.decimal (Text.digest stem).toNat ++ ['.', 'j', 's']

theorem digested_eq (p : Path) :
    p.digested = p.withFileName (digestName (p.fileStem?.getD [])) := rfl

theorem isName_digestName (stem : List Char) : IsName (digestName stem) := by
  have hlength : 3 ≤ (digestName stem).length := by
    rw [digestName, List.length_append]
    exact Nat.le_add_left _ _
  refine ⟨?_, ?_, ?_⟩
  · rw [digestName, List.mem_append, not_or]
    -- digits are no separators, and the extension has none
    refine ⟨fun hmem => ?_, by decide⟩
    exact absurd (Nat.isDigit_of_mem_toDigits (by decide) (by decide) hmem) (by decide)
  · by_contra hidle
    rw [Bool.not_eq_false, isIdle_iff] at hidle
    rcases hidle with h | h <;> rw [h] at hlength <;> exact absurd hlength (by decide)
  · intro h
    rw [h] at hlength
    exact absurd hlength (by decide)

/-- What stands before the last dot of a name, if anything does, is its stem. -/
theorem stemOf_append {stem extension : List Char} (hstem : stem ≠ [])
    (hextension : '.' ∉ extension) : stemOf (stem ++ '.' :: extension) = stem := by
  have hdrop : (stem ++ '.' :: extension).reverse.dropWhile (· != '.') = '.' :: stem.reverse := by
    rw [List.reverse_append, List.reverse_cons, List.append_assoc, List.dropWhile_append_of_pos]
    · rfl
    · intro c hc
      rw [bne_iff_ne]
      rintro rfl
      exact hextension (List.mem_reverse.mp hc)
  rw [stemOf, hdrop]
  simp [hstem]

end Path

/-! ## Runs of taps -/

/-- Taps run one list after the other, unless the first list fails. -/
theorem dispatch_append {before : List Tap} {p q : Path} (h : dispatch before p = (q, none))
    (after : List Tap) : dispatch (before ++ after) p = dispatch after q := by
  induction before generalizing p with
  | nil =>
    cases h
    rfl
  | cons tap rest ih =>
    rw [dispatch] at h
    rw [List.cons_append, dispatch]
    cases hchange : tap.change p with
    | ok next =>
      rw [hchange] at h
      exact ih h
    | error message =>
      rw [hchange] at h
      cases h

/-- A tap that sets no path: it looks at the one that has been chosen, and may fail. -/
def Tap.Observes (tap : Tap) : Prop := ∀ p q, tap.change p = .ok q → q = p

/-- Where a bundle has been emitted, all taps have made its path. -/
theorem Bundle.dispatch_of_emit {t after : FileTree} {output written : Path} {taps : List Tap}
    {code : String} (h : emit t output taps code = (after, .ok written)) :
    dispatch taps output = (written, none) := by
  unfold emit at h
  cases hdispatch : dispatch taps output with
  | mk p failed =>
    rw [hdispatch] at h
    cases failed with
    | some failure => cases h
    | none =>
      rcases writeFile_cases t p code with ⟨_, hwrite, -⟩ | ⟨_, _, hwrite, -⟩
      · dsimp only at h
        rw [hwrite] at h
        cases h
        rfl
      · dsimp only at h
        rw [hwrite] at h
        cases h

/-- Where a bundle has been built, the taps of the plugins and all others have made its path. -/
theorem Bundle.dispatch_of_build {t after : FileTree} {o : Options} {resolver : Resolver}
    {taps : List Tap} {written : Path} (h : build t o resolver taps = (after, .ok written)) :
    dispatch (o.taps ++ taps) o.output = (written, none) := by
  unfold build at h
  cases hrender : (do render (← graph t o resolver) : Except BuildError String) with
  | error e =>
    rw [hrender] at h
    cases h
  | ok code =>
    rw [hrender] at h
    exact dispatch_of_emit h

namespace Path

/-- A path in the directory of another, and with a file name. -/
structure InDirectoryOf (p q : Path) : Prop where
  parent : q.parent? = p.parent?
  named : q.fileName?.isSome

theorem renamed_digested {p : Path} {name : List Char} (h : p.fileName? = some name) :
    p.Renamed (digestName (stemOf name)) p.digested := by
  have hstem : p.fileStem?.getD [] = stemOf name := by rw [fileStem?, h]; rfl
  rw [digested_eq, hstem]
  exact renamed_withFileName h (isName_digestName _)

/-- The digested path of a path with a file name is found from its parent and its stem. -/
theorem digested_congr {p q : Path} (hnamed : p.fileStem?.isSome)
    (hstem : p.fileStem? = q.fileStem?) (hparent : p.parent? = q.parent?) :
    p.digested = q.digested := by
  have hp : p.fileName?.isSome := by rwa [fileStem?, Option.isSome_map] at hnamed
  have hq : q.fileName?.isSome := by rwa [hstem, fileStem?, Option.isSome_map] at hnamed
  obtain ⟨name, hname⟩ := Option.isSome_iff_exists.mp hp
  obtain ⟨before, hback⟩ := exists_backward_of_fileName? hname
  rw [digested_eq, digested_eq, withFileName, withFileName, if_pos hp, if_pos hq, ← hstem,
    ← hparent, parent?_of_backward hback]
  rfl

/-- Taps that give digests as names or set no path stay in the directory of the path that they are
given. -/
theorem inDirectoryOf_dispatch {taps : List Tap}
    (h : ∀ tap ∈ taps, tap ∈ Plugin.changeOutputPath.taps ∨ tap.Observes) {p : Path}
    (hp : p.fileName?.isSome) : p.InDirectoryOf (dispatch taps p).1 := by
  induction taps generalizing p with
  | nil => exact ⟨rfl, hp⟩
  | cons tap rest ih =>
    have hrest := fun tap htap => h tap (List.mem_cons_of_mem _ htap)
    rw [dispatch]
    cases hchange : tap.change p with
    | error message => exact ⟨rfl, hp⟩
    | ok next =>
      -- either way the next path has a file name too, so the induction goes on from it
      rcases h tap List.mem_cons_self with htap | htap
      · rw [List.mem_singleton.mp htap, Except.ok.injEq] at hchange
        obtain ⟨name, hname⟩ := Option.isSome_iff_exists.mp hp
        have hrenamed := renamed_digested hname
        rw [hchange] at hrenamed
        have hnext := ih hrest (p := next) (by rw [hrenamed.fileName]; rfl)
        exact ⟨hnext.parent.trans hrenamed.parent, hnext.named⟩
      · rw [htap p next hchange]
        exact ih hrest hp

end Path

namespace Plugin

/-- What it is for a plugin to rename a bundle to the digest of its stem, and to leave it where it
is. -/
structure RenamesInPlace (plugin : Plugin) : Prop where
  /-- A path with a file name keeps everything before it. -/
  renamed : ∀ p name, p.fileName? = some name →
    ∃ q, dispatch plugin.taps p = (q, none) ∧ p.Renamed (Path.digestName (Path.stemOf name)) q
  /-- A path without one gets the digest of the empty stem joined on. -/
  joined : ∀ p, p.fileName? = none → dispatch plugin.taps p = (p.join (.ofString "0.js"), none)
  /-- What is made of a path with a file name is found from its parent and its stem. -/
  determined : ∀ p q, p.fileStem?.isSome → p.fileStem? = q.fileStem? → p.parent? = q.parent? →
    dispatch plugin.taps p = dispatch plugin.taps q
  /-- Where the parents have the same components but are spelled in different ways, the results
  have the same components. -/
  sameComponents : ∀ p q, p.fileStem?.isSome → p.fileStem? = q.fileStem? →
    p.components.1 = q.components.1 → p.components.2.dropLast = q.components.2.dropLast →
    (dispatch plugin.taps p).1.components = (dispatch plugin.taps q).1.components
  /-- Paths that differ in their extensions alone are renamed to the same file. -/
  extension : ∀ p q stem extension extension', stem ≠ [] → '.' ∉ extension → '.' ∉ extension' →
    p.fileName? = some (stem ++ '.' :: extension) → q.fileName? = some (stem ++ '.' :: extension') →
    p.parent? = q.parent? → dispatch plugin.taps p = dispatch plugin.taps q
  /-- After the last tap that sets a path, the taps of the plugin, however many and wherever they
  stand between taps that set none, keep the directory that has been chosen. -/
  kept : ∀ before after output p, dispatch before output = (p, none) → p.fileName?.isSome →
    (∀ tap ∈ after, tap ∈ plugin.taps ∨ tap.Observes) →
    p.InDirectoryOf (dispatch (before ++ after) output).1
  /-- So a bundle that is built is written to that directory. -/
  built : ∀ t o resolver taps before after p t' written,
    o.taps ++ taps = before ++ after → dispatch before o.output = (p, none) →
    p.fileName?.isSome → (∀ tap ∈ after, tap ∈ plugin.taps ∨ tap.Observes) →
    Bundle.build t o resolver taps = (t', .ok written) → p.InDirectoryOf written

/-- **Renaming in place.** The plugin that renames a bundle to the digest of its stem keeps the
directory of every path that has a file name, whatever separators, idle pieces and dots there are,
and looks at nothing else than the directory and the stem; a run of its taps stays in the directory
that was chosen before them. -/
theorem renamesInPlace_changeOutputPath : RenamesInPlace changeOutputPath where
  renamed p name h := ⟨p.digested, rfl, Path.renamed_digested h⟩
  joined p h := by
    have hjoined : p.digested = p.join (.ofString "0.js") := by
      rw [Path.digested_eq, Path.withFileName, Path.fileStem?, h]
      rfl
    rw [← hjoined]
    rfl
  determined p q hnamed hstem hparent :=
    congrArg (·, none) (Path.digested_congr hnamed hstem hparent)
  sameComponents p q hnamed hstem hstart hparent := by
    rw [Path.fileStem?, Option.isSome_map, Option.isSome_iff_exists] at hnamed
    obtain ⟨name, hname⟩ := hnamed
    rw [Path.fileStem?, Path.fileStem?, hname, Option.map_some, eq_comm, Option.map_eq_some_iff]
      at hstem
    obtain ⟨name', hname', hstem⟩ := hstem
    change p.digested.components = q.digested.components
    rw [(Path.renamed_digested hname).components, (Path.renamed_digested hname').components, hstart,
      hparent, hstem]
  extension p q stem extension extension' hstem hext hext' hp hq hparent := by
    have hstem' : p.fileStem? = some stem := by
      rw [Path.fileStem?, hp, Option.map_some, Path.stemOf_append hstem hext]
    refine congrArg (·, none) (Path.digested_congr (by rw [hstem']; rfl) ?_ hparent)
    rw [hstem', Path.fileStem?, hq, Option.map_some, Path.stemOf_append hstem hext']
  kept before after output p hbefore hp hafter := by
    rw [dispatch_append hbefore]
    exact Path.inDirectoryOf_dispatch hafter hp
  built t o resolver taps before after p t' written htaps hbefore hp hafter h := by
    have hwritten := Bundle.dispatch_of_build h
    rw [htaps, dispatch_append hbefore] at hwritten
    have hkept := Path.inDirectoryOf_dispatch hafter hp
    rw [hwritten] at hkept
    exact hkept

-- hidden files have no extension, and what follows the name is no part of it
example :
    (dispatch changeOutputPath.taps (.ofString "a//b//.env/./")).1 = .ofString "a//b/1470975.js" ∧
      (dispatch changeOutputPath.taps (.ofString "out/..")).1 = .ofString "out/../0.js" := by
  decide +kernel

end Plugin

end ModuleBundler
