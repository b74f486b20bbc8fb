import Mathlib.Data.List.Infix
import ModuleBundler.Proofs.FileTree.LookingUp

/-!
Resolution by meaning. A specifier is joined to the directory of its importer as text, and the tree
is asked for the joined path; what is found is the file that the specifier's own steps lead to from
that directory, or from the root (`relative_eq_ok_iff_leadsToFile`). So a specifier can be spelled
with detours, and the importer can be any module of the directory.

All this is true of paths that the operating system takes (`FileTree.Takes`). The joined path has to
be shorter than its limit, and so has the path from the root of all that is named on the way, since
each of those is looked up to canonicalize what has been found. Whatever it means, a specifier that
breaks either limit is not resolved (`not_resolvesByWalking_of_limits`).
-/

set_option autoImplicit false

namespace ModuleBundler

/-! ## Joining to a directory -/

namespace Path

/-- The text that relative paths are put after. -/
def lead (p : Path) : List Char :=
  if p.text.isEmpty || p.text.getLast? == some '/' then p.text else p.text ++ ['/']

theorem join_of_relative (directory : Path) {p : Path} (hp : p.isAbsolute = false) :
    directory.join p = ⟨directory.lead ++ p.text⟩ := by
  rw [join, if_neg (Bool.eq_false_iff.mp hp), lead]
  split
  · rfl
  · rw [List.append_assoc]
    rfl

theorem endsPiece_lead (p : Path) : EndsPiece p.lead := by
  unfold lead
  split
  · next h =>
    rcases Bool.or_eq_true .. ▸ h with h | h
    · exact Or.inl (List.isEmpty_iff.mp h)
    · exact Or.inr (List.getLast?_eq_some_iff.mp (beq_iff_eq.mp h))
  · exact Or.inr ⟨p.text, rfl⟩

theorem stepPieces_lead (p : Path) : stepPieces p.lead = stepPieces p.text := by
  unfold lead
  split
  · rfl
  · rw [stepPieces_append]
    exact List.append_nil _

/-- A relative path after another one starts where that one does. -/
theorem isAbsolute_lead_append (directory : Path) {p : Path} (hp : p.isAbsolute = false) :
    isAbsolute ⟨directory.lead ++ p.text⟩ = directory.isAbsolute := by
  by_cases hempty : directory.text = []
  · have hlead : directory.lead = [] := by
      rw [lead, hempty]
      rfl
    have hdirectory : directory.isAbsolute = false := by
      rw [isAbsolute, hempty]
      rfl
    rw [hlead, hdirectory]
    exact hp
  · have hhead : directory.lead.head? = directory.text.head? := by
      unfold lead
      split
      · rfl
      · exact List.head?_append_of_ne_nil _ hempty
    have hne : directory.lead ≠ [] := by
      intro hnil
      rw [hnil, eq_comm, List.head?_nil, List.head?_eq_none_iff] at hhead
      exact hempty hhead
    rw [isAbsolute, isAbsolute, List.head?_append_of_ne_nil _ hne, hhead]

end Path

namespace FileTree

variable {t : FileTree} {directory specifier : Path} {l : Location}

/-! ## What a specifier means -/

/-- Where the steps of a specifier are walked from: from the root if it is absolute, and otherwise
from the directory of the importer, which has to be there. -/
inductive Begins (t : FileTree) (directory specifier : Path) : Location → Prop
  | root (h : specifier.isAbsolute = true) : Begins t directory specifier []
  | directory {l : Location} (h : specifier.isAbsolute = false) (hreaches : t.Reaches directory l)
      (hdirectory : t.entry? l = some .directory) : Begins t directory specifier l

/-- The steps of a specifier lead to a file through existing directories, and no idle piece comes
after them. -/
structure LeadsToFile (t : FileTree) (directory specifier : Path) (l : Location) : Prop where
  walk : ∃ start, t.Begins directory specifier start ∧
    t.Walks start (Path.stepPieces specifier.text) l
  ends : Path.EndsInStep specifier.text
  file : ∃ c, t.entry? l = some (.file c)

/-- The joined path starts where its directory does. -/
theorem origin_join (t : FileTree) (directory : Path) (hrelative : specifier.isAbsolute = false) :
    t.origin (directory.join specifier) = t.origin directory := by
  rw [Path.join_of_relative directory hrelative, origin, origin,
    Path.isAbsolute_lead_append directory hrelative]

/-- After the steps of its directory the joined path takes those of the relative path. -/
theorem stepPieces_join (directory : Path) (hrelative : specifier.isAbsolute = false) :
    Path.stepPieces (directory.join specifier).text =
      Path.stepPieces directory.text ++ Path.stepPieces specifier.text := by
  rw [Path.join_of_relative directory hrelative,
    Path.stepPieces_append_of_endsPiece (Path.endsPiece_lead directory), Path.stepPieces_lead]

theorem reaches_join_iff (hrelative : specifier.isAbsolute = false) :
    t.Reaches (directory.join specifier) l ↔
      ∃ d, t.Reaches directory d ∧ t.Walks d (Path.stepPieces specifier.text) l := by
  rw [Reaches, origin_join t directory hrelative, stepPieces_join directory hrelative]
  constructor
  · exact fun h => h.exists_of_append
  · rintro ⟨d, hd, hl⟩
    exact hd.append hl

theorem leadsToFile_iff_of_absolute (habsolute : specifier.isAbsolute = true) :
    t.LeadsToFile directory specifier l ↔
      t.Walks [] (Path.stepPieces specifier.text) l ∧ Path.EndsInStep specifier.text ∧
        ∃ c, t.entry? l = some (.file c) := by
  constructor
  · rintro ⟨⟨_, hstart, hwalk⟩, hends, hfile⟩
    cases hstart with
    | root _ => exact ⟨hwalk, hends, hfile⟩
    | directory h _ _ =>
      rw [habsolute] at h
      cases h
  · rintro ⟨hwalk, hends, hfile⟩
    exact ⟨⟨[], .root habsolute, hwalk⟩, hends, hfile⟩

theorem leadsToFile_iff_of_relative (hrelative : specifier.isAbsolute = false) :
    t.LeadsToFile directory specifier l ↔
      (∃ d, t.Reaches directory d ∧ t.Walks d (Path.stepPieces specifier.text) l) ∧
        Path.EndsInStep specifier.text ∧ ∃ c, t.entry? l = some (.file c) := by
  constructor
  · rintro ⟨⟨start, hstart, hwalk⟩, hends, hfile⟩
    cases hstart with
    | root h =>
      rw [hrelative] at h
      cases h
    | directory _ hreaches _ => exact ⟨⟨start, hreaches, hwalk⟩, hends, hfile⟩
  · rintro ⟨⟨d, hreaches, hwalk⟩, hends, hfile⟩
    -- the specifier has a step, and that starts in a directory
    obtain ⟨last, hlast, hidle⟩ := id hends
    have hdirectory := hwalk.directory_of_ne_nil (Path.filter_ne_nil_of_getLast? hlast hidle)
    exact ⟨⟨d, .directory hrelative hreaches hdirectory, hwalk⟩, hends, hfile⟩

/-- A specifier means the same in paths that lead to the same directory. -/
theorem leadsToFile_congr {directory' : Path} {d : Location} (hd : t.Reaches directory d)
    (hd' : t.Reaches directory' d) :
    t.LeadsToFile directory specifier l ↔ t.LeadsToFile directory' specifier l := by
  -- an absolute specifier does not look at the directory at all
  cases hspecifier : specifier.isAbsolute with
  | true =>
    rw [leadsToFile_iff_of_absolute hspecifier, leadsToFile_iff_of_absolute hspecifier]
  | false =>
    rw [leadsToFile_iff_of_relative hspecifier, leadsToFile_iff_of_relative hspecifier]
    refine and_congr_left fun _ => ⟨?_, ?_⟩
    · rintro ⟨start, hstart, hwalk⟩
      cases hstart.unique hd
      exact ⟨d, hd', hwalk⟩
    · rintro ⟨start, hstart, hwalk⟩
      cases hstart.unique hd'
      exact ⟨d, hd, hwalk⟩

/-- What a specifier means is what the joined path means. -/
theorem leadsToFile_iff :
    t.LeadsToFile directory specifier l ↔
      t.Reaches (directory.join specifier) l ∧ Path.EndsInStep (directory.join specifier).text ∧
        ∃ c, t.entry? l = some (.file c) := by
  cases habsolute : specifier.isAbsolute with
  | true =>
    have hjoin : directory.join specifier = specifier := if_pos habsolute
    have horigin : t.origin specifier = [] := if_pos habsolute
    rw [leadsToFile_iff_of_absolute habsolute, hjoin, Reaches, horigin]
  | false =>
    have hends : Path.EndsInStep (directory.join specifier).text ↔
        Path.EndsInStep specifier.text := by
      rw [Path.join_of_relative directory habsolute]
      exact Path.endsInStep_append_of_endsPiece (Path.endsPiece_lead directory) _
    rw [leadsToFile_iff_of_relative habsolute, reaches_join_iff habsolute, hends]

end FileTree

/-! ## What the resolver answers -/

section Relative

variable {t : FileTree} {importer directory : Path} {s : String}

/-- The answer is the canonical path of the joined path, which leads to a file. -/
theorem relative_eq_ok_iff (h : importer.parent? = some directory) {site : Site} :
    Resolver.relative t (.file importer) s = .ok site ↔
      (∃ l c, t.find (directory.join (.ofString s)) = .ok (l, .file c)) ∧
        ∃ q, t.canonicalize (directory.join (.ofString s)) = .ok q ∧ site = .file q := by
  cases hfind : t.find (directory.join (.ofString s)) with
  | error cause => simp [Resolver.relative, h, FileTree.isFile, hfind]
  | ok found =>
    obtain ⟨l, e⟩ := found
    cases e with
    | directory => simp [Resolver.relative, h, FileTree.isFile, hfind]
    | file c =>
      cases hcanonical : t.canonicalize (directory.join (.ofString s)) <;>
        simp [Resolver.relative, h, FileTree.isFile, hfind, hcanonical, eq_comm]

/-- A specifier is resolved exactly if the operating system takes the joined path and its steps lead
to a file, and to the path of that file. -/
theorem relative_eq_ok_iff_leadsToFile (ht : t.IsTree) (h : importer.parent? = some directory)
    {site : Site} :
    Resolver.relative t (.file importer) s = .ok site ↔
      t.Takes (directory.join (.ofString s)) ∧
        ∃ l, t.LeadsToFile directory (.ofString s) l ∧ site = .file (FileTree.pathOf l) := by
  rw [relative_eq_ok_iff h]
  constructor
  · rintro ⟨⟨l, c, hfind⟩, q, hcanonical, rfl⟩
    obtain ⟨hfits, hreaches, hends, hfile⟩ := (FileTree.find_file_iff ht).mp ⟨c, hfind⟩
    obtain ⟨hlooked, rfl⟩ :=
      (FileTree.canonicalize_eq_ok_iff_lookedUp ht hreaches hends hfile.choose_spec).mp hcanonical
    exact ⟨⟨hfits, hlooked⟩, l, FileTree.leadsToFile_iff.mpr ⟨hreaches, hends, hfile⟩, rfl⟩
  · rintro ⟨⟨hfits, hlooked⟩, l, hmeans, rfl⟩
    obtain ⟨hreaches, hends, c, hfile⟩ := FileTree.leadsToFile_iff.mp hmeans
    obtain ⟨c', hfind⟩ := (FileTree.find_file_iff ht).mpr ⟨hfits, hreaches, hends, c, hfile⟩
    exact ⟨⟨l, c', hfind⟩, FileTree.pathOf l,
      (FileTree.canonicalize_eq_ok_iff_lookedUp ht hreaches hends hfile).mpr ⟨hlooked, rfl⟩, rfl⟩

theorem exists_parent?_of_relative {site : Site}
    (h : Resolver.relative t (.file importer) s = .ok site) :
    ∃ directory, importer.parent? = some directory := by
  cases hparent : importer.parent? with
  | none =>
    simp only [Resolver.relative, hparent] at h
    cases h
  | some directory => exact ⟨directory, rfl⟩

/-- What the resolver answers has been looked up, so it can be looked up once more. -/
theorem canonicalize_of_relative (ht : t.IsTree) {q : Path}
    (h : Resolver.relative t (.file importer) s = .ok (.file q)) : t.canonicalize q = .ok q := by
  obtain ⟨directory, hparent⟩ := exists_parent?_of_relative h
  obtain ⟨⟨-, hlooked⟩, l, hmeans, hq⟩ := (relative_eq_ok_iff_leadsToFile ht hparent).mp h
  cases hq
  obtain ⟨hreaches, ⟨last, hlast, hidle⟩, c, hfile⟩ := FileTree.leadsToFile_iff.mp hmeans
  have hne : l ≠ [] := by
    rintro rfl
    cases hfile
  exact FileTree.canonicalize_pathOf ht hne hfile
    (hlooked.fits_of_file ht hreaches (Path.filter_ne_nil_of_getLast? hlast hidle) hfile)

/-- What is located is what the resolver answers. -/
theorem locate_relative_eq_some_iff (ht : t.IsTree) {q : Path} :
    locate Resolver.relative t importer s = some q ↔
      Resolver.relative t (.file importer) s = .ok (.file q) := by
  unfold locate
  cases hresolved : Resolver.relative t (.file importer) s with
  | error e => simp
  | ok site =>
    cases site with
    | named name => simp
    | unnamed => simp
    | file q' =>
      dsimp only
      rw [canonicalize_of_relative ht hresolved, Except.ok.injEq, Site.file.injEq]
      exact Option.some_inj

end Relative

/-! ## Detours -/

namespace FileTree

variable {t : FileTree} {directory : Path} {before after detour : List Char} {l : Location}

/-- A text that can be put into a specifier of an importer in a directory, after a text that ends
a piece, and leads back to where that text has led. -/
inductive Detour (t : FileTree) (directory : Path) (before : List Char) : List Char → Prop
  /-- The place itself. -/
  | here : Detour t directory before ['.', '/']
  /-- A separator after another one. -/
  | separator (h : before ≠ []) : Detour t directory before ['/']
  /-- Into a directory that is there, and up again. -/
  | back {d l : Location} {name : List Char} (hd : t.Reaches directory d)
      (hl : t.Walks d (Path.stepPieces before) l)
      (hname : t.entry? (l ++ [name]) = some .directory) :
      Detour t directory before (name ++ ['/', '.', '.', '/'])

theorem Detour.endsPiece (h : t.Detour directory before detour) : Path.EndsPiece detour := by
  cases h with
  | here => exact Or.inr ⟨['.'], rfl⟩
  | separator _ => exact Or.inr ⟨[], rfl⟩
  | @back d l name _ _ _ =>
    exact Or.inr ⟨name ++ ['/', '.', '.'], (List.append_assoc name ['/', '.', '.'] ['/']).symm⟩

/-- A relative specifier stays one. -/
theorem Detour.isAbsolute (ht : t.IsTree) (h : t.Detour directory before detour)
    (hrelative : Path.isAbsolute ⟨before ++ after⟩ = false) :
    Path.isAbsolute ⟨before ++ (detour ++ after)⟩ = false := by
  cases before with
  | cons c rest => exact hrelative
  | nil =>
    cases h with
    | here => rfl
    | separator h => exact absurd rfl h
    | @back d l name _ _ hname =>
      have hisName := (ht l name _ hname).1.toIsName
      cases name with
      | nil => cases hisName.idle
      | cons c rest =>
        rw [Path.isAbsolute, beq_eq_false_iff_ne]
        intro hhead
        exact hisName.separator (Option.some.inj hhead ▸ List.mem_cons_self)

theorem stepPieces_back {name : List Char} (h : Path.IsName name) :
    Path.stepPieces (name ++ ['/', '.', '.', '/']) = [name, ['.', '.']] := by
  rw [Path.stepPieces_append, Path.stepPieces, Path.splitPieces_of_notMem h.separator,
    List.filter_cons_of_pos (by rw [h.idle]; rfl)]
  rfl

/-- After a detour a walk goes on where it was before it. -/
theorem Detour.walks_iff (ht : t.IsTree) (h : t.Detour directory before detour) {d : Location}
    (hd : t.Reaches directory d) {more : List (List Char)} :
    t.Walks d (Path.stepPieces before ++ (Path.stepPieces detour ++ more)) l ↔
      t.Walks d (Path.stepPieces before ++ more) l := by
  cases h with
  | here => exact Iff.rfl
  | separator _ => exact Iff.rfl
  | @back d' m name hd' hm hname =>
    obtain ⟨hisName, hdirectory⟩ := ht m name _ hname
    have hdown : beyond m name = m ++ [name] := beyond_of_isName hisName.toIsName
    have hup : beyond (m ++ [name]) ['.', '.'] = m := List.dropLast_concat
    -- what comes before the detour leads to one location, so this is where the name stands
    cases hd.unique hd'
    rw [stepPieces_back hisName.toIsName]
    constructor
    · intro h
      obtain ⟨m', hbefore, h⟩ := h.exists_of_append
      cases hbefore.unique hm
      cases h with
      | onward _ h =>
        rw [hdown] at h
        cases h with
        | onward _ h =>
          rw [hup] at h
          exact hm.append h
    · intro h
      obtain ⟨m', hbefore, h⟩ := h.exists_of_append
      cases hbefore.unique hm
      refine hm.append (.onward hdirectory ?_)
      rw [hdown]
      refine .onward hname ?_
      rw [hup]
      exact h

/-- A specifier with a detour means what it means without. -/
theorem Detour.leadsToFile_iff (ht : t.IsTree) (hbefore : Path.EndsPiece before)
    (hrelative : Path.isAbsolute ⟨before ++ after⟩ = false)
    (h : t.Detour directory before detour) :
    t.LeadsToFile directory ⟨before ++ (detour ++ after)⟩ l ↔
      t.LeadsToFile directory ⟨before ++ after⟩ l := by
  rw [leadsToFile_iff_of_relative (h.isAbsolute ht hrelative),
    leadsToFile_iff_of_relative hrelative]
  refine and_congr (exists_congr fun d => and_congr_right fun hd => ?_) (and_congr_left fun _ => ?_)
  · rw [Path.stepPieces_append_of_endsPiece hbefore,
      Path.stepPieces_append_of_endsPiece h.endsPiece,
      Path.stepPieces_append_of_endsPiece hbefore]
    exact h.walks_iff ht hd
  · rw [Path.endsInStep_append_of_endsPiece hbefore,
      Path.endsInStep_append_of_endsPiece h.endsPiece, Path.endsInStep_append_of_endsPiece hbefore]

/-- What is taken with a detour is taken without. -/
theorem Detour.takes (ht : t.IsTree) (hbefore : Path.EndsPiece before)
    (hrelative : Path.isAbsolute ⟨before ++ after⟩ = false)
    (h : t.Detour directory before detour)
    (htakes : t.Takes (directory.join ⟨before ++ (detour ++ after)⟩)) :
    t.Takes (directory.join ⟨before ++ after⟩) := by
  have hrelative' := h.isAbsolute ht hrelative
  obtain ⟨htext, hlookups⟩ := htakes
  constructor
  · rw [Path.join_of_relative directory hrelative', ← List.append_assoc] at htext
    rw [Path.join_of_relative directory hrelative, ← List.append_assoc]
    exact htext.of_append
  · rw [origin_join t directory hrelative', stepPieces_join directory hrelative',
      Path.stepPieces_append_of_endsPiece hbefore, Path.stepPieces_append_of_endsPiece h.endsPiece,
      ← List.append_assoc] at hlookups
    rw [origin_join t directory hrelative, stepPieces_join directory hrelative,
      Path.stepPieces_append_of_endsPiece hbefore, ← List.append_assoc]
    cases h with
    | here => exact hlookups
    | separator _ => exact hlookups
    | @back d l name _ _ hname =>
      have hisName := (ht l name _ hname).1.toIsName
      rw [stepPieces_back hisName] at hlookups
      exact hlookups.of_detour hisName.up

end FileTree

/-! ## Resolution depends on what is meant -/

/-- What it is for the relative resolver to depend on the file that is meant, and not on how it is
spelled. Spellings are restricted to paths that are taken. -/
structure ResolvesByWalking (t : FileTree) (taken : Path → Prop) : Prop where
  /-- A specifier is resolved exactly if its steps lead to a file through existing directories and
  nothing idle follows them, and to the path of that file. -/
  resolves : ∀ importer directory s site, importer.parent? = some directory →
    (Resolver.relative t (.file importer) s = .ok site ↔
      taken (directory.join (.ofString s)) ∧
        ∃ l, t.LeadsToFile directory (.ofString s) l ∧ site = .file (FileTree.pathOf l))
  /-- The path is absolute, and each of its pieces is a name. -/
  canonical : ∀ importer s q, Resolver.relative t (.file importer) s = .ok (.file q) →
    q.isAbsolute = true ∧
      ∀ piece ∈ Path.splitPieces q.start.2, Path.isIdle piece = false ∧ piece ≠ ['.', '.']
  /-- A relative specifier is resolved as it is without a detour. -/
  detour : ∀ importer directory before detour after, importer.parent? = some directory →
    Path.EndsPiece before → Path.isAbsolute ⟨before ++ after⟩ = false →
    t.Detour directory before detour → taken (directory.join ⟨before ++ (detour ++ after)⟩) →
    (Resolver.relative t (.file importer) (.ofList (before ++ (detour ++ after)))).toOption =
      (Resolver.relative t (.file importer) (.ofList (before ++ after))).toOption
  /-- Two importers in the same directory resolve every specifier alike. -/
  alike : ∀ importer importer' directory directory' d s, importer.parent? = some directory →
    importer'.parent? = some directory' → t.Reaches directory d → t.Reaches directory' d →
    taken (directory.join (.ofString s)) → taken (directory'.join (.ofString s)) →
    (Resolver.relative t (.file importer) s).toOption =
      (Resolver.relative t (.file importer') s).toOption
  /-- To canonicalize the answer once more changes nothing. -/
  again : ∀ importer s q,
    locate Resolver.relative t importer s = some q ↔
      Resolver.relative t (.file importer) s = .ok (.file q)

/-- **Resolution by meaning.** In every tree, as long as paths are short enough for the operating
system, what a specifier is resolved to is the file that its steps lead to from the directory of the
importer, whatever the spelling of the specifier, of the importer or of the tree's own paths. -/
theorem resolvesByWalking_of_isTree {t : FileTree} (ht : t.IsTree) :
    ResolvesByWalking t t.Takes where
  resolves _ _ _ _ hparent := relative_eq_ok_iff_leadsToFile ht hparent
  canonical importer s q h := by
    obtain ⟨directory, hparent⟩ := exists_parent?_of_relative h
    obtain ⟨-, l, ⟨-, -, c, hfile⟩, hq⟩ := (relative_eq_ok_iff_leadsToFile ht hparent).mp h
    have hne : l ≠ [] := by
      rintro rfl
      cases hfile
    have hnames := ht.isEntryName hfile
    cases hq
    refine ⟨rfl, fun piece hpiece => ?_⟩
    have hpieces : Path.splitPieces (Path.joinPieces l) = l :=
      Path.splitPieces_joinPieces hne fun name hname => (hnames name hname).separator
    change piece ∈ Path.splitPieces (Path.joinPieces l) at hpiece
    rw [hpieces] at hpiece
    exact ⟨(hnames piece hpiece).idle, (hnames piece hpiece).up⟩
  detour importer directory before detour after hparent hbefore hrelative hdetour htakes := by
    refine toOption_eq_of_forall fun site => ?_
    rw [relative_eq_ok_iff_leadsToFile ht hparent, relative_eq_ok_iff_leadsToFile ht hparent,
      Path.ofString, String.toList_ofList, Path.ofString, String.toList_ofList]
    refine and_congr (iff_of_true htakes (hdetour.takes ht hbefore hrelative htakes))
      (exists_congr fun l => and_congr_left fun _ => ?_)
    exact hdetour.leadsToFile_iff ht hbefore hrelative
  alike importer importer' directory directory' d s hparent hparent' hd hd' htakes htakes' := by
    refine toOption_eq_of_forall fun site => ?_
    rw [relative_eq_ok_iff_leadsToFile ht hparent, relative_eq_ok_iff_leadsToFile ht hparent']
    refine and_congr (iff_of_true htakes htakes') (exists_congr fun l => and_congr_left fun _ => ?_)
    exact FileTree.leadsToFile_congr hd hd'
  again _ _ _ := locate_relative_eq_some_iff ht

/-! ## A tree with two files -/

/-- A working directory with two files. -/
def twoFiles : FileTree where
  workingDirectory := [['p']]
  entries := [([['p']], .directory),
    ([['p'], ['f', 'o', 'o']], .file (.text "")),
    ([['p'], ['m', 'a', 'i', 'n']], .file (.text ""))]

theorem isTree_twoFiles : twoFiles.IsTree := by
  intro l name e h
  -- every entry but the root is in the list, so its name and what is above it can be read off
  have hmem := (FileTree.mem_of_entry? h).resolve_left
    (List.append_ne_nil_of_right_ne_nil _ (List.cons_ne_nil _ _))
  have habove : (l ++ [name]).dropLast = l := List.dropLast_concat
  have hname : (l ++ [name]).getLast? = some name := List.getLast?_concat
  simp only [twoFiles, List.mem_cons, List.not_mem_nil, or_false, Prod.mk.injEq] at hmem
  rcases hmem with ⟨hl, -⟩ | ⟨hl, -⟩ | ⟨hl, -⟩ <;>
  · rw [hl] at habove hname
    cases habove
    cases hname
    exact ⟨⟨⟨by decide, by decide, by decide⟩, by decide, by decide⟩, by decide⟩

/-- What a specifier means in this tree does not depend on its spelling. -/
theorem resolvesByWalking_twoFiles :
    twoFiles.IsTree ∧ ResolvesByWalking twoFiles twoFiles.Takes ∧
      Resolver.relative twoFiles (.file (.ofString "main")) "..//p/./foo" =
        .ok (.file (.ofString "/p/foo")) :=
  ⟨isTree_twoFiles, resolvesByWalking_of_isTree isTree_twoFiles, by decide +kernel⟩

/-- A name after a number of idle pieces. -/
def dotted (name : List Char) : Nat → List Char
  | 0 => name
  | n + 1 => '.' :: '/' :: dotted name n

theorem stepPieces_dotted (name : List Char) (n : Nat) :
    Path.stepPieces (dotted name n) = Path.stepPieces name := by
  induction n with
  | zero => rfl
  | succ n ih => exact (Path.stepPieces_append ['.'] _).trans ih

theorem endsInStep_dotted (name : List Char) (n : Nat) :
    Path.EndsInStep (dotted name n) ↔ Path.EndsInStep name := by
  induction n with
  | zero => rfl
  | succ n ih => exact (Path.endsInStep_append ['.'] _).trans ih

theorem le_byteCount_dotted (name : List Char) (n : Nat) :
    2 * n ≤ FileTree.byteCount (dotted name n) := by
  induction n with
  | zero => exact Nat.zero_le _
  | succ n ih =>
    have hcount : FileTree.byteCount (dotted name (n + 1)) =
        2 + FileTree.byteCount (dotted name n) := FileTree.byteCount_append ['.', '/'] _
    omega

theorem parent?_main : (Path.ofString "main").parent? = some ⟨[]⟩ := by decide

/-- Where idle pieces make a specifier too long, it is not resolved, though its one step leads to a
file. -/
theorem dotted_not_resolved :
    twoFiles.LeadsToFile ⟨[]⟩ (.ofString (.ofList (dotted ['f', 'o', 'o'] 2048)))
        [['p'], ['f', 'o', 'o']] ∧
      ∀ site, Resolver.relative twoFiles (.file (.ofString "main"))
        (.ofList (dotted ['f', 'o', 'o'] 2048)) ≠ .ok site := by
  have hrelative : (Path.ofString (.ofList (dotted ['f', 'o', 'o'] 2048))).isAbsolute = false := by
    rw [Path.ofString, String.toList_ofList]
    rfl
  constructor
  · rw [FileTree.leadsToFile_iff_of_relative hrelative, Path.ofString, String.toList_ofList,
      stepPieces_dotted, endsInStep_dotted]
    exact ⟨⟨[['p']], .arrived _, .onward rfl (.arrived _)⟩, ⟨_, rfl, rfl⟩, _, rfl⟩
  · -- each idle piece takes two bytes, so the path has as many as are too many
    intro site hsite
    have hfits :=
      ((relative_eq_ok_iff_leadsToFile isTree_twoFiles parent?_main).mp hsite).1.text
    rw [FileTree.Fits, Path.join_of_relative _ hrelative, Path.ofString,
      String.toList_ofList] at hfits
    exact absurd hfits (Nat.not_lt.mpr (le_byteCount_dotted ['f', 'o', 'o'] 2048))

/-! ## A file that stands deep -/

/-- The names of nested directories, too many for a path. -/
def deepDirectory : Location := List.replicate 16 (List.replicate 255 'd')

/-- A deep working directory with one file. -/
def deepTree : FileTree where
  workingDirectory := deepDirectory
  entries := (deepDirectory ++ [['f', 'o', 'o']], .file (.text "")) ::
    deepDirectory.inits.map fun l => (l, .directory)

theorem lookup_map_pair {l : Location} {locations : List Location} (h : l ∈ locations)
    (e : Entry) : (locations.map fun l => (l, e)).lookup l = some e := by
  induction locations with
  | nil => cases h
  | cons other rest ih =>
    rw [List.map_cons, List.lookup_cons]
    by_cases hother : l = other
    · rw [beq_iff_eq.mpr hother]
    · rw [beq_eq_false_iff_ne.mpr hother]
      exact ih ((List.mem_cons.mp h).resolve_left hother)

/-- The names on the way to the file lead to directories. -/
theorem entry?_deepTree {l : Location} (h : l <+: deepDirectory) :
    deepTree.entry? l = some .directory := by
  by_cases hroot : l = []
  · rw [hroot]
    rfl
  · have hfile : l ≠ deepDirectory ++ [['f', 'o', 'o']] := by
      rintro rfl
      exact absurd h.length_le (by decide)
    rw [FileTree.entry?, if_neg (fun hempty => hroot (List.isEmpty_iff.mp hempty)), deepTree,
      List.lookup_cons, beq_eq_false_iff_ne.mpr hfile]
    exact lookup_map_pair ((List.mem_inits l deepDirectory).mpr h) .directory

theorem entry?_deepTree_file :
    deepTree.entry? (deepDirectory ++ [['f', 'o', 'o']]) = some (.file (.text "")) := by
  rw [FileTree.entry?, if_neg (by simp)]
  exact List.lookup_cons_self

theorem isEntryName_deep : FileTree.IsEntryName (List.replicate 255 'd') where
  separator h := absurd (List.eq_of_mem_replicate h) (by decide)
  idle := by decide +kernel
  up := by decide +kernel
  zero h := absurd (List.eq_of_mem_replicate h) (by decide)
  short := by decide +kernel

theorem isTree_deepTree : deepTree.IsTree := by
  intro l name e h
  have hmem := (FileTree.mem_of_entry? h).resolve_left
    (List.append_ne_nil_of_right_ne_nil _ (List.cons_ne_nil _ _))
  rcases List.mem_cons.mp hmem with hfile | hmem
  · obtain ⟨rfl, hname⟩ := List.append_inj' (Prod.mk.inj hfile).1 rfl
    cases hname
    exact ⟨⟨⟨by decide, by decide, by decide⟩, by decide, by decide⟩,
      entry?_deepTree (List.prefix_refl _)⟩
  · obtain ⟨l', hbegins, hpair⟩ := List.mem_map.mp hmem
    obtain ⟨rfl, -⟩ := Prod.mk.inj hpair
    rw [List.mem_inits] at hbegins
    rw [show name = List.replicate 255 'd' from
      List.eq_of_mem_replicate (hbegins.subset List.mem_concat_self)]
    exact ⟨isEntryName_deep, entry?_deepTree ((List.prefix_append l [name]).trans hbegins)⟩

/-- Where a file stands too deep, it is not resolved by a short path. -/
theorem deep_not_resolved :
    deepTree.LeadsToFile ⟨[]⟩ (.ofString "foo") (deepDirectory ++ [['f', 'o', 'o']]) ∧
      FileTree.Fits (Path.join ⟨[]⟩ (.ofString "foo")) ∧
      ∀ site, Resolver.relative deepTree (.file (.ofString "main")) "foo" ≠ .ok site := by
  have hrelative : (Path.ofString "foo").isAbsolute = false := by decide +kernel
  have hsteps : Path.stepPieces (Path.ofString "foo").text = [['f', 'o', 'o']] := by
    decide +kernel
  have hdirectory := entry?_deepTree (List.prefix_refl deepDirectory)
  refine ⟨?_, ?_, fun site hsite => ?_⟩
  · rw [FileTree.leadsToFile_iff_of_relative hrelative, hsteps]
    exact ⟨⟨deepDirectory, .arrived _, .onward hdirectory (.arrived _)⟩,
      ⟨['f', 'o', 'o'], by decide +kernel, rfl⟩, .text "", entry?_deepTree_file⟩
  · rw [FileTree.Fits]
    decide +kernel
  · have hlookups :=
      ((relative_eq_ok_iff_leadsToFile isTree_deepTree parent?_main).mp hsite).1.lookups
    rw [FileTree.origin_join deepTree ⟨[]⟩ hrelative, FileTree.stepPieces_join ⟨[]⟩ hrelative,
      hsteps] at hlookups
    have hfits : FileTree.Fits (FileTree.pathOf (deepDirectory ++ [['f', 'o', 'o']])) :=
      (hlookups.1 (by decide)).pathOf_of_lookupPath
    exact absurd hfits (Nat.not_lt.mpr (by decide +kernel))

/-- Neither limit can be left out: without them all spellings would be resolved in the first tree,
and with the one on the text alone those that are short would be in the second. -/
theorem not_resolvesByWalking_of_limits :
    (twoFiles.IsTree ∧ ¬ ResolvesByWalking twoFiles fun _ => True) ∧
      deepTree.IsTree ∧ ¬ ResolvesByWalking deepTree FileTree.Fits := by
  refine ⟨⟨isTree_twoFiles, fun h => ?_⟩, isTree_deepTree, fun h => ?_⟩
  · obtain ⟨hleads, hnot⟩ := dotted_not_resolved
    exact hnot _ ((h.resolves _ _ _ _ parent?_main).mpr ⟨trivial, _, hleads, rfl⟩)
  · obtain ⟨hleads, hfits, hnot⟩ := deep_not_resolved
    exact hnot _ ((h.resolves _ _ _ _ parent?_main).mpr ⟨hfits, _, hleads, rfl⟩)

end ModuleBundler
