import ModuleBundler.Proofs.Json.Finite
import ModuleBundler.Proofs.Json.Mirroring
import ModuleBundler.Proofs.Module.Requires
import ModuleBundler.Proofs.Script.Reader.Phrase

/-!
What the loaders for data make is a module that exports the data. The text of a value stands
between `export default ` and a semicolon, where it is read as an expression, and the reading of
the module is done when that export is. In this place a brace opens an object, for statements do
not begin here, and a word or a string goes on with nothing but the semicolon.

A loader for data takes any text (`Loader.raw`) or any document (`Loader.json`), so a file that it
is the last loader of is compiled if only the loaders before it succeed and it accepts what they
leave (`loaded_exports_data`).
-/

set_option autoImplicit false

namespace ModuleBundler.Module.Reader

open Script Script.Reader Json

variable {ts us : List Token} {comma : Bool}

/-! ## Exports -/

/-- A token that a document begins with. -/
def beginsDocument : Token → Bool
  | .string _ | .number _ => true
  | .word w => valueWords.contains w
  | .punctuator p => ["-", "[", "\x7b"].contains p
  | _ => false

theorem exists_first_tokens (v : Value) : ∃ t us, v.tokens = t :: us ∧ beginsDocument t = true := by
  have hsigned : ∀ (negative : Bool) (r : Binary64),
      ∃ t us, signedTokens negative r = t :: us ∧ beginsDocument t = true := by
    rintro (_ | _) r
    · exact ⟨_, _, rfl, rfl⟩
    · exact ⟨_, _, rfl, by decide⟩
  cases v with
  | null => exact ⟨_, _, rfl, by decide⟩
  | bool b => exact ⟨_, _, rfl, by cases b <;> decide⟩
  | integer i =>
    rw [Value.tokens]
    exact hsigned _ _
  | real r =>
    cases r with
    | finite negative m e =>
      rw [Value.tokens]
      exact hsigned negative _
    | _ => exact ⟨_, _, rfl, rfl⟩
  | string s => exact ⟨_, _, rfl, rfl⟩
  | array vs => exact ⟨_, _, rfl, by decide⟩
  | object fs => exact ⟨_, _, rfl, by decide⟩

/-- The tokens of the export of a document. -/
def exportTokens (v : Value) : List Token :=
  .word "export" :: .word "default" :: (v.tokens ++ [.punctuator ";"])

theorem reads_moduleItem {r : Readers} {v : Value} (hread : ReadsValue r v.expression v.tokens) :
    Reads (At (exportTokens v) comma) (moduleItem r) (· = .exportDefault v.expression)
      (Fresh [] false) := by
  obtain ⟨t, us, htokens, ht⟩ := exists_first_tokens v
  have hnext : ∀ {text}, beginsDocument (.word text) = false →
      beginsDocument (.punctuator text) = false →
      (firstToken (v.tokens ++ [.punctuator ";"])).is text = false := by
    intro text hword hmark
    rw [htokens]
    exact Token.is_eq_false ht hword hmark
  have hvalue : Reads (At (v.tokens ++ [.punctuator ";"]) false) (assignmentValue r)
      (· = v.expression) (At [.punctuator ";"] false) :=
    (hread.reads _ _ rfl).bind fun c hc => .pure hc.value_eq fun _ h => h
  have hdefault : Reads (At (v.tokens ++ [.punctuator ";"]) false) (exportDefault r)
      (· = .exportDefault v.expression) (Fresh [] false) := by
    refine reads_if_accept (hnext (by decide) rfl) ?_
    have hasync : Reads (At (v.tokens ++ [.punctuator ";"]) false) atAsyncFunction? (· = false)
        (At (v.tokens ++ [.punctuator ";"]) false) :=
      reads_if_at (hnext (by decide) rfl) (.pure rfl fun _ h => h)
    refine hasync.bind fun b hb => .ofFalse hb (reads_if_accept (hnext (by decide) rfl) ?_)
    refine hvalue.withIn.bind fun e he => reads_expectEnd.bind fun _ _ => ?_
    exact .pure (by rw [he]) fun _ h => h
  refine reads_here.bind fun start _ => reads_accept_then (by decide) (ReadsIn.fresh ?_)
  have hdeclaration : Reads (At (.word "default" :: (v.tokens ++ [.punctuator ";"])) false)
      (exportDeclaration r start) (· = .exportDefault v.expression) (Fresh [] false) := by
    exact reads_if_accept rfl (reads_accept_then (by decide) hdefault.fresh)
  exact hdeclaration

/-- A single item is all that there is. -/
theorem reads_itemsFrom {r : Readers} {v : Value} (hread : ReadsValue r v.expression v.tokens)
    (fuel : Nat) :
    Reads (At (exportTokens v) comma) (itemsFrom r (fuel + 2) [])
      (· = [.exportDefault v.expression]) (At [] false) := by
  have hend : Reads (Fresh [] false) (itemsFrom r (fuel + 1) [.exportDefault v.expression])
      (· = [.exportDefault v.expression]) (At [] false) :=
    ReadsIn.fresh (reads_atEnd?.bind fun b hb => .ofTrue hb (.pure rfl fun _ h => h))
  refine reads_atEnd?.bind fun b hb => .ofFalse hb ?_
  refine (reads_moduleItem hread).bind fun item hitem => ?_
  rw [hitem]
  exact hend

end ModuleBundler.Module.Reader

namespace ModuleBundler

open Script Script.Reader Json

/-! ## Modules of one export -/

theorem toList_exportOf (value : List Char) :
    (Loader.exportOf value).toList = "export default ".toList ++ value ++ [';'] := by
  unfold Loader.exportOf
  exact String.toList_ofList

/-- A text is read as a module that exports a value as default and has nothing else. -/
def ExportsAlone (text : String) (e : Expr) : Prop :=
  Module.ofText text.toList = .ok ⟨none, [.exportDefault e]⟩

/-- The export of a document is read as the export of its expression. -/
theorem exportsAlone_exportOf {v : Value} (hv : v.IsFinite) :
    ExportsAlone (Loader.exportOf v.text) v.expression := by
  unfold ExportsAlone
  rw [toList_exportOf, List.append_assoc]
  generalize htext : "export default ".toList ++ (v.text ++ [';']) = text
  have hspells : Spells text (Module.Reader.exportTokens v) := by
    have hvalue : Spells (v.text ++ [';']) (v.tokens ++ [.punctuator ";"]) :=
      spells_text hv (endsToken_cons (by decide) []) (.mark (c := ';') (by decide) .nil)
    rw [← htext]
    have hdefault : Spells ("default".toList ++ ' ' :: (v.text ++ [';'])) _ :=
      .word (by decide) (endsWord_cons (by decide) _) nofun (.blank hvalue)
    exact .word (w := "export") (by decide) (endsWord_cons (by decide) _) nofun (.blank hdefault)
  -- the levels of readers are counted by the whole text, of which the value is a part
  have hread : ReadsValue (readersFor text) v.expression v.tokens := by
    have hphrase := readsForm_of_phrase (phrase_expression hv)
    rw [asWritten_expression hv] at hphrase
    refine hphrase _ ?_
    have hlength := hspells.length_le
    rw [Module.Reader.exportTokens, List.length_cons, List.length_cons, List.length_append]
      at hlength
    omega
  have hitems : Reads (At (Module.Reader.exportTokens v) false)
      (do Module.Reader.itemsFrom (readersFor text) (← tokensLeft) [])
      (· = [.exportDefault v.expression]) (At [] false) := by
    refine reads_tokensLeft.bind fun fuel hfuel => ?_
    rw [Module.Reader.exportTokens, List.length_cons, List.length_cons] at hfuel
    obtain ⟨fuel, rfl⟩ : ∃ n, fuel = n + 2 := ⟨fuel - 2, by omega⟩
    exact Module.Reader.reads_itemsFrom hread fuel
  have hmodule : OutsideGenerators { isModule := true, strict := true } := rfl
  obtain ⟨items, hrun, rfl⟩ := exists_run_eq_ok hmodule hspells (by exact nofun) hitems
  rw [Module.ofText, hrun]
  rfl

/-! ## Loaders for data -/

theorem exportsAlone_raw (source : String) :
    ExportsAlone (Loader.exportOf (stringText source)) (.stringLiteral (literalString source)) := by
  have h := exportsAlone_exportOf (.string source)
  rwa [Value.text, Value.expression] at h

theorem exportsAlone_json {source : String} {v : Value}
    (h : Value.ofText? source.toList = some v) :
    ExportsAlone (Loader.exportOf v.canonical.text) v.canonical.expression :=
  exportsAlone_exportOf (isFinite_of_ofText? h).canonical

/-- What the loader of documents accepts is a document. -/
theorem load_json_eq_ok {ctx ctx' : LoaderContext} {source text : String}
    (h : Loader.json.load ctx source = .ok (ctx', text)) :
    ∃ v, Value.ofText? source.toList = some v ∧ text = Loader.exportOf v.canonical.text := by
  simp only [Loader.json] at h
  split at h
  · next v hv =>
    cases h
    exact ⟨v, hv, rfl⟩
  · cases h

/-- What a loader for data leaves exports one value. -/
theorem exists_exportsAlone_of_builtin {name : String} {l : Loader}
    (hl : Loader.builtin? name = some l) {ctx ctx' : LoaderContext} {source text : String}
    (h : l.load ctx source = .ok (ctx', text)) :
    ∃ v : Value, v.IsFinite ∧ ExportsAlone text v.expression := by
  rcases List.mem_pair.mp (List.mem_of_find?_eq_some hl) with rfl | rfl
  · obtain ⟨v, hv, rfl⟩ := load_json_eq_ok h
    exact ⟨_, (isFinite_of_ofText? hv).canonical, exportsAlone_json hv⟩
  · cases h
    refine ⟨.string source, .string source, ?_⟩
    rw [Value.expression]
    exact exportsAlone_raw source

/-! ## Files -/

/-- Where loaders succeed, the last one has made the text. -/
theorem exists_load_of_runLoaders {l : Loader} (before : List Loader) :
    ∀ {ctx : LoaderContext} {source text : String},
      runLoaders (before ++ [l]) ctx source = .ok text →
        ∃ ctx₁ ctx₂ source₁, l.load ctx₁ source₁ = .ok (ctx₂, text) := by
  induction before with
  | nil =>
    intro ctx source text h
    rw [List.nil_append, runLoaders] at h
    split at h
    · next ctx₂ text' hload =>
      cases h
      exact ⟨ctx, ctx₂, source, hload⟩
    · cases h
  | cons first before ih =>
    intro ctx source text h
    rw [List.cons_append, runLoaders] at h
    split at h
    · exact ih h
    · cases h

/-- **What the loaders for data export is read back as the data.** Of every text the raw loader
makes a module with one export, a string literal of that text; of every document that it accepts
the loader of documents makes one with an expression that mirrors the document. So a file whose
last loader is one of them has an asset as soon as its loaders succeed. -/
theorem loaded_exports_data :
    (∀ (ctx : LoaderContext) (source : String), ∃ text s,
      Loader.raw.load ctx source = .ok (ctx, text) ∧ ExportsAlone text (.stringLiteral s) ∧
        s.value = source) ∧
    (∀ (ctx ctx' : LoaderContext) (source text : String),
      Loader.json.load ctx source = .ok (ctx', text) →
        ∃ v e, Value.ofText? source.toList = some v ∧ ExportsAlone text e ∧ Mirrors v e) ∧
    ∀ (t : FileTree) (rules : List Rule) (p : Path) (name : String) (last : Loader),
      Loader.builtin? name = some last → (loadersFor rules p).getLast? = some last →
      ∀ source text, t.read p = .ok source → transform rules p source = .ok text →
        ∀ id, ∃ a, Asset.build t rules p id = .ok a := by
  refine ⟨fun ctx source => ⟨_, _, rfl, exportsAlone_raw source, rfl⟩, ?_, ?_⟩
  · intro ctx ctx' source text h
    obtain ⟨v, hv, rfl⟩ := load_json_eq_ok h
    exact ⟨v, _, hv, exportsAlone_json hv, mirrors_canonical (isFinite_of_ofText? hv)⟩
  · intro t rules p name last hname hlast source text hread htransform id
    have hrun := htransform
    rw [transform, ← List.dropLast_append_getLast? last hlast] at hrun
    obtain ⟨_, _, _, hload⟩ := exists_load_of_runLoaders _ hrun
    obtain ⟨v, -, he⟩ := exists_exportsAlone_of_builtin hname hload
    have hcompile := compile_eq_ok_iff.mpr ⟨source, text, _, hread, htransform, he, rfl⟩
    rw [Asset.build, hcompile]
    exact ⟨_, rfl⟩

/-- A document that repeats a name. -/
def documentText : String := "\x7b\"b\": [-1, null], \"a\": \"x\", \"b\": true\x7d"

/-- A directory with the document. -/
def documentTree : FileTree where
  workingDirectory := [['p']]
  entries := [([['p']], .directory), ([['p'], ['d']], .file (.text documentText))]

/-- All files are documents, after a blank. -/
def documentRules : List Rule :=
  (Rule.ofPattern "" [Loader.json, Loader.prepending " "]).toOption.toList

/-- The document is loaded as data, and its file has an asset. -/
theorem loaded_exports_data_documentTree :
    ∃ text, documentTree.read (.ofString "/p/d") = .ok documentText ∧
      transform documentRules (.ofString "/p/d") documentText = .ok text ∧
      (∃ v e, Value.ofText? (" " ++ documentText).toList = some v ∧ ExportsAlone text e ∧
        Mirrors v e) ∧
      ∃ a, Asset.build documentTree documentRules (.ofString "/p/d") 0 = .ok a := by
  have hloaders : loadersFor documentRules (.ofString "/p/d") =
      [Loader.prepending " ", Loader.json] := rfl
  have hdocument : Value.ofText? (" " ++ documentText).toList =
      some (.object [("b", .array [.integer (-1), .null]), ("a", .string "x"),
        ("b", .bool true)]) := rfl
  have hload : ∃ text, Loader.json.load ⟨.ofString "/p/d", []⟩ (" " ++ documentText) =
      .ok (⟨.ofString "/p/d", []⟩, text) := by
    simp only [Loader.json, hdocument]
    exact ⟨_, rfl⟩
  obtain ⟨text, hload⟩ := hload
  have htransform : transform documentRules (.ofString "/p/d") documentText = .ok text := by
    rw [transform, hloaders]
    change runLoaders [Loader.json] ⟨.ofString "/p/d", []⟩ (" " ++ documentText) = _
    rw [runLoaders, hload]
    rfl
  refine ⟨_, rfl, htransform, loaded_exports_data.2.1 _ _ _ _ hload, ?_⟩
  exact loaded_exports_data.2.2 documentTree documentRules (.ofString "/p/d") "json"
    Loader.json rfl (by rw [hloaders]; rfl) _ _ rfl htransform 0

end ModuleBundler
