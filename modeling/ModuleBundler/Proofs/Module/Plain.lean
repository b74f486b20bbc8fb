import ModuleBundler.Proofs.Json.Reading
import ModuleBundler.Proofs.Module.Introduced

/-!
Modules that are lowered to plain scripts. All that lowering adds is made of names, strings, calls
and getters, so it is plain, the helpers aside. What a module needs in addition is that its own
statements are plain after lowering, and that the names and strings which it hands to lowering can
be written: what a getter reads by name is a word with no meaning of its own, and no string loses a
character when it is printed.

Modules of data are plain, and so are those that only load modules and export what these export.
-/

set_option autoImplicit false

namespace ModuleBundler

open Script

/-! ## Strings that lowering writes -/

/-- The name that an import clause takes from the required module. -/
def ImportClause.imported? : ImportClause → Option String
  | .default _ => some "default"
  | .named imported _ => some imported
  | .namespace _ => none

/-- The names that stand in an export clause. -/
def ExportClause.names : ExportClause → List String
  | .named name exported => [name, exported]
  | .namespace exported => [exported]

/-- The strings that lowering writes for an item: its specifier, and the names that it exports or
that another module exports. -/
def ModuleItem.strings : ModuleItem → List String
  | .statement _ => []
  | .import source clauses => source :: clauses.filterMap (·.imported?)
  | .exportDeclaration s => declaredNames s
  | .exportNames source clauses => source.toList ++ clauses.flatMap (·.names)
  | .exportDefaultFunction _ _ | .exportDefaultClass _ _ _ | .exportDefault _ => ["default"]
  | .exportAll source => [source]

/-- A module that is lowered to a plain script. -/
structure Module.IsPlain (m : Module) : Prop where
  interpreter_eq : m.interpreter = none
  /-- No namespace and no default is imported, and not all names of a module are exported. -/
  helpers_eq : m.helpers = []
  strings : ∀ item ∈ m.items, ∀ s ∈ item.strings, KeepsNulls s
  /-- What getters read by name are plain names. -/
  exported : ∀ g ∈ m.getters, ∀ origin name, g.2 = .identifier origin name →
    isPlainName name = true
  /-- The statements of the module are plain once their imports are replaced. -/
  own : ∀ s ∈ m.statements, ∃ ts, Sentence (m.lowered s) ts

/-! ## Names -/

theorem isPlainName_recordName (n : Nat) : isPlainName (recordName n) = true := by
  have hgrammar : ∀ w ∈ grammarWords, w.toList.head? ≠ some '_' := by decide
  have hstart : ("__pumice_import_".toList.head?.any startsWord &&
    "__pumice_import_".toList.all isPlainInWord) = true := by decide
  rw [Bool.and_eq_true] at hstart
  have hfirst : (recordName n).toList.head? = "__pumice_import_".toList.head? := by
    rw [toList_recordName]
    rfl
  rw [isPlainName, Bool.and_eq_true, Bool.not_eq_true', List.contains_eq_mem,
    decide_eq_false_iff_not, isWord, Bool.and_eq_true, hfirst]
  refine ⟨fun hmem => hgrammar _ hmem hfirst, hstart.1, ?_⟩
  rw [toList_recordName, List.all_append, hstart.2, Bool.true_and, List.all_eq_true]
  intro c hc
  rw [Nat.toString_eq_ofList_toDigits, String.toList_ofList] at hc
  exact of_isAsciiDigit (p := (isPlainInWord · = true)) (by decide)
    (isAsciiDigit_of_mem_toDigits hc)

/-- Every name that lowering puts into a script is plain. -/
theorem IntroducedName.isPlainName_text (x : IntroducedName) : isPlainName x.text = true := by
  cases x with
  | record n => exact isPlainName_recordName n
  | helper h => cases h <;> decide
  | _ => decide

/-! ## Building blocks -/

section Build

variable {callee e : Expr}

theorem phrase_name (x : IntroducedName) : Phrase .path (Build.name x.text) [.word x.text] :=
  .name .generated x.isPlainName_text

theorem exists_phrase_str {s : String} (hs : KeepsNulls s) :
    ∃ ts, Phrase .value (Build.str s) ts :=
  ⟨_, .string (isQuoted_ofValue hs)⟩

theorem exists_phrase_call {ts : List Token} (hcallee : Phrase .path callee ts)
    {arguments : List Expr} (harguments : ∀ e ∈ arguments, ∃ ts, Phrase .value e ts) :
    ∃ ts, Phrase .path (Build.call callee arguments) ts := by
  choose! tokens htokens using harguments
  have hpairs : ∀ a ∈ arguments.map fun e => (e, tokens e), Phrase .value a.1 a.2 :=
    List.forall_mem_map.mpr htokens
  have hcall := hcallee.call hpairs
  rw [List.map_map] at hcall
  exact ⟨_, hcall⟩

theorem exists_phrase_object {fields : List (String × Expr)}
    (hkeys : ∀ f ∈ fields, isWord f.1 = true ∧ f.1 ≠ "return")
    (hvalues : ∀ f ∈ fields, ∃ ts, Phrase .value f.2 ts) :
    ∃ ts, Phrase .value (Build.object fields) ts := by
  choose! tokens htokens using hvalues
  have hnames : ∀ f ∈ fields.map fun f => (Node.nameKey f.1, f.2, tokens f), IsPlainKey f.1 :=
    List.forall_mem_map.mpr fun f hf => .name (hkeys f hf).1 (hkeys f hf).2
  have hobject := Phrase.object hnames (List.forall_mem_map.mpr htokens)
  rw [List.map_map] at hobject
  exact ⟨_, hobject⟩

theorem exists_phrase_requireCall {source : String} (hs : KeepsNulls source) :
    ∃ ts, Phrase .path (requireCall source) ts :=
  exists_phrase_call (phrase_name .require) (List.forall_mem_singleton.mpr (exists_phrase_str hs))

theorem exists_phrase_requireThrough (helper : Option InteropHelper) {source : String}
    (hs : KeepsNulls source) : ∃ ts, Phrase .path (requireThrough helper source) ts := by
  obtain ⟨ts, hrequire⟩ := exists_phrase_requireCall hs
  cases helper with
  | none => exact ⟨ts, hrequire⟩
  | some h =>
    exact exists_phrase_call (phrase_name (.helper h))
      (List.forall_mem_singleton.mpr ⟨ts, hrequire.path⟩)

theorem exists_phrase_getterOf (h : ∃ ts, Phrase .path e ts) :
    ∃ ts, Phrase .value (getterOf e) ts := by
  obtain ⟨ts, he⟩ := h
  have hkeys : ∀ key ∈ ["enumerable", "get"], isWord key = true ∧ key ≠ "return" := by decide
  exact exists_phrase_object (fun f hf => hkeys f.1 (List.mem_map_of_mem hf))
    (List.forall_mem_cons.mpr ⟨⟨_, .bool true⟩, List.forall_mem_singleton.mpr ⟨_, .getter he⟩⟩)

theorem exists_sentence_defineExport {exported : String} (hs : KeepsNulls exported)
    (h : ∃ ts, Phrase .value e ts) : ∃ ts, Sentence (defineExport exported e) ts := by
  have hdefine : Phrase .path (Build.dot (Build.name "Object") "defineProperty") _ :=
    (phrase_name .object).member (by decide) (by decide)
  have harguments : ∀ a ∈ [Build.name "exports", Build.str exported, e],
      ∃ ts, Phrase .value a ts :=
    List.forall_mem_cons.mpr ⟨⟨_, (phrase_name .exports).path⟩,
      List.forall_mem_cons.mpr ⟨exists_phrase_str hs, List.forall_mem_singleton.mpr h⟩⟩
  obtain ⟨ts, hcall⟩ := exists_phrase_call hdefine harguments
  exact ⟨_, .path hcall⟩

end Build

/-! ## Items -/

namespace ModuleItem

/-- What a getter is named, and what it reads, are among the strings of the item. -/
theorem getter_strings {item : ModuleItem} {record : String} {g : String × Expr}
    (hg : g ∈ (item.contribution record).getters) :
    g.1 ∈ item.strings ∧ ((∃ origin name, g.2 = .identifier origin name) ∨
      ∃ imported ∈ item.strings, g.2 = lookup record imported) := by
  cases item with
  | «import» source clauses => cases clauses <;> cases hg
  | exportNames source clauses =>
    have hmem : ∀ {clause name}, clause ∈ clauses → name ∈ clause.names →
        name ∈ (exportNames source clauses).strings := fun hclause hname =>
      List.mem_append_right _ (List.mem_flatMap.mpr ⟨_, hclause, hname⟩)
    have hexported : ∀ {name exported}, exported ∈ (ExportClause.named name exported).names :=
      List.mem_cons_of_mem _ List.mem_cons_self
    cases source with
    | none =>
      obtain ⟨clause, hclause, rfl⟩ := List.mem_map.mp hg
      cases clause with
      | named name exported => exact ⟨hmem hclause hexported, .inl ⟨_, _, rfl⟩⟩
      | «namespace» exported => exact ⟨hmem hclause List.mem_cons_self, .inl ⟨_, _, rfl⟩⟩
    | some source =>
      obtain ⟨clause, hclause, rfl⟩ := List.mem_map.mp hg
      cases clause with
      | named name exported =>
        exact ⟨hmem hclause hexported, .inr ⟨name, hmem hclause List.mem_cons_self, rfl⟩⟩
      | «namespace» exported => exact ⟨hmem hclause List.mem_cons_self, .inl ⟨_, _, rfl⟩⟩
  | exportDeclaration s =>
    obtain ⟨name, hname, rfl⟩ := List.mem_map.mp hg
    exact ⟨hname, .inl ⟨_, _, rfl⟩⟩
  | exportDefaultFunction | exportDefaultClass | exportDefault =>
    rw [List.mem_singleton.mp hg]
    exact ⟨List.mem_singleton_self _, .inl ⟨_, _, rfl⟩⟩
  | statement => cases hg
  | exportAll => cases hg

/-- What an item loads is written if its strings are. -/
theorem exists_sentence_require {item : ModuleItem} (n : Nat) {s : Statement}
    (hs : s ∈ (item.contribution (recordName n)).requires)
    (hstrings : ∀ s ∈ item.strings, KeepsNulls s) : ∃ ts, Sentence s ts := by
  have hrun : ∀ {e : Expr}, (∃ ts, Phrase .path e ts) → ∃ ts, Sentence (Build.run e) ts :=
    fun ⟨_, he⟩ => ⟨_, .path he⟩
  have hvar : ∀ {e : Expr}, (∃ ts, Phrase .path e ts) →
      ∃ ts, Sentence (Build.var (recordName n) e) ts :=
    fun ⟨_, he⟩ => ⟨_, .var (isPlainName_recordName n) he.path⟩
  cases item with
  | «import» source clauses =>
    have hsource := hstrings source List.mem_cons_self
    cases clauses with
    | nil =>
      rw [List.mem_singleton.mp hs]
      exact hrun (exists_phrase_requireCall hsource)
    | cons clause rest =>
      rw [List.mem_singleton.mp hs]
      exact hvar (exists_phrase_requireThrough _ hsource)
  | exportNames source clauses =>
    cases source with
    | none => cases hs
    | some source =>
      rw [List.mem_singleton.mp hs]
      exact hvar (exists_phrase_requireCall (hstrings source List.mem_cons_self))
  | exportAll source =>
    rw [List.mem_singleton.mp hs]
    obtain ⟨_, hrequire⟩ := exists_phrase_requireCall (hstrings source List.mem_cons_self)
    exact hrun (exists_phrase_call (phrase_name (.helper .star)) (List.forall_mem_cons.mpr
      ⟨⟨_, hrequire.path⟩, List.forall_mem_singleton.mpr ⟨_, (phrase_name .exports).path⟩⟩))
  | _ => cases hs

end ModuleItem

namespace Module

variable {m : Module}

theorem IsPlain.exists_phrase_identifier (hm : m.IsPlain) (origin : Origin) {name : String}
    (hname : isPlainName name = true) :
    ∃ ts, Phrase .path (m.links.identifier origin name) ts := by
  rw [Links.identifier]
  cases hresolve : m.links.resolve? name with
  | none => exact ⟨_, .name origin hname⟩
  | some e =>
    obtain ⟨before, source, clauses, after, hitems, clause, hclause, -, rfl⟩ :=
      imports_of_find? (Links.find?_of_resolve? hresolve)
    have hitem : ModuleItem.import source clauses ∈ m.items := by
      rw [hitems]
      exact List.mem_append_right _ List.mem_cons_self
    have himported : ∀ imported ∈ clause.imported?, KeepsNulls imported := fun s hs =>
      hm.strings _ hitem s (List.mem_cons_of_mem _ (List.mem_filterMap.mpr ⟨clause, hclause, hs⟩))
    have hrecord := isPlainName_recordName (before.countP (·.takesRecord))
    rw [Option.getD_some]
    cases clause with
    | «namespace» _ => exact ⟨_, .name .generated hrecord⟩
    | _ =>
      exact ⟨_, .index (.name .generated hrecord) (.string (isQuoted_ofValue (himported _ rfl)))⟩

/-- A getter has a name that can be written, and reads what can be written. -/
theorem IsPlain.exists_sentence_getter (hm : m.IsPlain) {g : String × Expr} (hg : g ∈ m.getters) :
    ∃ ts, Sentence (defineExport g.1 (getterOf (g.2.relink m.links))) ts := by
  obtain ⟨c, hc, hgetter⟩ := List.mem_flatMap.mp hg
  obtain ⟨before, item, after, hitems, rfl⟩ := mem_contributions.mp hc
  have hitem : item ∈ m.items := by
    rw [hitems]
    exact List.mem_append_right _ List.mem_cons_self
  have hstrings := hm.strings item hitem
  obtain ⟨hname, hvalue⟩ := ModuleItem.getter_strings hgetter
  refine exists_sentence_defineExport (hstrings _ hname) (exists_phrase_getterOf ?_)
  rcases hvalue with ⟨origin, name, heq⟩ | ⟨imported, himported, heq⟩
  · have hplain := hm.exported g hg origin name heq
    rw [heq]
    exact hm.exists_phrase_identifier origin hplain
  · obtain ⟨_, hrecord⟩ := hm.exists_phrase_identifier .generated (isPlainName_recordName _)
    rw [heq]
    exact ⟨_, hrecord.index (.string (isQuoted_ofValue (hstrings _ himported)))⟩

theorem IsPlain.exists_sentence_require (hm : m.IsPlain) {s : Statement} (hs : s ∈ m.requires) :
    ∃ ts, Sentence s ts := by
  obtain ⟨c, hc, hs⟩ := List.mem_flatMap.mp hs
  obtain ⟨before, item, after, hitems, rfl⟩ := mem_contributions.mp hc
  refine item.exists_sentence_require _ hs (hm.strings item ?_)
  rw [hitems]
  exact List.mem_append_right _ List.mem_cons_self

/-- All that lowering adds to a plain module is plain. -/
theorem IsPlain.exists_sentence_generated (hm : m.IsPlain) {s : Statement}
    (hs : s ∈ m.generatedStatements) : ∃ ts, Sentence s ts := by
  rw [generatedStatements, prologue, hm.helpers_eq, List.map_nil, List.append_nil,
    List.mem_append, List.mem_append] at hs
  rcases hs with (hfixed | hgetter) | hrequire
  · rcases List.mem_pair.mp hfixed with rfl | rfl
    · exact ⟨_, .string (isQuoted_ofValue (by decide))⟩
    · refine exists_sentence_defineExport (by decide) (exists_phrase_object (by decide) ?_)
      exact List.forall_mem_singleton.mpr ⟨_, .bool true⟩
  · obtain ⟨g, hg, rfl⟩ := List.mem_map.mp hgetter
    exact hm.exists_sentence_getter hg
  · exact hm.exists_sentence_require hrequire

/-- **A plain module is lowered to a plain script.** -/
theorem IsPlain.lower (hm : m.IsPlain) : m.lower.IsPlain := by
  have hown : ∀ s ∈ m.statements.map m.lowered, ∃ ts, Sentence s ts :=
    List.forall_mem_map.mpr hm.own
  cases hscript : m.isScript with
  | true =>
    refine ⟨?_, by rwa [lower_body_of_isScript hscript]⟩
    rw [Module.lower, hscript]
    exact hm.interpreter_eq
  | false =>
    refine ⟨?_, ?_⟩
    · rw [Module.lower, hscript]
      exact hm.interpreter_eq
    · rw [lower_body_eq hscript, ← map_lowered_of_not_isScript hscript]
      exact List.forall_mem_append.mpr ⟨fun s => hm.exists_sentence_generated, hown⟩

end Module

/-! ## Forwarding -/

/-- An item that loads a module for its effects, or exports what it exports. -/
def ModuleItem.forwards : ModuleItem → Bool
  | .import _ clauses => clauses.isEmpty
  | .exportNames source _ => source.isSome
  | _ => false

section Forwarding

variable {item : ModuleItem} {record : String}

theorem ModuleItem.helper_of_forwards (hitem : item.forwards = true) :
    (item.contribution record).helper = none := by
  cases item with
  | «import» source clauses =>
    obtain rfl := List.isEmpty_iff.mp hitem
    rfl
  | exportNames source clauses => cases source <;> rfl
  | _ => cases hitem

/-- What such an item reads by name is the variable for the module that it loads. -/
theorem ModuleItem.eq_record_of_forwards (hitem : item.forwards = true) {g : String × Expr}
    (hg : g ∈ (item.contribution record).getters) {origin : Origin} {name : String}
    (hvalue : g.2 = .identifier origin name) : name = record := by
  cases item with
  | «import» source clauses =>
    obtain rfl := List.isEmpty_iff.mp hitem
    cases hg
  | exportNames source clauses =>
    obtain ⟨source, rfl⟩ := Option.isSome_iff_exists.mp hitem
    obtain ⟨clause, -, rfl⟩ := List.mem_map.mp hg
    cases clause with
    | named => cases hvalue
    | «namespace» =>
      cases hvalue
      rfl
  | _ => cases hitem

/-- A module that only forwards is plain. -/
theorem Module.isPlain_of_forwards {items : List ModuleItem}
    (hitems : ∀ item ∈ items, item.forwards = true)
    (hstrings : ∀ item ∈ items, ∀ s ∈ item.strings, KeepsNulls s) :
    Module.IsPlain ⟨none, items⟩ where
  interpreter_eq := rfl
  helpers_eq := by
    refine List.filter_eq_nil_iff.mpr fun h _ => ?_
    rw [List.any_eq_true]
    rintro ⟨c, hc, hhelper⟩
    obtain ⟨before, item, after, rfl, rfl⟩ := mem_contributions.mp hc
    have hitem := hitems item (List.mem_append_right _ List.mem_cons_self)
    rw [ModuleItem.helper_of_forwards hitem] at hhelper
    cases hhelper
  strings := hstrings
  exported := by
    intro g hg origin name hvalue
    obtain ⟨c, hc, hg⟩ := List.mem_flatMap.mp hg
    obtain ⟨before, item, after, rfl, rfl⟩ := mem_contributions.mp hc
    have hitem := hitems item (List.mem_append_right _ List.mem_cons_self)
    rw [ModuleItem.eq_record_of_forwards hitem hg hvalue]
    exact isPlainName_recordName _
  own := by
    intro s hs
    obtain ⟨item, hitem, hs⟩ := List.mem_flatMap.mp hs
    have hforwards := hitems item hitem
    cases item with
    | «import» | exportNames => cases hs
    | _ => cases hforwards

end Forwarding

/-! ## Data -/

section Data

open Json

/-- Outside of patterns, the parts of a list are replaced one by one. -/
theorem Script.Node.relink_ofList_eq_self {c : Category} {ns : List (Node c)} {l : Links}
    (hl : l.inBinding = false) (h : ∀ n ∈ ns, n.relink l = n) :
    (Node.ofList ns).relink l = .ofList ns := by
  induction ns with
  | nil => rfl
  | cons n ns ih =>
    obtain ⟨hn, hns⟩ := List.forall_mem_cons.mp h
    have hafter : l.after n = l := by
      rw [Links.after, hl]
      rfl
    change Node.cons (n.relink l) ((Node.ofList ns).relink (l.after n)) = _
    rw [hn, hafter, ih hns]
    rfl

/-- In data there is nothing to replace. -/
theorem relink_expression {v : Value} (hv : v.IsFinite) {l : Links} (hl : l.inBinding = false) :
    v.expression.relink l = v.expression := by
  have hsigned : ∀ (negative : Bool) (r : Binary64),
      (signed negative r).relink l = signed negative r := by
    rintro (_ | _) r <;> rfl
  induction hv with
  | null | bool | string => rfl
  | integer =>
    rw [Value.expression]
    exact hsigned _ _
  | real negative =>
    rw [Value.expression]
    exact hsigned negative _
  | array _ ih =>
    refine congrArg (Node.array · false) (Node.relink_ofList_eq_self hl ?_)
    rw [elementNodes_eq_map]
    exact List.forall_mem_map.mpr fun v hv =>
      congrArg (fun e => Node.present (.plainElement e)) (ih v hv)
  | object _ ih =>
    refine congrArg Node.object (Node.relink_ofList_eq_self hl ?_)
    rw [propertyNodes_eq_map]
    exact List.forall_mem_map.mpr fun f hf => congrArg (Node.keyValue _) (ih f hf)

/-- A module of one export of data is plain. -/
theorem Module.isPlain_exportDefault {v : Value} (hv : v.IsFinite) :
    Module.IsPlain ⟨none, [.exportDefault v.expression]⟩ where
  interpreter_eq := rfl
  helpers_eq := rfl
  strings := List.forall_mem_singleton.mpr (List.forall_mem_singleton.mpr (by decide))
  exported := by
    refine List.forall_mem_singleton.mpr fun origin name heq => ?_
    cases heq
    exact IntroducedName.defaultExport.isPlainName_text
  own := by
    refine List.forall_mem_singleton.mpr ?_
    rw [lowered_of_not_isScript rfl]
    have hrelink : ∀ l : Links,
        (Build.var defaultName v.expression).relink l = Build.var defaultName v.expression :=
      fun _ => congrArg (Build.var defaultName) (relink_expression hv rfl)
    rw [hrelink]
    exact ⟨_, .var IntroducedName.defaultExport.isPlainName_text (phrase_expression hv)⟩

end Data

end ModuleBundler
