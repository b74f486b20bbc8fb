import ModuleBundler.Proofs.Module.Generated
import ModuleBundler.Proofs.Module.Introduced
import ModuleBundler.Proofs.Module.Reading

/-!
Whether the names that lowering introduces mean what they are meant to in the factory of the
module. Nothing makes them fresh: a module may declare the same names, at its top level or around
a reference to an import, and then takes them over. The main result says that it happens in no
other way.
-/

set_option autoImplicit false

namespace ModuleBundler

open Script

namespace Module

/-! ## Meanings -/

/-- An introduced name at a position of the factory means what it is meant to: it refers to where
it is to be declared, and of all declarations of the name there only those of lowering exist. -/
structure MeansRight (m : Module) (x : IntroducedName) (π : List Nat) : Prop where
  scope : (factoryOf m.lower.body).scopeOf? x.text π = x.scope
  declared : (m.declarers x.text).Perm (m.declarationsOf x)

/-- The module declares a name itself, at its top level or around a position in one of its
statements. -/
inductive Captures (m : Module) (name : String) : List Nat → Prop
  | atTop {π : List Nat} (h : name ∈ m.userNames) : Captures m name π
  | around {k : Nat} {s : Statement} {ρ : List Nat} (hs : m.statements[k]? = some s)
      (hρ : (Tree.at? ⟨_, s⟩ ρ).isSome) (h : name ∈ Tree.declaredAt ⟨_, s⟩ ρ) (σ : List Nat) :
      Captures m name (statementPosition (m.generatedStatements.length + k) ++ (ρ ++ σ))

/-! ## Names in generated statements -/

/-- An introduced name is declared by nothing in between, and has a meaning. -/
def Sound (m : Module) (name : String) (names : List String) : Prop :=
  ∀ x : IntroducedName, x.text = name → name ∉ names ∧ (m.Provides x ∨ name ∈ m.userNames)

section Generated

variable {m : Module}

theorem sound_text {x : IntroducedName} (hx : m.Provides x) : m.Sound x.text [] := by
  intro y hy
  obtain rfl := IntroducedName.text_injective hy
  exact ⟨List.not_mem_nil, .inl hx⟩

theorem sound_of_mem_userNames {name : String} (h : name ∈ m.userNames) : m.Sound name [] :=
  fun _ _ => ⟨List.not_mem_nil, .inr h⟩

theorem Sound.arguments {name : String} {names : List String} (h : m.Sound name names) :
    m.Sound name (names ++ ["arguments"]) := by
  intro x hx
  obtain ⟨hnames, hprovided⟩ := h x hx
  refine ⟨?_, hprovided⟩
  rw [List.mem_append, List.mem_singleton, ← hx]
  rw [← hx] at hnames
  exact not_or_intro hnames (x.text_ne List.mem_cons_self)

theorem references_declaration (h : InteropHelper) : h.declaration.References m.Sound := by
  -- each name in a helper is local to it, but for `Object`
  have hcheck : ((Tree.positions 60 ⟨_, h.declaration⟩).all fun π => π.length < 60 &&
      (Tree.generatedAt? ⟨_, h.declaration⟩ π).all fun name =>
        name ∈ ["m", "k", "ns", "from", "to"] ∨
          name = "Object" ∧ name ∉ Tree.declaredAt ⟨_, h.declaration⟩ π) = true := by
    cases h <;> decide +kernel
  intro π name hname x hx
  have hπ := Tree.of_all_positions hcheck (Tree.generatedAt?_eq_some.mp hname)
  rw [hname, Option.all_some, decide_eq_true_eq] at hπ
  rcases hπ with hlocal | ⟨rfl, hfree⟩
  · exact absurd hx (x.text_ne (List.mem_cons_of_mem _ (List.mem_cons_of_mem _ hlocal)))
  · obtain rfl := (IntroducedName.text_injective.eq_iff (b := .object)).mp hx
    exact ⟨hfree, .inl trivial⟩

theorem references_defineExport (exported : String) {descriptor : Expr}
    (h : descriptor.References m.Sound) :
    (defineExport exported descriptor).References m.Sound := by
  refine references_run (references_call (references_dot _ (references_name ?_)) ?_)
  · exact sound_text (x := .object) trivial
  · refine List.forall_mem_cons.mpr ⟨references_name (sound_text (x := .exports) trivial), ?_⟩
    exact List.forall_mem_cons.mpr ⟨references_str _, List.forall_mem_singleton.mpr h⟩

theorem references_getterOf {value : Expr} (h : value.References m.Sound) :
    (getterOf value).References m.Sound := by
  refine references_object (List.forall_mem_cons.mpr ⟨Node.references_of_leaf rfl rfl, ?_⟩)
  refine List.forall_mem_singleton.mpr (references_lambda_returns ?_)
  exact fun π name hname => (h π name hname).arguments

theorem references_requireCall (source : String) : (requireCall source).References m.Sound :=
  references_call (references_name (sound_text (x := .require) trivial))
    (List.forall_mem_singleton.mpr (references_str source))

theorem references_prologue {s : Statement} (hs : s ∈ m.prologue) : s.References m.Sound := by
  rcases List.mem_append.mp hs with hfixed | hhelper
  · rcases List.mem_pair.mp hfixed with rfl | rfl
    · exact references_run (references_str _)
    · refine references_defineExport _ (references_object ?_)
      exact List.forall_mem_singleton.mpr (Node.references_of_leaf rfl rfl)
  · obtain ⟨h, -, rfl⟩ := List.mem_map.mp hhelper
    exact references_declaration h

/-! ## Names of required modules -/

/-- A name is the variable for a required module that lowering declares, and nothing declares it in
between. -/
def ReadsRecord (m : Module) (name : String) (names : List String) : Prop :=
  names = [] ∧ ∃ n, name = recordName n ∧ m.Provides (.record n)

theorem ReadsRecord.sound {name : String} {names : List String} (h : m.ReadsRecord name names) :
    m.Sound name names := by
  obtain ⟨rfl, n, rfl, hn⟩ := h
  exact sound_text hn

/-- An item that takes a variable for its required module declares it. -/
theorem provides_record {before after : List ModuleItem} {item : ModuleItem}
    (hitems : m.items = before ++ item :: after) (hitem : item.takesRecord = true) :
    m.Provides (.record (before.countP (·.takesRecord))) := by
  have hcontribution : item.contribution (recordName (before.countP (·.takesRecord))) ∈
      m.contributions := by
    refine mem_contributions.mpr ⟨before, item, after, hitems, ?_⟩
    rw [Nat.zero_add]
  cases item with
  | «import» source clauses =>
    cases clauses with
    | nil => cases hitem
    | cons clause rest => exact ⟨_, List.mem_flatMap.mpr ⟨_, hcontribution, List.mem_cons_self⟩⟩
  | exportNames source clauses =>
    cases source with
    | none => cases hitem
    | some source => exact ⟨_, List.mem_flatMap.mpr ⟨_, hcontribution, List.mem_cons_self⟩⟩
  | _ => cases hitem

theorem references_prescribed {Q : String → List String → Prop} (clause : ImportClause)
    {record : String} (h : Q record []) : (clause.prescribed record).References Q := by
  rw [← ImportClause.value_eq_prescribed]
  cases clause with
  | «namespace» => exact references_name h
  | _ => exact references_itemAt (references_name h) (references_str _)

theorem Imports.references {name : String} {e : Expr} (h : m.Imports name e) :
    e.References m.ReadsRecord := by
  obtain ⟨before, source, clauses, after, hitems, clause, hclause, -, rfl⟩ := h
  have htakes : (ModuleItem.import source clauses).takesRecord = true := by
    cases clauses with
    | nil => cases hclause
    | cons => rfl
  exact references_prescribed clause ⟨rfl, _, rfl, provides_record hitems htakes⟩

/-- What takes the place of a reference names only variables for required modules. -/
theorem references_replacement {l : Links}
    (hl : ∀ name e, l.find? name = some e → m.Imports name e) {role : Role} {part result : Tree}
    (h : Tree.Replacement l role part result) : result.2.References m.ReadsRecord := by
  have hresolve : ∀ name e, l.resolve? name = some e → m.Imports name e :=
    fun name e hsome => hl name e (Links.find?_of_resolve? hsome)
  cases h with
  | name hsome => exact (hresolve _ _ hsome).references
  | callee hsome =>
    refine Node.references_of_child rfl rfl (fun _ => rfl) ?_
    refine Node.references_of_child rfl rfl (fun _ => rfl) (Node.references_ofList ?_)
    refine List.forall_mem_cons.mpr ⟨Node.references_of_leaf rfl rfl, ?_⟩
    exact List.forall_mem_singleton.mpr (hresolve _ _ hsome).references
  | shorthand hsome =>
    exact Node.references_of_pair rfl rfl (fun _ => rfl) (Node.references_of_leaf rfl rfl)
      (hresolve _ _ hsome).references
  | fieldName hsome =>
    exact Node.references_of_child rfl rfl (fun _ => rfl) (hl _ _ hsome).references

/-! ## Names in requires and getters -/

/-- A helper through which an import is read is declared. -/
theorem provides_helper {before after : List ModuleItem} {item : ModuleItem} {h : InteropHelper}
    (hitems : m.items = before ++ item :: after)
    (hitem : (item.contribution (recordName (before.countP (·.takesRecord)))).helper = some h) :
    m.Provides (.helper h) := by
  have hall : h ∈ InteropHelper.all := by cases h <;> decide
  refine List.mem_filter.mpr ⟨hall, List.any_eq_true.mpr ⟨_, ?_, beq_iff_eq.mpr hitem⟩⟩
  refine mem_contributions.mpr ⟨before, item, after, hitems, ?_⟩
  rw [Nat.zero_add]

theorem references_requires {s : Statement} (hs : s ∈ m.requires) : s.References m.Sound := by
  obtain ⟨c, hc, hs⟩ := List.mem_flatMap.mp hs
  obtain ⟨before, item, after, hitems, rfl⟩ := mem_contributions.mp hc
  rw [Nat.zero_add] at hs
  cases item with
  | «import» source clauses =>
    cases clauses with
    | nil =>
      rw [List.mem_singleton.mp hs]
      exact references_run (references_requireCall source)
    | cons clause rest =>
      rw [List.mem_singleton.mp hs]
      refine references_var _ ?_
      cases hhelper : interopOf (clause :: rest) with
      | none => exact references_requireCall source
      | some h =>
        have hprovided : m.Provides (.helper h) := provides_helper hitems hhelper
        exact references_call (references_name (sound_text hprovided))
          (List.forall_mem_singleton.mpr (references_requireCall source))
  | exportNames source clauses =>
    cases source with
    | none => cases hs
    | some source =>
      rw [List.mem_singleton.mp hs]
      exact references_var _ (references_requireCall source)
  | exportAll source =>
    rw [List.mem_singleton.mp hs]
    have hprovided : m.Provides (.helper .star) := provides_helper hitems rfl
    refine references_run (references_call (references_name (sound_text hprovided)) ?_)
    refine List.forall_mem_cons.mpr ⟨references_requireCall source, ?_⟩
    exact List.forall_mem_singleton.mpr (references_name (sound_text (x := .exports) trivial))
  | _ => cases hs

/-- A name that is replaced gives way to one for a required module. -/
theorem references_relink_identifier {origin : Origin} {name : String}
    (h : origin = .generated → m.Sound name []) :
    ((Node.identifier origin name).relink m.links).References m.Sound := by
  change (m.links.identifier origin name).References m.Sound
  rw [Links.identifier]
  cases hresolve : m.links.resolve? name with
  | none =>
    cases origin with
    | written => exact Node.references_of_leaf rfl rfl
    | generated => exact references_name (h rfl)
  | some e =>
    have himports := imports_of_find? (Links.find?_of_resolve? hresolve)
    exact fun π name hname => (himports.references π name hname).sound

theorem references_relink_lookup {record : String} (imported : String) (h : m.Sound record []) :
    ((lookup record imported).relink m.links).References m.Sound :=
  references_itemAt (references_relink_identifier fun _ => h) (references_str imported)

/-- The names in a getter have a meaning, those that the module chose for itself included. -/
theorem references_getter (hw : m.IsWritten) {g : String × Expr} (hg : g ∈ m.getters) :
    (g.2.relink m.links).References m.Sound := by
  obtain ⟨c, hc, hg⟩ := List.mem_flatMap.mp hg
  obtain ⟨before, item, after, hitems, rfl⟩ := mem_contributions.mp hc
  rw [Nat.zero_add] at hg
  have hitem : item ∈ m.items := by
    rw [hitems]
    exact List.mem_append_right _ List.mem_cons_self
  have hown : ∀ s, s ∈ m.userStatements → ∀ name ∈ s.topNames, m.Sound name [] :=
    fun s hs name hname => sound_of_mem_userNames (mem_userNames.mpr ⟨s, hs, hname⟩)
  have hdefault : ∀ s, s ∈ m.defaultStatements → m.Sound defaultName [] :=
    fun s hs => sound_text (x := .defaultExport) (List.ne_nil_of_mem hs)
  cases item with
  | exportDeclaration s =>
    obtain ⟨name, -, rfl⟩ := List.mem_map.mp hg
    exact references_relink_identifier fun horigin => by cases horigin
  | exportNames source clauses =>
    cases source with
    | none =>
      obtain ⟨clause, hclause, rfl⟩ := List.mem_map.mp hg
      obtain ⟨name, exported, rfl⟩ := hw _ hitem clause hclause
      exact references_relink_identifier fun horigin => by cases horigin
    | some source =>
      have hrecord := sound_text (provides_record hitems rfl)
      obtain ⟨clause, -, rfl⟩ := List.mem_map.mp hg
      cases clause with
      | named name exported => exact references_relink_lookup name hrecord
      | «namespace» exported => exact references_relink_identifier fun _ => hrecord
  | exportDefaultFunction name f =>
    rw [List.mem_singleton.mp hg]
    refine references_relink_identifier fun _ => ?_
    cases name with
    | none => exact hdefault _ (List.mem_flatMap.mpr ⟨_, hitem, List.mem_cons_self⟩)
    | some name =>
      exact hown _ (List.mem_flatMap.mpr ⟨_, hitem, List.mem_cons_self⟩) name List.mem_cons_self
  | exportDefaultClass name heritage members =>
    rw [List.mem_singleton.mp hg]
    refine references_relink_identifier fun _ => ?_
    cases name with
    | none => exact hdefault _ (List.mem_flatMap.mpr ⟨_, hitem, List.mem_cons_self⟩)
    | some name =>
      exact hown _ (List.mem_flatMap.mpr ⟨_, hitem, List.mem_cons_self⟩) name List.mem_cons_self
  | exportDefault value =>
    rw [List.mem_singleton.mp hg]
    exact references_relink_identifier fun _ =>
      hdefault _ (List.mem_flatMap.mpr ⟨_, hitem, List.mem_cons_self⟩)
  | «import» source clauses => cases clauses <;> cases hg
  | _ => cases hg

theorem references_generatedStatements (hw : m.IsWritten) {s : Statement}
    (hs : s ∈ m.generatedStatements) : s.References m.Sound := by
  rw [generatedStatements, List.mem_append, List.mem_append] at hs
  rcases hs with (hprologue | hgetter) | hrequire
  · exact references_prologue hprologue
  · obtain ⟨g, hg, rfl⟩ := List.mem_map.mp hgetter
    exact references_defineExport g.1 (references_getterOf (references_getter hw hg))
  · exact references_requires hrequire

end Generated

/-! ## Names in the statements of the module -/

section Own

variable {m : Module} {s : Statement} {ρ : List Nat}

theorem generatedName?_relink {c : Category} (n : Node c) (l : Links) (hn : n.children ≠ []) :
    (n.relink l).generatedName? = none := by
  cases n with
  | identifier => exact absurd rfl hn
  | shorthand => exact absurd rfl hn
  | declarationHead kind => cases kind <;> rfl
  | _ => rfl

/-- In a statement of the module only variables for required modules are introduced. The names
declared around one of them are those declared around the reference that gave way to it. -/
theorem exists_of_generatedAt?_relink (hs : Tree.IsWritten ⟨_, s⟩) {name : String}
    (h : Tree.generatedAt? ⟨_, s.relink m.links⟩ ρ = some name) :
    (∃ n, name = recordName n ∧ m.Provides (.record n)) ∧
      ∃ ρ₀ σ, ρ = ρ₀ ++ σ ∧ (Tree.at? ⟨_, s⟩ ρ₀).isSome ∧
        Tree.declaredAt ⟨_, s.relink m.links⟩ ρ = Tree.declaredAt ⟨_, s⟩ ρ₀ := by
  obtain ⟨ρ₀, σ, part, rfl, hρ₀, hσ, hpart⟩ :=
    Tree.at?_relink_eq_some (t := ⟨_, s⟩) (Tree.generatedAt?_eq_some.mp h)
  have hafter := Tree.at?_relink hρ₀ m.links
  have hdeclared : Tree.declaredAt ⟨_, s.relink m.links⟩ ρ₀ = Tree.declaredAt ⟨_, s⟩ ρ₀ := by
    rw [← Node.relinkAs_plain]
    exact Tree.declaredAt_relinkAs hρ₀ .plain m.links
  have hname := Tree.generatedAt?_eq_some.mpr hpart
  by_cases hleaf : part.2.children = []
  · rcases Tree.relinkAs_of_leaf hleaf (Tree.roleAt ⟨_, s⟩ ρ₀) (Tree.linksAt ⟨_, s⟩ ρ₀ m.links)
      with hsame | hreplaced
    · -- what was not replaced was written
      rw [hsame] at hpart
      have hwritten := hs ρ₀ part hρ₀
      obtain ⟨-, rfl⟩ := Tree.at?_of_leaf hleaf hpart
      cases hwritten
    · obtain ⟨hnone, n, hn, hprovided⟩ := references_replacement
        (fun _ _ hfind => imports_of_find?_linksAt hfind) hreplaced σ name hname
      refine ⟨⟨n, hn, hprovided⟩, ρ₀, σ, rfl, Option.isSome_of_eq_some hρ₀, ?_⟩
      rw [Tree.declaredAt_append hafter, hdeclared]
      exact (congrArg (· ++ _) hnone).trans (List.nil_append _)
  · obtain rfl := hσ.resolve_right hleaf
    rw [Tree.generatedAt?_nil, Tree.relinkAs, Node.relinkAs_of_children _ _ _ hleaf,
      generatedName?_relink _ _ hleaf] at hname
    cases hname

end Own

/-! ## Lowered modules -/

section Main

variable {m : Module} {x : IntroducedName}

theorem captures_iff_of_generated {i : Nat} (hi : i < m.generatedStatements.length) {name : String}
    {ρ : List Nat} : m.Captures name (statementPosition i ++ ρ) ↔ name ∈ m.userNames := by
  constructor
  · intro h
    generalize hπ : statementPosition i ++ ρ = π at h
    cases h with
    | atTop h => exact h
    | around =>
      obtain ⟨hik, -⟩ := statementPosition_append_inj.mp hπ
      omega
  · exact .atTop

theorem captures_iff_of_own {k : Nat} {s : Statement} (hs : m.statements[k]? = some s)
    {name : String} {ρ σ : List Nat} (hρ : (Tree.at? ⟨_, s⟩ ρ).isSome)
    (hdeclared : Tree.declaredAt ⟨_, s.relink m.links⟩ (ρ ++ σ) = Tree.declaredAt ⟨_, s⟩ ρ) :
    m.Captures name (statementPosition (m.generatedStatements.length + k) ++ (ρ ++ σ)) ↔
      name ∈ m.userNames ∨ name ∈ Tree.declaredAt ⟨_, s⟩ ρ := by
  constructor
  · intro h
    generalize hπ : statementPosition (m.generatedStatements.length + k) ++ (ρ ++ σ) = π at h
    cases h with
    | atTop h => exact .inl h
    | @around k' s' ρ' hs' hρ' h σ' =>
      obtain ⟨hkk', hsplit⟩ := statementPosition_append_inj.mp hπ
      obtain rfl : k = k' := by omega
      obtain rfl := Option.some.inj (hs.symm.trans hs')
      obtain ⟨part, hpart⟩ := Option.isSome_iff_exists.mp hρ'
      right
      rw [← hdeclared, hsplit, Tree.declaredAt_append (Tree.at?_relink hpart m.links),
        List.mem_append]
      right
      rw [← Node.relinkAs_plain]
      have hsame := Tree.declaredAt_relinkAs hpart .plain m.links
      rw [Tree.relinkAs] at hsame
      rw [hsame]
      exact h
  · rintro (htop | haround)
    · exact .atTop htop
    · exact .around hs hρ haround σ

/-- An introduced name means what it is meant to unless something declares it anew. -/
theorem meansRight_iff_not_mem (hm : m.isScript = false) {i : Nat} {s : Statement}
    (hs : m.lower.body[i]? = some s) {ρ : List Nat} (hρ : (Tree.at? ⟨_, s⟩ ρ).isSome)
    (hx : m.Provides x ∨ x.text ∈ m.userNames) :
    m.MeansRight x (statementPosition i ++ ρ) ↔
      x.text ∉ m.userNames ∧ x.text ∉ Tree.declaredAt ⟨_, s⟩ ρ := by
  obtain ⟨part, hpart⟩ := Option.isSome_iff_exists.mp hρ
  have hscope := scopeOf?_factoryOf hs x.text ρ
  have hdeclared := declarers_perm_declarationsOf_iff x hm
  constructor
  · rintro ⟨hmeant, hperm⟩
    refine ⟨hdeclared.mp hperm, fun haround => ?_⟩
    cases hinner : Tree.scopeOf? x.text ⟨_, s⟩ ρ with
    | none => exact (Tree.scopeOf?_eq_none_iff hpart).mp hinner haround
    | some σ =>
      -- the declaration is inside a statement, and that of the factory is around all of them
      rw [hmeant, hinner, Option.map_some, Option.some_or, statementPosition_append] at hscope
      cases x <;> cases hscope
  · rintro ⟨htop, haround⟩
    have hperm := hdeclared.mpr htop
    refine ⟨?_, hperm⟩
    rw [hscope, (Tree.scopeOf?_eq_none_iff hpart).mpr haround, Option.map_none, Option.none_or]
    exact scope_of_perm (hx.resolve_right htop) hperm

/-- **An introduced name means what it is meant to exactly where the module does not capture
it.** -/
theorem meansRight_iff (hm : m.isScript = false) (hw : m.IsWritten) {π : List Nat}
    (h : (factoryOf m.lower.body).generatedAt? π = some x.text) :
    m.MeansRight x π ↔ ¬ m.Captures x.text π := by
  obtain ⟨i, s, ρ, hs, rfl, hname⟩ := exists_of_generatedAt?_factoryOf h
  have hρ := Option.isSome_of_eq_some (Tree.generatedAt?_eq_some.mp hname)
  have hbody := hs
  rw [lower_body_eq hm] at hbody
  by_cases hi : i < m.generatedStatements.length
  · rw [List.getElem?_append_left hi] at hbody
    obtain ⟨hfree, hx⟩ :=
      references_generatedStatements hw (List.mem_of_getElem? hbody) ρ _ hname x rfl
    rw [meansRight_iff_not_mem hm hs hρ hx, captures_iff_of_generated hi]
    exact and_iff_left hfree
  · obtain ⟨k, rfl⟩ := Nat.exists_eq_add_of_le (Nat.le_of_not_lt hi)
    rw [List.getElem?_append_right (Nat.le_add_right _ _), Nat.add_sub_cancel_left,
      List.getElem?_map, Option.map_eq_some_iff] at hbody
    obtain ⟨s₀, hs₀, rfl⟩ := hbody
    obtain ⟨⟨n, hn, hprovided⟩, ρ₀, σ, rfl, hρ₀, hdeclared⟩ :=
      exists_of_generatedAt?_relink (hw.statements s₀ (List.mem_of_getElem? hs₀)) hname
    obtain rfl := (IntroducedName.text_injective.eq_iff (b := .record n)).mp hn
    rw [meansRight_iff_not_mem hm hs hρ (.inl hprovided), captures_iff_of_own hs₀ hρ₀ hdeclared,
      hdeclared, not_or]

/-- An introduced name stays in a getter if it is not the name of an import as well. -/
theorem generatedAt?_relink_getter {t : Tree} {π : List Nat}
    (h : t.generatedAt? π = some x.text) (hx : x.text ∉ m.importLocals) :
    Tree.generatedAt? ⟨t.1, t.2.relink m.links⟩ π = some x.text := by
  have hπ := Tree.generatedAt?_eq_some.mp h
  rw [Tree.generatedAt?, Tree.at?_relink hπ]
  rcases Tree.relinkAs_of_leaf (t := ⟨_, .identifier .generated x.text⟩) rfl (t.roleAt π)
    (t.linksAt π m.links) with hsame | hreplaced
  · rw [hsame]
    rfl
  · refine absurd ?_ hx
    generalize Tree.relinkAs ⟨_, .identifier .generated x.text⟩ (t.roleAt π)
      (t.linksAt π m.links) = result at hreplaced
    generalize t.roleAt π = role at hreplaced
    cases hreplaced with
    | name hresolve => exact (imports_of_resolve?_linksAt hresolve).mem_importLocals
    | callee hresolve => exact (imports_of_resolve?_linksAt hresolve).mem_importLocals

/-! ## Parameters -/

/-- The names that a statement declares with `let`, `const` or as a class. -/
def letNames : Statement → List String
  | .variableDeclaration .lexical declarators => declarators.boundNames
  | .variableDeclaration .constant declarators => declarators.boundNames
  | .classDeclaration name _ _ => [name]
  | _ => []

theorem letNames_relink (s : Statement) (l : Links) : letNames (s.relink l) = letNames s := by
  cases s with
  | variableDeclaration kind declarators =>
    cases kind with
    | var => rfl
    | _ => exact declarators.boundNames_relink l
  | _ => rfl

theorem letNames_of_mem_generatedStatements {s : Statement} (hs : s ∈ m.generatedStatements) :
    letNames s = [] := by
  rw [generatedStatements, List.mem_append, List.mem_append] at hs
  rcases hs with (hprologue | hgetter) | hrequire
  · rcases List.mem_append.mp hprologue with hfixed | hhelper
    · rcases List.mem_pair.mp hfixed with rfl | rfl <;> rfl
    · obtain ⟨h, -, rfl⟩ := List.mem_map.mp hhelper
      cases h <;> rfl
  · obtain ⟨g, -, rfl⟩ := List.mem_map.mp hgetter
    rfl
  · rcases exists_of_mem_requires hrequire with ⟨e, rfl⟩ | ⟨n, e, rfl⟩ <;> rfl

theorem mem_topNames_of_mem_letNames {s : Statement} {name : String} (h : name ∈ letNames s) :
    name ∈ s.topNames := by
  cases s with
  | variableDeclaration kind declarators =>
    cases kind with
    | var => cases h
    | _ => exact h
  | classDeclaration => exact h
  | _ => cases h

/-- A parameter of the factory is declared anew only by the module. -/
theorem redeclares_iff (hm : m.isScript = false) {name : String}
    (hname : name ∈ factoryParameters) :
    (∃ s ∈ m.lower.body, name ∈ letNames s) ↔ ∃ s ∈ m.userStatements, name ∈ letNames s := by
  rw [lower_body_eq hm]
  constructor
  · rintro ⟨s, hs, hlet⟩
    rcases List.mem_append.mp hs with hgenerated | hown
    · rw [letNames_of_mem_generatedStatements hgenerated] at hlet
      cases hlet
    · obtain ⟨s₀, hs₀, rfl⟩ := List.mem_map.mp hown
      rw [letNames_relink] at hlet
      rcases List.mem_append.mp (m.statements_perm.mem_iff.mp hs₀) with huser | hdefault
      · exact ⟨s₀, huser, hlet⟩
      · have hdefaultName := mem_topNames_of_mem_letNames hlet
        rw [topNames_of_mem_defaultStatements hdefault] at hdefaultName
        obtain rfl := List.mem_singleton.mp hdefaultName
        exact absurd hname (by decide)
  · rintro ⟨s, hs, hlet⟩
    have hmem : s ∈ m.statements := m.statements_perm.mem_iff.mpr (List.mem_append_left _ hs)
    refine ⟨s.relink m.links, List.mem_append_right _ (List.mem_map_of_mem hmem), ?_⟩
    rw [letNames_relink]
    exact hlet

end Main

/-! ## Hygiene -/

/-- No introduced name is captured, wherever it stands, and no parameter of the factory is declared
anew. -/
structure IsHygienic (m : Module) : Prop where
  means : ∀ x π, (factoryOf m.lower.body).generatedAt? π = some x.text → m.MeansRight x π
  parameters : ∀ name ∈ factoryParameters, ∀ s ∈ m.lower.body, name ∉ letNames s

/-- What keeps a lowered module hygienic, and nothing but that: the module declares none of the
names that are introduced, neither at its top level nor around a position where one of them gets,
imports none of them that a getter reads, and does not declare a parameter of its factory anew. -/
structure IsHygienicUnlessCaptured (m : Module) : Prop where
  means : ∀ x π, (factoryOf m.lower.body).generatedAt? π = some x.text →
    (m.MeansRight x π ↔ ¬ m.Captures x.text π)
  getters : ∀ g ∈ m.getters, ∀ (x : IntroducedName) π,
    Tree.generatedAt? ⟨_, g.2⟩ π = some x.text → x.text ∉ m.importLocals →
      Tree.generatedAt? ⟨_, g.2.relink m.links⟩ π = some x.text
  parameters : ∀ name ∈ factoryParameters,
    ((∃ s ∈ m.lower.body, name ∈ letNames s) ↔ ∃ s ∈ m.userStatements, name ∈ letNames s)

/-- **Hygiene up to capture by the module itself.** In the factory of a module that imports or
exports, each introduced name means the parameter, the global or the declaration that it is meant to
exactly where the module does not capture it. -/
theorem isHygienicUnlessCaptured {text : List Char} {m : Module} (h : Module.ofText text = .ok m)
    (hm : m.isScript = false) : m.IsHygienicUnlessCaptured where
  means _ _ := meansRight_iff hm (isWritten_of_ofText h)
  getters _ _ _ _ := generatedAt?_relink_getter
  parameters _ := redeclares_iff hm

/-- A function whose parameter has the name of the variable for a required module, and a variable
with the name of a parameter of the factory. -/
def capturingSource : String :=
  "import \x7ba\x7d from './x';\nfunction g(__pumice_import_0) \x7b return a; \x7d\nlet exports;"

theorem isHygienicUnlessCaptured_capturingSource :
    ∃ m, Module.ofText capturingSource.toList = .ok m ∧ m.isScript = false ∧
      m.IsHygienicUnlessCaptured := by
  have hcheck : (Module.ofText capturingSource.toList).toOption.any (!·.isScript) = true := by
    decide +kernel
  obtain ⟨m, hm, hpassed⟩ := exists_ok_of_any hcheck
  rw [Bool.not_eq_true'] at hpassed
  exact ⟨m, hm, hpassed, isHygienicUnlessCaptured hm hpassed⟩

/-- The function reads a property of its own argument, and the module hides what it exports. -/
theorem not_isHygienic_capturingSource :
    ∃ m, Module.ofText capturingSource.toList = .ok m ∧ m.isScript = false ∧
      (∃ x π, (factoryOf m.lower.body).generatedAt? π = some x.text ∧ ¬ m.MeansRight x π) ∧
      (∃ s ∈ m.lower.body, "exports" ∈ letNames s) ∧ ¬ m.IsHygienic := by
  have hcheck : (Module.ofText capturingSource.toList).toOption.any (fun m => !m.isScript &&
      decide ((factoryOf m.lower.body).generatedAt?
        (statementPosition 3 ++ [0, 1, 0, 0, 0, 0]) = some (recordName 0)) &&
      decide ((factoryOf m.lower.body).scopeOf? (recordName 0)
        (statementPosition 3 ++ [0, 1, 0, 0, 0, 0]) = some (statementPosition 3 ++ [0])) &&
      m.lower.body.any fun s => decide ("exports" ∈ letNames s)) = true := by
    decide +kernel
  obtain ⟨m, hm, hpassed⟩ := exists_ok_of_any hcheck
  simp only [Bool.and_eq_true, Bool.not_eq_true', decide_eq_true_eq, List.any_eq_true] at hpassed
  obtain ⟨⟨⟨hscript, hname⟩, hscope⟩, s, hs, hlet⟩ := hpassed
  have hwrong : ¬ m.MeansRight (.record 0) (statementPosition 3 ++ [0, 1, 0, 0, 0, 0]) := by
    intro hmeans
    have hmeant := hmeans.scope.symm.trans hscope
    cases hmeant
  exact ⟨m, hm, hscript, ⟨_, _, hname, hwrong⟩, ⟨s, hs, hlet⟩,
    fun hhygienic => hwrong (hhygienic.means _ _ hname)⟩

end Module

end ModuleBundler
