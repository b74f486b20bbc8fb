import Mathlib.Data.List.Count
import ModuleBundler.Proofs.Module.Exports

/-!
The names that lowering makes, as what they are in the script: references and declarations. They are
closed, that is, each reference has its one declaration, and there are no more declarations than
references ask for: a helper is declared for its calls, the variables for required modules are
numbered without gaps, and the variable for a default export is there when it has no name.

All of it is for modules that keep away from reserved names (`Module.AvoidsReserved`); what becomes
of the others is a matter of capture. Each reference is led back to what lowering provides, and what
is provided to its place in the script. Three facts carry the rest: nothing in the prologue refers
to a reserved name (`notIsReserved_of_mem_prologue`), so what calls a helper comes after it; the
variables of later items have larger numbers (`pairwise_requires`); and a number that is too large
is declared nowhere.
-/

set_option autoImplicit false

namespace ModuleBundler

open Script

namespace Module

/-! ## Places of the lowered module -/

/-- The statement at a place of the lowered module declares a name for all of it. -/
def DeclaresAt (m : Module) (i : Nat) (name : String) : Prop :=
  ∃ s, m.lower.body[i]? = some s ∧ name ∈ s.topNames

/-- The statement at a place of the lowered module is the only one that declares the name. -/
def DeclaresOnceAt (m : Module) (i : Nat) (name : String) (s : Statement) : Prop :=
  m.lower.body[i]? = some s ∧ ∀ j, m.DeclaresAt j name ↔ j = i

/-- At a position of the statement at a place stands a name that lowering has put there. -/
def NamesAt (m : Module) (k : Nat) (π : List Nat) (name : String) : Prop :=
  ∃ s, m.lower.body[k]? = some s ∧ Tree.generatedAt? ⟨_, s⟩ π = some name

/-- What lowering has put at a position of the statement at a place is a call of the name. -/
def CallsAt (m : Module) (k : Nat) (π : List Nat) (name : String) : Prop :=
  ∃ s arguments, m.lower.body[k]? = some s ∧
    Tree.at? ⟨_, s⟩ π = some ⟨_, .call false (.identifier .generated name) arguments⟩

/-- No name that the module declares, imports, or exports without a source begins like those that
lowering makes, neither at its top level nor around any position of its statements. -/
structure AvoidsReserved (m : Module) : Prop where
  chosen : ∀ name ∈ m.chosenNames, ¬ IsReserved name
  around : ∀ s ∈ m.statements, ∀ π, (Tree.at? ⟨_, s⟩ π).isSome →
    ∀ name ∈ Tree.declaredAt ⟨_, s⟩ π, ¬ IsReserved name

/-- **What closed and minimal names are.** -/
structure HasClosedNames (m : Module) : Prop where
  /-- A helper is declared if and only if something calls it. -/
  helper_iff : ∀ h : InteropHelper, (∃ i, m.DeclaresAt i h.name) ↔ ∃ k π, m.CallsAt k π h.name
  /-- What calls a helper comes after its one declaration. -/
  helper_once : ∀ (h : InteropHelper) (k : Nat) (π : List Nat), m.CallsAt k π h.name →
    ∃ i < k, m.DeclaresOnceAt i h.name h.declaration
  /-- The variable for a required module that something refers to is declared once. -/
  record_once : ∀ (n k : Nat) (π : List Nat), m.NamesAt k π (recordName n) →
    ∃ i init, m.DeclaresOnceAt i (recordName n) (Build.var (recordName n) init)
  /-- The items that take a variable number them without gaps. -/
  record_iff : ∀ n, (∃ i, m.DeclaresAt i (recordName n)) ↔ n < m.items.countP (·.takesRecord)
  /-- They are declared in the order of their numbers. -/
  record_order : ∀ n n' i i' : Nat, m.DeclaresAt i (recordName n) →
    m.DeclaresAt i' (recordName n') → n < n' → i < i'
  /-- The number of an item is that of the items before it that take a variable. -/
  record_source : ∀ before item after, m.items = before ++ item :: after →
    item.takesRecord = true → ∃ source helper i, item.specifier? = some source ∧
      m.DeclaresOnceAt i (recordName (before.countP (·.takesRecord)))
        (Build.var (recordName (before.countP (·.takesRecord))) (requireThrough helper source))
  /-- With one default export at most, the variable for one without a name is declared, and then
  once, if and only if something refers to it. -/
  default : m.defaultStatements.length ≤ 1 →
    ((∃ k π, m.NamesAt k π defaultName) ↔ ∃ i, m.DeclaresAt i defaultName) ∧
      ∀ i, m.DeclaresAt i defaultName → ∃ s, m.DeclaresOnceAt i defaultName s
  /-- A reference to any of these names means what the lowered module declares. -/
  closed : ∀ (x : IntroducedName) (k : Nat) (π : List Nat), IsReserved x.text →
    m.NamesAt k π x.text →
      (factoryOf m.lower.body).scopeOf? x.text (statementPosition k ++ π) = some [0]

section Places

variable {m : Module} {k : Nat} {π : List Nat} {name : String}

/-- What is called is referred to. -/
theorem CallsAt.namesAt (h : m.CallsAt k π name) : m.NamesAt k (π ++ [0]) name := by
  obtain ⟨s, arguments, hs, hcall⟩ := h
  refine ⟨s, hs, Tree.generatedAt?_eq_some.mpr ?_⟩
  rw [Tree.at?_append, hcall]
  rfl

theorem declarers_ne_nil_iff : m.declarers name ≠ [] ↔ ∃ i, m.DeclaresAt i name := by
  rw [declarers, ne_eq, List.filter_eq_nil_iff]
  constructor
  · intro h
    by_contra hnone
    refine h fun s hs hmem => hnone ?_
    obtain ⟨i, hi⟩ := List.mem_iff_getElem?.mp hs
    exact ⟨i, s, hi, of_decide_eq_true hmem⟩
  · rintro ⟨i, s, hi, hmem⟩ h
    exact h s (List.mem_of_getElem? hi) (decide_eq_true hmem)

/-- Where one statement declares a name it does so at one place. -/
theorem exists_declaresOnceAt {s : Statement} (h : (m.declarers name).Perm [s]) :
    ∃ i, m.DeclaresOnceAt i name s := by
  rw [List.perm_singleton, declarers, List.filter_eq_cons_iff] at h
  obtain ⟨before, after, hbody, hbefore, hs, hafter⟩ := h
  rw [List.filter_eq_nil_iff] at hafter
  have hat : m.lower.body[before.length]? = some s := by
    rw [hbody, List.getElem?_append_right (Nat.le_refl _), Nat.sub_self]
    rfl
  refine ⟨before.length, hat, fun j => ⟨?_, ?_⟩⟩
  · rintro ⟨s', hs', hname⟩
    rw [hbody] at hs'
    by_contra hj
    by_cases hlt : j < before.length
    · rw [List.getElem?_append_left hlt] at hs'
      exact hbefore s' (List.mem_of_getElem? hs') (decide_eq_true hname)
    · obtain ⟨d, hd⟩ : ∃ d, j - before.length = d + 1 :=
        ⟨j - before.length - 1, by omega⟩
      rw [List.getElem?_append_right (by omega), hd, List.getElem?_cons_succ] at hs'
      exact hafter s' (List.mem_of_getElem? hs') (decide_eq_true hname)
  · rintro rfl
    exact ⟨s, hat, of_decide_eq_true hs⟩

end Places

/-! ## Scripts -/

section Scripts

variable {m : Module} (hm : m.isScript = true)

include hm

/-- No name in a script was put there. -/
theorem not_namesAt_of_isScript (hw : m.IsWritten) (k : Nat) (π : List Nat) (name : String) :
    ¬ m.NamesAt k π name := by
  rintro ⟨s, hs, hname⟩
  have hmem := List.mem_of_getElem? hs
  rw [lower_body_of_isScript hm] at hmem
  obtain ⟨s₀, hs₀, rfl⟩ := List.mem_map.mp hmem
  rw [lowered_of_isScript hm, (hw.statements s₀ hs₀).generatedAt?] at hname
  simp at hname

/-- A script declares the names that it chose. -/
theorem not_declaresAt_of_isScript (hnames : m.AvoidsReserved) {name : String}
    (hname : IsReserved name) (i : Nat) : ¬ m.DeclaresAt i name := by
  rintro ⟨s, hs, hmem⟩
  have hbody := List.mem_of_getElem? hs
  rw [lower, if_pos hm] at hbody
  obtain ⟨item, hitem, hstatement⟩ := List.mem_filterMap.mp hbody
  have huser : s ∈ m.userStatements := by
    refine List.mem_flatMap.mpr ⟨item, hitem, ?_⟩
    cases item with
    | statement s' => exact List.mem_singleton.mpr (Option.some.inj hstatement).symm
    | _ => cases hstatement
  have hchosen : name ∈ m.chosenNames :=
    List.mem_append_left _ (List.mem_append_left _ (mem_userNames.mpr ⟨s, huser, hmem⟩))
  exact hnames.chosen name hchosen hname

theorem countP_takesRecord_of_isScript : m.items.countP (·.takesRecord) = 0 := by
  rw [isScript, List.all_eq_true] at hm
  rw [List.countP_eq_zero]
  intro item hitem htakes
  have hstatement := hm item hitem
  rw [ModuleItem.statement?_of_takesRecord htakes] at hstatement
  simp at hstatement

theorem hasClosedNames_of_isScript (hw : m.IsWritten) (hnames : m.AvoidsReserved) :
    m.HasClosedNames := by
  have hnone := not_namesAt_of_isScript hm hw
  have hdeclared : ∀ {name}, IsReserved name → ∀ i, ¬ m.DeclaresAt i name :=
    fun hname => not_declaresAt_of_isScript hm hnames hname
  have hcount := countP_takesRecord_of_isScript hm
  have hhelper : ∀ h : InteropHelper, IsReserved h.name := by
    intro h
    unfold IsReserved
    cases h <;> decide
  refine ⟨fun h => ?_, fun h k π hcall => absurd hcall.namesAt (hnone _ _ _),
    fun n k π hname => absurd hname (hnone _ _ _), fun n => ?_,
    fun n n' i i' hi => absurd hi (hdeclared (isReserved_recordName n) i), ?_, fun _ => ⟨?_, ?_⟩,
    fun x k π _ hname => absurd hname (hnone _ _ _)⟩
  · refine iff_of_false ?_ ?_
    · rintro ⟨i, hi⟩
      exact hdeclared (hhelper h) i hi
    · rintro ⟨k, π, hcall⟩
      exact hnone _ _ _ hcall.namesAt
  · refine iff_of_false ?_ (by omega)
    rintro ⟨i, hi⟩
    exact hdeclared (isReserved_recordName n) i hi
  · intro before item after hitems htakes
    rw [List.countP_eq_zero] at hcount
    exact absurd htakes (hcount item (hitems ▸ List.mem_append_right _ List.mem_cons_self))
  · refine iff_of_false ?_ ?_
    · rintro ⟨k, π, hname⟩
      exact hnone _ _ _ hname
    · rintro ⟨i, hi⟩
      exact hdeclared isReserved_defaultName i hi
  · intro i hi
    exact absurd hi (hdeclared isReserved_defaultName i)

end Scripts

/-! ## References -/

section References

variable {m : Module} (hm : m.isScript = false)

/-- Nothing in the prologue refers to a name that lowering makes. -/
theorem notIsReserved_of_mem_prologue {s : Statement} (hs : s ∈ m.prologue) {π : List Nat}
    {name : String} (h : Tree.generatedAt? ⟨_, s⟩ π = some name) : ¬ IsReserved name := by
  -- whatever the module is, its prologue is made of these
  have hfixed : s ∈ [Build.run (Build.str "use strict"),
      defineExport InteropHelper.marker (Build.object [("value", .boolLiteral true)])] ++
      InteropHelper.all.map (·.declaration) := by
    have hsublist : m.helpers.Sublist InteropHelper.all := List.filter_sublist
    exact ((hsublist.map _).append_left _).subset hs
  have hcheck : ∀ s ∈ [Build.run (Build.str "use strict"),
      defineExport InteropHelper.marker (Build.object [("value", .boolLiteral true)])] ++
      InteropHelper.all.map (·.declaration),
      ((Tree.positions 60 ⟨_, s⟩).all fun π => π.length < 60 &&
        (Tree.generatedAt? ⟨_, s⟩ π).all fun name => !decide (IsReserved name)) = true := by
    decide +kernel
  have hπ := Tree.of_all_positions (hcheck s hfixed) (Tree.generatedAt?_eq_some.mp h)
  rw [h, Option.all_some, Bool.not_eq_true', decide_eq_false_iff_not] at hπ
  exact hπ

theorem notMem_userNames (hnames : m.AvoidsReserved) {name : String} (hname : IsReserved name) :
    name ∉ m.userNames := fun hmem =>
  hnames.chosen name (List.mem_append_left _ (List.mem_append_left _ hmem)) hname

include hm

/-- **A reserved name that is referred to has a meaning.** Lowering provides it, the reference is
to what is provided, and it comes after the prologue. -/
theorem provides_of_namesAt (hw : m.IsWritten) (hnames : m.AvoidsReserved) {x : IntroducedName}
    (hx : IsReserved x.text) {k : Nat} {π : List Nat} (h : m.NamesAt k π x.text) :
    m.Provides x ∧ m.MeansRight x (statementPosition k ++ π) ∧ m.prologue.length ≤ k := by
  obtain ⟨s, hs, hname⟩ := h
  have huser := notMem_userNames hnames hx
  have hπ := Option.isSome_of_eq_some (Tree.generatedAt?_eq_some.mp hname)
  have hk : m.prologue.length ≤ k := by
    by_contra hlt
    rw [lower_body_eq hm, generatedStatements, List.append_assoc, List.append_assoc,
      List.getElem?_append_left (by omega)] at hs
    exact notIsReserved_of_mem_prologue (List.mem_of_getElem? hs) hname hx
  have hprovided : m.Provides x ∧ x.text ∉ Tree.declaredAt ⟨_, s⟩ π := by
    have hmem := List.mem_of_getElem? hs
    rw [lower_body_eq hm] at hmem
    rcases List.mem_append.mp hmem with hgenerated | hown
    · obtain ⟨hfree, hx⟩ := references_generatedStatements hw hgenerated π _ hname x rfl
      exact ⟨hx.resolve_right huser, hfree⟩
    · obtain ⟨s₀, hs₀, rfl⟩ := List.mem_map.mp hown
      obtain ⟨⟨n, hn, hprovided⟩, π₀, σ, -, hπ₀, hdeclared⟩ :=
        exists_of_generatedAt?_relink (hw.statements s₀ hs₀) hname
      obtain rfl := (IntroducedName.text_injective.eq_iff (b := .record n)).mp hn
      refine ⟨hprovided, fun haround => ?_⟩
      rw [hdeclared] at haround
      exact hnames.around s₀ hs₀ π₀ hπ₀ _ haround hx
  refine ⟨hprovided.1, ?_, hk⟩
  exact (meansRight_iff_not_mem hm hs hπ (.inl hprovided.1)).mpr ⟨huser, hprovided.2⟩

omit hm in
theorem scope_of_isReserved {x : IntroducedName} (hx : IsReserved x.text) : x.scope = some [0] := by
  cases x with
  | object => exact absurd hx (by unfold IsReserved; decide)
  | _ => rfl

/-- Only lowering declares a reserved name. -/
theorem declarers_perm_of_isReserved (hnames : m.AvoidsReserved) {x : IntroducedName}
    (hx : IsReserved x.text) : (m.declarers x.text).Perm (m.declarationsOf x) :=
  (declarers_perm_declarationsOf_iff x hm).mpr (notMem_userNames hnames hx)

end References

/-! ## Helpers -/

section Helpers

variable {m : Module}

theorem isReserved_helper (h : InteropHelper) : IsReserved (IntroducedName.helper h).text := by
  unfold IsReserved
  cases h <;> decide

/-- An item that needs a helper calls it when it loads a module. -/
theorem ModuleItem.exists_call_of_helper {item : ModuleItem} {record : String} {h : InteropHelper}
    (hhelper : (item.contribution record).helper = some h) :
    ∃ s ∈ (item.contribution record).requires, ∃ π arguments,
      Tree.at? ⟨_, s⟩ π = some ⟨_, .call false (.identifier .generated h.name) arguments⟩ := by
  cases item with
  | «import» source clauses =>
    cases clauses with
    | nil => simp [ModuleItem.contribution] at hhelper
    | cons clause rest =>
      have hinterop : interopOf (clause :: rest) = some h := hhelper
      refine ⟨_, List.mem_cons_self, [0, 0, 1, 0], .ofList [.plainElement (requireCall source)], ?_⟩
      rw [hinterop]
      rfl
  | exportAll source =>
    obtain rfl := Option.some.inj hhelper
    exact ⟨_, List.mem_cons_self, [0], _, rfl⟩
  | exportNames source clauses => cases source <;> simp [ModuleItem.contribution] at hhelper
  | _ => simp [ModuleItem.contribution] at hhelper

variable (hm : m.isScript = false)

include hm

/-- A helper that a module needs is called. -/
theorem exists_callsAt_of_mem_helpers {h : InteropHelper} (hh : h ∈ m.helpers) :
    ∃ k π, m.CallsAt k π h.name := by
  obtain ⟨c, hc, hhelper⟩ := List.any_eq_true.mp (List.mem_filter.mp hh).2
  obtain ⟨before, item, after, -, rfl⟩ := mem_contributions.mp hc
  obtain ⟨s, hs, π, arguments, hcall⟩ := ModuleItem.exists_call_of_helper (eq_of_beq hhelper)
  have hrequires : s ∈ m.requires := List.mem_flatMap.mpr ⟨_, hc, hs⟩
  have hbody : s ∈ m.lower.body := by
    rw [lower_body_eq hm]
    exact List.mem_append_left _ (List.mem_append_right _ hrequires)
  obtain ⟨k, hk⟩ := List.mem_iff_getElem?.mp hbody
  exact ⟨k, π, s, arguments, hk, hcall⟩

/-- Its one declaration is in the prologue. -/
theorem exists_declaresOnceAt_helper (hnames : m.AvoidsReserved) {h : InteropHelper}
    (hh : h ∈ m.helpers) :
    ∃ i < m.prologue.length, m.DeclaresOnceAt i h.name h.declaration := by
  have hnodup : m.helpers.Nodup := by
    refine List.Nodup.filter _ ?_
    decide
  have hdeclarations : m.declarationsOf (.helper h) = [h.declaration] := by
    have hone : m.helpers.filter (· = h) = [h] := by
      refine (List.filter_beq h).trans ?_
      rw [List.count_eq_one_of_mem hnodup hh]
      rfl
    rw [declarationsOf, hone]
    rfl
  have hperm := declarers_perm_of_isReserved hm hnames (isReserved_helper h)
  rw [hdeclarations] at hperm
  obtain ⟨i, hi⟩ := exists_declaresOnceAt hperm
  have hmem : h.declaration ∈ m.prologue := List.mem_append_right _ (List.mem_map_of_mem hh)
  obtain ⟨j, hj⟩ := List.mem_iff_getElem?.mp hmem
  have hlt := (List.getElem?_eq_some_iff.mp hj).1
  have hbody : m.lower.body[j]? = some h.declaration := by
    rw [lower_body_eq hm, generatedStatements, List.append_assoc, List.append_assoc,
      List.getElem?_append_left hlt]
    exact hj
  have hdeclares : m.DeclaresAt j h.name := by
    refine ⟨_, hbody, ?_⟩
    rw [topNames_declaration]
    exact List.mem_singleton_self _
  obtain rfl := (hi.2 j).mp hdeclares
  exact ⟨j, hlt, hi⟩

end Helpers

/-! ## Variables for required modules -/

section Records

variable {m : Module}

/-- Where the numbers of some items lie. -/
theorem le_of_mem_requires_contributions {next n : Nat} {items : List ModuleItem} {s : Statement}
    (hs : s ∈ (ModuleBundler.contributions next items).flatMap (·.requires))
    (hn : recordName n ∈ s.topNames) :
    next ≤ n ∧ n < next + items.countP (·.takesRecord) := by
  by_contra hout
  have hnone : ((ModuleBundler.contributions next items).flatMap (·.requires)).filter
      (recordName n ∈ ·.topNames) = [] := filter_requires_contributions (by omega)
  exact List.filter_eq_nil_iff.mp hnone s hs (decide_eq_true hn)

/-- Later items take larger numbers. -/
theorem pairwise_requires_contributions (next : Nat) (items : List ModuleItem) :
    ((ModuleBundler.contributions next items).flatMap (·.requires)).Pairwise fun s s' =>
      ∀ n n', recordName n ∈ s.topNames → recordName n' ∈ s'.topNames → n < n' := by
  induction items generalizing next with
  | nil => exact .nil
  | cons item rest ih =>
    rw [contributions_cons, List.flatMap_cons, List.pairwise_append]
    have hlength : (item.contribution (recordName next)).requires.length ≤ 1 := by
      cases item with
      | «import» source clauses => cases clauses <;> exact Nat.le_refl 1
      | exportNames source clauses => cases source <;> simp [ModuleItem.contribution]
      | exportAll source => exact Nat.le_refl 1
      | _ => exact Nat.zero_le 1
    refine ⟨?_, ih _, ?_⟩
    · rcases hlist : (item.contribution (recordName next)).requires with _ | ⟨s, _ | ⟨s', tail⟩⟩
      · exact .nil
      · exact List.pairwise_singleton _ _
      · rw [hlist] at hlength
        simp at hlength
    · intro s hs s' hs' n n' hn hn'
      rw [ModuleItem.topNames_of_mem_requires hs] at hn
      by_cases htakes : item.takesRecord
      · rw [if_pos htakes, List.mem_singleton] at hn
        rw [if_pos htakes] at hs'
        have hsame := recordName_injective hn
        have hle := le_of_mem_requires_contributions hs' hn'
        omega
      · rw [if_neg htakes] at hn
        simp at hn

theorem pairwise_requires (m : Module) :
    m.requires.Pairwise fun s s' =>
      ∀ n n', recordName n ∈ s.topNames → recordName n' ∈ s'.topNames → n < n' :=
  pairwise_requires_contributions 0 m.items

/-- A number is that of an item if there are enough items that take one. -/
theorem exists_split_of_lt_countP {α : Type} {p : α → Bool} {n : Nat} {l : List α}
    (hn : n < l.countP p) :
    ∃ before a after, l = before ++ a :: after ∧ p a = true ∧ before.countP p = n := by
  induction l generalizing n with
  | nil => simp at hn
  | cons a rest ih =>
    by_cases ha : p a = true
    · rw [List.countP_cons_of_pos ha] at hn
      by_cases hzero : n = 0
      · exact ⟨[], a, rest, rfl, ha, hzero.symm⟩
      · obtain ⟨before, b, after, rfl, hb, hcount⟩ := ih (n := n - 1) (by omega)
        refine ⟨a :: before, b, after, rfl, hb, ?_⟩
        rw [List.countP_cons_of_pos ha]
        omega
    · rw [List.countP_cons_of_neg ha] at hn
      obtain ⟨before, b, after, rfl, hb, hcount⟩ := ih hn
      refine ⟨a :: before, b, after, rfl, hb, ?_⟩
      rw [List.countP_cons_of_neg ha]
      exact hcount

variable (hm : m.isScript = false)

include hm

theorem lt_of_declaresAt_recordName (hnames : m.AvoidsReserved) {n i : Nat}
    (h : m.DeclaresAt i (recordName n)) : n < m.items.countP (·.takesRecord) := by
  have hne := declarers_ne_nil_iff.mpr ⟨i, h⟩
  have hperm := declarers_perm_of_isReserved hm hnames (x := .record n) (isReserved_recordName n)
  by_contra hle
  have hbeyond : 0 + m.items.countP (·.takesRecord) ≤ n := by omega
  have hnone : m.declarationsOf (.record n) = [] := filter_requires_contributions (.inr hbeyond)
  rw [hnone] at hperm
  exact hne hperm.eq_nil

/-- An item that takes a variable declares the one of its number among the statements that load
modules. -/
theorem exists_declaresOnceAt_record (hnames : m.AvoidsReserved) {before after : List ModuleItem}
    {item : ModuleItem} (hitems : m.items = before ++ item :: after)
    (hitem : item.takesRecord = true) :
    ∃ source helper j, item.specifier? = some source ∧
      m.requires[j]? = some (Build.var (recordName (before.countP (·.takesRecord)))
        (requireThrough helper source)) ∧
      m.DeclaresOnceAt (m.prologue.length + m.getters.length + j)
        (recordName (before.countP (·.takesRecord)))
        (Build.var (recordName (before.countP (·.takesRecord)))
          (requireThrough helper source)) := by
  obtain ⟨source, hsource, hloads⟩ := loadsThrough_of_takesRecord hitems hitem
  have huser : ∀ name ∈ m.userNames, ¬ IsReserved name := fun name hmem hname =>
    notMem_userNames hnames hname hmem
  have hone := declarers_recordName hm huser hloads
  obtain ⟨i, hi⟩ := exists_declaresOnceAt (List.perm_singleton.mpr hone)
  have hfilter := hloads.2
  rw [filter_generatedStatements] at hfilter
  have hmem := List.mem_of_mem_filter (hfilter ▸ List.mem_singleton_self _)
  obtain ⟨j, hj⟩ := List.mem_iff_getElem?.mp hmem
  have hlt := (List.getElem?_eq_some_iff.mp hj).1
  have hbody : m.lower.body[m.prologue.length + m.getters.length + j]? = m.requires[j]? := by
    rw [lower_body_eq hm, generatedStatements,
      List.getElem?_append_left (by simp only [List.length_append, List.length_map]; omega),
      List.getElem?_append_right (by simp only [List.length_append, List.length_map]; omega),
      List.length_append, List.length_map, Nat.add_sub_cancel_left]
  have hdeclares : m.DeclaresAt (m.prologue.length + m.getters.length + j)
      (recordName (before.countP (·.takesRecord))) :=
    ⟨_, hbody.trans hj, List.mem_singleton_self _⟩
  obtain rfl := (hi.2 _).mp hdeclares
  exact ⟨source, item.recordHelper, j, hsource, hj, hi⟩

theorem exists_declaresOnceAt_of_lt (hnames : m.AvoidsReserved) {n : Nat}
    (hn : n < m.items.countP (·.takesRecord)) :
    ∃ j init, m.requires[j]? = some (Build.var (recordName n) init) ∧
      m.DeclaresOnceAt (m.prologue.length + m.getters.length + j) (recordName n)
        (Build.var (recordName n) init) := by
  obtain ⟨before, item, after, hitems, hitem, rfl⟩ := exists_split_of_lt_countP hn
  obtain ⟨source, helper, j, -, hj, hi⟩ := exists_declaresOnceAt_record hm hnames hitems hitem
  exact ⟨j, _, hj, hi⟩

/-- The variables are declared in the order of their numbers. -/
theorem lt_of_declaresAt (hnames : m.AvoidsReserved) {n n' i i' : Nat}
    (hi : m.DeclaresAt i (recordName n)) (hi' : m.DeclaresAt i' (recordName n')) (hlt : n < n') :
    i < i' := by
  obtain ⟨j, init, hj, honce⟩ :=
    exists_declaresOnceAt_of_lt hm hnames (lt_of_declaresAt_recordName hm hnames hi)
  obtain ⟨j', init', hj', honce'⟩ :=
    exists_declaresOnceAt_of_lt hm hnames (lt_of_declaresAt_recordName hm hnames hi')
  rw [(honce.2 i).mp hi, (honce'.2 i').mp hi']
  by_contra hge
  have hname : ∀ (n : Nat) init, recordName n ∈ (Build.var (recordName n) init).topNames :=
    fun n init => List.mem_singleton_self _
  by_cases hsame : j = j'
  · subst hsame
    have hvar := Option.some.inj (hj.symm.trans hj')
    have hmem := hname n' init'
    rw [← hvar] at hmem
    have heq := recordName_injective (List.mem_singleton.mp hmem)
    omega
  · obtain ⟨hjlt, hvar⟩ := List.getElem?_eq_some_iff.mp hj
    obtain ⟨hjlt', hvar'⟩ := List.getElem?_eq_some_iff.mp hj'
    have hpair := List.pairwise_iff_getElem.mp m.pairwise_requires j' j hjlt' hjlt (by omega)
    rw [hvar, hvar'] at hpair
    have hlt' := hpair n' n (hname n' init') (hname n init)
    omega

end Records

/-! ## The variable for a default export -/

section Default

variable {m : Module} (hm : m.isScript = false)

include hm

/-- Where an export without a name is, its getter refers to the variable for it. -/
theorem exists_namesAt_defaultName (hnames : m.AvoidsReserved)
    (hstatements : m.defaultStatements ≠ []) : ∃ k π, m.NamesAt k π defaultName := by
  have hgetter : ("default", Build.name defaultName) ∈ m.getters := by
    obtain ⟨s, hs⟩ := List.exists_mem_of_ne_nil _ hstatements
    obtain ⟨item, hitem, hstatement⟩ := List.mem_flatMap.mp hs
    obtain ⟨before, after, hitems⟩ := List.append_of_mem hitem
    refine List.mem_flatMap.mpr ⟨_, mem_contributions.mpr ⟨before, item, after, hitems, rfl⟩, ?_⟩
    cases item with
    | exportDefaultFunction name f =>
      cases name with
      | none => exact List.mem_singleton_self _
      | some name => simp at hstatement
    | exportDefaultClass name heritage members =>
      cases name with
      | none => exact List.mem_singleton_self _
      | some name => simp at hstatement
    | exportDefault value => exact List.mem_singleton_self _
    | _ => simp at hstatement
  have hlocal : defaultName ∉ m.importLocals := fun hmem =>
    hnames.chosen _ (List.mem_append_left _ (List.mem_append_right _ hmem)) isReserved_defaultName
  have hbody : defineExport "default" (getterOf (Build.name defaultName)) ∈ m.lower.body := by
    rw [lower_body_eq hm]
    refine List.mem_append_left _ (List.mem_append_left _ (List.mem_append_right _ ?_))
    refine List.mem_map.mpr ⟨_, hgetter, ?_⟩
    exact congrArg (fun value => defineExport "default" (getterOf value))
      (relink_identifier_of_notMem hlocal)
  obtain ⟨k, hk⟩ := List.mem_iff_getElem?.mp hbody
  exact ⟨k, returnedPosition, _, hk, rfl⟩

theorem declaresAt_defaultName_iff (hnames : m.AvoidsReserved) :
    (∃ i, m.DeclaresAt i defaultName) ↔ m.defaultStatements ≠ [] := by
  have hperm := declarers_perm_of_isReserved hm hnames (x := .defaultExport) isReserved_defaultName
  rw [← declarers_ne_nil_iff, not_iff_not]
  change m.declarers IntroducedName.defaultExport.text = [] ↔ _
  rw [← List.perm_nil, hperm.congr_left, List.perm_nil, declarationsOf, List.map_eq_nil_iff]

theorem exists_declaresOnceAt_defaultName (hnames : m.AvoidsReserved)
    (hone : m.defaultStatements.length ≤ 1) {i : Nat} (hi : m.DeclaresAt i defaultName) :
    ∃ s, m.DeclaresOnceAt i defaultName s := by
  have hne := (declaresAt_defaultName_iff hm hnames).mp ⟨i, hi⟩
  obtain ⟨s, hs⟩ : ∃ s, m.defaultStatements = [s] := by
    refine List.length_eq_one_iff.mp ?_
    have hpos := List.length_pos_iff.mpr hne
    omega
  have huser : ∀ name ∈ m.userNames, ¬ IsReserved name := fun name hmem hname =>
    notMem_userNames hnames hname hmem
  obtain ⟨j, hj⟩ := exists_declaresOnceAt
    (List.perm_singleton.mpr (declarers_defaultName hm huser hs))
  obtain rfl := (hj.2 i).mp hi
  exact ⟨_, hj⟩

end Default

/-! ## Closed names -/

theorem hasClosedNames_of_not_isScript {m : Module} (hm : m.isScript = false) (hw : m.IsWritten)
    (hnames : m.AvoidsReserved) : m.HasClosedNames where
  helper_iff h := by
    constructor
    · intro hdeclared
      have hperm := declarers_perm_of_isReserved hm hnames (isReserved_helper h)
      have hne : m.declarationsOf (.helper h) ≠ [] := by
        intro hnil
        rw [hnil] at hperm
        exact declarers_ne_nil_iff.mpr hdeclared hperm.eq_nil
      obtain ⟨g, hg⟩ := List.exists_mem_of_ne_nil _ (fun hnil => hne (List.map_eq_nil_iff.mpr hnil))
      obtain ⟨hmem, heq⟩ := List.mem_filter.mp hg
      obtain rfl := of_decide_eq_true heq
      exact exists_callsAt_of_mem_helpers hm hmem
    · rintro ⟨k, π, hcall⟩
      obtain ⟨hh, -, -⟩ := provides_of_namesAt hm hw hnames (isReserved_helper h) hcall.namesAt
      obtain ⟨i, -, hi⟩ := exists_declaresOnceAt_helper hm hnames hh
      exact ⟨i, (hi.2 i).mpr rfl⟩
  helper_once h k π hcall := by
    obtain ⟨hh, -, hk⟩ := provides_of_namesAt hm hw hnames (isReserved_helper h) hcall.namesAt
    obtain ⟨i, hlt, hi⟩ := exists_declaresOnceAt_helper hm hnames hh
    exact ⟨i, by omega, hi⟩
  record_once n k π hname := by
    obtain ⟨⟨init, hinit⟩, -, -⟩ := provides_of_namesAt hm hw hnames (x := .record n)
      (isReserved_recordName n) hname
    have hn := (le_of_mem_requires_contributions hinit (List.mem_singleton_self _)).2
    rw [Nat.zero_add] at hn
    obtain ⟨j, init, -, hi⟩ := exists_declaresOnceAt_of_lt hm hnames hn
    exact ⟨_, init, hi⟩
  record_iff n := by
    constructor
    · rintro ⟨i, hi⟩
      exact lt_of_declaresAt_recordName hm hnames hi
    · intro hn
      obtain ⟨j, init, -, hi⟩ := exists_declaresOnceAt_of_lt hm hnames hn
      exact ⟨_, (hi.2 _).mpr rfl⟩
  record_order _ _ _ _ := lt_of_declaresAt hm hnames
  record_source before item after hitems hitem := by
    obtain ⟨source, helper, j, hsource, -, hi⟩ :=
      exists_declaresOnceAt_record hm hnames hitems hitem
    exact ⟨source, helper, _, hsource, hi⟩
  default hone := by
    refine ⟨?_, fun i hi => exists_declaresOnceAt_defaultName hm hnames hone hi⟩
    rw [declaresAt_defaultName_iff hm hnames]
    constructor
    · rintro ⟨k, π, hname⟩
      exact (provides_of_namesAt hm hw hnames (x := .defaultExport) isReserved_defaultName hname).1
    · exact exists_namesAt_defaultName hm hnames
  closed x k π hx hname := by
    obtain ⟨-, hmeans, -⟩ := provides_of_namesAt hm hw hnames hx hname
    rw [hmeans.scope, scope_of_isReserved hx]

/-- **Names that lowering makes are closed and minimal.** In a module that keeps away from them,
the helpers are those that are called, each declared once and before its calls; the variables for
required modules are numbered from zero in the order of the items that take one, and each is
declared once; and one for a default export without a name is there if it is needed. -/
theorem hasClosedNames {m : Module} (hw : m.IsWritten) (hnames : m.AvoidsReserved) :
    m.HasClosedNames := by
  cases hm : m.isScript with
  | true => exact hasClosedNames_of_isScript hm hw hnames
  | false => exact hasClosedNames_of_not_isScript hm hw hnames

/-! ## Checking a module -/

/-- The module avoids reserved names at its top level and around all positions that are at most so
long, and none is as long. -/
def avoidsReservedWithin (depth : Nat) (m : Module) : Bool :=
  (m.chosenNames.all fun name => !decide (IsReserved name)) &&
    m.statements.all fun s => (Tree.positions depth ⟨_, s⟩).all fun π =>
      π.length < depth && (Tree.declaredAt ⟨_, s⟩ π).all fun name => !decide (IsReserved name)

theorem avoidsReserved_of_within {depth : Nat} {m : Module}
    (h : m.avoidsReservedWithin depth = true) : m.AvoidsReserved := by
  rw [avoidsReservedWithin, Bool.and_eq_true, List.all_eq_true, List.all_eq_true] at h
  constructor
  · intro name hname hreserved
    simpa [hreserved] using h.1 name hname
  · intro s hs π hπ name hname hreserved
    obtain ⟨part, hpart⟩ := Option.isSome_iff_exists.mp hπ
    have haround := Tree.of_all_positions (h.2 s hs) hpart
    rw [List.all_eq_true] at haround
    simpa [hreserved] using haround name hname

/-- All helpers are needed, three variables and a default export without a name. -/
def namingSource : String :=
  "import d from './a'; import * as ns from './b'; export * from './c'; import './e'; " ++
  "export \x7bx\x7d from './f'; export default d(ns, (p) => p)"

theorem hasClosedNames_namingSource :
    ∃ m, Module.ofText namingSource.toList = .ok m ∧ m.helpers = InteropHelper.all ∧
      m.items.countP (·.takesRecord) = 3 ∧ m.defaultStatements.length = 1 ∧
      m.IsWritten ∧ m.AvoidsReserved ∧ m.HasClosedNames := by
  have hcheck : (Module.ofText namingSource.toList).toOption.any (fun m =>
      decide (m.helpers = InteropHelper.all) && decide (m.items.countP (·.takesRecord) = 3) &&
        decide (m.defaultStatements.length = 1) && m.avoidsReservedWithin 20) = true := by
    decide +kernel
  obtain ⟨m, hm, hpassed⟩ := exists_ok_of_any hcheck
  simp only [Bool.and_eq_true, decide_eq_true_eq] at hpassed
  obtain ⟨⟨⟨hhelpers, hrecords⟩, hdefault⟩, hwithin⟩ := hpassed
  have hw := isWritten_of_ofText hm
  have hnames := avoidsReserved_of_within hwithin
  exact ⟨m, hm, hhelpers, hrecords, hdefault, hw, hnames, hasClosedNames hw hnames⟩

end Module

end ModuleBundler
