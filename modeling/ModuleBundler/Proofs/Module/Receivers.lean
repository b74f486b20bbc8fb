import ModuleBundler.Module.Reader
import ModuleBundler.Proofs.Module.Links
import ModuleBundler.Proofs.Module.OwnStatements
import ModuleBundler.Proofs.Script.Reads

/-!
What a called import is passed as its receiver. A lookup reads a property of the record of its
import, so calling it as it stands passes the exports of the dependency. Lowering takes the name
that a call calls out of this position, but no other form: a name in parentheses and the tag of a
template become the lookup itself. The main result says exactly which calls are safe.
-/

set_option autoImplicit false

namespace ModuleBundler

open Script

/-! ## Callees -/

namespace Script.Node

/-- What a tree calls: the callee of a call, or the tag of a template. -/
def called? : {c : Category} → Node c → Option Expr
  | _, .call _ callee _ => some callee
  | _, .taggedTemplate tag _ _ => some tag
  | _, _ => none

/-- A tree is a call of a name, without parentheses around the name. -/
def callsName : {c : Category} → Node c → Bool
  | _, .call _ (.identifier _ _) _ => true
  | _, _ => false

/-- An expression in so many parentheses. -/
def parenthesized : Nat → Expr → Expr
  | 0, e => e
  | depth + 1, e => .paren (parenthesized depth e)

/-- A tree without the parentheses around it. -/
def bare : {c : Category} → Node c → Node c
  | _, .paren inner => inner.bare
  | _, n => n

/-- The variable that an expression is a member of. -/
def memberOf? : {c : Category} → Node c → Option String
  | _, .member _ _ (.identifier _ name) _ => some name
  | _, .index _ (.identifier _ name) _ => some name
  | _, _ => none

theorem bare_parenthesized (depth : Nat) (e : Expr) : (parenthesized depth e).bare = e.bare := by
  induction depth with
  | zero => rfl
  | succ depth ih => exact ih

/-- The name that an expression is, and how many parentheses stand around it. -/
def parenthesizedName? : {c : Category} → Node c → Option (Nat × String)
  | _, .identifier .written name => some (0, name)
  | _, .paren inner => inner.parenthesizedName?.map fun (depth, name) => (depth + 1, name)
  | _, _ => none

theorem eq_parenthesized {e : Expr} {depth : Nat} {name : String}
    (h : e.parenthesizedName? = some (depth, name)) :
    e = parenthesized depth (.identifier .written name) := by
  induction depth generalizing e with
  | zero =>
    cases e with
    | identifier origin name' =>
      cases origin with
      | written =>
        cases h
        rfl
      | generated => cases h
    | paren inner =>
      obtain ⟨_, -, hinner⟩ := Option.map_eq_some_iff.mp h
      cases hinner
    | _ => cases h
  | succ depth ih =>
    cases e with
    | identifier origin name' => cases origin <;> cases h
    | paren inner =>
      obtain ⟨⟨depth', name'⟩, hname, hinner⟩ := Option.map_eq_some_iff.mp h
      cases hinner
      exact congrArg Node.paren (ih hname)
    | _ => cases h

theorem relink_parenthesized (depth : Nat) (e : Expr) (l : Links) :
    (parenthesized depth e).relink l = parenthesized depth (e.relink l) := by
  induction depth with
  | zero => rfl
  | succ depth ih => exact congrArg Node.paren ih

end Script.Node

open Script.Node

/-- What a called name becomes. In parentheses, or as a tag, it becomes what a name becomes
anywhere. -/
theorem called?_relink {c : Category} {n : Node c} {depth : Nat} {name : String}
    (hcalled : n.called? = some (parenthesized depth (.identifier .written name))) (l : Links) :
    (n.relink l).called? = some (
      if n.callsName then ((l.resolve? name).map Links.detached).getD (.identifier .written name)
      else parenthesized depth (l.identifier .written name)) := by
  cases n with
  | taggedTemplate tag texts values =>
    obtain rfl := Option.some.inj hcalled
    change some ((parenthesized depth (.identifier .written name)).relink l) = _
    rw [relink_parenthesized]
    rfl
  | call optional callee arguments =>
    obtain rfl := Option.some.inj hcalled
    change some (l.callee (parenthesized depth (.identifier .written name))
      ((parenthesized depth (.identifier .written name)).relink l)) = _
    rw [relink_parenthesized]
    cases depth with
    | zero =>
      change some (l.callee (.identifier .written name) (l.identifier .written name)) = some _
      rw [Links.callee, Links.identifier]
      cases l.resolve? name <;> rfl
    | succ depth => rfl
  | _ => cases hcalled

theorem children_ne_nil_of_called? {c : Category} {n : Node c} {callee : Expr}
    (h : n.called? = some callee) : n.children ≠ [] := by
  cases n with
  | taggedTemplate => exact List.cons_ne_nil _ _
  | call => exact List.cons_ne_nil _ _
  | _ => cases h

/-! ## Called imports -/

namespace Module

/-- What the imports of a module bind. -/
def importClauses (m : Module) : List ImportClause :=
  m.items.flatMap fun
    | .import _ clauses => clauses
    | _ => []

/-- The name is bound by imports, none of which binds a namespace to it. -/
def ImportsProperty (m : Module) (name : String) : Prop :=
  name ∈ m.importLocals ∧
    ∀ clause ∈ m.importClauses, clause.bound = name → clause.isNamespace = false

instance (m : Module) (name : String) : Decidable (m.ImportsProperty name) :=
  inferInstanceAs (Decidable (_ ∧ _))

/-- What is called at a position is, in so many parentheses, a default or named import. -/
structure CallsImport (m : Module) (t : Tree) (π : List Nat) (depth : Nat) (name : String) :
    Prop where
  called : ∃ part, t.at? π = some part ∧
    part.2.called? = some (parenthesized depth (.identifier .written name))
  /-- Nothing around the position declares the name. -/
  free : name ∉ t.declaredAt π
  property : m.ImportsProperty name

/-- What is called at a position is, apart from parentheses, no member of the record of an
import. -/
def CallsNoRecord (after : Tree) (π : List Nat) : Prop :=
  ∃ part callee, after.at? π = some part ∧ part.2.called? = some callee ∧
    ∀ n, callee.bare.memberOf? ≠ some (recordName n)

/-- Wherever the one tree calls an import, the other calls no member of its record. -/
def DetachesCalls (m : Module) (before after : Tree) : Prop :=
  ∀ π depth name, m.CallsImport before π depth name → CallsNoRecord after π

section Detached

variable {m : Module} {t : Tree} {π : List Nat} {depth : Nat} {name : String}

/-- A property that is imported is a member of the record of its import. -/
theorem Imports.memberOf?_eq (hname : m.ImportsProperty name) {e : Expr} (h : m.Imports name e) :
    ∃ n, e.bare.memberOf? = some (recordName n) := by
  obtain ⟨before, source, clauses, after, hitems, clause, hclause, hbound, rfl⟩ := h
  have hmem : clause ∈ m.importClauses := by
    rw [importClauses, hitems]
    exact List.mem_flatMap.mpr
      ⟨.import source clauses, List.mem_append_right _ List.mem_cons_self, hclause⟩
  refine ⟨before.countP (·.takesRecord), ?_⟩
  cases clause with
  | default => rfl
  | named => rfl
  | «namespace» =>
    have hproperty := hname.2 _ hmem hbound
    cases hproperty

/-- What becomes of a called import. -/
theorem CallsImport.called?_relink (h : m.CallsImport t π depth name) :
    ∃ part part', t.at? π = some part ∧ Tree.at? ⟨t.1, t.2.relink m.links⟩ π = some part' ∧
      part'.2.called? = some (
        if part.2.callsName then
          (((t.linksAt π m.links).resolve? name).map Links.detached).getD
            (.identifier .written name)
        else parenthesized depth ((t.linksAt π m.links).identifier .written name)) := by
  obtain ⟨part, hπ, hcalled⟩ := h.called
  refine ⟨part, _, hπ, Tree.at?_relink hπ m.links, ?_⟩
  rw [Tree.relinkAs, part.2.relinkAs_of_children _ _ (children_ne_nil_of_called? hcalled)]
  exact ModuleBundler.called?_relink hcalled _

/-- A call of a name passes no record, and neither does a name that is hidden. -/
theorem callsNoRecord_relink (h : m.CallsImport t π depth name)
    (hsafe : (∃ part, t.at? π = some part ∧ part.2.callsName) ∨
      name ∈ (t.linksAt π m.links).hidden) :
    CallsNoRecord ⟨t.1, t.2.relink m.links⟩ π := by
  obtain ⟨part, part', hπ, hπ', hcalled⟩ := h.called?_relink
  refine ⟨part', _, hπ', hcalled, fun n => ?_⟩
  split
  · -- neither a sequence in parentheses nor a name is a member
    intro hmember
    cases hresolve : (t.linksAt π m.links).resolve? name <;>
    · rw [hresolve] at hmember
      cases hmember
  · rename_i hname
    have hhidden : name ∈ (t.linksAt π m.links).hidden := by
      refine hsafe.resolve_left ?_
      rintro ⟨part₁, hπ₁, hcalls⟩
      obtain rfl := Option.some.inj (hπ.symm.trans hπ₁)
      exact hname hcalls
    have hresolve : (t.linksAt π m.links).resolve? name = none := by
      rw [Links.resolve?, List.contains_eq_mem, decide_eq_true hhidden]
      rfl
    rw [bare_parenthesized, Links.identifier, hresolve]
    intro hmember
    cases hmember

/-- Any other call of an import passes the record. -/
theorem not_callsNoRecord_relink (h : m.CallsImport t π depth name)
    (hvisible : name ∉ (t.linksAt π m.links).hidden)
    (hform : ¬ ∃ part, t.at? π = some part ∧ part.2.callsName) :
    ¬ CallsNoRecord ⟨t.1, t.2.relink m.links⟩ π := by
  rintro ⟨part₁, callee, hπ₁, hcallee, hnot⟩
  obtain ⟨part, part', hπ, hπ', hcalled⟩ := h.called?_relink
  obtain rfl := Option.some.inj (hπ'.symm.trans hπ₁)
  have hname : ¬ part.2.callsName = true := fun hcalls => hform ⟨part, hπ, hcalls⟩
  obtain ⟨e, he⟩ := exists_find?_links h.property.1
  have hresolve : (t.linksAt π m.links).resolve? name = some e := by
    rw [Links.resolve?, List.contains_eq_mem, decide_eq_false hvisible, Links.find?,
      t.bindings_linksAt]
    exact he
  rw [if_neg hname, Links.identifier, hresolve] at hcalled
  obtain rfl := Option.some.inj (hcallee.symm.trans hcalled)
  obtain ⟨n, hn⟩ := Imports.memberOf?_eq h.property (imports_of_find? he)
  rw [bare_parenthesized] at hnot
  exact hnot n hn

end Detached

/-! ## Lowered modules -/

/-- **A called import is passed no exports as its receiver exactly where it is called by its bare
name**, but for names that the pass takes to be hidden. -/
theorem lowersStatements_detachesCalls_iff (m : Module) :
    m.LowersStatements (fun s s' => m.DetachesCalls ⟨_, s⟩ ⟨_, s'⟩) ↔
      ∀ s ∈ m.statements, ∀ π depth name, m.CallsImport ⟨_, s⟩ π depth name →
        (∃ part, Tree.at? ⟨_, s⟩ π = some part ∧ part.2.callsName) ∨
          name ∈ (Tree.linksAt ⟨_, s⟩ π m.links).hidden := by
  rw [lowersStatements_iff]
  refine forall₂_congr fun s _ => forall₄_congr fun π depth name h => ?_
  cases hm : m.isScript with
  | true =>
    have hlocal := h.property.1
    rw [importLocals_of_isScript hm] at hlocal
    cases hlocal
  | false =>
    rw [lowered_of_not_isScript hm]
    constructor
    · intro hdetached
      by_contra hunsafe
      rw [not_or] at hunsafe
      exact not_callsNoRecord_relink h hunsafe.2 hunsafe.1 hdetached
    · exact callsNoRecord_relink h

/-- At a position an import is called, though not by its bare name, and is seen to be called. -/
def callsRecordAt (m : Module) (t : Tree) (π : List Nat) : Bool :=
  match ((t.at? π).bind (·.2.called?)).bind (·.parenthesizedName?) with
  | some (_, name) =>
    decide (name ∉ t.declaredAt π ∧ m.ImportsProperty name ∧ name ∉ (t.linksAt π m.links).hidden) &&
      (t.at? π).all (!·.2.callsName)
  | none => false

theorem not_detachesCalls_of_callsRecordAt {m : Module} {t : Tree} {π : List Nat}
    (h : m.callsRecordAt t π = true) : ¬ m.DetachesCalls t ⟨t.1, t.2.relink m.links⟩ := by
  rw [callsRecordAt] at h
  split at h
  · rename_i depth name hname
    obtain ⟨callee, hcallee, hcalled⟩ := Option.bind_eq_some_iff.mp hname
    obtain ⟨part, hπ, hpart⟩ := Option.bind_eq_some_iff.mp hcallee
    rw [Bool.and_eq_true, decide_eq_true_eq, hπ, Option.all_some, Bool.not_eq_true'] at h
    obtain ⟨⟨hfree, hproperty, hvisible⟩, hform⟩ := h
    obtain rfl := eq_parenthesized hcalled
    have hcalls : m.CallsImport t π depth name := ⟨⟨part, hπ, hpart⟩, hfree, hproperty⟩
    intro hdetached
    refine not_callsNoRecord_relink hcalls hvisible ?_ (hdetached π depth name hcalls)
    rintro ⟨part', hπ', hname'⟩
    obtain rfl := Option.some.inj (hπ.symm.trans hπ')
    rw [hform] at hname'
    cases hname'
  · cases h

/-- Calls of an import in parentheses and as a tag. -/
def receivingSource : String := "import \x7bf\x7d from './x';\n(f)();\nf`t`;"

/-- Both calls pass the exports of the module that is imported. -/
theorem not_detachesCalls_receivingSource :
    ∃ m, Module.ofText receivingSource.toList = .ok m ∧ m.statements.length = 2 ∧
      (∀ s ∈ m.statements, ¬ m.DetachesCalls ⟨_, s⟩ ⟨_, m.lowered s⟩) ∧
      ¬ m.LowersStatements (fun s s' => m.DetachesCalls ⟨_, s⟩ ⟨_, s'⟩) := by
  have hcheck : (Module.ofText receivingSource.toList).toOption.any (fun m =>
      !m.isScript && m.statements.length == 2 &&
        m.statements.all fun s => m.callsRecordAt ⟨_, s⟩ [0]) = true := by
    decide +kernel
  obtain ⟨m, hm, hpassed⟩ := exists_ok_of_any hcheck
  simp only [Bool.and_eq_true, Bool.not_eq_true', beq_iff_eq, List.all_eq_true] at hpassed
  obtain ⟨⟨hscript, hlength⟩, hcalls⟩ := hpassed
  have hnot : ∀ s ∈ m.statements, ¬ m.DetachesCalls ⟨_, s⟩ ⟨_, m.lowered s⟩ := by
    intro s hs
    rw [lowered_of_not_isScript hscript]
    exact not_detachesCalls_of_callsRecordAt (hcalls s hs)
  obtain ⟨s, hs⟩ := List.exists_mem_of_length_pos (by omega : 0 < m.statements.length)
  exact ⟨m, hm, hlength, hnot, fun hall => hnot s hs (lowersStatements_iff.mp hall s hs)⟩

end Module

end ModuleBundler
