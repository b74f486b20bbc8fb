import ModuleBundler.Module.Relink
import ModuleBundler.Proofs.Script.Reads

/-!
Replacing references, position by position. A pass over a whole tree acts at each position on its
own: what stands there afterwards is what stood there before, replaced under the links that have
reached the position. So what happens to a reference is settled by the links at its position, and
no theorem about it recurses through trees again.
-/

set_option autoImplicit false

namespace ModuleBundler

open Script

/-! ## Links on the way to a position -/

/-- The links under which the child of a tree at an index is replaced. -/
def Script.Node.linksFor : {c : Category} → Node c → Nat → Links → Links
  | _, .cons head _, 1, l => l.after head
  | _, .functionValue name _, _, l => l.hide name.toList
  | _, .classValue name _ _, _, l => l.hide name.toList
  | _, .arrow _ _ _, 0, l => l.binding
  | _, .arrow _ parameters _, _, l => l.hide parameters.boundNames
  | _, .arrowBlock _ _ _, 0, l => l.binding
  | _, .arrowBlock _ parameters body, _, l => l.hide (parameters.boundNames ++ body.bodyNames)
  | _, .computedKey _, _, l => l.reading
  | _, .function _ _ _ _, 0, l => l.binding
  | _, .function _ _ parameters body, _, l => l.hide (parameters.boundNames ++ body.bodyNames)
  | _, .defaulted target _, 1, l => (l.after target).reading
  | _, .place _, _, l => l.reading
  | _, .namePattern name value, _, l => (l.after (.namePattern name value)).reading
  | _, .constructor _ _, 0, l => l.binding
  | _, .constructor parameters body, _, l => l.hide (parameters.boundNames ++ body.bodyNames)
  | _, .block body, _, l => l.hide body.blockNames
  | _, .tryStatement body _ _, 0, l => l.hide body.blockNames
  | _, .tryStatement _ _ finalizer, 2, l => l.hide finalizer.blockNames
  | _, .forLoop _ _ _ _, 0, l => l
  | _, .forLoop init _ _ _, _, l => l.hide init.headNames
  | _, .forIn _ _ _, 0, l => l
  | _, .forIn head _ _, _, l => l.hide head.headNames
  | _, .forOf _ _ _ _, 0, l => l
  | _, .forOf _ head _ _, _, l => l.hide head.headNames
  | _, .declarator target _, 1, l => (l.after target).reading
  | _, .declarationHead .var _, _, l => l
  | _, .declarationHead _ _, _, l => l.binding
  | _, .handler _ _, 0, l => l.binding
  | _, .handler parameter body, _, l => l.hide (parameter.boundNames ++ body.blockNames)
  | _, _, _, l => l

/-- The links that reach a position. -/
def Script.Tree.linksAt (t : Tree) (π : List Nat) (l : Links) : Links := t.along Node.linksFor π l

@[simp] theorem Links.bindings_after {c : Category} (l : Links) (n : Node c) :
    (l.after n).bindings = l.bindings := by
  unfold Links.after
  split <;> rfl

theorem Links.find?_of_resolve? {l : Links} {name : String} {e : Expr}
    (h : l.resolve? name = some e) : l.find? name = some e := by
  rw [resolve?] at h
  split at h
  · cases h
  · exact h

theorem Script.Node.bindings_linksFor {c : Category} (n : Node c) (i : Nat) (l : Links) :
    (n.linksFor i l).bindings = l.bindings := by
  cases n with
  | cons => rcases i with _ | _ | i <;> first | rfl | exact l.bindings_after _
  | defaulted => rcases i with _ | _ | i <;> first | rfl | exact l.bindings_after _
  | declarator => rcases i with _ | _ | i <;> first | rfl | exact l.bindings_after _
  | namePattern => exact l.bindings_after _
  | declarationHead kind => cases kind <;> rfl
  | _ => rcases i with _ | _ | _ | i <;> rfl

/-- What names stand for where nothing is hidden is the same everywhere. -/
theorem Script.Tree.bindings_linksAt (t : Tree) (π : List Nat) (l : Links) :
    (t.linksAt π l).bindings = l.bindings := by
  induction π generalizing t l with
  | nil => rfl
  | cons i π ih =>
    cases hchild : t.child? i with
    | none => simp [linksAt, along, hchild]
    | some child =>
      rw [linksAt, along_cons _ hchild]
      exact (ih child _).trans (t.2.bindings_linksFor i l)

/-! ## Replacing in a role -/

/-- Replaces the references in a tree that stands in a role. -/
def Script.Node.relinkAs : {c : Category} → Role → Node c → Links → Node c
  | .expression, .callee, e, l => l.callee e (e.relink l)
  | .key, .fieldName, key, l => l.fieldKey key (key.relink l)
  | _, _, n, l => n.relink l

/-- A tree of any category with the references in it replaced. -/
def Script.Tree.relinkAs (t : Tree) (role : Role) (l : Links) : Tree := ⟨t.1, t.2.relinkAs role l⟩

namespace Script.Node

@[simp] theorem relinkAs_plain {c : Category} (n : Node c) (l : Links) :
    n.relinkAs .plain l = n.relink l := by
  cases c <;> rfl

@[simp] theorem relinkAs_target {c : Category} (n : Node c) (l : Links) :
    n.relinkAs .target l = n.relink l := by
  cases c <;> rfl

/-- Each child of a tree is replaced in its own role and under its own links. -/
theorem children_relink {c : Category} (n : Node c) (role : Role) (l : Links)
    (hn : n.children ≠ []) :
    (n.relink l).children =
      n.children.mapIdx fun i child => child.relinkAs (n.role i role) (n.linksFor i l) := by
  cases n with
  | identifier => exact absurd rfl hn
  | shorthand => exact absurd rfl hn
  -- what these hold may be of any category, so it takes a lemma that the plain role changes nothing
  | cons head tail =>
    change _ = ([⟨_, head.relinkAs .plain l⟩, ⟨_, tail.relinkAs .plain (l.after head)⟩] : List Tree)
    rw [relinkAs_plain, relinkAs_plain]
    rfl
  | present n =>
    change _ = ([⟨_, n.relinkAs .plain l⟩] : List Tree)
    rw [relinkAs_plain]
    rfl
  | declarationHead kind => cases kind <;> rfl
  | paren => cases role <;> rfl
  | expressionHead => cases role <;> rfl
  | _ => rfl

/-- Apart from its children a tree stays what it is. -/
theorem hollow_relink {c : Category} (n : Node c) (l : Links) (hn : n.children ≠ []) :
    (n.relink l).hollow = n.hollow := by
  cases n with
  | identifier => exact absurd rfl hn
  | shorthand => exact absurd rfl hn
  | declarationHead kind => cases kind <;> rfl
  | _ => rfl

/-- A tree with children has them replaced in the same way in every role. -/
theorem relinkAs_of_children {c : Category} (n : Node c) (role : Role) (l : Links)
    (hn : n.children ≠ []) : n.relinkAs role l = n.relink l := by
  cases role with
  | plain => exact n.relinkAs_plain l
  | target => exact n.relinkAs_target l
  | callee =>
    cases n with
    | identifier => exact absurd rfl hn
    | _ => rfl
  | fieldName =>
    cases n with
    | nameKey => exact absurd rfl hn
    | _ => rfl

end Script.Node

namespace Script.Tree

theorem child?_relinkAs {t child : Tree} {i : Nat} (hchild : t.child? i = some child)
    (role : Role) (l : Links) :
    (t.relinkAs role l).child? i =
      some (child.relinkAs (t.2.role i role) (t.2.linksFor i l)) := by
  have hchildren : t.2.children ≠ [] := by
    intro hnil
    rw [child?, hnil] at hchild
    cases hchild
  rw [child?] at hchild
  rw [child?, relinkAs, t.2.relinkAs_of_children role l hchildren,
    t.2.children_relink role l hchildren, List.getElem?_mapIdx, hchild]
  rfl

/-- **What stands at a position after a replacement.** It is the part that stood there, replaced
in the role and under the links that reach the position. -/
theorem at?_relinkAs {t part : Tree} {π : List Nat} (hπ : t.at? π = some part) (role : Role)
    (l : Links) :
    (t.relinkAs role l).at? π =
      some (part.relinkAs (t.along Node.role π role) (t.linksAt π l)) := by
  -- for all roles and links at once: each step goes on with those of the child
  induction π generalizing t role l with
  | nil =>
    cases hπ
    rfl
  | cons i π ih =>
    obtain ⟨child, hchild, hrest⟩ := at?_cons_eq_some.mp hπ
    rw [at?_cons, child?_relinkAs hchild, Option.bind_some, ih hrest, linksAt, linksAt,
      along_cons _ hchild, along_cons _ hchild]

/-- **Where a part of the result comes from.** Either it stands where the part of the original
stands that it came of, or it is inside what took the place of a part without children. -/
theorem at?_relinkAs_eq_some {t part' : Tree} {π : List Nat} {role : Role} {l : Links}
    (h : (t.relinkAs role l).at? π = some part') :
    ∃ ρ σ part, π = ρ ++ σ ∧ t.at? ρ = some part ∧ (σ = [] ∨ part.2.children = []) ∧
      (part.relinkAs (t.along Node.role ρ role) (t.linksAt ρ l)).at? σ = some part' := by
  induction π generalizing t role l with
  | nil => exact ⟨[], [], t, rfl, rfl, .inl rfl, h⟩
  | cons i π ih =>
    by_cases hleaf : t.2.children = []
    · exact ⟨[], i :: π, t, rfl, rfl, .inr hleaf, h⟩
    · obtain ⟨child', hchild', hrest⟩ := at?_cons_eq_some.mp h
      rw [child?, relinkAs, t.2.relinkAs_of_children role l hleaf, t.2.children_relink role l hleaf,
        List.getElem?_mapIdx, Option.map_eq_some_iff] at hchild'
      obtain ⟨child, hchild, rfl⟩ := hchild'
      obtain ⟨ρ, σ, part, rfl, hpart, hσ, hpart'⟩ := ih hrest
      refine ⟨i :: ρ, σ, part, rfl, at?_cons_eq_some.mpr ⟨child, hchild, hpart⟩, hσ, ?_⟩
      rw [linksAt, along_cons _ hchild, along_cons _ hchild]
      exact hpart'

/-- What stands at a position of a tree in which all references are replaced. -/
theorem at?_relink {t part : Tree} {π : List Nat} (hπ : t.at? π = some part) (l : Links) :
    Tree.at? ⟨t.1, t.2.relink l⟩ π =
      some (part.relinkAs (t.roleAt π) (t.linksAt π l)) := by
  have hplain := at?_relinkAs hπ .plain l
  rw [relinkAs, Node.relinkAs_plain] at hplain
  exact hplain

theorem at?_relink_eq_some {t part' : Tree} {π : List Nat} {l : Links}
    (h : Tree.at? ⟨t.1, t.2.relink l⟩ π = some part') :
    ∃ ρ σ part, π = ρ ++ σ ∧ t.at? ρ = some part ∧ (σ = [] ∨ part.2.children = []) ∧
      (part.relinkAs (t.roleAt ρ) (t.linksAt ρ l)).at? σ = some part' := by
  rw [← Node.relinkAs_plain] at h
  exact at?_relinkAs_eq_some h

/-! ## Parts without children -/

/-- One tree takes the place of another, which stands in a role. -/
inductive Replacement (l : Links) : Role → Tree → Tree → Prop
  /-- A name gives way to what it stands for. -/
  | name {role : Role} {origin : Origin} {name : String} {e : Expr}
      (h : l.resolve? name = some e) : Replacement l role ⟨_, .identifier origin name⟩ ⟨_, e⟩
  | callee {origin : Origin} {name : String} {e : Expr} (h : l.resolve? name = some e) :
      Replacement l .callee ⟨_, .identifier origin name⟩ ⟨_, Links.detached e⟩
  | shorthand {role : Role} {name : String} {e : Expr} (h : l.resolve? name = some e) :
      Replacement l role ⟨_, .shorthand name⟩ ⟨_, .keyValue (.nameKey name) e⟩
  /-- The name of a field gives way wherever it stands. -/
  | fieldName {name : String} {e : Expr} (h : l.find? name = some e) :
      Replacement l .fieldName ⟨_, .nameKey name⟩ ⟨_, .bareKey e⟩

/-- A tree without children stays or is replaced as a whole. -/
theorem relinkAs_of_leaf {t : Tree} (ht : t.2.children = []) (role : Role) (l : Links) :
    t.relinkAs role l = t ∨ Replacement l role t (t.relinkAs role l) := by
  obtain ⟨c, n⟩ := t
  cases n with
  | identifier origin name =>
    have hname : l.identifier origin name = (l.resolve? name).getD (.identifier origin name) := rfl
    cases role with
    | callee =>
      change (⟨_, l.callee (.identifier origin name) (l.identifier origin name)⟩ : Tree) = _ ∨
        Replacement l _ _ ⟨_, l.callee (.identifier origin name) (l.identifier origin name)⟩
      rw [hname, Links.callee]
      cases h : l.resolve? name with
      | none => exact .inl rfl
      | some e => exact .inr (.callee h)
    | _ =>
      change (⟨_, l.identifier origin name⟩ : Tree) = _ ∨
        Replacement l _ _ ⟨_, l.identifier origin name⟩
      rw [hname]
      cases h : l.resolve? name with
      | none => exact .inl rfl
      | some e => exact .inr (.name h)
  | shorthand name =>
    have hrole : relinkAs ⟨_, .shorthand name⟩ role l = ⟨_, l.shorthand name⟩ := by
      cases role <;> rfl
    rw [hrole, Links.shorthand]
    cases h : l.resolve? name with
    | none => exact .inl rfl
    | some e => exact .inr (.shorthand h)
  | nameKey name =>
    cases role with
    | fieldName =>
      change (⟨_, l.fieldKey (.nameKey name) (.nameKey name)⟩ : Tree) = _ ∨
        Replacement l _ _ ⟨_, l.fieldKey (.nameKey name) (.nameKey name)⟩
      rw [Links.fieldKey]
      cases h : l.find? name with
      | none => exact .inl rfl
      | some e => exact .inr (.fieldName h)
    | _ => exact .inl rfl
  | _ =>
    first
    | exact absurd ht (List.cons_ne_nil _ _)
    | cases role <;> exact .inl rfl

end Script.Tree

end ModuleBundler
