import ModuleBundler.Proofs.Sequencing
import ModuleBundler.Script.Node

/-!
Positions in trees. A tree of any category is a `Tree`, and a position is the list of the indexes
that lead from the root to a part: which of the children, which of its children, and so on. A
property of the references of a script is then a property of positions, and says where in the
script it holds.
-/

set_option autoImplicit false

namespace ModuleBundler.Script

/-- A tree together with its category. -/
abbrev Tree := Σ c : Category, Node c

/-- A program as one tree. -/
def Program.tree (p : Program) : Tree := ⟨_, .ofList p.body⟩

/-- The trees directly below a tree, in the order in which they are written. -/
def Node.children : {c : Category} → Node c → List Tree
  | _, .cons head tail => [⟨_, head⟩, ⟨_, tail⟩]
  | _, .present n => [⟨_, n⟩]
  -- expressions
  | _, .template _ values => [⟨_, values⟩]
  | _, .taggedTemplate tag _ values => [⟨_, tag⟩, ⟨_, values⟩]
  | _, .array elements _ => [⟨_, elements⟩]
  | _, .object properties => [⟨_, properties⟩]
  | _, .functionValue _ f => [⟨_, f⟩]
  | _, .classValue _ heritage members => [⟨_, heritage⟩, ⟨_, members⟩]
  | _, .arrow _ parameters result => [⟨_, parameters⟩, ⟨_, result⟩]
  | _, .arrowBlock _ parameters body => [⟨_, parameters⟩, ⟨_, body⟩]
  | _, .unary _ operand => [⟨_, operand⟩]
  | _, .update _ _ operand => [⟨_, operand⟩]
  | _, .binary _ left right => [⟨_, left⟩, ⟨_, right⟩]
  | _, .assign _ target value => [⟨_, target⟩, ⟨_, value⟩]
  | _, .conditional test yes no => [⟨_, test⟩, ⟨_, yes⟩, ⟨_, no⟩]
  | _, .sequence parts => [⟨_, parts⟩]
  | _, .call _ callee arguments => [⟨_, callee⟩, ⟨_, arguments⟩]
  | _, .construct callee arguments => [⟨_, callee⟩, ⟨_, arguments⟩]
  | _, .member _ _ holder _ => [⟨_, holder⟩]
  | _, .index _ holder key => [⟨_, holder⟩, ⟨_, key⟩]
  | _, .yield _ value => [⟨_, value⟩]
  | _, .await value => [⟨_, value⟩]
  | _, .paren inner => [⟨_, inner⟩]
  -- elements of arrays and arguments
  | _, .plainElement value => [⟨_, value⟩]
  | _, .spreadElement value => [⟨_, value⟩]
  -- properties of objects
  | _, .shorthandDefault _ _ value => [⟨_, value⟩]
  | _, .keyValue key value => [⟨_, key⟩, ⟨_, value⟩]
  | _, .objectMethod _ key f => [⟨_, key⟩, ⟨_, f⟩]
  | _, .spreadProperty value => [⟨_, value⟩]
  -- keys
  | _, .computedKey e => [⟨_, e⟩]
  | _, .bareKey e => [⟨_, e⟩]
  -- functions
  | _, .function _ _ parameters body => [⟨_, parameters⟩, ⟨_, body⟩]
  -- patterns
  | _, .arrayPattern elements _ => [⟨_, elements⟩]
  | _, .objectPattern properties _ => [⟨_, properties⟩]
  | _, .defaulted target value => [⟨_, target⟩, ⟨_, value⟩]
  | _, .gathered target => [⟨_, target⟩]
  | _, .place e => [⟨_, e⟩]
  -- properties of object patterns
  | _, .keyPattern key target => [⟨_, key⟩, ⟨_, target⟩]
  | _, .namePattern _ value => [⟨_, value⟩]
  | _, .gatheredProperty target => [⟨_, target⟩]
  -- members of classes
  | _, .classMethod _ _ key f => [⟨_, key⟩, ⟨_, f⟩]
  | _, .constructor parameters body => [⟨_, parameters⟩, ⟨_, body⟩]
  | _, .field _ key value => [⟨_, key⟩, ⟨_, value⟩]
  -- statements
  | _, .expressionStatement e => [⟨_, e⟩]
  | _, .block body => [⟨_, body⟩]
  | _, .withStatement holder body => [⟨_, holder⟩, ⟨_, body⟩]
  | _, .returnStatement value => [⟨_, value⟩]
  | _, .labelled _ body => [⟨_, body⟩]
  | _, .ifStatement test yes no => [⟨_, test⟩, ⟨_, yes⟩, ⟨_, no⟩]
  | _, .switchStatement value cases => [⟨_, value⟩, ⟨_, cases⟩]
  | _, .throwStatement value => [⟨_, value⟩]
  | _, .tryStatement body handling finalizer => [⟨_, body⟩, ⟨_, handling⟩, ⟨_, finalizer⟩]
  | _, .whileLoop test body => [⟨_, test⟩, ⟨_, body⟩]
  | _, .doLoop body test => [⟨_, body⟩, ⟨_, test⟩]
  | _, .forLoop init test next body => [⟨_, init⟩, ⟨_, test⟩, ⟨_, next⟩, ⟨_, body⟩]
  | _, .forIn head holder body => [⟨_, head⟩, ⟨_, holder⟩, ⟨_, body⟩]
  | _, .forOf _ head values body => [⟨_, head⟩, ⟨_, values⟩, ⟨_, body⟩]
  | _, .variableDeclaration _ declarators => [⟨_, declarators⟩]
  | _, .functionDeclaration _ f => [⟨_, f⟩]
  | _, .classDeclaration _ heritage members => [⟨_, heritage⟩, ⟨_, members⟩]
  -- parts of statements
  | _, .declarator target init => [⟨_, target⟩, ⟨_, init⟩]
  | _, .switchCase test body => [⟨_, test⟩, ⟨_, body⟩]
  | _, .declarationHead _ declarators => [⟨_, declarators⟩]
  | _, .expressionHead e => [⟨_, e⟩]
  | _, .patternHead p => [⟨_, p⟩]
  | _, .handler parameter body => [⟨_, parameter⟩, ⟨_, body⟩]
  | _, _ => []

/-- A tree of each category. -/
def Node.stub : (c : Category) → Node c
  | .list _ => .nil
  | .option _ => .absent
  | .expression => .unreadable
  | .element => .plainElement .unreadable
  | .property => .spreadProperty .unreadable
  | .key => .computedKey .unreadable
  | .function => .function false false .nil .nil
  | .pattern => .place .unreadable
  | .patternProperty => .namePattern "" .absent
  | .member => .emptyMember
  | .statement => .emptyStatement
  | .declarator => .declarator (.place .unreadable) .absent
  | .switchCase => .switchCase .absent .nil
  | .loopHead => .expressionHead .unreadable
  | .handler => .handler .absent .nil

/-- What a tree is apart from its children: its constructor, and all that it holds besides them. In
the place of each child stands a stub. -/
def Node.hollow : {c : Category} → Node c → Node c
  | _, .cons _ _ => .cons (stub _) (stub _)
  | _, .present _ => .present (stub _)
  -- expressions
  | _, .template texts _ => .template texts (stub _)
  | _, .taggedTemplate _ texts _ => .taggedTemplate (stub _) texts (stub _)
  | _, .array _ trailingComma => .array (stub _) trailingComma
  | _, .object _ => .object (stub _)
  | _, .functionValue name _ => .functionValue name (stub _)
  | _, .classValue name _ _ => .classValue name (stub _) (stub _)
  | _, .arrow isAsync _ _ => .arrow isAsync (stub _) (stub _)
  | _, .arrowBlock isAsync _ _ => .arrowBlock isAsync (stub _) (stub _)
  | _, .unary op _ => .unary op (stub _)
  | _, .update op before _ => .update op before (stub _)
  | _, .binary op _ _ => .binary op (stub _) (stub _)
  | _, .assign op _ _ => .assign op (stub _) (stub _)
  | _, .conditional _ _ _ => .conditional (stub _) (stub _) (stub _)
  | _, .sequence _ => .sequence (stub _)
  | _, .call optional _ _ => .call optional (stub _) (stub _)
  | _, .construct _ _ => .construct (stub _) (stub _)
  | _, .member optional isPrivate _ name => .member optional isPrivate (stub _) name
  | _, .index optional _ _ => .index optional (stub _) (stub _)
  | _, .yield delegate _ => .yield delegate (stub _)
  | _, .await _ => .await (stub _)
  | _, .paren _ => .paren (stub _)
  -- elements of arrays and arguments
  | _, .plainElement _ => .plainElement (stub _)
  | _, .spreadElement _ => .spreadElement (stub _)
  -- properties of objects
  | _, .shorthandDefault start name _ => .shorthandDefault start name (stub _)
  | _, .keyValue _ _ => .keyValue (stub _) (stub _)
  | _, .objectMethod kind _ _ => .objectMethod kind (stub _) (stub _)
  | _, .spreadProperty _ => .spreadProperty (stub _)
  -- keys
  | _, .computedKey _ => .computedKey (stub _)
  | _, .bareKey _ => .bareKey (stub _)
  -- functions
  | _, .function isAsync isGenerator _ _ => .function isAsync isGenerator (stub _) (stub _)
  -- patterns
  | _, .arrayPattern _ trailingComma => .arrayPattern (stub _) trailingComma
  | _, .objectPattern _ trailingComma => .objectPattern (stub _) trailingComma
  | _, .defaulted _ _ => .defaulted (stub _) (stub _)
  | _, .gathered _ => .gathered (stub _)
  | _, .place _ => .place (stub _)
  -- properties of object patterns
  | _, .keyPattern _ _ => .keyPattern (stub _) (stub _)
  | _, .namePattern name _ => .namePattern name (stub _)
  | _, .gatheredProperty _ => .gatheredProperty (stub _)
  -- members of classes
  | _, .classMethod isStatic kind _ _ => .classMethod isStatic kind (stub _) (stub _)
  | _, .constructor _ _ => .constructor (stub _) (stub _)
  | _, .field isStatic _ _ => .field isStatic (stub _) (stub _)
  -- statements
  | _, .expressionStatement _ => .expressionStatement (stub _)
  | _, .block _ => .block (stub _)
  | _, .withStatement _ _ => .withStatement (stub _) (stub _)
  | _, .returnStatement _ => .returnStatement (stub _)
  | _, .labelled label _ => .labelled label (stub _)
  | _, .ifStatement _ _ _ => .ifStatement (stub _) (stub _) (stub _)
  | _, .switchStatement _ _ => .switchStatement (stub _) (stub _)
  | _, .throwStatement _ => .throwStatement (stub _)
  | _, .tryStatement _ _ _ => .tryStatement (stub _) (stub _) (stub _)
  | _, .whileLoop _ _ => .whileLoop (stub _) (stub _)
  | _, .doLoop _ _ => .doLoop (stub _) (stub _)
  | _, .forLoop _ _ _ _ => .forLoop (stub _) (stub _) (stub _) (stub _)
  | _, .forIn _ _ _ => .forIn (stub _) (stub _) (stub _)
  | _, .forOf isAwait _ _ _ => .forOf isAwait (stub _) (stub _) (stub _)
  | _, .variableDeclaration kind _ => .variableDeclaration kind (stub _)
  | _, .functionDeclaration name _ => .functionDeclaration name (stub _)
  | _, .classDeclaration name _ _ => .classDeclaration name (stub _) (stub _)
  -- parts of statements
  | _, .declarator _ _ => .declarator (stub _) (stub _)
  | _, .switchCase _ _ => .switchCase (stub _) (stub _)
  | _, .declarationHead kind _ => .declarationHead kind (stub _)
  | _, .expressionHead _ => .expressionHead (stub _)
  | _, .patternHead _ => .patternHead (stub _)
  | _, .handler _ _ => .handler (stub _) (stub _)
  | _, n => n

namespace Tree

/-- The child of a tree at an index. -/
def child? (t : Tree) (i : Nat) : Option Tree := t.2.children[i]?

/-- The part of a tree at a position. -/
def at? : Tree → List Nat → Option Tree
  | t, [] => some t
  | t, i :: π => (t.child? i).bind fun child => child.at? π

@[simp] theorem at?_nil (t : Tree) : t.at? [] = some t := rfl

theorem at?_cons (t : Tree) (i : Nat) (π : List Nat) :
    t.at? (i :: π) = (t.child? i).bind fun child => child.at? π := rfl

theorem at?_cons_eq_some {t part : Tree} {i : Nat} {π : List Nat} :
    t.at? (i :: π) = some part ↔ ∃ child, t.child? i = some child ∧ child.at? π = some part := by
  rw [at?_cons, Option.bind_eq_some_iff]

/-! ## What is known at a position -/

section Along

variable {α : Type} (step : {c : Category} → Node c → Nat → α → α)

/-- What holds at a position, where `step` says what a tree makes of what holds at itself for its
child at an index. -/
def along : Tree → List Nat → α → α
  | _, [], a => a
  | t, i :: π, a =>
    match t.child? i with
    | some child => along child π (step t.2 i a)
    | none => a

@[simp] theorem along_nil (t : Tree) (a : α) : t.along step [] a = a := rfl

theorem along_cons {t child : Tree} {i : Nat} (hchild : t.child? i = some child) (π : List Nat)
    (a : α) : t.along step (i :: π) a = child.along step π (step t.2 i a) := by
  rw [along, hchild]

end Along

end Tree

/-! ## All parts -/

theorem Node.sizeOf_lt_of_mem_children {c : Category} {n : Node c} {child : Tree}
    (h : child ∈ n.children) : sizeOf child.2 < sizeOf n := by
  -- no tree has more than four children
  cases n <;> rcases h with _ | ⟨_, _ | ⟨_, _ | ⟨_, _ | ⟨_, h⟩⟩⟩⟩
  all_goals first
    | decreasing_tactic
    | cases h

namespace Tree

/-- What holds of a tree whenever it holds of its children holds of all trees. -/
theorem inductionOnChildren {motive : Tree → Prop}
    (step : ∀ t : Tree, (∀ child ∈ t.2.children, motive child) → motive t) (t : Tree) :
    motive t :=
  step t fun child _ => inductionOnChildren step child
termination_by sizeOf t.2
decreasing_by exact Node.sizeOf_lt_of_mem_children ‹_›

/-- What `f` finds at the parts of a tree, in the order in which they are written. -/
def collect {α : Type} (f : Tree → List α) (t : Tree) : List α :=
  f t ++ t.2.children.attach.flatMap fun child => collect f child.1
termination_by sizeOf t.2
decreasing_by exact Node.sizeOf_lt_of_mem_children child.2

section Collect

variable {α : Type} (f : Tree → List α)

theorem collect_eq (t : Tree) : t.collect f = f t ++ t.2.children.flatMap (·.collect f) := by
  rw [collect, List.flatMap_subtype (fun _ _ => rfl), List.unattach_attach]

end Collect

/-- Each beginning of a position is a position. -/
theorem at?_append {t : Tree} {π ρ : List Nat} :
    t.at? (π ++ ρ) = (t.at? π).bind fun part => part.at? ρ := by
  induction π generalizing t with
  | nil => rfl
  | cons i π ih =>
    rw [List.cons_append, at?_cons, at?_cons, Option.bind_assoc]
    congr 1
    funext child
    exact ih

/-- What holds at a position below another is what the part between them makes of it. -/
theorem along_append {α : Type} (step : {c : Category} → Node c → Nat → α → α) {t part : Tree}
    {π : List Nat} (hπ : t.at? π = some part) (ρ : List Nat) (a : α) :
    t.along step (π ++ ρ) a = part.along step ρ (t.along step π a) := by
  induction π generalizing t a with
  | nil =>
    cases hπ
    rfl
  | cons i π ih =>
    obtain ⟨child, hchild, hrest⟩ := at?_cons_eq_some.mp hπ
    rw [List.cons_append, along_cons step hchild, along_cons step hchild, ih hrest]

/-! ## Properties of all parts -/

/-- All parts of a tree, itself among them, have a property. -/
def All (P : Tree → Prop) (t : Tree) : Prop := ∀ π part, t.at? π = some part → P part

theorem all_iff {P : Tree → Prop} {t : Tree} :
    t.All P ↔ P t ∧ ∀ child ∈ t.2.children, child.All P := by
  constructor
  · intro h
    refine ⟨h [] t rfl, ?_⟩
    intro child hchild π part hπ
    obtain ⟨i, hi⟩ := List.mem_iff_getElem?.mp hchild
    exact h (i :: π) part (at?_cons_eq_some.mpr ⟨child, hi, hπ⟩)
  · rintro ⟨hself, hchildren⟩ π part hπ
    cases π with
    | nil =>
      cases hπ
      exact hself
    | cons i π =>
      obtain ⟨child, hchild, hrest⟩ := at?_cons_eq_some.mp hπ
      exact hchildren child (List.mem_of_getElem? hchild) π part hrest

theorem all_of_leaf {P : Tree → Prop} {t : Tree} (ht : t.2.children = []) (h : P t) :
    t.All P := by
  refine all_iff.mpr ⟨h, ?_⟩
  rw [ht]
  exact fun child hchild => absurd hchild List.not_mem_nil

theorem all_of_child {P : Tree → Prop} {t child : Tree} (ht : t.2.children = [child]) (h : P t)
    (hchild : child.All P) : t.All P := by
  refine all_iff.mpr ⟨h, ?_⟩
  rw [ht]
  exact List.forall_mem_singleton.mpr hchild

theorem all_of_pair {P : Tree → Prop} {t first second : Tree}
    (ht : t.2.children = [first, second]) (h : P t) (hfirst : first.All P)
    (hsecond : second.All P) : t.All P := by
  refine all_iff.mpr ⟨h, ?_⟩
  rw [ht]
  exact List.forall_mem_cons.mpr ⟨hfirst, List.forall_mem_singleton.mpr hsecond⟩

/-- Where no part has what is looked for nothing is found. -/
theorem collect_eq_nil {α : Type} {f : Tree → List α} {t : Tree} (h : t.All (f · = [])) :
    t.collect f = [] := by
  induction t using inductionOnChildren with
  | step t ih =>
    obtain ⟨hself, hchildren⟩ := all_iff.mp h
    rw [collect_eq, hself, List.nil_append, List.flatMap_eq_nil_iff]
    exact fun child hchild => ih child hchild (hchildren child hchild)

/-- What is found in a list is found in its elements, in order. -/
theorem collect_ofList {α : Type} {f : Tree → List α} {c : Category}
    (hf : ∀ ns : List (Node c), f ⟨_, .ofList ns⟩ = []) (ns : List (Node c)) :
    collect f ⟨_, .ofList ns⟩ = ns.flatMap fun n => collect f ⟨_, n⟩ := by
  induction ns with
  | nil => exact (collect_eq f _).trans (congrArg (· ++ []) (hf []))
  | cons n ns ih =>
    rw [collect_eq, hf, List.nil_append, List.flatMap_cons, ← ih]
    change _ ++ (_ ++ []) = _
    rw [List.append_nil]

theorem all_ofList {P : Tree → Prop} {c : Category} (hP : ∀ ns : List (Node c), P ⟨_, .ofList ns⟩)
    {ns : List (Node c)} : All P ⟨_, .ofList ns⟩ ↔ ∀ n ∈ ns, All P ⟨_, n⟩ := by
  induction ns with
  | nil => exact iff_of_true (all_of_leaf rfl (hP [])) fun _ hn => absurd hn List.not_mem_nil
  | cons n ns ih =>
    rw [all_iff, List.forall_mem_cons, ← ih]
    change (P _ ∧ ∀ child ∈ [(⟨_, n⟩ : Tree), ⟨_, .ofList ns⟩], All P child) ↔ _
    rw [List.forall_mem_cons, List.forall_mem_singleton]
    exact and_iff_right (hP (n :: ns))

/-- A tree without children is its only part. -/
theorem at?_of_leaf {t part : Tree} {π : List Nat} (ht : t.2.children = [])
    (hπ : t.at? π = some part) : π = [] ∧ part = t := by
  cases π with
  | nil =>
    cases hπ
    exact ⟨rfl, rfl⟩
  | cons i π =>
    obtain ⟨child, hchild, -⟩ := at?_cons_eq_some.mp hπ
    rw [child?, ht] at hchild
    cases hchild

/-! ## Checks by evaluation -/

/-- The positions of a tree that are at most so long. -/
def positions : Nat → Tree → List (List Nat)
  | 0, _ => [[]]
  | depth + 1, t =>
    [] :: t.2.children.zipIdx.flatMap fun (child, i) => (positions depth child).map (i :: ·)

theorem mem_positions {depth : Nat} {t part : Tree} {π : List Nat} (hlength : π.length ≤ depth)
    (hπ : t.at? π = some part) : π ∈ positions depth t := by
  induction π generalizing depth t with
  | nil => cases depth <;> simp [positions]
  | cons i π ih =>
    obtain ⟨child, hchild, hrest⟩ := at?_cons_eq_some.mp hπ
    cases depth with
    | zero => simp at hlength
    | succ depth =>
      have hmem : π ∈ positions depth child := ih (by simpa using hlength) hrest
      rw [positions, List.mem_cons, List.mem_flatMap]
      right
      refine ⟨(child, i), ?_, List.mem_map.mpr ⟨π, hmem, rfl⟩⟩
      exact List.mk_mem_zipIdx_iff_getElem?.mpr hchild

/-- A tree whose positions of at most some length are all shorter has no others. -/
theorem mem_positions_of_shallow {depth : Nat} {t part : Tree} {π : List Nat}
    (hshallow : ∀ ρ ∈ positions depth t, ρ.length < depth) (hπ : t.at? π = some part) :
    π ∈ positions depth t := by
  by_cases hlength : π.length ≤ depth
  · exact mem_positions hlength hπ
  · have hsplit : t.at? (π.take depth ++ π.drop depth) = some part := by
      rw [List.take_append_drop]
      exact hπ
    rw [at?_append, Option.bind_eq_some_iff] at hsplit
    obtain ⟨above, habove, -⟩ := hsplit
    have htake : (π.take depth).length = depth := List.length_take_of_le (by omega)
    have hlt := hshallow _ (mem_positions (Nat.le_of_eq htake) habove)
    omega

/-- What holds at each position that is enumerated holds at every position, if none of them is as
long as the bound. -/
theorem of_all_positions {depth : Nat} {t : Tree} {p : List Nat → Bool}
    (h : ((positions depth t).all fun π => π.length < depth && p π) = true) {π : List Nat}
    {part : Tree} (hπ : t.at? π = some part) : p π = true := by
  simp only [List.all_eq_true, Bool.and_eq_true, decide_eq_true_eq] at h
  exact (h π (mem_positions_of_shallow (fun ρ hρ => (h ρ hρ).1) hπ)).2

end Tree

end ModuleBundler.Script
