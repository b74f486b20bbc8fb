import ModuleBundler.Proofs.Module.Contributions
import ModuleBundler.Proofs.Module.Rewriting

/-!
The calls of `require` in a script: which ones the pieces of generated code make, and what becomes
of the calls of a script when the references in it are replaced. A call of a name is only ever
replaced by one of something else, and no lookup is a string or a call, so calls can be lost but
not gained (`requireArguments_relinkAs`).
-/

set_option autoImplicit false

namespace ModuleBundler

open Script

/-! ## Calls -/

namespace Script.Node

/-- The string that a tree is. A list counts as its first element. -/
def string? : {c : Category} → Node c → Option String
  | _, .stringLiteral s => some s.value
  | _, .plainElement value => value.string?
  | _, .cons head _ => head.string?
  | _, _ => none

/-- The name that a tree is. -/
def name? : {c : Category} → Node c → Option String
  | _, .identifier _ name => some name
  | _, _ => none

/-- The string that a tree calls `require` with, if it is such a call. -/
def requireArgument? : {c : Category} → Node c → Option String
  | _, .call _ callee arguments =>
    if callee.name? = some "require" then arguments.string? else none
  | _, _ => none

/-- The strings that `require` is called with in a tree, in order, repetitions included. -/
def requireArguments {c : Category} (n : Node c) : List String :=
  Tree.collect (fun part => part.2.requireArgument?.toList) ⟨c, n⟩

theorem requireArguments_eq {c : Category} (n : Node c) :
    n.requireArguments =
      n.requireArgument?.toList ++ n.children.flatMap (·.2.requireArguments) :=
  Tree.collect_eq _ _

/-- A tree that is no call makes the calls of its only child. -/
theorem requireArguments_of_child {c c' : Category} {n : Node c} {child : Node c'}
    (hcall : n.requireArgument? = none) (hn : n.children = [⟨c', child⟩]) :
    n.requireArguments = child.requireArguments := by
  rw [requireArguments_eq, hcall, hn]
  exact List.append_nil _

/-- A tree that is no call makes the calls of its two children. -/
theorem requireArguments_of_children {c c' c'' : Category} {n : Node c} {first : Node c'}
    {second : Node c''} (hcall : n.requireArgument? = none)
    (hn : n.children = [⟨c', first⟩, ⟨c'', second⟩]) :
    n.requireArguments = first.requireArguments ++ second.requireArguments := by
  rw [requireArguments_eq, hcall, hn, List.flatMap_cons, List.flatMap_cons, List.flatMap_nil,
    List.append_nil]
  rfl

end Script.Node

/-- The strings that `require` is called with in statements, in order, repetitions included. -/
def requireArguments (body : List Statement) : List String := body.flatMap (·.requireArguments)

theorem requireArguments_append (body more : List Statement) :
    requireArguments (body ++ more) = requireArguments body ++ requireArguments more :=
  List.flatMap_append

/-! ## Calls in generated code -/

section Generated

open Script.Node

@[simp] theorem requireArguments_absent {c : Category} :
    (absent : Node (.option c)).requireArguments = [] := requireArguments_eq _

@[simp] theorem requireArguments_present {c : Category} (n : Node c) :
    (present n).requireArguments = n.requireArguments := requireArguments_of_child rfl rfl

@[simp] theorem requireArguments_ofList {c : Category} (ns : List (Node c)) :
    (ofList ns).requireArguments = ns.flatMap (·.requireArguments) :=
  Tree.collect_ofList (fun ns => by cases ns <;> rfl) ns

@[simp] theorem requireArguments_name (s : String) : (Build.name s).requireArguments = [] :=
  requireArguments_eq _

@[simp] theorem requireArguments_str (s : String) : (Build.str s).requireArguments = [] :=
  requireArguments_eq _

@[simp] theorem requireArguments_nullLiteral : nullLiteral.requireArguments = [] :=
  requireArguments_eq _

@[simp] theorem requireArguments_boolLiteral (b : Bool) : (boolLiteral b).requireArguments = [] :=
  requireArguments_eq _

@[simp] theorem requireArguments_dot (holder : Expr) (key : String) :
    (Build.dot holder key).requireArguments = holder.requireArguments :=
  requireArguments_of_child rfl rfl

@[simp] theorem requireArguments_itemAt (holder key : Expr) :
    (Build.itemAt holder key).requireArguments =
      holder.requireArguments ++ key.requireArguments :=
  requireArguments_of_children rfl rfl

@[simp] theorem requireArguments_binary (op : BinaryOperator) (left right : Expr) :
    (binary op left right).requireArguments =
      left.requireArguments ++ right.requireArguments :=
  requireArguments_of_children rfl rfl

@[simp] theorem requireArguments_conditional (test yes no : Expr) :
    (conditional test yes no).requireArguments =
      test.requireArguments ++ (yes.requireArguments ++ no.requireArguments) := by
  refine (requireArguments_eq _).trans ?_
  change _ ++ (_ ++ (_ ++ [])) = _
  rw [List.append_nil]

@[simp] theorem requireArguments_plainElement (value : Expr) :
    (plainElement value).requireArguments = value.requireArguments :=
  requireArguments_of_child rfl rfl

@[simp] theorem requireArguments_call (callee : Expr) (arguments : List Expr) :
    (Build.call callee arguments).requireArguments =
      (if callee.name? = some "require" then arguments.head?.bind (·.string?) else none).toList ++
        (callee.requireArguments ++ arguments.flatMap (·.requireArguments)) := by
  refine (requireArguments_eq _).trans ?_
  change (if callee.name? = some "require" then _ else none).toList ++
    (_ ++ ((ofList (arguments.map .plainElement)).requireArguments ++ [])) = _
  rw [List.append_nil, requireArguments_ofList, List.flatMap_map]
  simp only [requireArguments_plainElement]
  cases arguments <;> rfl

@[simp] theorem requireArguments_keyValue (name : String) (value : Expr) :
    (keyValue (.nameKey name) value).requireArguments = value.requireArguments := by
  have hkey : (nameKey name).requireArguments = [] := requireArguments_eq _
  have hboth : (keyValue (.nameKey name) value).requireArguments =
      (nameKey name).requireArguments ++ value.requireArguments :=
    requireArguments_of_children rfl rfl
  rw [hboth, hkey, List.nil_append]

@[simp] theorem requireArguments_object (fields : List (String × Expr)) :
    (Build.object fields).requireArguments = fields.flatMap (·.2.requireArguments) := by
  refine (requireArguments_of_child rfl rfl).trans ?_
  rw [requireArguments_ofList, List.flatMap_map]
  simp only [requireArguments_keyValue]

@[simp] theorem requireArguments_function (parameters : List String) (body : List Statement) :
    (Build.function parameters body).requireArguments = body.flatMap (·.requireArguments) := by
  have hbinding : ∀ name, (binding name).requireArguments = [] := fun _ => requireArguments_eq _
  refine (requireArguments_of_children rfl rfl).trans ?_
  rw [requireArguments_ofList, requireArguments_ofList, List.flatMap_map]
  simp [hbinding]

@[simp] theorem requireArguments_lambda (parameters : List String) (body : List Statement) :
    (Build.lambda parameters body).requireArguments = body.flatMap (·.requireArguments) :=
  (requireArguments_of_child rfl rfl).trans (requireArguments_function parameters body)

@[simp] theorem requireArguments_assignTo (target value : Expr) :
    (Build.assignTo target value).requireArguments =
      target.requireArguments ++ value.requireArguments := by
  have hplace : (place target).requireArguments = target.requireArguments :=
    requireArguments_of_child rfl rfl
  refine (requireArguments_of_children rfl rfl).trans ?_
  rw [hplace]

@[simp] theorem requireArguments_run (e : Expr) :
    (Build.run e).requireArguments = e.requireArguments :=
  requireArguments_of_child rfl rfl

@[simp] theorem requireArguments_var (s : String) (init : Expr) :
    (Build.var s init).requireArguments = init.requireArguments := by
  have hbinding : (binding s).requireArguments = [] := requireArguments_eq _
  have hdeclarator : (declarator (binding s) (present init)).requireArguments =
      (binding s).requireArguments ++ (present init).requireArguments :=
    requireArguments_of_children rfl rfl
  refine (requireArguments_of_child rfl rfl).trans ?_
  rw [requireArguments_ofList]
  simp [hdeclarator, hbinding]

@[simp] theorem requireArguments_returnStatement (value : Node (.option .expression)) :
    (returnStatement value).requireArguments = value.requireArguments :=
  requireArguments_of_child rfl rfl

@[simp] theorem requireArguments_returns (e : Expr) :
    (Build.returns e).requireArguments = e.requireArguments :=
  (requireArguments_returnStatement _).trans (requireArguments_present e)

@[simp] theorem requireArguments_declare (s : String) (parameters : List String)
    (body : List Statement) :
    (Build.declare s parameters body).requireArguments = body.flatMap (·.requireArguments) :=
  (requireArguments_of_child rfl rfl).trans (requireArguments_function parameters body)

@[simp] theorem requireArguments_block (body : List Statement) :
    (Build.block body).requireArguments = body.flatMap (·.requireArguments) :=
  (requireArguments_of_child rfl rfl).trans (requireArguments_ofList body)

@[simp] theorem requireArguments_when (test : Expr) (yes : Statement) :
    (Build.when test yes).requireArguments = test.requireArguments ++ yes.requireArguments := by
  refine (requireArguments_eq _).trans ?_
  change _ ++ (_ ++ ((absent : Node (.option .statement)).requireArguments ++ [])) = _
  rw [requireArguments_absent, List.append_nil, List.append_nil]

@[simp] theorem name?_name (s : String) : (Build.name s).name? = some s := rfl

@[simp] theorem string?_str (s : String) : (Build.str s).string? = some s := rfl

@[simp] theorem name?_dot (holder : Expr) (key : String) : (Build.dot holder key).name? = none :=
  rfl

/-- No helper calls `require`. -/
theorem requireArguments_declaration (helper : InteropHelper) :
    helper.declaration.requireArguments = [] := by
  cases helper <;>
    simp [InteropHelper.declaration, InteropHelper.declaresExports, InteropHelper.forEachKey,
      InteropHelper.forward, InteropHelper.keyIs]

/-- A module is loaded by one call. -/
@[simp] theorem requireArguments_requireCall (source : String) :
    (requireCall source).requireArguments = [source] := by
  simp [requireCall]

/-- A module is loaded by one call, whether or not a helper is called with it. -/
theorem requireArguments_requireThrough (helper : Option InteropHelper) (source : String) :
    (requireThrough helper source).requireArguments = [source] := by
  rcases helper with _ | _ | _ | _ <;> simp [requireThrough, InteropHelper.name]

/-- An export makes the calls that its value makes. -/
theorem requireArguments_defineExport (exported : String) (value : Expr) :
    (defineExport exported (getterOf value)).requireArguments = value.requireArguments := by
  simp [defineExport, getterOf]

end Generated

/-! ## Calls and the replacement of references -/

/-- All names stand for lookups in the variables of imports. -/
def Links.ReadsRecords (l : Links) : Prop :=
  ∀ binding ∈ l.bindings, ∃ clause record, ImportClause.prescribed record clause = binding.2

theorem Links.ReadsRecords.linksFor {l : Links} (hl : l.ReadsRecords) {c : Category} (n : Node c)
    (i : Nat) : (n.linksFor i l).ReadsRecords := by
  rw [Links.ReadsRecords, n.bindings_linksFor]
  exact hl

section Replaced

variable {l : Links}

theorem Links.ReadsRecords.find? (hl : l.ReadsRecords) {name : String} {e : Expr}
    (h : l.find? name = some e) : ∃ clause record, ImportClause.prescribed record clause = e := by
  obtain ⟨before, after, hsplit, -⟩ := List.lookup_eq_some_iff.mp h
  have hmem : (name, e) ∈ l.bindings := by
    rw [hsplit]
    exact List.mem_append_right _ List.mem_cons_self
  exact hl _ hmem

theorem Links.ReadsRecords.resolve? (hl : l.ReadsRecords) {name : String} {e : Expr}
    (h : l.resolve? name = some e) :
    ∃ clause record, ImportClause.prescribed record clause = e :=
  hl.find? (Links.find?_of_resolve? h)

/-- A lookup makes no call. -/
theorem requireArguments_prescribed (clause : ImportClause) (record : String) :
    (clause.prescribed record).requireArguments = [] := by
  rw [← ImportClause.value_eq_prescribed]
  cases clause <;> simp [ImportClause.value, lookup]

theorem requireArguments_detached (e : Expr) :
    (Links.detached e).requireArguments = e.requireArguments := by
  have hzero : (Node.numberLiteral .zero).requireArguments = [] := Node.requireArguments_eq _
  have hsequence : (Links.detached e).requireArguments =
      (Node.sequence (.ofList [.numberLiteral .zero, e])).requireArguments :=
    Node.requireArguments_of_child rfl rfl
  rw [hsequence, Node.requireArguments_of_child rfl rfl, requireArguments_ofList]
  simp [hzero]

theorem requireArguments_identifier (hl : l.ReadsRecords) (origin : Origin) (name : String) :
    (l.identifier origin name).requireArguments = [] := by
  rw [Links.identifier]
  cases hname : l.resolve? name with
  | none => exact Node.requireArguments_eq _
  | some e =>
    obtain ⟨clause, record, rfl⟩ := hl.resolve? hname
    exact requireArguments_prescribed clause record

theorem requireArguments_callee (hl : l.ReadsRecords) (origin : Origin) (name : String) :
    (l.callee (.identifier origin name) (l.identifier origin name)).requireArguments = [] := by
  rw [Links.callee]
  cases hname : l.resolve? name with
  | none => exact requireArguments_identifier hl origin name
  | some e =>
    obtain ⟨clause, record, rfl⟩ := hl.resolve? hname
    exact (requireArguments_detached _).trans (requireArguments_prescribed clause record)

theorem requireArguments_shorthand (hl : l.ReadsRecords) (name : String) :
    (l.shorthand name).requireArguments = [] := by
  rw [Links.shorthand]
  cases hname : l.resolve? name with
  | none => exact Node.requireArguments_eq _
  | some e =>
    obtain ⟨clause, record, rfl⟩ := hl.resolve? hname
    exact (requireArguments_keyValue _ _).trans (requireArguments_prescribed clause record)

theorem requireArguments_fieldKey (hl : l.ReadsRecords) (name : String) :
    (l.fieldKey (.nameKey name) (.nameKey name)).requireArguments = [] := by
  rw [Links.fieldKey]
  cases hname : l.find? name with
  | none => exact Node.requireArguments_eq _
  | some e =>
    obtain ⟨clause, record, rfl⟩ := hl.find? hname
    exact (Node.requireArguments_of_child rfl rfl).trans
      (requireArguments_prescribed clause record)

/-- A tree without children makes no call, whatever takes its place. -/
theorem requireArguments_relinkAs_of_leaf (hl : l.ReadsRecords) {c : Category} {n : Node c}
    (hn : n.children = []) (role : Role) : (n.relinkAs role l).requireArguments = [] := by
  cases n with
  | identifier origin name =>
    cases role with
    | callee => exact requireArguments_callee hl origin name
    | _ => exact requireArguments_identifier hl origin name
  | shorthand name => cases role <;> exact requireArguments_shorthand hl name
  | nameKey name =>
    cases role with
    | fieldName => exact requireArguments_fieldKey hl name
    | _ => exact Node.requireArguments_eq _
  | _ =>
    first
    | exact absurd hn (List.cons_ne_nil _ _)
    | cases role <;> exact Node.requireArguments_eq _

/-- No string takes the place of anything else. -/
theorem string?_of_relink (hl : l.ReadsRecords) {c : Category} {n : Node c} {s : String}
    (h : (n.relink l).string? = some s) : n.string? = some s := by
  induction n generalizing l with
  | cons head tail ihhead _ => exact ihhead hl h
  | plainElement value ih => exact ih hl h
  | stringLiteral => exact h
  | identifier origin name =>
    change (l.identifier origin name).string? = some s at h
    rw [Links.identifier] at h
    cases hname : l.resolve? name with
    | none =>
      rw [hname] at h
      cases h
    | some e =>
      obtain ⟨clause, record, rfl⟩ := hl.resolve? hname
      rw [hname] at h
      cases clause <;> cases h
  | shorthand name =>
    change (l.shorthand name).string? = some s at h
    rw [Links.shorthand] at h
    split at h <;> cases h
  | declarationHead kind => cases kind <;> cases h
  | _ => cases h

/-- A callee that is a name afterwards was that name. -/
theorem name?_of_callee {e : Expr} {name : String}
    (h : (l.callee e (e.relink l)).name? = some name) : e.name? = some name := by
  cases e with
  | identifier origin name' =>
    change (l.callee (.identifier origin name') (l.identifier origin name')).name? = _ at h
    rw [Links.callee, Links.identifier] at h
    cases hname : l.resolve? name' with
    | none =>
      rw [hname] at h
      exact h
    | some e =>
      rw [hname] at h
      cases h
  | _ => cases h

/-- A tree with children that calls `require` afterwards did so before. -/
theorem requireArgument?_of_relink (hl : l.ReadsRecords) {c : Category} {n : Node c}
    (hn : n.children ≠ []) {s : String} (h : (n.relink l).requireArgument? = some s) :
    n.requireArgument? = some s := by
  cases n with
  | identifier => exact absurd rfl hn
  | shorthand => exact absurd rfl hn
  | call optional callee arguments =>
    change (if (l.callee callee (callee.relink l)).name? = some "require" then
      (arguments.relink l).string? else none) = some s at h
    split at h
    · rename_i hname
      change (if callee.name? = some "require" then arguments.string? else none) = some s
      rw [if_pos (name?_of_callee hname)]
      exact string?_of_relink hl h
    · cases h
  | declarationHead kind => cases kind <;> cases h
  | _ => cases h

end Replaced

private theorem flatMap_mapIdx_sublist {α β : Type} {f : α → List β} {l : List α}
    {g : Nat → α → α} (h : ∀ i, ∀ a ∈ l, (f (g i a)).Sublist (f a)) :
    ((l.mapIdx g).flatMap f).Sublist (l.flatMap f) := by
  induction l generalizing g with
  | nil => exact List.Sublist.refl _
  | cons a rest ih =>
    rw [List.mapIdx_cons, List.flatMap_cons, List.flatMap_cons]
    have hrest : ((rest.mapIdx fun i => g (i + 1)).flatMap f).Sublist (rest.flatMap f) :=
      ih fun i b hb => h (i + 1) b (List.mem_cons_of_mem a hb)
    exact (h 0 a List.mem_cons_self).append hrest

/-- Replacing references takes calls away at most. -/
theorem requireArguments_relinkAs (t : Tree) (role : Role) {l : Links} (hl : l.ReadsRecords) :
    (t.2.relinkAs role l).requireArguments.Sublist t.2.requireArguments := by
  induction t using Tree.inductionOnChildren generalizing role l with
  | step t ih =>
    by_cases ht : t.2.children = []
    -- only a tree without children gives way to something else
    · rw [requireArguments_relinkAs_of_leaf hl ht]
      exact List.nil_sublist _
    · rw [t.2.relinkAs_of_children role l ht, Node.requireArguments_eq,
        Node.requireArguments_eq t.2, t.2.children_relink role l ht]
      refine List.Sublist.append ?_ ?_
      · cases h : (t.2.relink l).requireArgument? with
        | none => exact List.nil_sublist _
        | some s => rw [requireArgument?_of_relink hl ht h]
      · refine flatMap_mapIdx_sublist fun i child hchild => ?_
        exact ih child hchild _ (hl.linksFor t.2 i)

end ModuleBundler
