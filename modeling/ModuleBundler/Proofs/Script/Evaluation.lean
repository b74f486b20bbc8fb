import ModuleBundler.Proofs.FirstOccurrences
import ModuleBundler.Script.Node

/-!
What literals evaluate to. The rules are those of the language for literals of data: properties of
an object literal are taken from left to right, and each of them creates an own property or gives
the one of its name another value. There is one exception. A property that is written as
`__proto__: v`, with or without quotes, creates nothing: it makes `v` the prototype if that is an
object or null, and does nothing otherwise. A name in brackets is not written but computed, and
is a name like any other.

So the own properties of an object literal whose names differ are its properties in their order,
but for a written `__proto__` (`own_ofDefinitions`).
-/

set_option autoImplicit false

namespace ModuleBundler.Script

/-! ## Data -/

/-- What a literal evaluates to. An object has the prototype that was put in the place of the
initial one, if there is any, and own properties. -/
inductive Datum where
  | null
  | bool (b : Bool)
  | number (v : Binary64)
  | big (i : Int)
  | string (s : String)
  | array (elements : List Datum)
  | object (prototype : Option Datum) (own : List (String × Datum))

namespace Datum

/-- The value can be a prototype: it is an object or null. -/
def isPrototype : Datum → Bool
  | .null | .array _ | .object _ _ => true
  | _ => false

/-- The opposite of a number. -/
def neg? : Datum → Option Datum
  | .number v => some (.number v.neg)
  | _ => none

end Datum

/-! ## Objects -/

/-- A property of an object literal: its name, and whether it was computed, and its value. -/
structure Definition where
  name : String
  computed : Bool
  value : Datum

namespace Definition

/-- The name that stands for the prototype where it is written. -/
def prototypeName : String := "__proto__"

/-- The property is about the prototype of the object. -/
def setsPrototype (d : Definition) : Bool := !d.computed && d.name == prototypeName

end Definition

/-- Gives an own property a value. A new one comes last. -/
def putOwn (name : String) (v : Datum) : List (String × Datum) → List (String × Datum)
  | [] => [(name, v)]
  | (k, w) :: rest => if k = name then (k, v) :: rest else (k, w) :: putOwn name v rest

/-- What a property does to an object under construction. -/
def Definition.apply (object : Option Datum × List (String × Datum)) (d : Definition) :
    Option Datum × List (String × Datum) :=
  if d.setsPrototype then
    (if d.value.isPrototype then some d.value else object.1, object.2)
  else (object.1, putOwn d.name d.value object.2)

/-- The object that properties make. -/
def Datum.ofDefinitions (ds : List Definition) : Datum :=
  .object (ds.foldl Definition.apply (none, [])).1 (ds.foldl Definition.apply (none, [])).2

/-! ## Evaluation -/

/-- What a part of a literal means. -/
def Meaning : Category → Type
  | .expression | .element => Datum
  | .property => Definition
  | .key => String × Bool
  | .list c => List (Meaning c)
  | .option c => Meaning c
  | _ => Empty

/-- What a part of a literal evaluates to. Expressions that are no literals of data have no value
here. -/
def Node.evaluate? : {c : Category} → Node c → Option (Meaning c)
  | .list c, .nil => some ([] : List (Meaning c))
  | .list c, .cons head tail =>
    (do return (← head.evaluate?) :: (← tail.evaluate?) : Option (List (Meaning c)))
  | .option c, .present node => (node.evaluate? : Option (Meaning c))
  | .expression, .nullLiteral => some Datum.null
  | .expression, .boolLiteral b => some (Datum.bool b)
  | .expression, .numberLiteral v => some (Datum.number v)
  | .expression, .bigLiteral i => some (Datum.big i)
  | .expression, .stringLiteral s => some (Datum.string s.value)
  | .expression, .unary .minus operand =>
    (do (← (operand.evaluate? : Option Datum)).neg? : Option Datum)
  | .expression, .array elements _ =>
    (do return .array (← (elements.evaluate? : Option (List Datum))) : Option Datum)
  | .expression, .object properties =>
    (do return .ofDefinitions (← (properties.evaluate? : Option (List Definition))) :
      Option Datum)
  | .element, .plainElement value => (value.evaluate? : Option Datum)
  | .property, .keyValue key value =>
    (do
      let (name, computed) ← (key.evaluate? : Option (String × Bool))
      return ⟨name, computed, ← (value.evaluate? : Option Datum)⟩ : Option Definition)
  | .key, .nameKey name => some (name, false)
  | .key, .stringKey s => some (s.value, false)
  | .key, .computedKey e =>
    (do
      match ← (e.evaluate? : Option Datum) with
      | .string s => return (s, true)
      | _ => none : Option (String × Bool))
  | _, _ => none

/-! ## Own properties -/

/-- The own properties that properties create, one after another. -/
def created (ds : List Definition) : List (String × Datum) :=
  (ds.filter fun d => !d.setsPrototype).map fun d => (d.name, d.value)

theorem putOwn_of_new {name : String} {own : List (String × Datum)}
    (hnew : name ∉ own.map (·.1)) (v : Datum) : putOwn name v own = own ++ [(name, v)] := by
  induction own with
  | nil => rfl
  | cons e rest ih =>
    rw [List.map_cons, List.mem_cons, not_or] at hnew
    rw [putOwn, if_neg (Ne.symm hnew.1), ih hnew.2, List.cons_append]

/-- Properties of different names create one own property each. -/
theorem foldl_apply_own (ds : List Definition) :
    ∀ (object : Option Datum × List (String × Datum)),
      ((object.2 ++ created ds).map (·.1)).Nodup →
        (ds.foldl Definition.apply object).2 = object.2 ++ created ds := by
  -- the object under construction varies: it has what was created so far
  induction ds with
  | nil => exact fun object _ => (List.append_nil _).symm
  | cons d rest ih =>
    intro object hnodup
    rw [List.foldl_cons, Definition.apply]
    by_cases hset : d.setsPrototype = true
    · have hcreated : created (d :: rest) = created rest := by
        rw [created, List.filter_cons_of_neg (by rw [hset]; decide), created]
      rw [hcreated] at hnodup ⊢
      rw [if_pos hset]
      exact ih _ hnodup
    · have hcreated : created (d :: rest) = (d.name, d.value) :: created rest := by
        rw [created, List.filter_cons_of_pos (by simpa using hset), List.map_cons, created]
      rw [hcreated, List.append_cons] at hnodup ⊢
      have hnew : d.name ∉ object.2.map (·.1) := by
        rw [List.map_append, List.map_append] at hnodup
        have hfirst := (List.nodup_append.mp hnodup).1
        exact fun hmem =>
          (List.nodup_append.mp hfirst).2.2 _ hmem _ List.mem_cons_self rfl
      rw [if_neg hset, ih _ (by rw [putOwn_of_new hnew]; exact hnodup), putOwn_of_new hnew]

/-- **Properties of different names** are the own properties of their object, but for those that
are about its prototype. -/
theorem own_ofDefinitions {ds : List Definition} (hnodup : ((created ds).map (·.1)).Nodup) :
    ∃ prototype, Datum.ofDefinitions ds = .object prototype (created ds) := by
  have hown := foldl_apply_own ds (none, []) hnodup
  exact ⟨_, by rw [Datum.ofDefinitions, hown]; rfl⟩

/-- A property under a written name. -/
def asWritten (e : String × Datum) : Definition := ⟨e.1, false, e.2⟩

theorem created_asWritten (es : List (String × Datum)) :
    created (es.map asWritten) = es.filter fun e => e.1 ≠ Definition.prototypeName := by
  rw [created, List.filter_map, List.map_map]
  have hfilter : (fun d : Definition => !d.setsPrototype) ∘ asWritten =
      fun e => decide (e.1 ≠ Definition.prototypeName) := by
    funext e
    simp only [Function.comp_apply, asWritten, Definition.setsPrototype, Bool.not_false,
      Bool.true_and, ne_eq, decide_not]
    rfl
  rw [hfilter]
  exact List.map_id _

/-! ## Arrays and objects -/

section Parts

variable {α : Type} {xs : List α} {value : α → Expr} {datum : α → Datum}

theorem evaluate?_ofList {c : Category} {node : α → Node c} {meaning : α → Meaning c}
    (h : ∀ x ∈ xs, (node x).evaluate? = some (meaning x)) :
    (Node.ofList (xs.map node)).evaluate? = some (xs.map meaning) := by
  induction xs with
  | nil => rfl
  | cons x rest ih =>
    obtain ⟨hx, hrest⟩ := List.forall_mem_cons.mp h
    change (do return (← (node x).evaluate?) ::
      (← (Node.ofList (rest.map node)).evaluate?) : Option (List (Meaning c))) = _
    rw [hx, ih hrest]
    rfl

theorem evaluate?_array (hvalue : ∀ x ∈ xs, (value x).evaluate? = some (datum x))
    (trailingComma : Bool) :
    (Node.array (.ofList (xs.map fun x => .present (.plainElement (value x))))
      trailingComma).evaluate? = some (Datum.array (xs.map datum)) := by
  have helements : (Node.ofList (xs.map fun x =>
      Node.present (.plainElement (value x)))).evaluate? = some (xs.map datum) :=
    evaluate?_ofList hvalue
  change (do return .array (← ((Node.ofList (xs.map fun x =>
    Node.present (.plainElement (value x)))).evaluate? : Option (List Datum))) :
      Option Datum) = _
  rw [helements]
  rfl

/-- **An object literal of different quoted names** has its properties as own properties, but for
the one that is named as the prototype. -/
theorem evaluate?_object {key : α → StringLiteral}
    (hvalue : ∀ x ∈ xs, (value x).evaluate? = some (datum x))
    (hnames : (xs.map fun x => (key x).value).Nodup) :
    ∃ prototype, (Node.object (.ofList (xs.map fun x =>
      .keyValue (.stringKey (key x)) (value x)))).evaluate? =
        some (Datum.object prototype ((xs.map fun x => ((key x).value, datum x)).filter
          fun e => e.1 ≠ Definition.prototypeName)) := by
  have hproperty : ∀ x ∈ xs, (Node.keyValue (.stringKey (key x)) (value x)).evaluate? =
      some (asWritten ((key x).value, datum x)) := by
    intro x hx
    change (do return ⟨(key x).value, false, ← ((value x).evaluate? : Option Datum)⟩ :
      Option Definition) = _
    rw [hvalue x hx]
    rfl
  have hproperties : (Node.ofList (xs.map fun x =>
      Node.keyValue (.stringKey (key x)) (value x))).evaluate? =
        some ((xs.map fun x => ((key x).value, datum x)).map asWritten) := by
    rw [List.map_map]
    exact evaluate?_ofList hproperty
  have hcreated := created_asWritten (xs.map fun x => ((key x).value, datum x))
  have hnodup : ((created ((xs.map fun x => ((key x).value, datum x)).map asWritten)).map
      (·.1)).Nodup := by
    rw [hcreated]
    refine List.Nodup.sublist (List.Sublist.map _ List.filter_sublist) ?_
    rwa [List.map_map]
  obtain ⟨prototype, hobject⟩ := own_ofDefinitions hnodup
  refine ⟨prototype, ?_⟩
  change (do return .ofDefinitions (← ((Node.ofList (xs.map fun x =>
    Node.keyValue (.stringKey (key x)) (value x))).evaluate? : Option (List Definition))) :
      Option Datum) = _
  rw [hproperties, ← hcreated, ← hobject]
  rfl

end Parts

end ModuleBundler.Script
