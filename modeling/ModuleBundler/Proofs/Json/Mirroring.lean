import ModuleBundler.Proofs.Json.Canonical
import ModuleBundler.Proofs.Json.Reading

/-!
When an expression says what a document says (`Mirrors`). The relation is between the document as
it is written and a tree of a script, and takes each of them apart; nothing of how the one becomes
the other comes into it. Arrays go element by element. An object is a map, whatever order it is
written in and however often it repeats a name: the properties of its expression ascend by the
bytes of their names, and under each name there is what the document says there last.

The expression of the canonical form of a document mirrors the document (`mirrors_canonical`), by
induction on the document.
-/

set_option autoImplicit false

namespace ModuleBundler.Json

open Script

/-! ## Expressions that mirror a document -/

/-- The elements of an array of these values. -/
def elementsOf (es : List Expr) : Node (.list (.option .element)) :=
  .ofList (es.map fun e => .present (.plainElement e))

/-- The properties of an object with these names and values. -/
def propertiesOf (es : List (String × Expr)) : Node (.list .property) :=
  .ofList (es.map fun e => .keyValue (.stringKey (literalString e.1)) e.2)

/-- An expression says what a document says. A number literal has the value of the digits that the
text of the number has after its sign. The properties of an object ascend by the bytes of their
names; they have the names of the fields, and under each name what the last field of it says. -/
inductive Mirrors : Value → Expr → Prop where
  | null : Mirrors .null .nullLiteral
  | bool (b : Bool) : Mirrors (.bool b) (.boolLiteral b)
  | integer {i : Int} {negative : Bool} {n : Numeral}
      (htext : (Value.integer i).text = signText negative ++ n.text) :
      Mirrors (.integer i) (signed negative n.value)
  | real {r : Binary64} {negative : Bool} {n : Numeral}
      (htext : (Value.real r).text = signText negative ++ n.text) :
      Mirrors (.real r) (signed negative n.value)
  | string (s : String) : Mirrors (.string s) (.stringLiteral (literalString s))
  | array {vs : List Value} {es : List Expr} (hlength : es.length = vs.length)
      (helements : ∀ (i : Nat) v e, vs[i]? = some v → es[i]? = some e → Mirrors v e) :
      Mirrors (.array vs) (.array (elementsOf es) false)
  | object {fs : List (String × Value)} {es : List (String × Expr)}
      (hascending : (es.map (bytes ·.1)).Pairwise (· < ·))
      (hnames : ∀ k, k ∈ es.map (·.1) ↔ k ∈ fs.map (·.1))
      (hlast : ∀ k v e, fs.reverse.lookup k = some v → (k, e) ∈ es → Mirrors v e) :
      Mirrors (.object fs) (.object (propertiesOf es))

/-! ## Canonical documents -/

theorem elementNodes_eq (vs : List Value) :
    Node.ofList (elementNodes vs) = elementsOf (vs.map Value.expression) := by
  rw [elementsOf, elementNodes_eq_map, List.map_map]
  rfl

theorem propertyNodes_eq (fs : List (String × Value)) :
    Node.ofList (propertyNodes fs) = propertiesOf (fs.map fun f => (f.1, f.2.expression)) := by
  rw [propertiesOf, propertyNodes_eq_map, List.map_map]
  rfl

/-- What is looked up from the end is one of the fields. -/
theorem mem_of_lookup_reverse {k : String} {v : Value} {fs : List (String × Value)}
    (h : List.lookup k fs.reverse = some v) : (k, v) ∈ fs := by
  obtain ⟨before, after, hsplit, -⟩ := List.lookup_eq_some_iff.mp h
  rw [← List.mem_reverse, hsplit]
  exact List.mem_append_right _ List.mem_cons_self

theorem Value.IsFinite.canonical {v : Value} (hv : v.IsFinite) : v.canonical.IsFinite := by
  induction hv with
  | null => exact .null
  | bool b => exact .bool b
  | integer hi => exact .integer hi
  | real negative hvalue => exact .real negative hvalue
  | string s => exact .string s
  | array _ ih =>
    rw [Value.canonical, canonicalElements_eq]
    exact .array (List.forall_mem_map.mpr ih)
  | object _ ih =>
    rw [Value.canonical]
    refine .object fun f hf => ?_
    rcases mem_canonicalFields _ _ hf with ⟨g, hg, rfl⟩ | hf
    · exact ih g hg
    · cases hf

/-- Canonical fields have the names that fields are written with. -/
theorem mem_names_canonicalFields {k : String} {fs : List (String × Value)} :
    k ∈ (canonicalFields fs []).map (·.1) ↔ k ∈ fs.map (·.1) := by
  rw [mem_keys_iff, lookup_canonicalFields, List.lookup_nil, Option.or_none, Option.isSome_map,
    ← mem_keys_iff, List.map_reverse, List.mem_reverse]

/-- **The expression of the canonical form of a document mirrors the document.** -/
theorem mirrors_canonical {v : Value} (hv : v.IsFinite) : Mirrors v v.canonical.expression := by
  induction hv with
  | null => exact .null
  | bool b => exact .bool b
  | @integer i _ =>
    obtain ⟨n, htext, hvalue⟩ := exists_numeral_integer i
    change Mirrors _ (Value.integer i).expression
    rw [Value.expression, ← hvalue]
    exact .integer htext
  | @real negative m e _ =>
    obtain ⟨n, htext, hvalue⟩ := exists_numeral_real negative m e
    change Mirrors _ (Value.real (.finite negative m e)).expression
    rw [Value.expression, ← hvalue]
    exact .real htext
  | string s => exact .string s
  | @array vs _ ih =>
    rw [Value.canonical, Value.expression, elementNodes_eq, canonicalElements_eq, List.map_map]
    refine .array (List.length_map _) fun i v e hv he => ?_
    rw [List.getElem?_map, hv] at he
    cases he
    exact ih v (List.mem_of_getElem? hv)
  | @object fs _ ih =>
    rw [Value.canonical, Value.expression, propertyNodes_eq]
    have hnames : Ascending (canonicalFields fs []) := ascending_canonicalFields fs .nil
    have hnodup : ((canonicalFields fs []).map (·.1)).Nodup := hnames.imp String.ne_of_lt
    refine .object ?_ ?_ ?_
    · rw [List.map_map]
      exact List.pairwise_map.mpr ((List.pairwise_map.mp hnames).imp bytes_lt_bytes)
    · intro k
      rw [List.map_map]
      exact mem_names_canonicalFields
    · intro k v e hlast he
      obtain ⟨f, hf, heq⟩ := List.mem_map.mp he
      cases heq
      -- a name stands once among the canonical fields, so the field is the one that is looked up
      have hlookup := lookup_eq_of_mem hnodup hf
      rw [lookup_canonicalFields, hlast, List.lookup_nil, Option.or_none,
        Option.map_some] at hlookup
      rw [← Option.some.inj hlookup]
      exact ih (f.1, v) (mem_of_lookup_reverse hlast)

end ModuleBundler.Json
