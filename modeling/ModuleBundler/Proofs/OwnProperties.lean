import ModuleBundler.Proofs.Bundle.Table
import ModuleBundler.Proofs.Loading
import ModuleBundler.Proofs.Mapping
import ModuleBundler.Proofs.Script.Evaluation

/-!
What the object literals of a bundle evaluate to. The keys of mappings and of documents become
names of properties as they are, in quotes. Under every name but one this makes an own property;
under `__proto__` it is about the prototype of the object, and there is no own property. So a
mapping has all of its entries, and a document all of its fields at whatever depth, exactly when
none of them has this name (`keeps_ownProperties_iff`).

For documents the argument goes along `Mirrors`, from the document to the expression that says the
same: each literal has the data that the document says, part by part.
-/

set_option autoImplicit false

namespace ModuleBundler

open Script Json

/-! ## Mappings -/

namespace Mapping

/-- The value of the number of a module: a big integer beyond what numbers can tell apart. -/
def idDatum (id : Nat) : Datum :=
  if id ≤ Data.exactIntegerLimit then .number (.ofNat id) else .big id

theorem evaluate?_integerLiteral (id : Nat) :
    (Data.integerLiteral id).evaluate? = some (idDatum id) := by
  rw [Data.integerLiteral, idDatum, Int.natAbs_natCast, if_neg (Int.not_lt.mpr id.cast_nonneg)]
  split <;> rfl

/-- The own properties of an object are exactly the entries of a mapping. -/
def IsOwn (m : Mapping) (own : List (String × Datum)) : Prop :=
  ∀ s, List.lookup s own = (List.lookup s m).map idDatum

/-- The entries of a mapping as own properties, but for the one that is about the prototype. -/
def ownProperties (m : Mapping) : List (String × Datum) :=
  (m.map fun e => (e.1, idDatum e.2)).filter fun e => e.1 ≠ Definition.prototypeName

/-- The literal of a mapping evaluates to an object with these properties. -/
theorem evaluate?_mappingLiteral {m : Mapping} (hm : m.keys.Nodup) :
    ∃ prototype, (Bundle.mappingLiteral m).evaluate? =
      some (Datum.object prototype m.ownProperties) :=
  evaluate?_object (fun e _ => evaluate?_integerLiteral e.2) hm

theorem lookup_ownProperties (m : Mapping) (s : String) :
    List.lookup s m.ownProperties =
      if s = Definition.prototypeName then none else (List.lookup s m).map idDatum := by
  rw [ownProperties]
  induction m with
  | nil => split <;> rfl
  | cons e rest ih =>
    rw [List.map_cons, List.filter_cons, lookup_cons]
    by_cases he : e.1 = Definition.prototypeName
    · rw [if_neg (by simpa using he), ih]
      by_cases hs : s = Definition.prototypeName
      · rw [if_pos hs, if_pos hs]
      · rw [if_neg hs, if_neg hs, if_neg (fun h => hs (h.trans he))]
    · rw [if_pos (by simpa using he), lookup_cons, ih]
      by_cases hs : s = e.1
      · rw [if_pos hs, if_pos hs, if_neg (fun h => he (hs.symm.trans h))]
        rfl
      · rw [if_neg hs, if_neg hs]

/-- A mapping is kept as it is exactly when no specifier has the name of the prototype. -/
theorem isOwn_ownProperties_iff {m : Mapping} :
    m.IsOwn m.ownProperties ↔ Definition.prototypeName ∉ m.keys := by
  rw [keys, mem_keys_iff]
  constructor
  · intro h hmem
    have hlookup := h Definition.prototypeName
    rw [lookup_ownProperties, if_pos rfl, eq_comm, Option.map_eq_none_iff] at hlookup
    rw [hlookup] at hmem
    cases hmem
  · intro h s
    rw [lookup_ownProperties]
    split
    · next hs =>
      rw [hs, Option.not_isSome_iff_eq_none.mp h]
      rfl
    · rfl

end Mapping

/-! ## Documents -/

namespace Json

/-- Data is what a document says: arrays element by element, and the own properties of an object
are the fields, the last one of each name. -/
inductive Means : Value → Datum → Prop where
  | null : Means .null .null
  | bool (b : Bool) : Means (.bool b) (.bool b)
  | integer {i : Int} {negative : Bool} {n : Numeral}
      (htext : (Value.integer i).text = signText negative ++ n.text) :
      Means (.integer i) (.number (if negative then n.value.neg else n.value))
  | real {r : Binary64} {negative : Bool} {n : Numeral}
      (htext : (Value.real r).text = signText negative ++ n.text) :
      Means (.real r) (.number (if negative then n.value.neg else n.value))
  | string (s : String) : Means (.string s) (.string s)
  | array {vs : List Value} {ds : List Datum} (hlength : ds.length = vs.length)
      (helements : ∀ (i : Nat) v d, vs[i]? = some v → ds[i]? = some d → Means v d) :
      Means (.array vs) (.array ds)
  | object {fs : List (String × Value)} {prototype : Option Datum} {own : List (String × Datum)}
      (hnames : ∀ k, k ∈ own.map (·.1) ↔ k ∈ fs.map (·.1))
      (hlast : ∀ k v d, fs.reverse.lookup k = some v → (k, d) ∈ own → Means v d) :
      Means (.object fs) (.object prototype own)

/-- Some object of a document has a field of a name. A field that gives way to a later one of its
name does not count, and neither does what is in it. -/
inductive Value.Names (name : String) : Value → Prop where
  | field {fs : List (String × Value)} (h : name ∈ fs.map (·.1)) : Names name (.object fs)
  | inField {fs : List (String × Value)} {k : String} {v : Value}
      (h : fs.reverse.lookup k = some v) (hv : Names name v) : Names name (.object fs)
  | inElement {vs : List Value} {v : Value} (h : v ∈ vs) (hv : Names name v) :
      Names name (.array vs)

theorem evaluate?_signed (negative : Bool) (v : Binary64) :
    (signed negative v).evaluate? = some (Datum.number (if negative then v.neg else v)) := by
  cases negative <;> rfl

/-- What an expression evaluates to, if it does. -/
def datumOf (e : Expr) : Datum := (e.evaluate? : Option Datum).getD .null

/-- An expression evaluates, and to what a document means exactly when no field of the document
has the name of the prototype. -/
def KeepsUnlessNamed (v : Value) (e : Expr) : Prop :=
  e.evaluate? = some (datumOf e) ∧
    (Means v (datumOf e) ↔ ¬ v.Names Definition.prototypeName)

theorem keepsUnlessNamed_of_evaluate? {v : Value} {e : Expr} {d : Datum}
    (h : e.evaluate? = some d) (hd : Means v d ↔ ¬ v.Names Definition.prototypeName) :
    KeepsUnlessNamed v e := by
  have hdatum : datumOf e = d := by rw [datumOf, h]; rfl
  exact ⟨by rw [h, hdatum], by rw [hdatum]; exact hd⟩

theorem keepsUnlessNamed_array {vs : List Value} {es : List Expr}
    (hlength : es.length = vs.length)
    (helements : ∀ (i : Nat) v e, vs[i]? = some v → es[i]? = some e → KeepsUnlessNamed v e) :
    KeepsUnlessNamed (.array vs) (.array (elementsOf es) false) := by
  have hvalue : ∀ e ∈ es, e.evaluate? = some (datumOf e) := by
    intro e he
    obtain ⟨i, hi⟩ := List.getElem?_of_mem he
    have hlt : i < vs.length := hlength ▸ (List.getElem?_eq_some_iff.mp hi).1
    exact (helements i _ e (List.getElem?_eq_getElem hlt) hi).1
  refine keepsUnlessNamed_of_evaluate? (evaluate?_array hvalue false)
    ⟨fun h hnames => ?_, fun h => ?_⟩
  · cases h with
    | array _ hmeans =>
      cases hnames with
      | inElement hv hnames =>
        obtain ⟨i, hi⟩ := List.getElem?_of_mem hv
        have hlt : i < es.length := hlength ▸ (List.getElem?_eq_some_iff.mp hi).1
        have he := List.getElem?_eq_getElem hlt
        refine (helements i _ _ hi he).2.mp (hmeans i _ _ hi ?_) hnames
        rw [List.getElem?_map, he]
        rfl
  · refine .array ((List.length_map _).trans hlength) fun i v d hv hd => ?_
    rw [List.getElem?_map] at hd
    obtain ⟨e, he, rfl⟩ := Option.map_eq_some_iff.mp hd
    exact (helements i v e hv he).2.mpr fun hnames =>
      h (.inElement (List.mem_of_getElem? hv) hnames)

/-- The fields of a document as own properties, but for the one that is about the prototype. -/
theorem mem_filter_names {es : List (String × Expr)} {k : String} :
    k ∈ ((es.map fun e => (e.1, datumOf e.2)).filter
      fun e => e.1 ≠ Definition.prototypeName).map (·.1) ↔
        k ∈ es.map (·.1) ∧ k ≠ Definition.prototypeName := by
  simp only [List.mem_map, List.mem_filter, decide_eq_true_eq]
  constructor
  · rintro ⟨-, ⟨⟨e, he, rfl⟩, hne⟩, rfl⟩
    exact ⟨⟨e, he, rfl⟩, hne⟩
  · rintro ⟨⟨e, he, rfl⟩, hne⟩
    exact ⟨_, ⟨⟨e, he, rfl⟩, hne⟩, rfl⟩

theorem keepsUnlessNamed_object {fs : List (String × Value)} {es : List (String × Expr)}
    (hnodup : (es.map (·.1)).Nodup) (hnames : ∀ k, k ∈ es.map (·.1) ↔ k ∈ fs.map (·.1))
    (hlast : ∀ k v e, fs.reverse.lookup k = some v → (k, e) ∈ es → KeepsUnlessNamed v e) :
    KeepsUnlessNamed (.object fs) (.object (propertiesOf es)) := by
  have hfield : ∀ e ∈ es, ∃ v, fs.reverse.lookup e.1 = some v := by
    intro e he
    rw [← Option.isSome_iff_exists, ← mem_keys_iff, List.map_reverse, List.mem_reverse,
      ← hnames]
    exact List.mem_map_of_mem he
  have hvalue : ∀ e ∈ es, e.2.evaluate? = some (datumOf e.2) := by
    intro e he
    obtain ⟨v, hv⟩ := hfield e he
    exact (hlast e.1 v e.2 hv he).1
  have hkeys : (es.map fun e => (literalString e.1).value).Nodup := hnodup
  obtain ⟨prototype, hobject⟩ := evaluate?_object hvalue hkeys
  refine keepsUnlessNamed_of_evaluate? hobject ⟨fun h hnamed => ?_, fun h => ?_⟩
  · cases h with
    | object hown hmeans =>
      -- the name is one of this object, which has lost it, or of a field, which then means less
      cases hnamed with
      | field hname =>
        exact (mem_filter_names.mp ((hown _).mpr hname)).2 rfl
      | @inField _ k v hv hnamed =>
        have hk : k ∈ fs.map (·.1) := by
          rw [← List.mem_reverse, ← List.map_reverse, mem_keys_iff, hv]
          rfl
        obtain ⟨⟨_, d⟩, hd, rfl⟩ := List.mem_map.mp ((hown k).mpr hk)
        obtain ⟨e, he, heq⟩ := List.mem_map.mp (List.mem_filter.mp hd).1
        cases heq
        exact (hlast _ v e.2 hv he).2.mp (hmeans _ v _ hv hd) hnamed
  · refine .object (fun k => ?_) fun k v d hv hd => ?_
    · rw [← hnames]
      -- nothing is filtered out, since the name is none of the document
      refine mem_filter_names.trans ⟨And.left, fun hk => ⟨hk, ?_⟩⟩
      rintro rfl
      exact h (.field ((hnames _).mp hk))
    · obtain ⟨hd, -⟩ := List.mem_filter.mp hd
      obtain ⟨e, he, heq⟩ := List.mem_map.mp hd
      cases heq
      exact (hlast e.1 v e.2 hv he).2.mpr fun hnamed => h (.inField hv hnamed)

/-- **An expression that mirrors a document** evaluates to what the document means, unless a field
has the name of the prototype. -/
theorem Mirrors.keepsUnlessNamed {v : Value} {e : Expr} (h : Mirrors v e) :
    KeepsUnlessNamed v e := by
  induction h with
  | null => exact keepsUnlessNamed_of_evaluate? rfl (iff_of_true .null nofun)
  | bool b => exact keepsUnlessNamed_of_evaluate? rfl (iff_of_true (.bool b) nofun)
  | integer htext =>
    exact keepsUnlessNamed_of_evaluate? (evaluate?_signed _ _) (iff_of_true (.integer htext) nofun)
  | real htext =>
    exact keepsUnlessNamed_of_evaluate? (evaluate?_signed _ _) (iff_of_true (.real htext) nofun)
  | string s => exact keepsUnlessNamed_of_evaluate? rfl (iff_of_true (.string s) nofun)
  | array hlength _ ih => exact keepsUnlessNamed_array hlength ih
  | @object fs es hascending hnames _ ih =>
    have hnodup : (es.map (·.1)).Nodup := by
      refine List.pairwise_map.mpr ((List.pairwise_map.mp hascending).imp fun hlt heq => ?_)
      rw [heq] at hlt
      exact List.lt_irrefl _ hlt
    exact keepsUnlessNamed_object hnodup hnames ih

end Json

/-! ## Literals of a bundle -/

/-- **The literals of a bundle keep their keys unless one of them is `__proto__`.** The literal of
a mapping evaluates to an object with the other entries as own properties, so that the test of the
runtime fails for this specifier alone. The expression that a document is loaded as evaluates to
what the document means exactly when no field of the document has the name, at whatever depth. -/
theorem keeps_ownProperties_iff (m : Mapping) (hm : m.keys.Nodup) (ctx : LoaderContext)
    (source : String) :
    (∃ e prototype own, Bundle.literalOf (Bundle.mappingData m) = .ok e ∧
      e.evaluate? = some (Datum.object prototype own) ∧
      (∀ s, (List.lookup s own).isSome = true ↔ s ∈ m.keys ∧ s ≠ Definition.prototypeName) ∧
      (m.IsOwn own ↔ Definition.prototypeName ∉ m.keys)) ∧
    ∀ ctx' text, Loader.json.load ctx source = .ok (ctx', text) →
      ∃ v e d, Value.ofText? source.toList = some v ∧ ExportsAlone text e ∧
        e.evaluate? = some d ∧ (Means v d ↔ ¬ v.Names Definition.prototypeName) := by
  constructor
  · obtain ⟨prototype, hevaluate⟩ := Mapping.evaluate?_mappingLiteral hm
    refine ⟨_, prototype, _, Bundle.literalOf_mappingData m, hevaluate, fun s => ?_,
      Mapping.isOwn_ownProperties_iff⟩
    rw [Mapping.lookup_ownProperties, Mapping.keys, mem_keys_iff]
    split
    · next hs => simp [hs]
    · next hs => simp [hs]
  · intro ctx' text h
    obtain ⟨v, hv, rfl⟩ := load_json_eq_ok h
    obtain ⟨hevaluate, hmeans⟩ :=
      (mirrors_canonical (isFinite_of_ofText? hv)).keepsUnlessNamed
    exact ⟨v, _, _, hv, exportsAlone_json hv, hevaluate, hmeans⟩

/-- A document within a document. -/
def nestedDocument : String := "\x7b\"a\": \x7b\"b\": null\x7d\x7d"

/-- A mapping of one file beside the module, and a document with a document in it. -/
theorem keeps_ownProperties_besides :
    (∃ e prototype own, Bundle.literalOf (Bundle.mappingData [("./a", 1)]) = .ok e ∧
      e.evaluate? = some (Datum.object prototype own) ∧
      Mapping.IsOwn [("./a", 1)] own) ∧
    ∃ text v e d, Loader.json.load ⟨.ofString "/p/d", []⟩ nestedDocument =
        .ok (⟨.ofString "/p/d", []⟩, text) ∧
      v = .object [("a", .object [("b", .null)])] ∧ ExportsAlone text e ∧
      e.evaluate? = some d ∧ Means v d := by
  have hdocument : Value.ofText? nestedDocument.toList =
      some (.object [("a", .object [("b", .null)])]) := rfl
  have hload : ∃ text, Loader.json.load ⟨.ofString "/p/d", []⟩ nestedDocument =
      .ok (⟨.ofString "/p/d", []⟩, text) := by
    simp only [Loader.json, hdocument]
    exact ⟨_, rfl⟩
  obtain ⟨text, hload⟩ := hload
  obtain ⟨⟨e, prototype, own, hliteral, hevaluate, -, hown⟩, hdocuments⟩ :=
    keeps_ownProperties_iff [("./a", 1)] (by decide) ⟨.ofString "/p/d", []⟩ nestedDocument
  refine ⟨⟨e, prototype, own, hliteral, hevaluate, hown.mpr (by decide)⟩, ?_⟩
  obtain ⟨v, e, d, hv, he, hevaluate, hmeans⟩ := hdocuments _ _ hload
  rw [hdocument] at hv
  cases hv
  refine ⟨text, _, e, d, hload, rfl, he, hevaluate, hmeans.mpr fun hnames => ?_⟩
  cases hnames with
  | field hname => exact absurd hname (by decide)
  | inField hlookup hnames =>
    cases List.mem_singleton.mp (mem_of_lookup_reverse hlookup)
    cases hnames with
    | field hname => exact absurd hname (by decide)
    | inField hlookup hnames =>
      cases List.mem_singleton.mp (mem_of_lookup_reverse hlookup)
      cases hnames

/-- The entry of a file that is called `__proto__` is lost, and so is a field of the name. -/
theorem not_isOwn_prototypeName :
    (∃ e, Bundle.literalOf (Bundle.mappingData [("__proto__", 1)]) = .ok e ∧
      e.evaluate? = some (Datum.object none []) ∧ ¬ Mapping.IsOwn [("__proto__", 1)] []) ∧
    ∃ text v e, Loader.json.load ⟨.ofString "/p/d", []⟩ "\x7b\"__proto__\": 1\x7d" =
        .ok (⟨.ofString "/p/d", []⟩, text) ∧
      v = .object [("__proto__", .integer 1)] ∧ ExportsAlone text e ∧
      e.evaluate? = some (Datum.object none []) ∧ ¬ Means v (.object none []) := by
  constructor
  · refine ⟨_, Bundle.literalOf_mappingData _, rfl, fun h => ?_⟩
    have hlookup := h "__proto__"
    cases hlookup
  · have hdocument : Value.ofText? "\x7b\"__proto__\": 1\x7d".toList =
        some (.object [("__proto__", .integer 1)]) := rfl
    refine ⟨_, _, _, ?_, rfl, exportsAlone_json hdocument, rfl, fun h => ?_⟩
    · simp only [Loader.json, hdocument]
    · cases h with
      | object hnames _ =>
        cases (hnames "__proto__").mpr (List.mem_singleton.mpr rfl)

end ModuleBundler
