import Mathlib.Data.List.Zip
import ModuleBundler.Proofs.Bundle.Table
import ModuleBundler.Proofs.Script.PropertyNames

/-!
The numbers of modules as names of properties. The table of modules has each number as a key, and a
key is the value next to the number. A mapping has the number as a literal that is exact, whatever
the number is. So the loader looks up what the literal names in what the keys name, and the two
agree only where the value is written with the digits of the number.

Of the values next to numbers of at most 53 bits this is true, and different numbers have different
values. Beyond that, numbers share a value, so that one entry of the table hides another, and a
value may be written with the digits of another number, so that the entry is not found
(`keysAsRounded`).
-/

set_option autoImplicit false

namespace ModuleBundler.Bundle

open Script

/-! ## Rows of the table -/

/-- The literals of the mapping of an entry of the table, under their specifiers. -/
def mappedLiterals : Expr → List (String × Expr)
  | .array elements _ =>
    match elements.toList with
    | [_, .present (.plainElement mapping)] => namedProperties mapping
    | _ => []
  | _ => []

/-- A row of the table is that of an asset: it has the value next to the number for its name, and in
its mapping the exact literal of each number. -/
structure IsRow (a : Asset) (row : String × Expr) : Prop where
  name : row.1 = String.ofList (Binary64.ofNat a.id).toText
  literals : mappedLiterals row.2 = a.mapping.map fun e => (e.1, Data.integerLiteral e.2)

theorem namedProperties_mappingLiteral (m : Mapping) :
    namedProperties (mappingLiteral m) = m.map fun e => (e.1, Data.integerLiteral e.2) := by
  rw [mappingLiteral, namedProperties, Node.toList_ofList, List.filterMap_map]
  exact congrFun (List.filterMap_eq_map (f := fun e : String × Nat =>
    (e.1, Data.integerLiteral e.2))) m

/-- The entry of an asset has its mapping after its function. -/
theorem mappedLiterals_pair (f mapping : Expr) :
    mappedLiterals (.array (.ofList [.present (.plainElement f), .present (.plainElement mapping)])
      false) = namedProperties mapping := rfl

/-- The table has a row for each asset, in order. -/
theorem forall₂_isRow {assets : List Asset} {modules : Expr} (h : table assets = .ok modules) :
    List.Forall₂ IsRow assets (namedProperties modules) := by
  cases hentries : assets.mapM tableEntry with
  | error e =>
    rw [table, hentries] at h
    cases h
  | ok entries =>
    rw [table, hentries] at h
    cases h
    obtain ⟨programs, hreads, rfl⟩ := mapM_tableEntry_eq_ok_iff.mp hentries
    clear hentries
    rw [namedProperties, Node.toList_ofList]
    induction hreads with
    | nil => exact .nil
    | cons _ _ ih =>
      refine .cons ⟨rfl, ?_⟩ ih
      exact (mappedLiterals_pair _ _).trans (namedProperties_mappingLiteral _)

/-! ## Keys and literals -/

/-- The literal of a number names each row of the table that is that of an asset of the number. -/
def Finds (assets : List Asset) (rows : List (String × Expr)) (id : Nat) (literal : Expr) : Prop :=
  List.Forall₂ (fun b row => b.id = id → nameAsKey? literal = some row.1) assets rows

/-- The literals in the mapping of each row are those of the entries of the mapping of its asset,
and each of them names the rows of its number. -/
def MappingsFind (assets : List Asset) (rows : List (String × Expr)) : Prop :=
  List.Forall₂ (fun a row => List.Forall₂ (fun e literal =>
    literal.1 = e.1 ∧ Finds assets rows e.2 literal.2) a.mapping (mappedLiterals row.2)) assets rows

/-- Along two lists that are related, a property of pairs that is one of their first parts holds
exactly when it holds of the first list. -/
theorem forall₂_iff_of_forall₂ {α β : Type} {R Q : α → β → Prop} {P : α → Prop} {as : List α}
    {bs : List β} (h : List.Forall₂ R as bs) (hQ : ∀ a b, R a b → (Q a b ↔ P a)) :
    List.Forall₂ Q as bs ↔ ∀ a ∈ as, P a := by
  induction h with
  | nil => simp
  | cons hab _ ih => rw [List.forall₂_cons, List.forall_mem_cons, hQ _ _ hab, ih]

section Rows

variable {assets : List Asset} {rows : List (String × Expr)}

/-- Two numbers of at most 64 bits name the same property as keys when they round to the same
value. -/
theorem ofList_toText_inj {i j : Nat} (hi : i < 2 ^ 64) (hj : j < 2 ^ 64) :
    String.ofList (Binary64.ofNat i).toText = String.ofList (Binary64.ofNat j).toText ↔
      Binary64.ofNat i = Binary64.ofNat j := by
  rw [String.ofList_inj, Binary64.toText_ofNat hi, Binary64.toText_ofNat hj,
    Binary64.plain_ofNat_inj hi hj]

theorem nodup_names_iff (h : List.Forall₂ IsRow assets rows) (hids : ∀ a ∈ assets, a.id < 2 ^ 64) :
    (rows.map (·.1)).Nodup ↔ (assets.map fun a => Binary64.ofNat a.id).Nodup := by
  have hnames : rows.map (·.1) =
      assets.map fun a => String.ofList (Binary64.ofNat a.id).toText := by
    clear hids
    induction h with
    | nil => rfl
    | cons hrow _ ih => rw [List.map_cons, List.map_cons, hrow.name, ih]
  rw [hnames, List.Nodup, List.pairwise_map, List.Nodup, List.pairwise_map]
  exact List.Pairwise.iff_of_mem fun ha hb => not_congr (ofList_toText_inj (hids _ ha) (hids _ hb))

theorem finds_iff (h : List.Forall₂ IsRow assets rows) (id : Nat) :
    Finds assets rows id (Data.integerLiteral id) ↔
      ((∃ b ∈ assets, b.id = id) → (Binary64.ofNat id).toText = Text.decimal id) := by
  rw [Finds, forall₂_iff_of_forall₂ (P := fun b => b.id = id →
    (Binary64.ofNat id).toText = Text.decimal id) h]
  · exact ⟨fun hall ⟨b, hb, hid⟩ => hall b hb hid, fun hall b hb hid => hall ⟨b, hb, hid⟩⟩
  · intro b row hrow
    refine imp_congr_right fun hid => ?_
    rw [nameAsKey?_integerLiteral, hrow.name, hid, Option.some.injEq, String.ofList_inj, eq_comm]

theorem mappingsFind_iff (h : List.Forall₂ IsRow assets rows) :
    MappingsFind assets rows ↔ ∀ a ∈ assets, ∀ e ∈ a.mapping, (∃ b ∈ assets, b.id = e.2) →
      (Binary64.ofNat e.2).toText = Text.decimal e.2 := by
  refine forall₂_iff_of_forall₂ h fun a row hrow => ?_
  rw [hrow.literals, List.forall₂_map_right_iff, List.forall₂_same]
  exact forall₂_congr fun e _ => (and_iff_right rfl).trans (finds_iff h e.2)

end Rows

/-! ## Agreement -/

/-- What the names of the entries in a table of modules are, and whether they are found. -/
structure KeysAsRounded (assets : List Asset) (modules : Expr) : Prop where
  /-- Each asset has an entry, in order, under the text of the value next to its number; its mapping
  has the literal of each number under its specifier. -/
  rows : List.Forall₂ IsRow assets (namedProperties modules)
  /-- The names differ exactly when no two of the numbers round to the same value. -/
  distinct : ((namedProperties modules).map (·.1)).Nodup ↔
    (assets.map fun a => Binary64.ofNat a.id).Nodup
  /-- The literals of mappings name the entries of their numbers exactly when the value next to such
  a number has its digits. -/
  found : MappingsFind assets (namedProperties modules) ↔
    ∀ a ∈ assets, ∀ e ∈ a.mapping, (∃ b ∈ assets, b.id = e.2) →
      (Binary64.ofNat e.2).toText = Text.decimal e.2
  /-- While every number is one that values tell apart, different numbers have different names, and
  the literals name their entries. -/
  agree : (∀ a ∈ assets, a.id ≤ Data.exactIntegerLimit) → (assets.map Asset.id).Nodup →
    ((namedProperties modules).map (·.1)).Nodup ∧ MappingsFind assets (namedProperties modules)

/-- **The keys of a table are rounded and its mappings are not**, so that they agree for numbers
that values tell apart, and beyond them where rounding keeps numbers different and keeps their
digits. -/
theorem keysAsRounded {assets : List Asset} {modules : Expr} (hids : ∀ a ∈ assets, a.id < 2 ^ 64)
    (htable : table assets = .ok modules) : KeysAsRounded assets modules := by
  have hrows := forall₂_isRow htable
  have hdistinct := nodup_names_iff hrows hids
  have hfound := mappingsFind_iff hrows
  refine ⟨hrows, hdistinct, hfound, fun hexact hnodup => ⟨hdistinct.2 ?_, hfound.2 ?_⟩⟩
  · have hlt : ∀ a ∈ assets, a.id < 2 ^ 53 := fun a ha =>
      (hexact a ha).trans_lt (by decide)
    rw [List.Nodup, List.pairwise_map] at hnodup ⊢
    refine (List.Pairwise.iff_of_mem fun ha hb => ?_).1 hnodup
    exact not_congr (Binary64.ofNat_inj_of_lt (hlt _ ha) (hlt _ hb)).symm
  · rintro a - e - ⟨b, hb, hid⟩
    exact Binary64.toText_ofNat_of_lt (hid ▸ (hexact b hb).trans_lt (by decide))

/-- Assets of two numbers, with a mapping to the second. -/
def assetsNumbered (i j : Nat) : List Asset :=
  [⟨i, .ofString "/a", "a", [], []⟩, ⟨j, .ofString "/b", "b", ["./b"], [("./b", j)]⟩]

theorem keysAsRounded_assetsNumbered :
    ∃ modules, table (assetsNumbered 0 1) = .ok modules ∧
      ((namedProperties modules).map (·.1)).Nodup ∧
      MappingsFind (assetsNumbered 0 1) (namedProperties modules) := by
  obtain ⟨modules, hmodules, -⟩ := exists_ok_of_any (x := table (assetsNumbered 0 1))
    (p := fun _ => true) (by decide +kernel)
  exact ⟨modules, hmodules,
    (keysAsRounded (by decide) hmodules).agree (by decide) (by decide)⟩

/-- Two numbers of 54 bits that are different have one name, and the literal of the second is not
this name. -/
theorem keys_collide_assetsNumbered :
    ∃ modules, table (assetsNumbered (2 ^ 53) (2 ^ 53 + 1)) = .ok modules ∧
      ((assetsNumbered (2 ^ 53) (2 ^ 53 + 1)).map Asset.id).Nodup ∧
      (∀ a ∈ assetsNumbered (2 ^ 53) (2 ^ 53 + 1), a.id < 2 ^ 64) ∧
      ¬ ((namedProperties modules).map (·.1)).Nodup ∧
      ¬ MappingsFind (assetsNumbered (2 ^ 53) (2 ^ 53 + 1)) (namedProperties modules) := by
  obtain ⟨modules, hmodules, -⟩ := exists_ok_of_any
    (x := table (assetsNumbered (2 ^ 53) (2 ^ 53 + 1))) (p := fun _ => true) (by decide +kernel)
  have hrows := forall₂_isRow hmodules
  have hids : ∀ a ∈ assetsNumbered (2 ^ 53) (2 ^ 53 + 1), a.id < 2 ^ 64 := by decide
  refine ⟨modules, hmodules, by decide, hids, ?_, ?_⟩
  · rw [nodup_names_iff hrows hids]
    decide +kernel
  · rw [mappingsFind_iff hrows]
    decide +kernel

end ModuleBundler.Bundle
