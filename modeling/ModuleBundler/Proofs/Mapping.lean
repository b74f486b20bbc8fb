import ModuleBundler.Asset
import ModuleBundler.Proofs.FirstOccurrences

/-!
What a mapping holds after entries have been put into it: its keys are the keys of the entries in
the order of first use, and the last entry of a key counts. Where all entries of a key agree, as
they do when they come from a function of the key, the mapping is that function on its keys.
-/

set_option autoImplicit false

namespace ModuleBundler.Mapping

/-- The specifiers that are mapped. -/
def keys (m : Mapping) : List String := m.map (·.1)

@[simp] theorem keys_nil : keys [] = [] := rfl

@[simp] theorem keys_cons (e : String × Nat) (m : Mapping) : keys (e :: m) = e.1 :: keys m := rfl

/-- A key that is new goes to the end, and one that is known stays where it is. -/
theorem keys_insert (m : Mapping) (s : String) (id : Nat) :
    (m.insert s id).keys = if s ∈ m.keys then m.keys else m.keys ++ [s] := by
  induction m with
  | nil => simp [insert]
  | cons e rest ih =>
    by_cases h : e.1 = s
    · simp [insert, h]
    · have hne : s ≠ e.1 := fun hs => h hs.symm
      simp only [insert, h, if_false, keys_cons, ih, List.mem_cons, hne, false_or]
      split <;> simp

/-- Putting an entry in gives its key its number and changes nothing else. -/
theorem lookup_insert (m : Mapping) (s t : String) (id : Nat) :
    List.lookup t (m.insert s id) = if t = s then some id else List.lookup t m := by
  induction m with
  | nil => rw [insert, lookup_cons]
  | cons e rest ih =>
    by_cases he : e.1 = s
    · rw [insert, if_pos he, lookup_cons, lookup_cons, he]
      by_cases ht : t = s
      · simp [ht]
      · simp [ht]
    · rw [insert, if_neg he, lookup_cons, lookup_cons, ih]
      by_cases ht : t = e.1
      · simp [ht, he]
      · simp [ht]

/-! ## Many entries -/

/-- The mapping after entries have been put in one after another. -/
def insertAll (m : Mapping) (entries : List (String × Nat)) : Mapping :=
  entries.foldl (fun m e => m.insert e.1 e.2) m

@[simp] theorem insertAll_nil (m : Mapping) : m.insertAll [] = m := rfl

@[simp] theorem insertAll_cons (m : Mapping) (e : String × Nat) (entries : List (String × Nat)) :
    m.insertAll (e :: entries) = (m.insert e.1 e.2).insertAll entries := rfl

theorem ofList_eq_insertAll (entries : List (String × Nat)) :
    ofList entries = insertAll [] entries := rfl

/-- The keys are those there were and those of the entries, in the order of first use. -/
theorem keys_insertAll (entries : List (String × Nat)) (m : Mapping) (hm : m.keys.Nodup) :
    (m.insertAll entries).keys = (m.keys ++ entries.map (·.1)).eraseDups := by
  induction entries generalizing m with
  | nil => simp [eraseDups_of_nodup hm]
  | cons e rest ih =>
    have hkeys := keys_insert m e.1 e.2
    have hnodup : (m.insert e.1 e.2).keys.Nodup := by
      rw [hkeys]
      split
      · exact hm
      · next hnew =>
        rw [← List.concat_eq_append]
        exact hm.concat hnew
    rw [insertAll_cons, ih _ hnodup, hkeys]
    split
    · next hold => rw [List.map_cons, eraseDups_append_cons_of_mem hold]
    · rw [List.map_cons, List.append_assoc, List.singleton_append]

/-- The keys of a mapping are the keys of its entries, in the order of first use. -/
theorem keys_ofList (entries : List (String × Nat)) :
    (ofList entries).keys = (entries.map (·.1)).eraseDups := by
  rw [ofList_eq_insertAll, keys_insertAll entries [] List.nodup_nil]
  rfl

/-- Entries that come from a function of the key leave the mapping that function on their keys. -/
theorem lookup_insertAll_filterMap (f : String → Option Nat) (specifiers : List String)
    (m : Mapping) (t : String) :
    List.lookup t (m.insertAll (specifiers.filterMap fun s => (f s).map fun id => (s, id)))
      = if t ∈ specifiers ∧ (f t).isSome then f t else List.lookup t m := by
  induction specifiers generalizing m with
  | nil => simp
  | cons s rest ih =>
    cases hs : f s with
    | none =>
      rw [List.filterMap_cons_none (by rw [hs]; rfl), ih]
      by_cases ht : t = s
      · simp [ht, hs]
      · simp [ht]
    | some id =>
      rw [List.filterMap_cons_some (by rw [hs]; rfl), insertAll_cons, ih, lookup_insert]
      by_cases ht : t = s
      · simp [ht, hs]
      · simp [ht]

/-- A mapping from a function of the key: look-ups among the keys give what the function gives. -/
theorem lookup_ofList_filterMap (f : String → Option Nat) {specifiers : List String} {s : String}
    (hs : s ∈ specifiers) :
    List.lookup s (ofList (specifiers.filterMap fun s => (f s).map fun id => (s, id))) = f s := by
  rw [ofList_eq_insertAll, lookup_insertAll_filterMap]
  cases hf : f s with
  | none => simp
  | some id => simp [hs]

end ModuleBundler.Mapping
