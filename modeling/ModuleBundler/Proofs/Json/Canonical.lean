import Mathlib.Data.List.Basic
import ModuleBundler.Json.Value
import ModuleBundler.Proofs.FirstOccurrences

/-!
What is left of a document in canonical form. Of the fields of an object it has the last one of
each name, in the order of the names, and that is all that there is to say: a look-up in the
canonical fields is a look-up in the written ones from the end (`lookup_canonicalFields`), and
names ascend (`ascending_canonicalFields`).

Names are compared by code point. This is the order of their bytes as well (`bytes_lt_bytes`): the
encoding of a character is never the beginning of that of another, and the first byte at which two
of them differ decides as the code points do.
-/

set_option autoImplicit false

namespace ModuleBundler.Json

/-! ## Order of names -/

theorem nameLess_iff {a b : String} : nameLess a b = true ↔ a < b := decide_eq_true_iff

/-- The bytes of a name. -/
def bytes (s : String) : List UInt8 := s.toUTF8.data.toList

theorem bytes_eq (s : String) : bytes s = s.toList.flatMap String.utf8EncodeChar := by
  have hencode : s.toList.utf8Encode = s.toUTF8 := String.utf8Encode_toList
  rw [bytes, ← hencode, List.utf8Encode, List.toList_data_toByteArray]

/-- The bytes of a lesser character are less, whatever follows. -/
theorem encode_lt_encode {c d : Char} (h : c < d) (bs cs : List UInt8) :
    String.utf8EncodeChar c ++ bs < String.utf8EncodeChar d ++ cs := by
  have hlt : c.val.toNat < d.val.toNat := h
  have hd : d.val.toNat < 1114112 := by
    rcases d.valid with hsmall | ⟨-, hlarge⟩ <;> omega
  simp only [String.utf8EncodeChar]
  generalize c.val.toNat = m at hlt
  generalize d.val.toNat = n at hlt hd
  -- the bytes after the first one are digits to base 64
  have hdigits : ∀ k : Nat, k / 64 / 64 = k / 4096 ∧ k / 4096 / 64 = k / 262144 :=
    fun k => ⟨Nat.div_div_eq_div_mul .., Nat.div_div_eq_div_mul ..⟩
  obtain ⟨hm, hm'⟩ := hdigits m
  obtain ⟨hn, hn'⟩ := hdigits n
  split_ifs <;>
    simp (disch := omega) only [List.cons_append, List.nil_append, List.cons_lt_cons_iff,
      UInt8.lt_iff_toNat_lt, ← UInt8.toNat_inj, UInt8.toNat_ofNat', Nat.mod_eq_of_lt] <;> omega

/-- **Names that ascend by code point ascend by their bytes.** -/
theorem bytes_lt_bytes {a b : String} (h : a < b) : bytes a < bytes b := by
  have hlist : a.toList < b.toList := h
  rw [bytes_eq, bytes_eq]
  generalize a.toList = as at hlist
  generalize b.toList = bs at hlist
  induction hlist with
  | @nil d ds =>
    rw [List.flatMap_cons, List.flatMap_nil]
    have hne : String.utf8EncodeChar d ≠ [] := String.utf8EncodeChar_ne_nil
    obtain ⟨b, rest, hrest⟩ := List.exists_cons_of_ne_nil hne
    rw [hrest]
    exact List.nil_lt_cons _ _
  | rel hcd => exact encode_lt_encode hcd _ _
  | cons _ ih => exact List.append_left_lt ih

/-! ## Putting a field in -/

variable {fs sorted : List (String × Value)}

/-- The names of fields ascend. -/
def Ascending (fs : List (String × Value)) : Prop := (fs.map (·.1)).Pairwise (· < ·)

theorem lookup_putField (k name : String) (v : Value) (fs : List (String × Value)) :
    List.lookup k (putField name v fs) = if k = name then some v else List.lookup k fs := by
  induction fs with
  | nil => rw [putField, lookup_cons]
  | cons f rest ih =>
    rw [putField]
    by_cases hname : name = f.1
    · rw [if_pos hname, lookup_cons, lookup_cons, hname]
      split <;> rfl
    · rw [if_neg hname]
      split
      · rw [lookup_cons]
      · rw [lookup_cons, lookup_cons, ih]
        by_cases hk : k = f.1
        · rw [if_pos hk, if_neg (fun h => hname (h.symm.trans hk)), if_pos hk]
        · rw [if_neg hk, if_neg hk]

/-- What is there after a field is put in was there before, or is the field. -/
theorem mem_putField {f : String × Value} {name : String} {v : Value}
    (hf : f ∈ putField name v fs) : f = (name, v) ∨ f ∈ fs := by
  induction fs with
  | nil => exact .inl (List.mem_singleton.mp hf)
  | cons g rest ih =>
    rw [putField] at hf
    split at hf
    · next hname =>
      rcases List.mem_cons.mp hf with rfl | hf
      · exact .inl (by rw [hname])
      · exact .inr (List.mem_cons_of_mem _ hf)
    · split at hf
      · exact List.mem_cons.mp hf
      · rcases List.mem_cons.mp hf with rfl | hf
        · exact .inr List.mem_cons_self
        · exact (ih hf).imp id (List.mem_cons_of_mem _)

theorem ascending_putField (name : String) (v : Value) (hfs : Ascending fs) :
    Ascending (putField name v fs) := by
  induction fs with
  | nil => exact List.pairwise_singleton _ _
  | cons f rest ih =>
    obtain ⟨hfirst, hrest⟩ := List.pairwise_cons.mp hfs
    rw [putField]
    by_cases hname : name = f.1
    · rw [if_pos hname]
      exact hfs
    · rw [if_neg hname]
      split
      · next hless =>
        have hlt := nameLess_iff.mp hless
        refine List.pairwise_cons.mpr ⟨fun k hk => ?_, hfs⟩
        rcases List.mem_cons.mp hk with rfl | hk
        · exact hlt
        · exact String.lt_trans hlt (hfirst k hk)
      · next hless =>
        -- the field goes further down, and all that it meets there is above the first name
        have hle : f.1 ≤ name := fun hlt => hless (nameLess_iff.mpr hlt)
        have hlt : f.1 < name := Std.lt_of_le_of_ne hle (Ne.symm hname)
        refine List.pairwise_cons.mpr ⟨fun k hk => ?_, ih hrest⟩
        obtain ⟨g, hg, rfl⟩ := List.mem_map.mp hk
        rcases mem_putField hg with rfl | hg
        · exact hlt
        · exact hfirst _ (List.mem_map_of_mem hg)

/-! ## Canonical fields -/

theorem canonicalElements_eq (vs : List Value) :
    canonicalElements vs = vs.map Value.canonical := by
  induction vs with
  | nil => rfl
  | cons v rest ih => rw [canonicalElements, ih, List.map_cons]

theorem ascending_canonicalFields (fs : List (String × Value)) :
    ∀ {sorted : List (String × Value)}, Ascending sorted →
      Ascending (canonicalFields fs sorted) := by
  induction fs with
  | nil => exact fun h => h
  | cons f rest ih => exact fun h => ih (ascending_putField f.1 f.2.canonical h)

/-- The last field of a name counts. -/
theorem lookup_canonicalFields (k : String) (fs sorted : List (String × Value)) :
    List.lookup k (canonicalFields fs sorted) =
      ((List.lookup k fs.reverse).map Value.canonical).or (List.lookup k sorted) := by
  induction fs generalizing sorted with
  | nil => rfl
  | cons f rest ih =>
    rw [canonicalFields, ih, lookup_putField, List.reverse_cons, List.lookup_append, lookup_cons]
    cases List.lookup k rest.reverse with
    | some v => rfl
    | none => by_cases hk : k = f.1 <;> simp [hk]

theorem mem_canonicalFields {f : String × Value} (fs sorted : List (String × Value))
    (hf : f ∈ canonicalFields fs sorted) :
    (∃ g ∈ fs, f = (g.1, g.2.canonical)) ∨ f ∈ sorted := by
  induction fs generalizing sorted with
  | nil => exact .inr hf
  | cons g rest ih =>
    rcases ih _ hf with ⟨g', hg', rfl⟩ | hf
    · exact .inl ⟨g', List.mem_cons_of_mem _ hg', rfl⟩
    · exact (mem_putField hf).imp (fun h => ⟨g, List.mem_cons_self, h⟩) id

end ModuleBundler.Json
