import Mathlib.Data.List.Nodup

/-!
Lists without the later occurrences of what they repeat. Numbers of modules and the keys of
mappings are given in the order of first use, so `List.eraseDups` is the order both are compared
with. The library has its equations but neither that it repeats nothing nor that it is the
identity on a list that repeats nothing. A look-up too is settled by the first occurrence of its
key, and so finds everything where no key is repeated.
-/

set_option autoImplicit false

namespace ModuleBundler

section FirstOccurrences

variable {α : Type} [BEq α] [LawfulBEq α]

/-- What is left after an element has been kept does not hold it again. -/
private theorem notMem_eraseDups_filter (a : α) (l : List α) :
    a ∉ (l.filter fun b => !b == a).eraseDups := by
  rw [List.mem_eraseDups, List.mem_filter]
  rintro ⟨-, ha⟩
  simp at ha

/-- First occurrences do not repeat. -/
theorem nodup_eraseDups (l : List α) : l.eraseDups.Nodup := by
  generalize hn : l.length = n
  induction n using Nat.strongRecOn generalizing l with
  | ind n ih =>
    cases l with
    | nil => exact List.nodup_nil
    | cons a rest =>
      rw [List.eraseDups_cons, List.nodup_cons]
      refine ⟨notMem_eraseDups_filter a rest, ih _ ?_ _ rfl⟩
      have hle := List.length_filter_le (fun b => !b == a) rest
      rw [List.length_cons] at hn
      omega

/-- A list that repeats nothing is its own list of first occurrences. -/
theorem eraseDups_of_nodup {l : List α} (h : l.Nodup) : l.eraseDups = l := by
  induction l with
  | nil => rfl
  | cons a rest ih =>
    rw [List.nodup_cons] at h
    have hkeep : rest.filter (fun b => !b == a) = rest := by
      refine List.filter_eq_self.2 (fun b hb => ?_)
      have hne : b ≠ a := fun hba => h.1 (hba ▸ hb)
      simpa using hne
    rw [List.eraseDups_cons, hkeep, ih h.2]

omit [LawfulBEq α] in
/-- Taking elements out depends only on which ones are taken out. -/
theorem removeAll_congr {l r r' : List α} (h : ∀ a, r.contains a = r'.contains a) :
    l.removeAll r = l.removeAll r' := by
  simp only [List.removeAll, List.elem_eq_contains, h]

/-- Repetitions may be taken out of a beginning first. -/
theorem eraseDups_append_eraseDups (l r : List α) :
    (l.eraseDups ++ r).eraseDups = (l ++ r).eraseDups := by
  rw [List.eraseDups_append, List.eraseDups_append, eraseDups_of_nodup (nodup_eraseDups l)]
  congr 2
  refine removeAll_congr (fun a => ?_)
  rw [Bool.eq_iff_iff, List.contains_iff_mem, List.contains_iff_mem, List.mem_eraseDups]

/-- An element that has occurred may be left out. -/
theorem eraseDups_append_cons_of_mem {l rest : List α} {a : α} (ha : a ∈ l) :
    (l ++ a :: rest).eraseDups = (l ++ rest).eraseDups := by
  have hdrop : (a :: rest).removeAll l = rest.removeAll l := by
    simp [List.removeAll, ha]
  rw [List.eraseDups_append, List.eraseDups_append, hdrop]

end FirstOccurrences

/-! ## Looking keys up -/

section Lookup

variable {α : Type}

/-- A look-up takes the first entry of the key. -/
theorem lookup_cons (e : String × α) (entries : List (String × α)) (t : String) :
    List.lookup t (e :: entries) = if t = e.1 then some e.2 else List.lookup t entries := by
  obtain ⟨k, value⟩ := e
  rw [List.lookup_cons]
  by_cases ht : t = k
  · simp [ht]
  · have hbeq : (t == k) = false := by simpa using ht
    simp [hbeq, ht]

/-- A look-up finds an entry exactly when there is one of the key. -/
theorem mem_keys_iff {k : String} {entries : List (String × α)} :
    k ∈ entries.map (·.1) ↔ (List.lookup k entries).isSome = true := by
  rw [List.lookup_isSome_iff, List.mem_map]
  constructor
  · rintro ⟨e, he, rfl⟩
    exact ⟨e, he, BEq.rfl⟩
  · rintro ⟨e, he, hk⟩
    exact ⟨e, he, (eq_of_beq hk).symm⟩

/-- Where no key stands twice, a look-up finds every entry. -/
theorem lookup_eq_of_mem {entries : List (String × α)} (hkeys : (entries.map (·.1)).Nodup)
    {e : String × α} (he : e ∈ entries) : List.lookup e.1 entries = some e.2 := by
  induction entries with
  | nil => cases he
  | cons e' rest ih =>
    rw [List.map_cons, List.nodup_cons] at hkeys
    rw [lookup_cons]
    rcases List.mem_cons.1 he with rfl | he
    · rw [if_pos rfl]
    · have hkey : e.1 ∈ rest.map (·.1) := List.mem_map_of_mem he
      have hne : e.1 ≠ e'.1 := fun heq => hkeys.1 (heq ▸ hkey)
      rw [if_neg hne, ih hkeys.2 he]

end Lookup

end ModuleBundler
