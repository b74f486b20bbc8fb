import ModuleBundler.Proofs.Module.Contributions
import ModuleBundler.Proofs.Module.Rewriting

/-!
What names stand for while a module is lowered: imports, at each position of its trees. Whether a
name is hidden differs from position to position, but what it stands for does not.
-/

set_option autoImplicit false

namespace ModuleBundler.Module

open Script

theorem imports_of_find? {m : Module} {name : String} {e : Expr}
    (h : m.links.find? name = some e) : m.Imports name e := by
  obtain ⟨before, after, hsplit, -⟩ := List.lookup_eq_some_iff.mp h
  have hmem : (name, e) ∈ m.links.bindings := by
    rw [hsplit]
    exact List.mem_append_right _ List.mem_cons_self
  exact mem_bindings.mp (List.mem_reverse.mp hmem)

/-- Each imported name stands for something. -/
theorem exists_find?_links {m : Module} {name : String} (h : name ∈ m.importLocals) :
    ∃ e, m.links.find? name = some e := by
  have hkey : name ∈ m.links.bindings.map (·.1) := by
    rw [links, List.map_reverse, contributions, map_fst_bindings, List.mem_reverse]
    exact h
  obtain ⟨binding, hbinding, rfl⟩ := List.mem_map.mp hkey
  cases hfind : m.links.bindings.lookup binding.1 with
  | some e => exact ⟨e, hfind⟩
  | none =>
    have hother := List.lookup_eq_none_iff.mp hfind binding hbinding
    simp at hother

/-- What names stand for at a position of a module are imports. -/
theorem imports_of_find?_linksAt {m : Module} {t : Tree} {π : List Nat} {name : String} {e : Expr}
    (h : (t.linksAt π m.links).find? name = some e) : m.Imports name e := by
  rw [Links.find?, t.bindings_linksAt] at h
  exact imports_of_find? h

theorem imports_of_resolve?_linksAt {m : Module} {t : Tree} {π : List Nat} {name : String}
    {e : Expr} (h : (t.linksAt π m.links).resolve? name = some e) : m.Imports name e :=
  imports_of_find?_linksAt (Links.find?_of_resolve? h)

theorem Imports.exists_prescribed {m : Module} {name : String} {e : Expr} (h : m.Imports name e) :
    ∃ clause record, ImportClause.prescribed record clause = e := by
  obtain ⟨_, _, _, _, _, clause, _, _, hvalue⟩ := h
  exact ⟨clause, _, hvalue⟩

/-- A script imports nothing. -/
theorem importLocals_of_isScript {m : Module} (hm : m.isScript = true) : m.importLocals = [] := by
  rw [isScript, List.all_eq_true] at hm
  rw [importLocals, List.flatMap_eq_nil_iff]
  intro item hitem
  have hstatement := hm item hitem
  cases item with
  | statement => rfl
  | _ => cases hstatement

end ModuleBundler.Module
