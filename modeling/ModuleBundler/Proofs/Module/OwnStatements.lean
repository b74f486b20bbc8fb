import Mathlib.Data.List.Forall2
import ModuleBundler.Proofs.Module.Contributions

/-!
The statements of a module after lowering. A lowered module ends in them, one for one and in order;
what lowering adds stands before them. So a property of what lowering does to the code of a module
is a relation between a statement and what becomes of it.
-/

set_option autoImplicit false

namespace ModuleBundler.Module

open Script

/-- What becomes of a statement of a module. -/
def lowered (m : Module) (s : Statement) : Statement :=
  if m.isScript then s else s.relink m.links

theorem lowered_of_isScript {m : Module} (hm : m.isScript = true) (s : Statement) :
    m.lowered s = s := by
  rw [lowered, if_pos hm]

theorem lowered_of_not_isScript {m : Module} (hm : m.isScript = false) (s : Statement) :
    m.lowered s = s.relink m.links := by
  rw [lowered, hm, if_neg Bool.false_ne_true]

theorem map_lowered_of_not_isScript {m : Module} (hm : m.isScript = false)
    (statements : List Statement) :
    statements.map m.lowered = statements.map (·.relink m.links) :=
  List.map_congr_left fun s _ => lowered_of_not_isScript hm s

/-- A script is its statements. -/
theorem lower_body_of_isScript {m : Module} (hm : m.isScript = true) :
    m.lower.body = m.statements.map m.lowered := by
  have hown : m.statements.map m.lowered = m.statements :=
    (List.map_congr_left fun s _ => lowered_of_isScript hm s).trans (List.map_id' _)
  rw [hown, lower, hm]
  exact (statements_of_isScript hm).1

theorem exists_lower_body_eq (m : Module) :
    ∃ generated, m.lower.body = generated ++ m.statements.map m.lowered := by
  cases hm : m.isScript with
  | true => exact ⟨[], lower_body_of_isScript hm⟩
  | false =>
    rw [map_lowered_of_not_isScript hm, lower, hm]
    exact ⟨_, m.loweredBody_eq⟩

/-- The lowered module ends in one statement for each statement of the module, and each is in a
relation to the one that it stems from. -/
def LowersStatements (R : Statement → Statement → Prop) (m : Module) : Prop :=
  ∃ generated own, m.lower.body = generated ++ own ∧ List.Forall₂ R m.statements own

theorem lowersStatements_iff {R : Statement → Statement → Prop} {m : Module} :
    m.LowersStatements R ↔ ∀ s ∈ m.statements, R s (m.lowered s) := by
  obtain ⟨generated, hbody⟩ := m.exists_lower_body_eq
  have hpairs : List.Forall₂ R m.statements (m.statements.map m.lowered) ↔
      ∀ s ∈ m.statements, R s (m.lowered s) := by
    rw [List.forall₂_map_right_iff, List.forall₂_same]
  rw [← hpairs]
  constructor
  · rintro ⟨generated', own, hbody', hown⟩
    have hlength : (m.statements.map m.lowered).length = own.length := by
      rw [List.length_map, hown.length_eq]
    obtain ⟨-, rfl⟩ := List.append_inj' (hbody.symm.trans hbody') hlength
    exact hown
  · intro hown
    exact ⟨generated, _, hbody, hown⟩

end ModuleBundler.Module
