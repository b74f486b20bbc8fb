import ModuleBundler.Bundle.Slots
import ModuleBundler.Proofs.Script.Positions

/-!
Trees that filling leaves as they are. What is put in is given out once, so where a tree has no name
for which something is still left nothing happens to it, whatever is left for other names. This is
one induction over all trees: a tree is made of its parts again, in whichever order they are met.
-/

set_option autoImplicit false

namespace ModuleBundler.Bundle

open Script

/-! ## Parts that are filled one after another -/

namespace Filling

variable {α β γ δ ε : Type} {s s₁ s₂ s₃ s₄ : Slots}

theorem map_eq {make : α → β} {x : Filling α} {a : α} (hx : x s = (a, s₁)) :
    map make x s = (make a, s₁) := by
  rw [map, hx]

theorem map₂_eq {make : α → β → γ} {x : Filling α} {y : Filling β} {a : α} {b : β}
    (hx : x s = (a, s₁)) (hy : y s₁ = (b, s₂)) : map₂ make x y s = (make a b, s₂) := by
  rw [map₂, hx]
  exact map_eq hy

theorem map₃_eq {make : α → β → γ → δ} {x : Filling α} {y : Filling β} {z : Filling γ} {a : α}
    {b : β} {c : γ} (hx : x s = (a, s₁)) (hy : y s₁ = (b, s₂)) (hz : z s₂ = (c, s₃)) :
    map₃ make x y z s = (make a b c, s₃) := by
  rw [map₃, hx]
  exact map₂_eq hy hz

theorem map₄_eq {make : α → β → γ → δ → ε} {x : Filling α} {y : Filling β} {z : Filling γ}
    {w : Filling δ} {a : α} {b : β} {c : γ} {d : δ} (hx : x s = (a, s₁)) (hy : y s₁ = (b, s₂))
    (hz : z s₂ = (c, s₃)) (hw : w s₃ = (d, s₄)) :
    map₄ make x y z w s = (make a b c d, s₄) := by
  rw [map₄, hx]
  exact map₃_eq hy hz hw

end Filling

open Filling

/-! ## Names with nothing left for them -/

namespace Slots

/-- Nothing is still to be put in for the name that a tree is, or has as the key of a field. -/
def Passes (s : Slots) : Tree → Prop
  | ⟨_, .identifier _ name⟩ | ⟨_, .field _ (.nameKey name) _⟩ => s.pending name = none
  | _ => True

theorem without_of_pending {s : Slots} {name : String} (h : s.pending name = none) :
    s.without name = s := by
  obtain ⟨modules, entry⟩ := s
  unfold pending at h
  unfold without
  split
  · rw [if_pos ‹_›] at h
    rw [show modules = none from h]
  · rw [if_neg ‹_›] at h
    split
    · rw [if_pos ‹_›] at h
      rw [show entry = none from h]
    · rfl

theorem take_of_pending {s : Slots} {name : String} (h : s.pending name = none) :
    take name s = (none, s) := by
  rw [take, h, without_of_pending h]

theorem identifier_of_pending {origin : Origin} {s : Slots} {name : String}
    (h : s.pending name = none) :
    identifier origin name s = (.identifier origin name, s) := by
  rw [identifier, map_eq (take_of_pending h)]
  rfl

theorem fieldKey_of_passes {key : Key} {s : Slots}
    (hname : ∀ name, key = .nameKey name → s.pending name = none)
    (hother : fill key s = (key, s)) : fieldKey key (fill key) s = (key, s) := by
  cases key with
  | nameKey name =>
    rw [fieldKey, map_eq (take_of_pending (hname name rfl))]
    rfl
  | _ => exact hother

end Slots


/-! ## Trees -/

/-- **What names nothing that is still to be put in is left as it is.** -/
theorem fill_of_passes {s : Slots} (t : Tree) (h : t.All s.Passes) : fill t.2 s = (t.2, s) := by
  induction t using Tree.inductionOnChildren with
  | step t ih =>
    obtain ⟨hself, hbelow⟩ := Tree.all_iff.mp h
    have hchildren : ∀ child ∈ t.2.children, fill child.2 s = (child.2, s) :=
      fun child hchild => ih child hchild (hbelow child hchild)
    obtain ⟨c, n⟩ := t
    cases n
    case identifier origin name =>
      exact Slots.identifier_of_pending hself
    case field isStatic key value =>
      have hkey : Slots.fieldKey key (fill key) s = (key, s) := by
        refine Slots.fieldKey_of_passes ?_ (hchildren _ (.head _))
        rintro name rfl
        exact hself
      exact map₂_eq hkey (hchildren _ (.tail _ (.head _)))
    all_goals first
      | rfl
      | exact map_eq (hchildren _ (.head _))
      | exact map₂_eq (hchildren _ (.head _)) (hchildren _ (.tail _ (.head _)))
      | exact map₂_eq (hchildren _ (.tail _ (.head _))) (hchildren _ (.head _))
      | exact map₃_eq (hchildren _ (.head _)) (hchildren _ (.tail _ (.head _)))
          (hchildren _ (.tail _ (.tail _ (.head _))))
      | exact map₄_eq (hchildren _ (.head _)) (hchildren _ (.tail _ (.head _)))
          (hchildren _ (.tail _ (.tail _ (.head _))))
          (hchildren _ (.tail _ (.tail _ (.tail _ (.head _)))))
/-! ## Names of slots -/

/-- A tree is the name of a slot, or has one as the key of a field. -/
def namesSlot : Tree → Bool
  | ⟨_, .identifier _ name⟩ | ⟨_, .field _ (.nameKey name) _⟩ =>
    name == modulesSlot || name == entrySlot
  | _ => false

theorem Slots.pending_of_ne {name : String} (h : (name == modulesSlot || name == entrySlot) = false)
    (s : Slots) : s.pending name = none := by
  rw [Bool.or_eq_false_iff, beq_eq_false_iff_ne, beq_eq_false_iff_ne] at h
  rw [pending, if_neg h.1, if_neg h.2]

theorem Slots.passes_of_namesSlot {t : Tree} (h : namesSlot t = false) (s : Slots) :
    s.Passes t := by
  unfold namesSlot at h
  unfold Passes
  split at h
  · exact pending_of_ne h s
  · exact pending_of_ne h s
  · trivial

/-- What has no name of a slot is left as it is. -/
theorem fill_of_no_slot {c : Category} {n : Node c} (h : Tree.All (namesSlot · = false) ⟨c, n⟩)
    (s : Slots) : fill n s = (n, s) :=
  fill_of_passes ⟨c, n⟩ fun π part hπ => Slots.passes_of_namesSlot (h π part hπ) s

end ModuleBundler.Bundle
