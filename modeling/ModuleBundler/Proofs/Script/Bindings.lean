import ModuleBundler.Proofs.Script.Positions
import ModuleBundler.Script.Scope

/-!
Which names a declaration binds, said by positions. A name is bound where a pattern is a name, or
where a property of an object pattern is one, and the way there goes through patterns alone: a
default and a computed key are expressions, and what is bound inside of them is bound for others.
A hole in an array pattern is a place without a pattern, so no way leads through it.

The bound names, as they are collected from left to right, are the names at all these positions in
the order of the text (`Tree.bindsInOrder_boundNames`): none is left out, however deep it stands,
and none is taken from elsewhere.
-/

set_option autoImplicit false

namespace ModuleBundler.Script

/-! ## Where names are bound -/

/-- Trees of the category are what a declaration binds: patterns and their parts, and declarators
with a pattern each. -/
def Category.isTarget : Category → Bool
  | .pattern | .patternProperty | .declarator => true
  | .list c | .option c => c.isTarget
  | _ => false

/-- The name that a tree itself binds. -/
def Node.boundName? : {c : Category} → Node c → Option String
  | _, .binding name => some name
  | _, .namePattern name _ => some name
  | _, _ => none

namespace Tree

/-- The name that is bound at a position of a tree, where the way to the position goes through
patterns. -/
def bindsAt? : Tree → List Nat → Option String
  | t, [] => t.2.boundName?
  | t, i :: π => (t.child? i).bind fun child => if child.1.isTarget then child.bindsAt? π else none

end Tree

/-! ## Positions in the order of the text -/

section Listed

variable {α : Type}

/-- The list of what stands at positions, in the order of the text. -/
def Listed (f : List Nat → Option α) (found : List α) : Prop :=
  ∃ πs : List (List Nat), πs.Pairwise (· < ·) ∧ (∀ π, π ∈ πs ↔ (f π).isSome) ∧
    πs.map f = found.map some

theorem listed_nil {f : List Nat → Option α} (h : ∀ π, f π = none) : Listed f [] := by
  refine ⟨[], List.Pairwise.nil, ?_, rfl⟩
  intro π
  simp [h π]

/-- What stands in some trees that follow each other, the first of which is at the index `k`. -/
def amongChildren (f : Tree → List Nat → Option α) (k : Nat) (children : List Tree) :
    List Nat → Option α
  | [] => none
  | i :: π => if k ≤ i then children[i - k]?.bind fun child => f child π else none

section Children

variable {f : Tree → List Nat → Option α} {k i : Nat} {π : List Nat} (child : Tree)
  (rest : List Tree)

theorem amongChildren_of_lt (children : List Tree) (hlt : i < k) :
    amongChildren f k children (i :: π) = none := by
  have hnot : ¬ k ≤ i := by omega
  rw [amongChildren, if_neg hnot]

theorem amongChildren_cons_self : amongChildren f k (child :: rest) (k :: π) = f child π := by
  simp [amongChildren]

theorem amongChildren_cons_of_lt (hlt : k < i) :
    amongChildren f k (child :: rest) (i :: π) = amongChildren f (k + 1) rest (i :: π) := by
  have hle : k ≤ i := by omega
  have hle' : k + 1 ≤ i := hlt
  have hindex : i - k = i - (k + 1) + 1 := by omega
  rw [amongChildren, amongChildren, if_pos hle, if_pos hle', hindex, List.getElem?_cons_succ]

/-- Where something stands is at the index of one of the trees. -/
theorem exists_of_amongChildren_isSome {children : List Tree}
    (h : (amongChildren f k children π).isSome = true) : ∃ i ρ, π = i :: ρ ∧ k ≤ i := by
  cases π with
  | nil => simp [amongChildren] at h
  | cons i ρ =>
    refine ⟨i, ρ, rfl, ?_⟩
    by_cases hle : k ≤ i
    · exact hle
    · rw [amongChildren_of_lt children (by omega)] at h
      simp at h

end Children

/-- What stands in some trees that follow each other is listed tree by tree. -/
theorem listed_amongChildren {f : Tree → List Nat → Option α} {found : Tree → List α}
    {children : List Tree} (h : ∀ child ∈ children, Listed (f child) (found child)) (k : Nat) :
    Listed (amongChildren f k children) (children.flatMap found) := by
  induction children generalizing k with
  | nil =>
    refine listed_nil (fun π => ?_)
    cases π with
    | nil => rfl
    | cons i π => simp [amongChildren]
  | cons child rest ih =>
    obtain ⟨first, hfirst, hmemFirst, hmapFirst⟩ := h child List.mem_cons_self
    obtain ⟨others, hothers, hmemOthers, hmapOthers⟩ :=
      ih (fun other hother => h other (List.mem_cons_of_mem child hother)) (k + 1)
    -- positions in the rest begin with a higher index, so they stand behind all of the first tree
    have hlater : ∀ π ∈ others, ∃ i ρ, π = i :: ρ ∧ k < i :=
      fun π hπ => exists_of_amongChildren_isSome ((hmemOthers π).1 hπ)
    refine ⟨first.map (k :: ·) ++ others, ?_, ?_, ?_⟩
    · rw [List.pairwise_append, List.pairwise_map]
      refine ⟨hfirst.imp fun hlt => List.cons_lt_cons_iff.2 (Or.inr ⟨rfl, hlt⟩), hothers, ?_⟩
      intro π hπ ρ hρ
      obtain ⟨π', -, rfl⟩ := List.mem_map.1 hπ
      obtain ⟨i, ρ', rfl, hlt⟩ := hlater ρ hρ
      exact List.cons_lt_cons_iff.2 (Or.inl hlt)
    · intro π
      rw [List.mem_append, List.mem_map, hmemOthers]
      cases π with
      | nil => simp [amongChildren]
      | cons i π =>
        rcases Nat.lt_trichotomy i k with hlt | heq | hlt
        · rw [amongChildren_of_lt _ hlt, amongChildren_of_lt _ (by omega)]
          simp
          omega
        · subst heq
          rw [amongChildren_cons_self, amongChildren_of_lt _ (Nat.lt_succ_self i)]
          simp [hmemFirst]
        · rw [amongChildren_cons_of_lt _ _ hlt]
          simp
          omega
    · rw [List.map_append, List.map_map, List.flatMap_cons, List.map_append, ← hmapFirst,
        ← hmapOthers]
      congr 1
      · exact List.map_congr_left fun π _ => amongChildren_cons_self child rest
      · refine List.map_congr_left (fun π hπ => ?_)
        obtain ⟨i, ρ, rfl, hlt⟩ := hlater π hπ
        exact amongChildren_cons_of_lt child rest hlt

/-- What stands at a tree itself comes before what stands in its children. -/
theorem listed_cons {f g : List Nat → Option α} {found : List α} (h : Listed g found)
    (hself : g [] = none) (hchildren : ∀ i π, f (i :: π) = g (i :: π)) :
    Listed f ((f []).toList ++ found) := by
  obtain ⟨πs, hsorted, hmem, hmap⟩ := h
  have hcons : ∀ π ∈ πs, ∃ i ρ, π = i :: ρ := by
    intro π hπ
    cases π with
    | nil =>
      rw [hmem, hself] at hπ
      simp at hπ
    | cons i ρ => exact ⟨i, ρ, rfl⟩
  have hsame : πs.map f = found.map some := by
    rw [← hmap]
    refine List.map_congr_left (fun π hπ => ?_)
    obtain ⟨i, ρ, rfl⟩ := hcons π hπ
    exact hchildren i ρ
  have hmem' : ∀ i ρ, i :: ρ ∈ πs ↔ (f (i :: ρ)).isSome := by
    intro i ρ
    rw [hmem, hchildren]
  have hnil : [] ∉ πs := by
    intro hnil
    obtain ⟨i, ρ, h⟩ := hcons [] hnil
    simp at h
  cases hroot : f [] with
  | none =>
    refine ⟨πs, hsorted, ?_, hsame⟩
    intro π
    cases π with
    | nil => simp [hroot, hnil]
    | cons i ρ => exact hmem' i ρ
  | some a =>
    refine ⟨[] :: πs, ?_, ?_, ?_⟩
    · rw [List.pairwise_cons]
      refine ⟨?_, hsorted⟩
      intro π hπ
      obtain ⟨i, ρ, rfl⟩ := hcons π hπ
      exact List.nil_lt_cons i ρ
    · intro π
      cases π with
      | nil => simp [hroot]
      | cons i ρ => simp [hmem' i ρ]
    · rw [List.map_cons, hroot, hsame]
      rfl

end Listed

/-! ## Bound names -/

namespace Tree

/-- The names that are bound in a tree, in the order of the text. -/
def BindsInOrder (t : Tree) (names : List String) : Prop := Listed t.bindsAt? names

/-- The names of a tree are its own and those of the patterns below it. -/
theorem boundNames_eq {c : Category} (n : Node c) (hc : c.isTarget = true) :
    n.boundNames = n.boundName?.toList ++
      n.children.flatMap fun child => if child.1.isTarget then child.2.boundNames else [] := by
  cases n with
  | nil => rfl
  | @cons c head tail =>
    have hhead : c.isTarget = true := hc
    change head.boundNames ++ tail.boundNames =
      (if c.isTarget then head.boundNames else []) ++
        ((if (Category.list c).isTarget then tail.boundNames else []) ++ [])
    rw [if_pos hhead, if_pos hc, List.append_nil]
  | absent => rfl
  | @present c n =>
    have hn : c.isTarget = true := hc
    change n.boundNames = (if c.isTarget then n.boundNames else []) ++ []
    rw [if_pos hn, List.append_nil]
  | binding name => rfl
  | namePattern name value => rfl
  | place e => rfl
  | arrayPattern elements trailingComma => exact (List.append_nil _).symm
  | objectPattern properties trailingComma => exact (List.append_nil _).symm
  | defaulted target value => exact (List.append_nil _).symm
  | gathered target => exact (List.append_nil _).symm
  | keyPattern key target => exact (List.append_nil _).symm
  | gatheredProperty target => exact (List.append_nil _).symm
  | declarator target init => exact (List.append_nil _).symm
  | _ => exact absurd hc (by decide)

/-- **Every name that a declaration binds is collected once, in the order of the text.** -/
theorem bindsInOrder_boundNames (t : Tree) (ht : t.1.isTarget = true) :
    t.BindsInOrder t.2.boundNames := by
  induction t using Tree.inductionOnChildren with
  | step t ih =>
    have hchildren : ∀ child ∈ t.2.children,
        Listed (fun π => if child.1.isTarget then child.bindsAt? π else none)
          (if child.1.isTarget then child.2.boundNames else []) := by
      intro child hchild
      by_cases htarget : child.1.isTarget
      · simp only [htarget, if_true]
        exact ih child hchild htarget
      · simp only [htarget]
        exact listed_nil fun _ => rfl
    rw [boundNames_eq t.2 ht]
    exact listed_cons (listed_amongChildren hchildren 0) rfl fun i π => rfl

-- the pattern of `{ a, b: [, c = d], ...e }`
example : (Node.objectPattern (.ofList [.namePattern "a" .absent,
      .keyPattern (.nameKey "b") (.arrayPattern
        (.ofList [.absent, .present (.defaulted (.binding "c") (.identifier .written "d"))])
        false),
      .gatheredProperty (.binding "e")]) false).boundNames = ["a", "c", "e"] :=
  rfl

end Tree

end ModuleBundler.Script
