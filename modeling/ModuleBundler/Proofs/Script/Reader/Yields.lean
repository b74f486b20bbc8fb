import ModuleBundler.Proofs.Script.Written
import ModuleBundler.Script.Reader.Basic

/-!
What holds of all that a reader yields. Nothing is said of the state that it leaves or of when it
fails, so a reading step whose result does not matter is passed over (`Yields.step`). What is to be
known here of a result is that all trees in it are written; results without trees need nothing.
-/

set_option autoImplicit false

namespace ModuleBundler.Script.Reader

/-! ## Results -/

/-- A type of results, with what it means that all trees in a result are written. -/
class HasTrees (α : Type) where
  Written : α → Prop

export HasTrees (Written)

section Results

variable {α β : Type} [HasTrees α] [HasTrees β]

instance {c : Category} : HasTrees (Node c) := ⟨fun n => Tree.IsWritten ⟨c, n⟩⟩

instance : HasTrees (List α) := ⟨fun as => ∀ a ∈ as, Written a⟩

instance : HasTrees (Option α) := ⟨fun o => ∀ a ∈ o, Written a⟩

instance : HasTrees (α × β) := ⟨fun p => Written p.1 ∧ Written p.2⟩

instance : HasTrees String := ⟨fun _ => True⟩

instance : HasTrees Bool := ⟨fun _ => True⟩

instance : HasTrees Position := ⟨fun _ => True⟩

theorem written_nil : Written ([] : List α) := fun _ ha => absurd ha List.not_mem_nil

theorem written_cons {a : α} {as : List α} (ha : Written a) (has : Written as) :
    Written (a :: as) := List.forall_mem_cons.mpr ⟨ha, has⟩

theorem written_singleton {a : α} (ha : Written a) : Written [a] := written_cons ha written_nil

theorem written_reverse {as : List α} (has : Written as) : Written as.reverse :=
  fun a ha => has a (List.mem_reverse.mp ha)

theorem written_map {as : List α} {f : α → β} (has : Written as)
    (hf : ∀ a, Written a → Written (f a)) : Written (as.map f) :=
  List.forall_mem_map.mpr fun a ha => hf a (has a ha)

theorem written_none : Written (none : Option α) := fun _ ha => by cases ha

theorem written_some {a : α} (ha : Written a) : Written (some a) := by
  intro b hb
  cases hb
  exact ha

end Results

/-! ## Trees -/

section Trees

variable {c c₁ c₂ c₃ c₄ : Category} {n : Node c}

theorem written_of_leaf (hn : n.children = []) (hw : n.isWritten = true) : Written n :=
  Tree.all_of_leaf hn hw

theorem written_of_child {first : Node c₁} (hn : n.children = [⟨_, first⟩])
    (hw : n.isWritten = true) (hfirst : Written first) : Written n :=
  Tree.all_of_child hn hw hfirst

theorem written_of_pair {first : Node c₁} {second : Node c₂}
    (hn : n.children = [⟨_, first⟩, ⟨_, second⟩]) (hw : n.isWritten = true)
    (hfirst : Written first) (hsecond : Written second) : Written n :=
  Tree.all_of_pair hn hw hfirst hsecond

theorem written_of_three {first : Node c₁} {second : Node c₂} {third : Node c₃}
    (hn : n.children = [⟨_, first⟩, ⟨_, second⟩, ⟨_, third⟩]) (hw : n.isWritten = true)
    (hfirst : Written first) (hsecond : Written second) (hthird : Written third) : Written n := by
  refine Tree.isWritten_iff.mpr ⟨hw, ?_⟩
  change ∀ child ∈ n.children, _
  rw [hn]
  exact List.forall_mem_cons.mpr
    ⟨hfirst, List.forall_mem_cons.mpr ⟨hsecond, List.forall_mem_singleton.mpr hthird⟩⟩

theorem written_of_four {first : Node c₁} {second : Node c₂} {third : Node c₃}
    {fourth : Node c₄} (hn : n.children = [⟨_, first⟩, ⟨_, second⟩, ⟨_, third⟩, ⟨_, fourth⟩])
    (hw : n.isWritten = true) (hfirst : Written first) (hsecond : Written second)
    (hthird : Written third) (hfourth : Written fourth) : Written n := by
  refine Tree.isWritten_iff.mpr ⟨hw, ?_⟩
  change ∀ child ∈ n.children, _
  rw [hn]
  exact List.forall_mem_cons.mpr ⟨hfirst, List.forall_mem_cons.mpr
    ⟨hsecond, List.forall_mem_cons.mpr ⟨hthird, List.forall_mem_singleton.mpr hfourth⟩⟩⟩

theorem written_ofList {ns : List (Node c)} (hns : Written ns) : Written (Node.ofList ns) :=
  Tree.isWritten_ofList.mpr hns

theorem written_absent : Written (.absent : Node (.option c)) := written_of_leaf rfl rfl

theorem written_present (hn : Written n) : Written (Node.present n) := written_of_child rfl rfl hn

theorem written_ofOption {o : Option (Node c)} (ho : Written o) : Written (Node.ofOption o) := by
  cases o with
  | none => exact written_absent
  | some n => exact written_present (ho n rfl)

end Trees

/-! ## Readers -/

/-- All trees in what a reader yields, if it yields anything, are written. -/
def Yields {α : Type} [HasTrees α] (x : Reading α) : Prop :=
  ∀ ctx s a s', (x ctx).run s = (.ok a, s') → Written a

section Readers

variable {α β : Type}

theorem run_bind (x : Reading α) (f : α → Reading β) (ctx : Context) (s : State) :
    ((x >>= f) ctx).run s =
      match (x ctx).run s with
      | (.ok a, s') => (f a ctx).run s'
      | (.error e, s') => (.error e, s') := by
  change (match (x ctx).run s with
    | (a, s') => (ExceptT.bindCont (fun a => f a ctx) a : StateM State (Except Fault β)) s') = _
  rcases (x ctx).run s with ⟨_ | _, _⟩ <;> rfl

theorem run_tryCatch (x : Reading α) (handle : Fault → Reading α) (ctx : Context) (s : State) :
    ((tryCatch x handle) ctx).run s =
      match (x ctx).run s with
      | (.ok a, s') => (.ok a, s')
      | (.error e, s') => (handle e ctx).run s' := by
  have hcatch : ((tryCatch x handle) ctx).run s =
      (ExceptT.tryCatch (x ctx) fun e => handle e ctx).run s := rfl
  rw [hcatch, ExceptT.tryCatch, ExceptT.run_mk]
  change StateT.bind (x ctx).run _ s = _
  rw [StateT.bind]
  rcases (x ctx).run s with ⟨_ | _, _⟩ <;> rfl

variable [HasTrees α] [HasTrees β]

namespace Yields

theorem pure {a : α} (h : Written a) : Yields (Pure.pure a) := by
  intro ctx s b s' hb
  cases hb
  exact h

theorem bind {x : Reading α} {f : α → Reading β} (hx : Yields x)
    (hf : ∀ a, Written a → Yields (f a)) : Yields (x >>= f) := by
  intro ctx s b s' hb
  rw [run_bind] at hb
  split at hb
  · rename_i a s₁ ha
    exact hf a (hx ctx s a s₁ ha) ctx s₁ b s' hb
  · cases hb

/-- A step whose result does not matter. -/
theorem step {γ : Type} {x : Reading γ} {f : γ → Reading β} (hf : ∀ a, Yields (f a)) :
    Yields (x >>= f) := by
  intro ctx s b s' hb
  rw [run_bind] at hb
  split at hb
  · rename_i a s₁ ha
    exact hf a ctx s₁ b s' hb
  · cases hb

theorem map {x : Reading α} {f : α → β} (hx : Yields x) (hf : ∀ a, Written a → Written (f a)) :
    Yields (f <$> x) := bind hx fun a ha => pure (hf a ha)

theorem «throw» (e : Fault) : Yields (throw e : Reading α) := by
  intro ctx s b s' hb
  cases hb

theorem «catch» {x : Reading α} {handle : Fault → Reading α} (hx : Yields x)
    (hhandle : ∀ e, Yields (handle e)) : Yields (tryCatch x handle) := by
  intro ctx s b s' hb
  rw [run_tryCatch] at hb
  split at hb
  · rename_i a s₁ ha
    cases hb
    exact hx ctx s b s' ha
  · rename_i e s₁ he
    exact hhandle e ctx s₁ b s' hb

theorem withReader {x : Reading α} (f : Context → Context) (hx : Yields x) :
    Yields (withReader f x) := fun ctx => hx (f ctx)

theorem ite {p : Prop} [Decidable p] {x y : Reading α} (hx : Yields x) (hy : Yields y) :
    Yields (if p then x else y) := by
  split
  · exact hx
  · exact hy

/-- A step that is taken or not before the rest. -/
theorem sometimes {p : Prop} [Decidable p] {x : Reading Unit} {rest : Unit → Reading α}
    (hrest : ∀ u, Yields (rest u)) : Yields (if p then x >>= rest else rest ()) :=
  ite (step hrest) (hrest ())

/-- Such a step that goes by what another one yields. -/
theorem sometimesWith {γ : Type} {p : Prop} [Decidable p] {x : Reading γ} {y : γ → Reading Unit}
    {rest : Unit → Reading α} (hrest : ∀ u, Yields (rest u)) :
    Yields (if p then x >>= fun a => y a >>= rest else rest ()) :=
  ite (step fun _ => step hrest) (hrest ())

/-- A step that is taken unless a condition holds. -/
theorem otherwise {p : Prop} [Decidable p] {x : Reading Unit} {rest : Unit → Reading α}
    (hrest : ∀ u, Yields (rest u)) : Yields (if p then rest () else x >>= rest) :=
  ite (hrest ()) (step hrest)

end Yields

/-! ## Failures -/

theorem yields_fail (f : Fault) : Yields (fail f : Reading α) := .step fun _ => .throw f

theorem yields_failAt (e : SyntaxError) (p : Position) : Yields (failAt e p : Reading α) :=
  yields_fail ⟨e, p⟩

theorem yields_failEnd : Yields (failEnd : Reading α) := .step fun _ => yields_failAt _ _

theorem yields_failUnexpected (wanted : String) : Yields (failUnexpected wanted : Reading α) :=
  .step fun _ => .step fun _ => yields_failAt _ _

/-! ## Lists -/

theorem yields_withIn {x : Reading α} (hx : Yields x) : Yields (withIn x) := hx.withReader _

theorem yields_separatedFrom (close : String) {item : Reading α} (hitem : Yields item)
    (fuel : Nat) {items : List α} (hitems : Written items) :
    Yields (separatedFrom close item fuel items) := by
  induction fuel generalizing items with
  | zero => exact yields_failEnd
  | succ fuel ih =>
    rw [separatedFrom]
    refine .step fun _ => .step fun _ => .ite (.pure (written_reverse hitems)) ?_
    have hrest : Yields (do let i ← item; separatedFrom close item fuel (i :: items)) :=
      hitem.bind fun i hi => ih (written_cons hi hitems)
    exact .ite hrest (.step fun _ => .step fun _ => .ite (.pure (written_reverse hitems)) hrest)

theorem yields_terminatedFrom (close : String) {item : Reading α} (hitem : Yields item)
    (fuel : Nat) {items : List α} (hitems : Written items) :
    Yields (terminatedFrom close item fuel items) := by
  induction fuel generalizing items with
  | zero => exact yields_failEnd
  | succ fuel ih =>
    rw [terminatedFrom]
    exact .step fun _ => .ite (.pure (written_reverse hitems)) (hitem.bind fun i hi =>
      .step fun _ => .otherwise fun _ => ih (written_cons hi hitems))

theorem yields_terminated (close : String) {item : Reading α} (hitem : Yields item) :
    Yields (terminated close item) :=
  .step fun _ => (yields_terminatedFrom close hitem _ written_nil).bind fun _ hitems =>
    .step fun _ => .step fun _ => .pure ⟨hitems, trivial⟩

end Readers

end ModuleBundler.Script.Reader
