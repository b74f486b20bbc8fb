import Mathlib.Data.Option.Basic
import ModuleBundler.Data.Literal

/-!
Which data has no literal, and what is reported of it. A walk goes through all parts of the data
from left to right, a value before its parts and a key before the value that follows it. It looks
at the data alone: nothing ends it early, and it makes no literals. Some of what it meets is a
fault, each of one kind. There is no literal exactly when a fault is met, and the first one is what
is reported (`Data.refusedAsMet`).

The one fault that is more than a look at a value is that of a key. It is met when the key has been
walked, so that a fault inside the key comes before it. Whether a key is one is said of the data,
and is the same as what is said of its literal (`Data.isSome_keyOf?_eq`).
-/

set_option autoImplicit false

namespace ModuleBundler

open Script

namespace Data

/-! ## Faults -/

/-- Data whose literal can be the key of a property. -/
def isKey : {s : Shape} → Data s → Bool
  | _, .text _ | _, .char _ | _, .unitVariant _ | _, .integer _ | _, .float _ => true
  | _, .present d | _, .wrapper d => d.isKey
  | _, _ => false

/-- Why a value is refused, whatever its parts are. -/
def refusal? : {s : Shape} → Data s → Option DataError
  | _, .bytes => some (.unsupported "bytes")
  | _, .wrapperVariant _ => some (.unsupported "newtype variant")
  | _, .tupleRecord => some (.unsupported "tuple struct")
  | _, .tupleVariant => some (.unsupported "tuple variant")
  | _, .recordVariant => some (.unsupported "struct variant")
  | _, .wideInteger signed =>
    some (.custom (if signed then "i128 is not supported" else "u128 is not supported"))
  | _, .failing message => some (.custom message)
  | _, _ => none

/-- What is met on a walk. -/
inductive Visit where
  /-- A value, before its parts. -/
  | value (d : Data .value)
  /-- A key of a map, behind its own walk. -/
  | key (d : Data .value)
  /-- A value of a map is due, and since the value before it no key was given. -/
  | unkeyed

/-- The fault in what is met. -/
def Visit.fault? : Visit → Option DataError
  | .value d => d.refusal?
  | .key d => if d.isKey then none else some .keyType
  | .unkeyed => some (.custom "map value without a key")

/-! ## Walks -/

/-- What is met in data, from left to right. The payload of a variant that is refused is not
entered. In the steps of a map it counts whether a key was given since the last value. -/
def walk : {s : Shape} → Data s → (keyed : Bool) → List Visit
  | _, .present d, _ => .value (.present d) :: d.walk false
  | _, .wrapper d, _ => .value (.wrapper d) :: d.walk false
  | _, .sequence elements, _ => .value (.sequence elements) :: elements.walk false
  | _, .tuple elements, _ => .value (.tuple elements) :: elements.walk false
  | _, .record fields, _ => .value (.record fields) :: fields.walk false
  | _, .map steps, _ => .value (.map steps) :: steps.walk false
  | _, .nil, _ | _, .noFields, _ | _, .noSteps, _ => []
  | _, .cons head tail, _ => head.walk false ++ tail.walk false
  | _, .field _ d others, _ => d.walk false ++ others.walk false
  | _, .key d others, _ => d.walk false ++ .key d :: others.walk true
  | _, .value d others, true => d.walk false ++ others.walk false
  | _, .value d others, false => .unkeyed :: (d.walk false ++ others.walk false)
  | .value, d, _ => [.value d]

/-- The first fault that is met. -/
def firstFault? (visits : List Visit) : Option DataError := visits.findSome? (·.fault?)

theorem firstFault?_append (before after : List Visit) :
    firstFault? (before ++ after) = (firstFault? before).or (firstFault? after) :=
  List.findSome?_append

/-! ## What is reported -/

/-- What a result reports. -/
def reported? {α : Type} : Except DataError α → Option DataError
  | .error e => some e
  | .ok _ => none

theorem reported?_eq_some_iff {α : Type} {x : Except DataError α} {e : DataError} :
    reported? x = some e ↔ x = .error e := by
  cases x <;> simp [reported?]

/-- A result that is only worked on reports the same. -/
theorem reported?_map {α β : Type} (x : Except DataError α) (f : α → β) :
    reported? (x >>= fun a => pure (f a)) = reported? x := by
  cases x <;> rfl

/-- Of two results, the first that fails is reported. -/
theorem reported?_both {α β γ : Type} (x : Except DataError α) (y : Except DataError β)
    (f : α → β → γ) :
    reported? (x >>= fun a => y >>= fun b => pure (f a b)) = (reported? x).or (reported? y) := by
  cases x with
  | error e => rfl
  | ok a => exact reported?_map y (f a)

theorem exists_of_map_eq_ok {α β : Type} {x : Except DataError α} {f : α → β} {b : β}
    (h : (x >>= fun a => pure (f a)) = .ok b) : ∃ a, b = f a := by
  cases x with
  | error e => cases h
  | ok a => exact ⟨a, (Except.ok.inj h).symm⟩

theorem isSome_keyOf?_integerLiteral (i : Int) : (keyOf? (integerLiteral i)).isSome = true := by
  unfold integerLiteral
  split <;> rfl

/-- The literal of data that has one can be the key of a property exactly when the data is one. -/
theorem isSome_keyOf?_eq : ∀ {d : Data .value} {e : Expr}, d.literal = .ok e →
    (keyOf? e).isSome = d.isKey
  | .present d, _, h => isSome_keyOf?_eq (d := d) h
  | .wrapper d, _, h => isSome_keyOf?_eq (d := d) h
  | .integer i, _, h => by
    cases h
    exact isSome_keyOf?_integerLiteral i
  | .sequence _, _, h | .tuple _, _, h | .record _, _, h | .map _, _, h => by
    obtain ⟨parts, rfl⟩ := exists_of_map_eq_ok h
    rfl
  | .bool _, _, h | .float _, _, h | .char _, _, h | .text _, _, h | .absent, _, h | .unit, _, h
  | .unitRecord, _, h | .unitVariant _, _, h => by
    cases h
    rfl

/-- What data of a shape reports is the first fault that is met in it. -/
def ReportsFirst : {s : Shape} → Data s → Prop
  | .value, d => reported? (d.literal : Except DataError Expr) = firstFault? (d.walk false)
  | .values, d =>
    reported? (d.literal : Except DataError (List Element)) = firstFault? (d.walk false)
  | .fields, d =>
    reported? (d.literal : Except DataError (List Property)) = firstFault? (d.walk false)
  | .steps, d => ∀ pending, reported? (d.literal pending : Except DataError (List Property)) =
      firstFault? (d.walk pending.isSome)

theorem reportsFirst {s : Shape} (d : Data s) : d.ReportsFirst := by
  induction d with
  | present d ih => exact ih
  | wrapper d ih => exact ih
  | sequence elements ih => exact (reported?_map _ _).trans ih
  | tuple elements ih => exact (reported?_map _ _).trans ih
  | record fields ih => exact (reported?_map _ _).trans ih
  | map steps ih => exact (reported?_map _ _).trans (ih none)
  | cons head tail hhead htail =>
    refine (reported?_both _ _ _).trans ?_
    rw [hhead, htail, ← firstFault?_append]
    rfl
  | field name d others hd hothers =>
    refine (reported?_both _ _ _).trans ?_
    rw [hd, hothers, ← firstFault?_append]
    rfl
  | noSteps => exact fun _ => rfl
  | key d others hd hothers =>
    intro pending
    change reported? (d.literal >>= _) = firstFault? (d.walk false ++ .key d :: others.walk true)
    rw [firstFault?_append, ← hd]
    cases hliteral : (d.literal : Except DataError Expr) with
    | error e => rfl
    | ok e =>
      have hfault : (Visit.key d).fault? =
          if (keyOf? e).isSome then none else some .keyType := by
        rw [isSome_keyOf?_eq hliteral]
        rfl
      change _ = firstFault? (.key d :: others.walk true)
      rw [firstFault?, List.findSome?_cons, hfault]
      simp only [bind, Except.bind]
      cases keyOf? e with
      | none => rfl
      | some k => exact hothers (some k)
  | value d others hd hothers =>
    intro pending
    cases pending with
    | none => rfl
    | some k =>
      refine (reported?_both _ _ _).trans ?_
      rw [hd, hothers none, ← firstFault?_append]
      rfl
  | _ => rfl

/-! ## Refusals -/

/-- Why data is refused: what is met in it and what is reported. -/
structure RefusedAsMet (d : Data .value) : Prop where
  /-- There is no literal exactly when a fault is met. -/
  refused : (∃ e, d.literal = .error e) ↔ ∃ v ∈ d.walk false, ∃ e, v.fault? = some e
  /-- The first fault that is met is reported, and no other. -/
  first : ∀ e, d.literal = .error e ↔ ∃ before v after, d.walk false = before ++ v :: after ∧
    (∀ b ∈ before, b.fault? = none) ∧ v.fault? = some e
  /-- A key is met as a fault when it has a literal and this cannot be the key of a property. -/
  key : ∀ (k : Data .value) (e : Expr), k.literal = .ok e →
    ((Visit.key k).fault? = some .keyType ↔ keyOf? e = none)

/-- **Data is refused for the first fault in it**, and only for a fault. -/
theorem refusedAsMet (d : Data .value) : d.RefusedAsMet := by
  have hreported : ∀ e, d.literal = .error e ↔ firstFault? (d.walk false) = some e := by
    intro e
    rw [← (reportsFirst d : reported? _ = _)]
    exact reported?_eq_some_iff.symm
  refine ⟨?_, ?_, ?_⟩
  · simp only [hreported, firstFault?, ← Option.isSome_iff_exists]
    exact List.findSome?_isSome_iff
  · intro e
    rw [hreported, firstFault?, List.findSome?_eq_some_iff]
    exact exists_congr fun before => exists_congr fun v => exists_congr fun after =>
      and_congr_right fun _ => and_comm
  · intro k e hliteral
    rw [Visit.fault?, ← isSome_keyOf?_eq hliteral]
    cases keyOf? e <;> simp

/-- A fault inside a key comes before that of the key. -/
example : (Data.map (.key (.sequence (.cons .bytes .nil)) .noSteps)).literal =
    (.error (.unsupported "bytes") : Except DataError Expr) := rfl

end Data

end ModuleBundler
