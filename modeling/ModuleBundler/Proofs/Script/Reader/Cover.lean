import ModuleBundler.Proofs.Script.Reader.Yields
import ModuleBundler.Script.Reader.Cover
import ModuleBundler.Script.Reader.Misplaced

/-!
Covers of written expressions. All readings of a cover are put together from readings of its parts,
so if the parts are written in every reading, the whole is.
-/

set_option autoImplicit false

namespace ModuleBundler.Script.Reader

/-- The trees of all readings of a cover are written. -/
structure Cover.IsWritten (c : Cover) : Prop where
  value : Written c.value
  target : Written c.target.pattern
  element : Written c.element.pattern
  binding : Written c.binding.pattern

instance : HasTrees Cover := ⟨Cover.IsWritten⟩

/-! ## Simple covers -/

theorem written_refused (start : Position) : Written (PatternReading.refused start).pattern :=
  written_of_child rfl rfl (written_of_leaf (n := .unreadable) rfl rfl)

theorem written_place {e : Expr} (he : Written e) : Written (Node.place e) :=
  written_of_child rfl rfl he

theorem written_ofName (strict : Bool) (start : Position) (n : String) :
    Written (Cover.ofName strict start n) :=
  ⟨written_of_leaf rfl rfl, written_of_leaf rfl rfl, written_of_leaf rfl rfl,
    written_of_leaf rfl rfl⟩

section Expressions

variable (start : Position) {e : Expr}

theorem written_ofMember (he : Written e) : Written (Cover.ofMember start e) :=
  ⟨he, written_place he, written_place he, written_place he⟩

theorem written_ofValue (he : Written e) : Written (Cover.ofValue start e) :=
  ⟨he, written_place he, written_place he, written_refused start⟩

theorem written_ofOther (isPlace : Bool) (he : Written e) :
    Written (Cover.ofOther start e isPlace) :=
  ⟨he, written_place he, written_refused start, written_refused start⟩

theorem written_ofOperation (he : Written e) : Written (Cover.ofOperation start e) :=
  ⟨he, written_place he, written_refused start, written_refused start⟩

theorem written_ofArrow (he : Written e) : Written (Cover.ofArrow start e) :=
  ⟨he, written_place he, written_refused start, written_refused start⟩

theorem written_ofAssignment (op : AssignOperator) {target : Pattern} (htarget : Written target)
    (he : Written e) : Written (Cover.ofAssignment start op target e) := by
  have hassign : Written (Node.assign op target e) := written_of_pair rfl rfl htarget he
  cases op with
  | plain =>
    have hdefaulted : Written (Node.defaulted target e) := written_of_pair rfl rfl htarget he
    exact ⟨hassign, written_place hassign, hdefaulted, hdefaulted⟩
  | compound => exact written_ofOther start false hassign

end Expressions

/-! ## Arrays -/

/-- The cover in an element of an array, if there is one. -/
def Cover.ArrayItem.cover? : ArrayItem → Option Cover
  | .hole => none
  | .plain c => some c
  | .spread _ c => some c

instance : HasTrees Cover.ArrayItem := ⟨fun item => Written item.cover?⟩

theorem written_arrayItem_value {item : Cover.ArrayItem} (h : Written item) :
    Written item.value := by
  cases item with
  | hole => exact written_absent
  | plain c => exact written_present (written_of_child rfl rfl (h c rfl).value)
  | spread start c => exact written_present (written_of_child rfl rfl (h c rfl).value)

section Readings

variable {reading : Cover → PatternReading}
  (hreading : ∀ c : Cover, Written c → Written (reading c).pattern)

include hreading

theorem written_arrayItem_pattern {item : Cover.ArrayItem} (h : Written item) (last : Bool) :
    Written (item.pattern reading last).1 := by
  cases item with
  | hole => exact written_absent
  | plain c => exact written_present (hreading c (h c rfl))
  | spread start c => exact written_present (written_of_child rfl rfl (hreading c (h c rfl)))

theorem written_arrayPattern {items : List Cover.ArrayItem} (h : Written items)
    (trailingComma : Bool) : Written (Cover.arrayPattern reading items trailingComma).pattern := by
  refine written_of_child rfl rfl (written_ofList ?_)
  refine List.forall_mem_map.mpr (List.forall_mem_map.mpr fun p hp => ?_)
  -- what is kept is among the items
  have hkept : p.1 ∈ (items.reverse.dropWhile (·.isHole)).reverse :=
    (List.mem_zipIdx hp).2.2 ▸ List.getElem_mem _
  have hitem : p.1 ∈ items :=
    List.mem_reverse.mp ((List.dropWhile_sublist _).subset (List.mem_reverse.mp hkept))
  exact written_arrayItem_pattern hreading (h p.1 hitem) _

end Readings

theorem written_ofArray (start : Position) {items : List Cover.ArrayItem} (h : Written items)
    (trailingComma : Bool) : Written (Cover.ofArray start items trailingComma) := by
  have hparts := written_arrayPattern (fun c hc => hc.element) h trailingComma
  exact ⟨written_of_child rfl rfl (written_ofList (written_map h fun _ => written_arrayItem_value)),
    hparts, hparts, written_arrayPattern (fun c hc => hc.binding) h trailingComma⟩

/-! ## Objects -/

/-- All trees in a property of an object are written. -/
def Cover.ObjectItem.IsWritten : ObjectItem → Prop
  | .shorthand _ => True
  | .defaulted _ _ value => Written value
  | .keyed key c => Written key ∧ Written c
  | .method _ p => Written p
  | .spread c => Written c

instance : HasTrees Cover.ObjectItem := ⟨Cover.ObjectItem.IsWritten⟩

theorem written_objectItem_value {item : Cover.ObjectItem} (h : Written item) :
    Written item.value := by
  cases item with
  | shorthand name => exact written_of_leaf rfl rfl
  | defaulted start name value => exact written_of_child rfl rfl h
  | keyed key c => exact written_of_pair rfl rfl h.1 h.2.value
  | method start p => exact h
  | spread c => exact written_of_child rfl rfl (Cover.IsWritten.value h)

section Readings

variable {reading : Cover → PatternReading}
  (hreading : ∀ c : Cover, Written c → Written (reading c).pattern)

include hreading

theorem written_objectItem_pattern {item : Cover.ObjectItem} (h : Written item) :
    Written (item.pattern reading).1 := by
  cases item with
  | shorthand name => exact written_of_child rfl rfl written_absent
  | defaulted start name value => exact written_of_child rfl rfl (written_present h)
  | keyed key c => exact written_of_pair rfl rfl h.1 (hreading c h.2)
  | method start p => exact written_of_child rfl rfl written_absent
  | spread c => exact written_of_child rfl rfl (Cover.IsWritten.binding h)

theorem written_objectPattern {items : List Cover.ObjectItem} (h : Written items)
    (trailingComma : Bool) : Written (Cover.objectPattern reading items trailingComma).pattern := by
  refine written_of_child rfl rfl (written_ofList ?_)
  exact List.forall_mem_map.mpr
    (List.forall_mem_map.mpr fun item hitem => written_objectItem_pattern hreading (h item hitem))

end Readings

theorem written_ofObject (start : Position) {items : List Cover.ObjectItem} (h : Written items)
    (trailingComma : Bool) : Written (Cover.ofObject start items trailingComma) := by
  have hparts := written_objectPattern (fun c hc => hc.element) h trailingComma
  exact ⟨written_of_child rfl rfl (written_ofList (written_map h fun _ => written_objectItem_value)),
    hparts, hparts, written_objectPattern (fun c hc => hc.binding) h trailingComma⟩

/-! ## Deciding -/

theorem yields_accept {p : PatternReading} (hp : Written p.pattern) : Yields p.accept :=
  .step fun _ => .pure hp

theorem yields_asTarget {c : Cover} (hc : Written c) : Yields c.asTarget := yields_accept hc.target

theorem yields_asBinding {c : Cover} (hc : Written c) : Yields c.asBinding :=
  yields_accept hc.binding

theorem yields_checked {e : Expr} (he : Written e) : Yields (checked e) := .step fun _ => .pure he

end ModuleBundler.Script.Reader
