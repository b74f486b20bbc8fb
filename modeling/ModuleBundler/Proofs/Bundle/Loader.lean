import ModuleBundler.Bundle.Runtime
import ModuleBundler.Proofs.Bundle.Slots
import ModuleBundler.Script.Build

/-!
The loader as a tree. Its text is read once and for all, so the tree that it is read as can be
written down, with the two slots left open: `program` is the loader as a function of what stands in
them. The text is read as this function of the two names, and filling the slots makes it this
function of the two expressions, whatever these are.
-/

set_option autoImplicit false

namespace ModuleBundler.Bundle

open Script Script.Build

/-! ## The loader with its slots left open -/

/-- A name that is read. -/
def used (s : String) : Expr := .identifier .written s

/-- A string between the quotes that it is written in. -/
def between (quote s : String) : Expr := .stringLiteral ⟨s, some (quote ++ s ++ quote)⟩

/-- The text that a module which is not in a mapping is missed with. -/
def missingMessage (specifier : Expr) : Expr :=
  .binary .add (.binary .add (between "\"" "Cannot find module '") specifier) (between "\"" "'")

/-- The `require` of one module, which goes through the module's own mapping. -/
def localRequire : Statement :=
  declare "localRequire" ["specifier"]
    [when
      (.unary .not (Build.call
        (dot (dot (dot (used "Object") "prototype") "hasOwnProperty") "call")
        [used "mapping", used "specifier"]))
      (block [.throwStatement (.construct (used "Error")
        (.present (.ofList [.plainElement (missingMessage (used "specifier"))])))]),
     returns (Build.call (used "require") [itemAt (used "mapping") (used "specifier")])]

/-- The module that is handed to a factory, put into the cache. -/
def freshModule : Expr :=
  assignTo (itemAt (used "cache") (used "id"))
    (Build.object [("exports", Build.object []), ("loaded", .boolLiteral false)])

/-- Runs a factory; if it fails, its module leaves the cache. -/
def runFactory : Statement :=
  .tryStatement
    (.ofList [run (Build.call (used "factory")
      [used "localRequire", used "module", dot (used "module") "exports"])])
    (.present (.handler (.present (.binding "err"))
      (.ofList [run (.unary .delete (itemAt (used "cache") (used "id"))),
        .throwStatement (used "err")])))
    .absent

/-- The `require` of the bundle, which goes by numbers. -/
def requireById : Statement :=
  declare "require" ["id"]
    [var "cached" (itemAt (used "cache") (used "id")),
     when (.binary .strictNotEqual (used "cached") (used "undefined"))
      (block [returns (dot (used "cached") "exports")]),
     var "record" (itemAt (used "modules") (used "id")),
     var "factory" (itemAt (used "record") (num 0)),
     var "mapping" (itemAt (used "record") (num 1)),
     var "module" freshModule,
     localRequire,
     runFactory,
     run (assignTo (dot (used "module") "loaded") (.boolLiteral true)),
     returns (dot (used "module") "exports")]

/-- The loader of the module with a number. -/
def loader (entry : Expr) : Expr :=
  lambda ["modules"]
    [var "cache" (Build.object []), requireById, returns (Build.call (used "require") [entry])]

/-- The loader applied to a table of modules, with the number of the module to load. -/
def program (table entry : Expr) : Program where
  interpreter := none
  body := [run (Build.call (.paren (loader entry)) [table])]

/-! ## Reading it -/

theorem toList_of_eq_ofList {s : String} {text : List Char} (h : s = String.ofList text) :
    s.toList = text := by
  rw [h, String.toList_ofList]

set_option maxRecDepth 8192 in
/-- The text is read as the loader in whose slots their names stand. -/
theorem ofText_loaderText :
    Program.ofText loaderText.toList = .ok (program (used modulesSlot) (used entrySlot)) := by
  have hread : (Program.ofText loaderText.toList).toOption.any
      (fun p => decide (p = program (used modulesSlot) (used entrySlot))) = true := by
    -- as a list of characters the text is not decoded again at each step
    rw [toList_of_eq_ofList (s := loaderText) rfl]
    decide +kernel
  obtain ⟨p, hp, hsame⟩ := exists_ok_of_any hread
  rw [hp, of_decide_eq_true hsame]

/-! ## Where the slots are -/

/-- The position of the table in the loader. -/
def tablePosition : List Nat := [0, 0, 1, 0, 0]

/-- The position of the number in the loader. -/
def entryPosition : List Nat := [0, 0, 0, 0, 0, 1, 1, 1, 0, 0, 0, 1, 0, 0]

theorem at?_tablePosition (table entry : Expr) :
    (program table entry).tree.at? tablePosition = some ⟨_, table⟩ := rfl

theorem at?_entryPosition (table entry : Expr) :
    (program table entry).tree.at? entryPosition = some ⟨_, entry⟩ := rfl

/-- In the text that is read, names of slots stand at these two positions and nowhere else. -/
theorem namesSlot_iff {π : List Nat} {part : Tree}
    (hπ : (program (used modulesSlot) (used entrySlot)).tree.at? π = some part) :
    namesSlot part = true ↔ π = tablePosition ∨ π = entryPosition := by
  let slotAt : List Nat → Bool := fun π =>
    ((program (used modulesSlot) (used entrySlot)).tree.at? π).any namesSlot ==
      decide (π = tablePosition ∨ π = entryPosition)
  have hall : ((Tree.positions 40 (program (used modulesSlot) (used entrySlot)).tree).all fun π =>
      π.length < 40 && slotAt π) = true := by
    decide +kernel
  have hslot : slotAt π = true := Tree.of_all_positions hall hπ
  have hsame : namesSlot part = decide (π = tablePosition ∨ π = entryPosition) := by
    simpa only [slotAt, hπ, Option.any_some, beq_iff_eq] using hslot
  rw [hsame, decide_eq_true_iff]

/-! ## Filling it -/

/-- A part that is not on the way to a slot is left as it is. -/
theorem fill_of_off_slots {π : List Nat} {c : Category} {n : Node c}
    (hπ : (program (used modulesSlot) (used entrySlot)).tree.at? π = some ⟨c, n⟩)
    (htable : ¬ π <+: tablePosition) (hentry : ¬ π <+: entryPosition) (s : Slots) :
    fill n s = (n, s) := by
  refine fill_of_no_slot (fun ρ part hρ => ?_) s
  have hposition : (program (used modulesSlot) (used entrySlot)).tree.at? (π ++ ρ) =
      some part := by
    rw [Tree.at?_append, hπ]
    exact hρ
  refine Bool.eq_false_iff.mpr fun h => ?_
  rw [namesSlot_iff hposition] at h
  rcases h with h | h
  · exact htable ⟨ρ, h⟩
  · exact hentry ⟨ρ, h⟩

/-- What is put in for the name of the table. -/
theorem fill_modulesSlot (table : Expr) (entry : Option Expr) :
    fill (used modulesSlot) ⟨some table, entry⟩ = (table, ⟨none, entry⟩) := by
  have htake : Slots.take modulesSlot ⟨some table, entry⟩ = (some table, ⟨none, entry⟩) := by
    rw [Slots.take, Slots.pending, Slots.without, if_pos rfl, if_pos rfl]
  change Slots.identifier .written modulesSlot ⟨some table, entry⟩ = _
  rw [Slots.identifier, Filling.map_eq htake, Option.getD_some]

/-- What is put in for the name of the number. -/
theorem fill_entrySlot (entry : Expr) (table : Option Expr) :
    fill (used entrySlot) ⟨table, some entry⟩ = (entry, ⟨table, none⟩) := by
  have hne : entrySlot ≠ modulesSlot := by decide
  have htake : Slots.take entrySlot ⟨table, some entry⟩ = (some entry, ⟨table, none⟩) := by
    rw [Slots.take, Slots.pending, Slots.without, if_neg hne, if_neg hne, if_pos rfl, if_pos rfl]
  change Slots.identifier .written entrySlot ⟨table, some entry⟩ = _
  rw [Slots.identifier, Filling.map_eq htake, Option.getD_some]

/-- A call with one argument is filled where its callee and its argument are. -/
theorem fill_call {callee callee' argument argument' : Expr} {s s₁ s₂ : Slots}
    (hcallee : fill callee s = (callee', s₁)) (hargument : fill argument s₁ = (argument', s₂)) :
    fill (Build.call callee [argument]) s = (Build.call callee' [argument'], s₂) := by
  have helement : fill (Node.plainElement argument) s₁ = (.plainElement argument', s₂) :=
    Filling.map_eq hargument
  exact Filling.map₂_eq hcallee (Filling.map₂_eq helement rfl)

/-- The loader is filled with the number. -/
theorem fill_loader (entry : Expr) (table : Option Expr) :
    fill (loader (used entrySlot)) ⟨table, some entry⟩ = (loader entry, ⟨table, none⟩) := by
  let s : Slots := ⟨table, some entry⟩
  have hparameters : fill (Node.ofList [.binding "modules"]) s =
      (.ofList [.binding "modules"], s) :=
    fill_of_off_slots (π := [0, 0, 0, 0, 0, 0]) rfl (by decide) (by decide) s
  have hcache : fill (var "cache" (Build.object [])) s = (var "cache" (Build.object []), s) :=
    fill_of_off_slots (π := [0, 0, 0, 0, 0, 1, 0]) rfl (by decide) (by decide) s
  have hrequire : fill requireById s = (requireById, s) :=
    fill_of_off_slots (π := [0, 0, 0, 0, 0, 1, 1, 0]) rfl (by decide) (by decide) s
  have hcallee : fill (used "require") s = (used "require", s) :=
    fill_of_off_slots (π := [0, 0, 0, 0, 0, 1, 1, 1, 0, 0, 0, 0]) rfl (by decide) (by decide) s
  have hreturns : fill (returns (Build.call (used "require") [used entrySlot])) s =
      (returns (Build.call (used "require") [entry]), ⟨table, none⟩) := by
    have hcall := fill_call hcallee (fill_entrySlot entry table)
    exact Filling.map_eq (Filling.map_eq hcall)
  exact Filling.map_eq (Filling.map₂_eq hparameters
    (Filling.map₂_eq hcache (Filling.map₂_eq hrequire (Filling.map₂_eq hreturns rfl))))

/-- Filling the slots puts the expressions in their places, and nothing is left over. -/
theorem fillAll_program (table entry : Expr) :
    (fillAll (program (used modulesSlot) (used entrySlot)).body).run ⟨some table, some entry⟩ =
      ((program table entry).body, ⟨none, none⟩) := by
  have hcallee : fill (.paren (loader (used entrySlot))) ⟨some table, some entry⟩ =
      (.paren (loader entry), ⟨some table, none⟩) :=
    Filling.map_eq (fill_loader entry (some table))
  have hstatement : fill (run (Build.call (.paren (loader (used entrySlot))) [used modulesSlot]))
      ⟨some table, some entry⟩ =
        (run (Build.call (.paren (loader entry)) [table]), ⟨none, none⟩) :=
    Filling.map_eq (fill_call hcallee (fill_modulesSlot table none))
  exact Filling.map₂_eq hstatement rfl

/-- **The loader is instantiated** for every table and every number. -/
theorem instantiate_eq (table entry : Expr) :
    instantiate table entry = .ok (program table entry) := by
  have htemplate : template = .ok (program (used modulesSlot) (used entrySlot)) := by
    rw [template, ofText_loaderText]
    rfl
  have hfilled : fillSlots (program (used modulesSlot) (used entrySlot)) table entry =
      .ok (program table entry) := by
    rw [fillSlots, fillAll_program]
    rfl
  rw [instantiate, htemplate]
  exact hfilled

end ModuleBundler.Bundle
