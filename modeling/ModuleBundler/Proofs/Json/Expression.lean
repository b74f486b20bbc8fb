import ModuleBundler.Json.Reader
import ModuleBundler.Proofs.Number.Enclosing
import ModuleBundler.Script.Node

/-!
What a script makes of the text of a document. Values are literals, and a negative number is an
operation on one. The definitions follow the document and know nothing of its text; that the text
is read so is another matter. Values that are not finite have no text that could be read back as a
number, so everything about reading is said of documents without them.
-/

set_option autoImplicit false

namespace ModuleBundler.Json

open Script

/-! ## Expressions -/

/-- A string literal as documents write it. -/
def literalString (s : String) : StringLiteral := ⟨s, some (String.ofList (stringText s))⟩

/-- A number literal under a minus sign, if there is one. -/
def signed (negative : Bool) (v : Binary64) : Expr :=
  if negative then .unary .minus (.numberLiteral v) else .numberLiteral v

mutual

/-- The expression that the text of a document is read as. The literal of a finite value is the
value nearest to its shortest decimal; there is no other value in a document. -/
def Value.expression : Value → Expr
  | .null => .nullLiteral
  | .bool b => .boolLiteral b
  | .integer i => signed (decide (i < 0)) (.ofNat i.natAbs)
  | .real (.finite negative m e) =>
    signed negative (.ofDecimal false (Binary64.shortest m e).digits (Binary64.shortest m e).power)
  | .real r => .numberLiteral r
  | .string s => .stringLiteral (literalString s)
  | .array vs => .array (.ofList (elementNodes vs)) false
  | .object fs => .object (.ofList (propertyNodes fs))

/-- The elements of an array. -/
def elementNodes : List Value → List (Node (.option .element))
  | [] => []
  | v :: rest => .present (.plainElement v.expression) :: elementNodes rest

/-- The properties of an object. -/
def propertyNodes : List (String × Value) → List Property
  | [] => []
  | (k, v) :: rest => .keyValue (.stringKey (literalString k)) v.expression :: propertyNodes rest

end

/-- All reals of a document are finite, in the form that rounding gives them, and its integers fit
a word. -/
inductive Value.IsFinite : Value → Prop where
  | null : IsFinite .null
  | bool (b : Bool) : IsFinite (.bool b)
  | integer {i : Int} (hi : i.natAbs < wordBound) : IsFinite (.integer i)
  | real (negative : Bool) {m : Nat} {e : Int} (hvalue : Binary64.IsValue m e) :
      IsFinite (.real (.finite negative m e))
  | string (s : String) : IsFinite (.string s)
  | array {vs : List Value} (hvs : ∀ v ∈ vs, IsFinite v) : IsFinite (.array vs)
  | object {fs : List (String × Value)} (hfs : ∀ f ∈ fs, IsFinite f.2) : IsFinite (.object fs)

end ModuleBundler.Json
