import ModuleBundler.Data.Basic
import ModuleBundler.Script.Node

/-!
Data as a literal of a script. Values go to literals, sequences to arrays, maps and records to
objects. An integer becomes a number as long as every integer up to it has one, and an integer
literal of any size beyond. Data without such a form is refused; where several parts have none,
the first one met from left to right is reported.
-/

set_option autoImplicit false

namespace ModuleBundler

open Script

/-- Why data has no literal. -/
inductive DataError where
  /-- A map has a key that is neither text nor a number. -/
  | keyType
  /-- Values of this kind have no literal. -/
  | unsupported (kind : String)
  | custom (message : String)
deriving Repr, DecidableEq

/-- The text of an error. -/
def DataError.message : DataError → String
  | .keyType => "object literal key type is not supported, expecting string or number"
  | .unsupported kind => kind ++ " values cannot be serialized to a literal"
  | .custom message => message

namespace Data

/-- The greatest integer such that it and all below it are numbers of the 64-bit format. -/
def exactIntegerLimit : Nat := 9007199254740991

/-- The literal of an integer. -/
def integerLiteral (i : Int) : Expr :=
  if i.natAbs ≤ exactIntegerLimit then
    .numberLiteral (if i < 0 then (Binary64.ofNat i.natAbs).neg else .ofNat i.natAbs)
  else .bigLiteral i

/-- The key that a literal can stand for. -/
def keyOf? : Expr → Option Key
  | .stringLiteral s => some (.stringKey s)
  | .numberLiteral v => some (.numberKey v)
  | .bigLiteral i => some (.bigKey i)
  | _ => none

/-- What data of a shape becomes. The steps of a map depend on the key given last and not yet
used. -/
def Literal : Shape → Type
  | .value => Except DataError Expr
  | .values => Except DataError (List Element)
  | .fields => Except DataError (List Property)
  | .steps => Option Key → Except DataError (List Property)

/-- An error for data of a kind that has no literal. -/
def unsupported (kind : String) : Except DataError Expr := .error (.unsupported kind)

/-- The literal of data, or why there is none. -/
def literal : {s : Shape} → Data s → Literal s
  | _, .bool b => (.ok (.boolLiteral b) : Except DataError Expr)
  | _, .integer i => (.ok (integerLiteral i) : Except DataError Expr)
  | _, .wideInteger signed =>
    (.error (.custom (if signed then "i128 is not supported" else "u128 is not supported")) :
      Except DataError Expr)
  | _, .float v => (.ok (.numberLiteral v) : Except DataError Expr)
  | _, .char c => (.ok (.stringLiteral (.ofValue (String.singleton c))) : Except DataError Expr)
  | _, .text s => (.ok (.stringLiteral (.ofValue s)) : Except DataError Expr)
  | _, .bytes => unsupported "bytes"
  | _, .absent => (.ok .nullLiteral : Except DataError Expr)
  | _, .present d => d.literal
  | _, .unit => (.ok .nullLiteral : Except DataError Expr)
  | _, .unitRecord => (.ok .nullLiteral : Except DataError Expr)
  | _, .unitVariant name => (.ok (.stringLiteral (.ofValue name)) : Except DataError Expr)
  | _, .wrapper d => d.literal
  | _, .wrapperVariant _ => unsupported "newtype variant"
  | _, .sequence elements =>
    (do return .array (.ofList ((← elements.literal).map fun e => .present e)) false :
      Except DataError Expr)
  | _, .tuple elements =>
    (do return .array (.ofList ((← elements.literal).map fun e => .present e)) false :
      Except DataError Expr)
  | _, .tupleRecord => unsupported "tuple struct"
  | _, .tupleVariant => unsupported "tuple variant"
  | _, .record fields => (do return .object (.ofList (← fields.literal)) : Except DataError Expr)
  | _, .recordVariant => unsupported "struct variant"
  | _, .map steps => (do return .object (.ofList (← steps.literal none)) : Except DataError Expr)
  | _, .failing message => (.error (.custom message) : Except DataError Expr)
  | _, .nil => (.ok [] : Except DataError (List Element))
  | _, .cons head tail =>
    (do
      let e ← head.literal
      return .plainElement e :: (← tail.literal) : Except DataError (List Element))
  | _, .noFields => (.ok [] : Except DataError (List Property))
  | _, .field name d others =>
    (do
      let e ← d.literal
      return .keyValue (.stringKey (.ofValue name)) e :: (← others.literal) :
        Except DataError (List Property))
  | _, .noSteps => fun _ => (.ok [] : Except DataError (List Property))
  | _, .key d others => fun _ =>
    (do
      match keyOf? (← d.literal) with
      | some k => others.literal (some k)
      | none => throw .keyType : Except DataError (List Property))
  | _, .value d others => fun pending =>
    (do
      match pending with
      | some k =>
        let e ← d.literal
        return .keyValue k e :: (← others.literal none)
      | none => throw (.custom "map value without a key") : Except DataError (List Property))

end Data

end ModuleBundler
