import ModuleBundler.Number.Shortest
import ModuleBundler.Text.Digit

/-!
Documents of the JSON data format. Objects keep their fields as written, in order and with
repetitions; what repetitions mean is for the reader of a document to say. `canonical` says it for
plain data: the last field of a name counts, and names are in ascending order.
-/

set_option autoImplicit false

namespace ModuleBundler.Json

/-- A document. A number without point and exponent that fits 64 bits is an integer. -/
inductive Value where
  | null
  | bool (b : Bool)
  | integer (i : Int)
  | real (r : Binary64)
  | string (s : String)
  | array (elements : List Value)
  | object (fields : List (String × Value))
deriving Repr, Inhabited

/-! ## Canonical objects -/

/-- Order of names: by code point, which is also the order of their bytes. -/
def nameLess (a b : String) : Bool := a.toList < b.toList

/-- Puts a field into ascending fields; one of the same name gives way. -/
def putField (name : String) (v : Value) : List (String × Value) → List (String × Value)
  | [] => [(name, v)]
  | (k, w) :: rest =>
    if name = k then (k, v) :: rest
    else if nameLess name k then (name, v) :: (k, w) :: rest
    else (k, w) :: putField name v rest

mutual

/-- The document with each name once, the last one written, in ascending order. -/
def Value.canonical : Value → Value
  | .array vs => .array (canonicalElements vs)
  | .object fs => .object (canonicalFields fs [])
  | v => v

def canonicalElements : List Value → List Value
  | [] => []
  | v :: rest => v.canonical :: canonicalElements rest

def canonicalFields : List (String × Value) → List (String × Value) → List (String × Value)
  | [], sorted => sorted
  | (k, v) :: rest, sorted => canonicalFields rest (putField k v.canonical sorted)

end

/-! ## Text -/

/-- One character of a string. -/
def stringChar (c : Char) : List Char :=
  match c with
  | '"' => ['\\', '"']
  | '\\' => ['\\', '\\']
  | '\x08' => ['\\', 'b']
  | '\x0c' => ['\\', 'f']
  | '\n' => ['\\', 'n']
  | '\r' => ['\\', 'r']
  | '\t' => ['\\', 't']
  | _ =>
    if c.toNat < 0x20 then
      ['\\', 'u', '0', '0', Text.hexDigit (c.toNat / 16), Text.hexDigit (c.toNat % 16)]
    else [c]

/-- A string in quotes. -/
def stringText (s : String) : List Char := '"' :: s.toList.flatMap stringChar ++ ['"']

mutual

/-- The text of a document, without blanks. -/
def Value.text : Value → List Char
  | .null => "null".toList
  | .bool b => (if b then "true" else "false").toList
  | .integer i => Text.decimalInt i
  | .real r => r.scientific
  | .string s => stringText s
  | .array vs => '[' :: elementsText vs ++ [']']
  | .object fs => '\x7b' :: fieldsText fs ++ ['\x7d']

def elementsText : List Value → List Char
  | [] => []
  | [v] => v.text
  | v :: rest => v.text ++ ',' :: elementsText rest

def fieldsText : List (String × Value) → List Char
  | [] => []
  | [(k, v)] => stringText k ++ ':' :: v.text
  | (k, v) :: rest => stringText k ++ ':' :: v.text ++ ',' :: fieldsText rest

end

end ModuleBundler.Json
